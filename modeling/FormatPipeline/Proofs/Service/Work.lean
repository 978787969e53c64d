import FormatPipeline.Proofs.Service.Calls

/-! The work of a service from its start on: it is orderly, and an errand begins as it was asked for. -/

namespace FormatPipeline

open Schedule (DebouncedTimeline Timeline Turn Work)

namespace Workspace

variable {ω : Type}

/-- The end of a start is calm. -/
theorem calm_greeting (w : Workspace ω) : w.Calm (Session.greeting w) := by
  refine Calm.trans ?_ (.of_onlySays (onlySays_debug _ _))
  -- An active document is announced and watched.
  cases w.documents.active? with
  | none => exact .of_onlySays (onlySays_renderStatus w)
  | some handle =>
    dsimp only
    cases w.document? handle with
    | none => exact (calm_activeChanged w (some handle)).1
    | some document => exact (calm_watchSaves w document).trans (calm_activeChanged _ (some handle)).1

variable [World ω]

/-- Letting settings take effect one after another is calm. -/
theorem calm_foldl_observe (targets : List Target) (w : Workspace ω) :
    w.Calm (targets.foldl observe w) :=
  foldl_observe_keeps (w.Calm ·) (fun _ _ before => before.trans ⟨rfl, rfl, rfl, rfl, .refl _⟩)
    (fun update before => before.trans (calm_apply update _)) targets ⟨rfl, rfl, rfl, rfl, .refl _⟩

end Workspace

namespace Session

variable {ω : Type} [World ω]

/-- A start registers the formatters, lets the settings take effect, and greets. -/
theorem state_start (profiles : List Profile) (delay : Nat) (s : Session ω) :
    (s.start profiles delay).state =
      greeting ((Target.all (s.register profiles).state.formatterNames).foldl Workspace.observe
        ((profiles.foldl Workspace.registerOne s.state).debounced s.state.numbered delay)) := by
  rw [start_eq, ← state_prepared, ← state_observeTargets]
  rfl

/-- Letting settings take effect makes no work wait. -/
theorem waiting_observeTargets (targets : List Target) (s : Session ω) :
    (s.observeTargets targets).ready = s.ready ∧ (s.observeTargets targets).sleeping = s.sleeping := by
  induction targets generalizing s with
  | nil => exact ⟨rfl, rfl⟩
  | cons target rest ih => exact ih (s.observe target.key (target.subscription s.debouncerNumber))

/-- A session that was asked for nothing before its start was asked for nothing after it. -/
theorem Unused.start {s : Session ω} (unused : s.Unused) (profiles : List Profile) (delay : Nat) :
    (s.start profiles delay).Unused := by
  -- Of nothing that waits, something is cancelled.
  have ready : (s.prepared profiles delay).ready = [] := congrArg (List.filter _) unused.jobs
  have sleeping : (s.prepared profiles delay).sleeping = [] := congrArg (List.filter _) unused.sleepers
  have registered := (Workspace.calm_register profiles s.state).1
  have entries : (s.prepared profiles delay).state.busy.entries = [] :=
    registered.entries.trans unused.entries
  have finished : (s.prepared profiles delay).state.finished = [] :=
    registered.finished.trans unused.finished
  rw [start_eq]
  generalize Target.all (s.register profiles).state.formatterNames = targets
  generalize s.prepared profiles delay = t at ready sleeping entries finished
  -- The settings take effect in a calm, and so does what is done in the end.
  have observed := Workspace.calm_foldl_observe targets t.state
  rw [← state_observeTargets] at observed
  have waiting := waiting_observeTargets targets t
  have greeted := observed.trans (Workspace.calm_greeting _)
  exact ⟨waiting.1.trans ready, waiting.2.trans sleeping, greeted.entries.trans entries,
    greeted.finished.trans finished⟩

/-- The errand that begins in a turn, if one does. -/
def errand? : Turn (Work Update Errand) (Work Update Sleeper) → Option Errand
  | .start (.other errand) => some errand
  | .start (.delayed _) | .wake .. | .pass => none

/-- Only the turn of an errand begins it. -/
theorem eq_of_errand? {turn : Turn (Work Update Errand) (Work Update Sleeper)} {errand : Errand}
    (begins : errand? turn = some errand) : turn = .start (.other errand) := by
  -- A turn that begins a delayed entry begins no errand, and neither does one that wakes or passes.
  cases turn with
  | start work =>
    cases work with
    | delayed entry => cases begins
    | other job =>
      cases begins
      rfl
  | wake | pass => cases begins

/-- An errand that starts a chain does nothing else when its turn comes. -/
theorem state_of_chainOf? {s next : Session ω} {errand : Errand} {handle : Handle}
    {names : List String} {mode : Mode}
    (taken : DebouncedTimeline.Takes machine s (.start (.other errand)) next)
    (chain : s.state.chainOf? errand = some (handle, names, mode)) :
    next.state = (Workspace.startChain s.clock errand.number handle names mode s.state).1 := by
  rw [← Workspace.startErrand_of_chainOf? s.clock chain]
  exact taken.state_eq

end Session

namespace Service

variable {ω : Type} [World ω] {first : Session ω} {service next : Service ω}

/-! ## Order -/

/-- What is done in a move, with the numbers of the work that does it. -/
def deeds (service : Service ω) : Move → List (Nat × Deed)
  | .turn turn => service.session.deedsBy (.turn turn)
  | .message _ | .skip _ => []

/-- Moves keep work orderly. -/
theorem isOrderly_moves {history : List (Nat × Deed)}
    (current : Session.IsOrderly first history service.session) {move : Move}
    (moved : Moves service move next) :
    Session.IsOrderly first (history ++ service.deeds move) next.session := by
  cases moved with
  | message message =>
    rw [deeds, List.append_nil, session_answer]
    -- Only what the message asks for is spawned, and its number is the next one that is free.
    have taken := service.takesUp_handle message
    generalize asked : service.asks? message = errand at taken
    generalize (service.handle message).1 = later at taken ⊢
    cases taken with
    | errand same => exact (current.undisturbed same).spawn (number_of_asks? asked)
    | nothing same => exact current.undisturbed same
  | skip text =>
    rw [deeds, List.append_nil]
    exact current.undisturbed (service.undisturbed_warn text)
  | turn taken => exact current.takes taken

variable {profiles : List Profile} {delay : Nat}

/-- Work is orderly at any time of a run. -/
theorem isOrderly_run {history : List (Nat × Deed)} (unused : first.Unused)
    (ran : Run Moves deeds [] ⟨first.start profiles delay, []⟩ history service) :
    Session.IsOrderly (first.start profiles delay) history service.session := by
  induction ran with
  | start => exact (unused.start profiles delay).isOrderly
  | move before moved ih => exact isOrderly_moves ih moved

/-! ## Errands -/

/-- An errand that waits goes on waiting alone under its number in every move. -/
theorem awaits_moves {errand : Errand} (waits : service.session.Awaits errand) {move : Move}
    (moved : Moves service move next) : next.session.Awaits errand := by
  cases moved with
  | message message =>
    rw [session_answer]
    have taken := service.takesUp_handle message
    -- An errand that is spawned gets a number of its own, so it is not taken for the one that waits.
    generalize asked : service.asks? message = other at taken
    generalize (service.handle message).1 = later at taken ⊢
    cases taken with
    | errand same =>
      exact (waits.undisturbed same).spawn fun number => (number_of_asks? asked number).1
    | nothing same => exact waits.undisturbed same
  | skip text => exact waits.undisturbed (service.undisturbed_warn text)
  | turn taken => exact waits.takes taken

/-- Whatever begins under the number of an errand that a message asked for is that errand. -/
theorem eq_of_asks? {ν κ : Type} {notes : Service ω → Move → List ν}
    {others : Service ω → Move → List κ}
    {told : List ν} {noted : List κ} {history : List ν} {since : List κ} {later : Service ω}
    {message : Incoming} {errand : Nat → Errand} {begun : Errand} {after : Session ω}
    (unused : first.Unused)
    (before : Run Moves notes told ⟨first.start profiles delay, []⟩ history service)
    (asked : service.asks? message = some errand)
    (ran : Run Moves others noted (service.answer message) since later)
    (taken : DebouncedTimeline.Takes Session.machine later.session (.start (.other begun)) after)
    (same : begun.number = service.session.state.numbered) :
    begun = errand service.session.state.numbered := by
  have numbered := fun number => (number_of_asks? asked number).1
  -- When the errand is asked for, all other work has another number.
  obtain ⟨done, ordered⟩ := before.noting deeds []
  have orderly := isOrderly_run unused ordered
  have waits : (service.answer message).session.Awaits (errand service.session.state.numbered) := by
    rw [session_answer]
    have taken := service.takesUp_handle message
    rw [asked] at taken
    generalize (service.handle message).1 = given at taken ⊢
    cases taken with
    | errand undisturbed =>
      have spawned := (orderly.undisturbed undisturbed).awaits numbered
      rw [undisturbed.state.numbered] at spawned
      exact spawned
  -- The errand goes on waiting in the run, until the turn that begins its number begins it.
  have still : later.session.Awaits (errand service.session.state.numbered) := by
    clear taken
    induction ran with
    | start => exact waits
    | move before moved ih => exact awaits_moves ih moved
  exact still.eq_of_takes taken (same.trans (numbered _).symm)

end Service

end FormatPipeline
