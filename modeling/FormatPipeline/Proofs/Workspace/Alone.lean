import FormatPipeline.Proofs.Workspace.Stepping

/-! A chain that runs alone: what is shown of its steps, each from its start to its outcome. -/

namespace FormatPipeline

/-- The label of a formatter is that of all formatters only if the formatter is called like them. -/
theorem Label.step_ne_chain {formatter : String} (proper : formatter ≠ "Formatters")
    (displayPath : String) : Label.step formatter displayPath ≠ Label.chain displayPath := by
  intro same
  have texts := congrArg String.toList same
  have chain : "Formatters on ".toList = "Formatters".toList ++ " on ".toList := by decide
  -- Both labels end alike, so that they begin alike.
  simp only [Label.step, Label.chain, String.toList_append, chain, List.append_cancel_right_eq] at texts
  exact proper (String.toList_injective texts)

/-- Whether an event is the output of a process or tells of a problem with it, which has a detail. -/
def Event.isLeftBehind : Event → Bool
  | .sent (.setText ..) | .sent (.setCursor ..) => true
  | .sent (.notification notice) => notice.detail.isSome
  | .sent _ | .log _ | .spawn .. => false

/-- What is shown of work from its beginning to its end. -/
def framed (label : String) (events : List Event) : List Event :=
  .sent (.progressStarted label) :: events ++ [.sent (.progressFinished label)]

namespace BusySignal

/-- A label that no other work has is taken down again, and the signal is as before. -/
theorem remove_add (signal : BusySignal) (since now : Nat) {label : String}
    (absent : label ∉ signal.labels) :
    (signal.add since label).1.remove now label =
      (signal, signal.whenEnabled [.progressFinished label], some (now - since)) := by
  have others : ∀ entry ∈ signal.entries, ¬(entry.label == label) := by
    intro entry member same
    exact absent (List.mem_map.mpr ⟨entry, member, eq_of_beq same⟩)
  have found : signal.entries.find? (·.label == label) = none := List.find?_eq_none.mpr others
  have left : signal.entries.any (·.label == label) = false := by
    simpa using fun entry member => by simpa using others entry member
  -- The entry that was added is the first with its label, and the only one.
  simp [add, remove, whenEnabled, List.find?_append, found, List.eraseP_append_right _ others, left]

end BusySignal

namespace Workspace

variable {ω : Type}

/-- A problem is shown once unless problems are hidden. -/
theorem noticeEvents_of_ne_hide {handling : Settings.ErrorHandling} (shown : handling ≠ .hide)
    (problem : Problem) : ∃ notice : Notification,
      noticeEvents handling problem = [.sent (.notification notice)] ∧
        notice.title = titleOf problem ∧ notice.detail = problem.detail := by
  cases handling with
  | hide => exact absurd rfl shown
  | showing | standard => exact ⟨_, rfl, rfl, rfl⟩

/-- A problem is shown with its detail, if it has one. -/
theorem detail_of_mem_noticeEvents {handling : Settings.ErrorHandling} {problem : Problem} {event : Event}
    (member : event ∈ noticeEvents handling problem) :
    ∃ notice : Notification, event = .sent (.notification notice) ∧ notice.detail = problem.detail := by
  cases handling with
  | hide => cases member
  | showing | standard => exact ⟨_, List.mem_singleton.mp member, rfl⟩

/-- A process leaves behind its output and problems with a detail. -/
theorem isLeftBehind_flightEvents (w : Workspace ω) (flight : InFlight) :
    ∀ event ∈ w.flightEvents flight, event.isLeftBehind := by
  intro event member
  rcases List.mem_append.mp member with reported | placed
  · obtain ⟨problem, own, told⟩ := List.mem_flatMap.mp reported
    obtain ⟨notice, rfl, same⟩ := detail_of_mem_noticeEvents told
    -- The shell cannot be started, or the process complains; both say why.
    have detailed : problem.detail.isSome := by
      unfold InFlight.problems at own
      split at own
      · rw [List.mem_singleton.mp own]
        rfl
      · split at own
        · cases own
        · rw [List.mem_singleton.mp own]
          rfl
    rwa [← same] at detailed
  · split at placed
    · obtain ⟨document, -, told⟩ := List.mem_flatMap.mp placed
      simp only [placingEvents, List.mem_cons, List.not_mem_nil, or_false] at told
      rcases told with rfl | rfl <;> rfl
    · cases placed

/-- The busy signal after work that is logged has ended. -/
theorem busy_endBusyLogged (w : Workspace ω) (now : Nat) (label : String) :
    (w.endBusyLogged now label).busy = (w.busy.remove now label).1 := by
  have ended : (w.endBusy now label).1.busy = (w.busy.remove now label).1 := rfl
  unfold endBusyLogged
  split
  next later same => rwa [same] at ended
  next later duration same => rwa [same] at ended

/-- Work under a label of its own is shown from its beginning to its end. -/
theorem Works.framed [World ω] {w mid : Workspace ω} {label : String} {events : List Event} {since : Nat}
    (works : (w.beginBusy since label).Works events mid) (now : Nat) (absent : label ∉ w.busy.labels)
    (enabled : w.busy.enabled = true) : w.Works (framed label events) (mid.endBusyLogged now label) := by
  obtain ⟨abides, shows⟩ := works
  -- The label is put up last and taken down again, which leaves the signal as it was.
  have removed := w.busy.remove_add since now absent
  have busy : mid.busy = (w.busy.add since label).1 := abides.unshown.busy
  have begun := shows_beginBusy w since label
  have ended := shows_endBusyLogged mid now label
  rw [busy, removed] at ended
  refine ⟨⟨?_, ?_, ?_, ?_⟩, ?_⟩
  · exact (effect_endBusyLogged mid now label).settled.trans
      (abides.settled.trans (effect_beginBusy w since label).settled)
  · exact (unseen_endBusyLogged mid now label).documents.trans abides.documents
  · rw [busy_endBusyLogged, busy, removed]
  · exact (labels_endBusyLogged mid now label).2.trans abides.unshown.finished
  · simpa [FormatPipeline.framed, BusySignal.add, BusySignal.whenEnabled, enabled] using
      begun.trans (shows.trans ended)

end Workspace

/-! ## Steps -/

/-- A step of a chain whose turn comes at a moment and in a workspace. -/
structure StepTurn (ω : Type) where
  name : String
  moment : Nat
  workspace : Workspace ω

/-- How a step has ended: when, with which outcome, and in which workspace. -/
structure StepEnd (ω : Type) where
  moment : Nat
  outcome : Option Outcome
  workspace : Workspace ω

variable {ω : Type} [World ω]

namespace StepTurn

/-- How a step ends if nothing else happens until its process has ended. -/
def ending (run : ChainRun) (turn : StepTurn ω) : StepEnd ω :=
  match turn.workspace.beginStep turn.moment run turn.name with
  | (later, .over outcome) => ⟨turn.moment, outcome, later⟩
  -- The process has its time, and the step is over when its output has been taken over.
  | (later, .waits delay scope flight) =>
    let (later, result) := later.finishProcess flight
    ⟨turn.moment + delay, some (.ran scope result),
      later.endBusyLogged (turn.moment + delay) (run.stepLabel turn.name)⟩

/-- How the formatter of a step starts. -/
def start (run : ChainRun) (turn : StepTurn ω) : StepStart ω := turn.workspace.startOf run turn.name

/-- The buffer for which the process of a step is launched. -/
def buffer (run : ChainRun) (turn : StepTurn ω) : Buffer :=
  ((turn.workspace.document? run.document).map (·.buffer)).getD ⟨"", ⟨0, 0⟩⟩

/-- The outcome of a step as it is known from its start, whenever its process will end. -/
def outcome? (run : ChainRun) (turn : StepTurn ω) : Option Outcome :=
  (turn.start run).outcome? ((turn.buffer run).input? run.mode)

/-- What the result of the chain says of a step. -/
def step (run : ChainRun) (turn : StepTurn ω) : ChainStep := ⟨turn.name, turn.outcome? run⟩

/-- What is shown of a step from its start to its outcome. -/
def events (run : ChainRun) (turn : StepTurn ω) : List Event :=
  let w := turn.workspace
  match turn.start run with
  | .unknown => Workspace.noticeEvents w.handling (.unknownFormatter turn.name)
  | .missing => framed (run.stepLabel turn.name) (Workspace.noticeEvents w.handling (.binaryNotFound turn.name))
  | .launched world line _ =>
    framed (run.stepLabel turn.name) (.spawn line ((turn.buffer run).input? run.mode) ::
      w.flightEvents ((turn.buffer run).flight run.document run.mode world line))

/-- A step ends with the outcome known from its start, leaves what stays, and shows its events. -/
theorem ends (run : ChainRun) {turn : StepTurn ω} (enabled : turn.workspace.busy.enabled = true)
    (absent : run.stepLabel turn.name ∉ turn.workspace.busy.labels) :
    turn.workspace.Works (turn.events run) (turn.ending run).workspace ∧
      (turn.ending run).outcome = turn.outcome? run := by
  obtain ⟨name, now, w⟩ := turn
  obtain ⟨deeds, begins, -⟩ := w.begins_beginStep now run name
  simp only [events, ending, outcome?, start, buffer] at enabled absent ⊢
  generalize w.startOf run name = start at begins
  generalize w.beginStep now run name = begun at begins ⊢
  -- A step that is over at once ends at the moment at which it began.
  cases begins with
  | unknown => exact ⟨⟨w.abides_report _, w.shows_report _⟩, rfl⟩
  | missing documents works => exact ⟨works.framed now absent enabled, rfl⟩
  | ended opened launched documents works =>
    rw [launched] at works ⊢
    rw [opened]
    exact ⟨works.framed now absent enabled, rfl⟩
  | @waits mid document line scope delay flight opened launched documents works =>
    -- Until the process has ended, nothing else happens.
    have landed : mid.flightEvents flight = w.flightEvents flight :=
      Workspace.flightEvents_of_same works.abides.handling documents flight
    have whole := works.trans
      ⟨Workspace.abides_finishProcess mid flight, (Workspace.shows_finishProcess mid flight).1⟩
    rw [landed, launched] at whole
    rw [opened]
    simp only [Workspace.finishProcess_gives, launched]
    exact ⟨whole.framed (now + delay) absent enabled, rfl⟩

/-- What comes of a step on a document with a path, and what is shown of it; who is unknown is decided
by the formatters that are registered at first. -/
structure IsTraced (run : ChainRun) (first : Workspace ω) (path : Path) (turn : StepTurn ω) : Prop where
  unknown : turn.outcome? run = none ↔ first.formatter? turn.name = none
  missing : turn.outcome? run = some .binaryNotFound ↔
    (first.formatter? turn.name).isSome ∧ turn.workspace.answer turn.name path run.mode = none
  unknownEvents : turn.outcome? run = none → ∃ notice : Notification,
    turn.events run = [.sent (.notification notice)] ∧
      notice.title = "fmtchain: Unknown formatter " ++ turn.name ∧ notice.detail = none
  missingEvents : turn.outcome? run = some .binaryNotFound → ∃ notice : Notification,
    turn.events run = framed (run.stepLabel turn.name) [.sent (.notification notice)] ∧
      notice.title = "fmtchain: Could not find binary for " ++ turn.name ∧ notice.detail = none
  ranEvents : ∀ scope result, turn.outcome? run = some (.ran scope result) → ∃ line stdin others,
    turn.events run = framed (run.stepLabel turn.name) (.spawn line stdin :: others) ∧
      ∀ event ∈ others, event.isLeftBehind

/-- A step is traced if problems are shown, where its document is as it was opened. -/
theorem isTraced (run : ChainRun) {first : Workspace ω} {turn : StepTurn ω} {document : Document}
    (same : (first.formatter? turn.name).isSome = (turn.workspace.formatter? turn.name).isSome)
    (shown : turn.workspace.handling ≠ .hide)
    (opened : turn.workspace.document? run.document = some document) :
    turn.IsTraced run first document.path := by
  -- A step is over for one of three reasons, and each reason leaves its own events.
  cases present : turn.workspace.formatter? turn.name with
  | none =>
    have absent : first.formatter? turn.name = none := by simpa [present] using same
    have start : turn.start run = .unknown := by simp [StepTurn.start, Workspace.startOf, present]
    have outcome : turn.outcome? run = none := by rw [outcome?, start]; rfl
    obtain ⟨notice, noticed, title, detail⟩ :=
      Workspace.noticeEvents_of_ne_hide shown (.unknownFormatter turn.name)
    exact {
      unknown := iff_of_true outcome absent
      missing := by simp [outcome, absent]
      unknownEvents := fun _ => ⟨notice, by rw [events, start]; exact noticed, title, detail⟩
      missingEvents := by simp [outcome]
      ranEvents := by simp [outcome] }
  | some formatter =>
    have registered : (first.formatter? turn.name).isSome := by rw [same, present]; rfl
    have known : first.formatter? turn.name ≠ none := Option.isSome_iff_ne_none.mp registered
    cases answered : turn.workspace.answer turn.name document.path run.mode with
    | none =>
      have start : turn.start run = .missing := by
        simp [StepTurn.start, Workspace.startOf, present, opened, answered]
      have outcome : turn.outcome? run = some .binaryNotFound := by rw [outcome?, start]; rfl
      obtain ⟨notice, noticed, title, detail⟩ :=
        Workspace.noticeEvents_of_ne_hide shown (.binaryNotFound turn.name)
      exact {
        unknown := by simp [outcome, known]
        missing := iff_of_true outcome ⟨registered, answered⟩
        unknownEvents := by simp [outcome]
        missingEvents := fun _ => ⟨notice, by rw [events, start]; dsimp only; rw [noticed], title, detail⟩
        ranEvents := by simp [outcome] }
    | some invocation =>
      let line := Shell.commandLine invocation.binary invocation.arguments
      have start : turn.start run = .launched turn.workspace.world line invocation.scope := by
        simp [StepTurn.start, Workspace.startOf, present, opened, answered, line]
      obtain ⟨result, outcome⟩ : ∃ result, turn.outcome? run = some (.ran invocation.scope result) := by
        rw [outcome?, start]
        exact ⟨_, rfl⟩
      exact {
        unknown := by simp [outcome, known]
        missing := by simp [outcome, answered]
        unknownEvents := by simp [outcome]
        missingEvents := by simp [outcome]
        ranEvents := fun _ _ _ =>
          ⟨_, _, _, by rw [events, start], Workspace.isLeftBehind_flightEvents turn.workspace _⟩ }

end StepTurn

/-! ## Chains -/

namespace ChainRun

/-- The turns of the steps of a chain, each in the workspace that the step before has left. -/
def turns (run : ChainRun) : List String → Nat → Workspace ω → List (StepTurn ω)
  | [], _, _ => []
  | name :: rest, now, w =>
    -- The next step begins where and when this one ends.
    let turn : StepTurn ω := ⟨name, now, w⟩
    turn :: run.turns rest (turn.ending run).moment (turn.ending run).workspace

/-- When and in which workspace a chain is complete if nothing else happens until then. -/
def ending (run : ChainRun) : List String → Nat → Workspace ω → Nat × Workspace ω
  | [], now, w => (now, (w.endBusyLogged now run.label).finish run.number (.chain run.steps.reverse))
  | name :: rest, now, w =>
    let step := (⟨name, now, w⟩ : StepTurn ω).ending run
    (run.record name step.outcome).ending rest step.moment step.workspace

/-- The steps of a chain have their turns under its names. -/
theorem map_name_turns (run : ChainRun) (names : List String) (now : Nat) (w : Workspace ω) :
    (run.turns names now w).map (·.name) = names := by
  induction names generalizing now w with
  | nil => rfl
  | cons name rest ih => exact congrArg (name :: ·) (ih _ _)

/-- Which steps are over makes no difference to the turns of the others. -/
theorem turns_record (run : ChainRun) (name : String) (outcome : Option Outcome) (names : List String)
    (now : Nat) (w : Workspace ω) : (run.record name outcome).turns names now w = run.turns names now w := by
  induction names generalizing now w with
  | nil => rfl
  | cons other rest ih => exact congrArg (_ :: ·) (ih _ _)

/-- A chain is complete with all its steps, and before its label is taken down just these were shown. -/
theorem ending_eq (run : ChainRun) {names : List String} (now : Nat) {w : Workspace ω}
    (enabled : w.busy.enabled = true)
    (absent : ∀ name ∈ names, run.stepLabel name ∉ w.busy.labels) :
    (∃ moment last, run.ending names now w = (moment, (last.endBusyLogged moment run.label).finish
        run.number (.chain (run.steps.reverse ++ (run.turns names now w).map (·.step run)))) ∧
      w.Works ((run.turns names now w).flatMap (·.events run)) last) ∧
    ∀ turn ∈ run.turns names now w, w.Abides turn.workspace := by
  -- The induction follows the names, each of which goes on where the one before has ended.
  induction names generalizing run now w with
  | nil => exact ⟨⟨now, w, by simp [ending, turns], .refl w, .refl _⟩, by simp [turns]⟩
  | cons name rest ih =>
    let turn : StepTurn ω := ⟨name, now, w⟩
    obtain ⟨works, outcome⟩ := turn.ends run enabled (absent name List.mem_cons_self)
    -- The signal is as before, so the labels of the other formatters are still free.
    have busy : (turn.ending run).workspace.busy = w.busy := works.abides.unshown.busy
    obtain ⟨⟨moment, last, same, later⟩, starts⟩ :=
      ih (run.record name (turn.ending run).outcome) (turn.ending run).moment
        (w := (turn.ending run).workspace) (by rw [busy]; exact enabled) fun other member => by
          rw [busy]
          exact absent other (List.mem_cons_of_mem _ member)
    rw [turns_record] at same later starts
    refine ⟨⟨moment, last, ?_, works.trans later⟩, ?_⟩
    · -- The step comes behind those that were over before.
      have steps : (run.record name (turn.ending run).outcome).steps.reverse =
          run.steps.reverse ++ [turn.step run] := by
        simp [record, StepTurn.step, outcome, turn]
      have whole : run.ending (name :: rest) now w = _ := same
      rw [whole, steps, List.append_assoc]
      rfl
    · exact List.forall_mem_cons.mpr
        ⟨.refl w, fun other member => works.abides.trans (starts other member)⟩

end ChainRun

/-! ## Work that nobody disturbs -/

namespace Workspace

/-- When and in which workspace work is complete whose process ends at a moment, if nothing else
happens until then. -/
def resumes (now : Nat) (sleeper : Sleeper) (w : Workspace ω) : Nat × Workspace ω :=
  match sleeper with
  | .single number scope flight =>
    let (later, result) := w.finishProcess flight
    (now, later.finish number (.single (.ran scope result)))
  | .chain run name rest scope flight =>
    let (later, result) := w.finishProcess flight
    (run.record name (some (.ran scope result))).ending rest now
      (later.endBusyLogged now (run.stepLabel name))

/-- Where work leads that is complete, or that waits for a process, if nothing else happens. -/
def comesTo (now : Nat) : Workspace ω × Option (Nat × Sleeper) → Nat × Workspace ω
  | (w, none) => (now, w)
  | (w, some (delay, sleeper)) => resumes (now + delay) sleeper w

/-- Steps that are taken until one has to be waited for lead to the end of their chain. -/
theorem comesTo_runChain (now : Nat) (run : ChainRun) (names : List String) (w : Workspace ω) :
    comesTo now (runChain now run names w) = run.ending names now w := by
  -- By induction on the names; a step that is over is followed by the rest, one that waits is handed on.
  induction names generalizing run w with
  | nil => rfl
  | cons name rest ih =>
    rw [runChain_cons]
    unfold ChainRun.ending StepTurn.ending
    dsimp only
    generalize w.beginStep now run name = begun
    obtain ⟨later, outcome | ⟨delay, scope, flight⟩⟩ := begun
    · exact ih (run.record name outcome) later
    · rfl

/-- Work that goes on when its process has ended leads to its end. -/
theorem comesTo_wakeSleeper (now : Nat) (sleeper : Sleeper) (w : Workspace ω) :
    comesTo now (wakeSleeper now sleeper w) = resumes now sleeper w := by
  cases sleeper with
  | single number scope flight => rfl
  | chain run name rest scope flight => exact comesTo_runChain now _ rest _

end Workspace

end FormatPipeline
