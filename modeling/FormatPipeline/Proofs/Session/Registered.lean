import FormatPipeline.Proofs.Session.Orders

/-! Orders name registered formatters only, so that commands and saves never run one that nobody knows. -/

namespace FormatPipeline

open Schedule (DebouncedTimeline Turn Work)
open Settings (OrderKind)

/-- All steps of a chain have an outcome. -/
def Result.IsComplete (result : Result) : Prop :=
  ∀ steps, result = .chain steps → ∀ step ∈ steps, step.outcome.isSome

namespace Workspace

variable {ω : Type}

/-! ## Chains of commands and saves -/

/-- What an errand of a command or a save needs by itself is there. -/
def KnowsErrand (w : Workspace ω) : Errand → Prop
  | .formatActive _ => True
  | .runOnActive _ formatter => (w.formatter? formatter).isSome
  | .formatSaved _ document => (w.document? document).isSome
  -- What is asked for directly may need something that is not there.
  | .chain .. | .single .. => False

/-- The document of a chain and the formatters that it has to run are there, and its steps have outcomes. -/
structure KnowsRun (w : Workspace ω) (run : ChainRun) (names : List String) : Prop where
  document : (w.document? run.document).isSome
  formatters : ∀ name ∈ names, (w.formatter? name).isSome
  steps : ∀ step ∈ run.steps, step.outcome.isSome

/-- What a chain that waits still needs is there. -/
def KnowsSleeper (w : Workspace ω) : Sleeper → Prop
  | .chain run name rest _ _ => w.KnowsRun run (name :: rest)
  | .single .. => True

/-- What an errand needs is there as long as nothing is lost. -/
theorem KnowsErrand.retained {w later : Workspace ω} {errand : Errand} (known : w.KnowsErrand errand)
    (retains : w.Retains later) : later.KnowsErrand errand := by
  cases errand with
  | formatActive => trivial
  | runOnActive number formatter => exact (retains.formatters formatter).trans known
  | formatSaved number document => exact retains.documents document known
  | chain | single => exact known.elim

/-- What a chain that waits needs is there as long as nothing is lost. -/
theorem KnowsSleeper.retained {w later : Workspace ω} {sleeper : Sleeper}
    (known : w.KnowsSleeper sleeper) (retains : w.Retains later) : later.KnowsSleeper sleeper := by
  cases sleeper with
  | single => trivial
  | chain run name rest =>
    exact ⟨retains.documents run.document known.document,
      fun name member => (retains.formatters name).trans (known.formatters name member), known.steps⟩

/-- A chain of a command or a save has formatters, and all of them are registered. -/
theorem known_of_chainOf? {w : Workspace ω} (knows : w.KnowsOrders) (sound : w.documents.Sound)
    {errand : Errand} (known : w.KnowsErrand errand) {document : Handle} {names : List String}
    {mode : Mode} (chain : w.chainOf? errand = some (document, names, mode)) :
    names ≠ [] ∧ (w.document? document).isSome ∧ ∀ name ∈ names, (w.formatter? name).isSome := by
  -- An errand of a chain carries its names, and it is the only one that could carry none.
  have nonempty : names ≠ [] := by
    refine names_ne_nil chain ?_
    rintro _ _ _ _ rfl
    exact known.elim
  refine ⟨nonempty, ?_⟩
  -- What is active now has a handle of the table, and the names are orders or were checked.
  cases errand with
  | formatActive number =>
    simp only [chainOf?, Option.ite_none_left_eq_some, Option.map_eq_some_iff, Prod.mk.injEq] at chain
    obtain ⟨-, handle, active, rfl, rfl, -⟩ := chain
    exact ⟨sound.isSome_get? active, knows .format⟩
  | runOnActive number formatter =>
    simp only [chainOf?, Option.map_eq_some_iff, Prod.mk.injEq] at chain
    obtain ⟨handle, active, rfl, rfl, -⟩ := chain
    exact ⟨sound.isSome_get? active, fun name member => List.mem_singleton.mp member ▸ known⟩
  | formatSaved number handle =>
    simp only [chainOf?, Option.ite_none_left_eq_some, Option.some.injEq, Prod.mk.injEq] at chain
    obtain ⟨-, rfl, rfl, -⟩ := chain
    exact ⟨known, knows .save⟩
  | chain | single => exact known.elim

variable [World ω]

/-- Work that begins by a command or a save reports no unknown formatter. -/
theorem unknownFormatter_not_mem_errand {w : Workspace ω} (knows : w.KnowsOrders)
    (sound : w.documents.Sound) {errand : Errand} (known : w.KnowsErrand errand) (now : Nat)
    (name : String) : .unknownFormatter name ∉ errandProblems now errand w := by
  intro reported
  unfold errandProblems at reported
  split at reported
  next handle names mode chain =>
    obtain ⟨nonempty, document, formatters⟩ := known_of_chainOf? knows sound known chain
    rw [if_neg nonempty] at reported
    -- Beginning to show the chain loses nothing.
    obtain ⟨listed, missing⟩ := missing_of_unknownFormatter reported
    rcases missing with unknown | gone
    · exact absurd (formatters name listed) (by simp [show w.formatter? name = none from unknown])
    · exact absurd document (by simp [show w.document? handle = none from gone])
  next => split at reported <;> simp at reported
  next => simp at reported
  next => exact known.elim
  next => cases reported
  next => cases reported

/-- Work that goes on reports no unknown formatter if all that it needs is there. -/
theorem unknownFormatter_not_mem_wake {w : Workspace ω} {sleeper : Sleeper}
    (known : w.KnowsSleeper sleeper) (now : Nat) (name : String) :
    .unknownFormatter name ∉ wakeProblems now sleeper w := by
  intro reported
  -- What a process reports names no formatter, so that only the rest of the chain could.
  cases sleeper with
  | single number scope flight => exact unknownFormatter_not_mem_flight flight name reported
  | chain run first rest scope flight =>
    rcases List.mem_append.mp reported with own | later
    · exact unknownFormatter_not_mem_flight flight name own
    · obtain ⟨listed, missing⟩ := missing_of_unknownFormatter later
      -- Ending a step neither removes a formatter nor the document of the chain.
      rcases (retains_ended w now (run.stepLabel first) flight).1.missing missing with unknown | gone
      · exact absurd (known.formatters name (List.mem_cons_of_mem _ listed)) (by simp [unknown])
      · exact absurd known.document (by simp [show w.document? run.document = none from gone])

/-- Work is over with a result, or it waits; all outcomes are there if all that it needs is. -/
inductive Continues (w : Workspace ω) (known : Prop) (number : Nat) :
    Workspace ω × Option (Nat × Sleeper) → Prop
  | completes {later : Workspace ω} {result : Result}
      (finished : later.finished = (number, result) :: w.finished)
      (complete : known → result.IsComplete) : Continues w known number (later, none)
  | waits {later : Workspace ω} {delay : Nat} {sleeper : Sleeper}
      (finished : later.finished = w.finished) (own : sleeper.number = number)
      (needs : known → w.KnowsSleeper sleeper) : Continues w known number (later, some (delay, sleeper))

omit [World ω] in
/-- A chain that has all it needs gets outcomes for all that it passes. -/
theorem continues_of_passes {w : Workspace ω} {run : ChainRun} {names : List String}
    {passed : List ChainStep} {outcome : Workspace ω × Option (Nat × Sleeper)} {known : Prop}
    (passes : run.Passes w.finished names passed outcome)
    (outcomes : ∀ step ∈ passed, step.outcome = none →
      w.formatter? step.name = none ∨ w.document? run.document = none)
    (needs : known → w.KnowsRun run names) : w.Continues known run.number outcome := by
  -- The steps that are passed are of formatters that are there.
  have settled : known → (∀ step ∈ passed, step.name ∈ names) →
      ∀ step ∈ passed, step.outcome.isSome := by
    intro holds listed step member
    rw [Option.isSome_iff_ne_none]
    intro missing
    rcases outcomes step member missing with unknown | gone
    · exact absurd ((needs holds).formatters _ (listed step member)) (by simp [unknown])
    · exact absurd (needs holds).document (by simp [gone])
  cases passes with
  | complete all finished =>
    refine .completes finished fun holds steps same step member => ?_
    cases same
    rcases List.mem_append.mp member with earlier | last
    · exact (needs holds).steps step (List.mem_reverse.mp earlier)
    · refine settled holds (fun step member => ?_) step last
      rw [← all]
      exact List.mem_map_of_mem member
  -- The formatters of the rest are among those that were to come, and the steps behind are settled.
  | @waits later next name rest delay scope flight same upTo finished =>
    refine .waits finished (by rw [same]; rfl) fun holds => ?_
    rw [same]
    refine ⟨(needs holds).document, fun name member => ?_, fun step member => ?_⟩
    · exact (needs holds).formatters name (by rw [← upTo]; exact List.mem_append_right _ member)
    · rcases List.mem_append.mp member with last | earlier
      · refine settled holds (fun step member => ?_) step (List.mem_reverse.mp last)
        rw [← upTo]
        exact List.mem_append_left _ (List.mem_map_of_mem member)
      · exact (needs holds).steps step earlier

/-- An errand that begins is over, or it waits; one of a command or a save gets all its outcomes. -/
theorem continues_startErrand {w : Workspace ω} (knows : w.KnowsOrders) (sound : w.documents.Sound)
    (now : Nat) (errand : Errand) :
    w.Continues (w.KnowsErrand errand) errand.number (startErrand now errand w) := by
  -- An errand begins a chain or a single formatter, or it is refused.
  rcases startErrand_cases now errand w with
    ⟨handle, names, mode, chain, started⟩ | ⟨number, name, handle, mode, rfl⟩ |
    ⟨-, -, spoken, speech, started⟩
  · by_cases empty : names = []
    · -- A chain without formatters is over as it begins.
      rw [started, empty]
      exact .completes rfl fun _ steps same => by cases same; simp
    -- The formatters that have passed give their outcomes, and the others are waited for.
    · obtain ⟨passed, passes, outcomes⟩ := passes_startErrand now chain empty
      refine continues_of_passes passes outcomes fun known => ?_
      obtain ⟨-, document, formatters⟩ := known_of_chainOf? knows sound known chain
      exact ⟨document, formatters, by simp [chainRun]⟩
  -- A single formatter is no chain and has no outcomes to give.
  · have goes := goesOn_startErrand now (.single number name handle mode) w (by simp)
    generalize startErrand now (.single number name handle mode) w = outcome at goes ⊢
    obtain ⟨later, none | ⟨delay, sleeper⟩⟩ := outcome
    · obtain ⟨result, finished, -⟩ := goes.completes rfl
      exact .completes finished False.elim
    · obtain ⟨own, finished, -⟩ := goes.waits delay sleeper rfl
      exact .waits finished (sleeper.number_piece.symm.trans own) False.elim
  · rw [started]
    obtain ⟨outlet, -, rfl⟩ := speech
    exact .completes rfl fun _ steps same => by cases same; simp

/-- Work that goes on is over, or it waits again; it gets all its outcomes if all that it needs is there. -/
theorem continues_wakeSleeper (now : Nat) (sleeper : Sleeper) (w : Workspace ω) :
    w.Continues (w.KnowsSleeper sleeper) sleeper.number (wakeSleeper now sleeper w) := by
  -- A chain goes on with the formatters behind the one that has ended.
  cases sleeper with
  | single number scope flight =>
    refine .completes (congrArg _ (unshown_finishProcess w flight).finished) fun _ steps same => ?_
    cases same
  | chain run name rest scope flight =>
    obtain ⟨passed, passes, outcomes⟩ := passes_wakeSleeper now run name rest scope flight w
    exact continues_of_passes passes outcomes id

end Workspace

namespace Session

variable {ω : Type} [World ω] {s next : Session ω}

/-! ## Work -/

omit [World ω] in
/-- All work that was not asked for directly has what it needs, and its results have all outcomes. -/
structure KnowsWork (direct : List Nat) (s : Session ω) : Prop where
  sound : s.state.IsSound
  orders : s.state.KnowsOrders
  errands : ∀ errand ∈ DebouncedTimeline.jobs s, errand.number ∉ direct → s.state.KnowsErrand errand
  sleepers : ∀ sleeper ∈ DebouncedTimeline.sleepers s, sleeper.number ∉ direct →
    s.state.KnowsSleeper sleeper
  results : ∀ number result, (number, result) ∈ s.state.finished → number ∉ direct → result.IsComplete

namespace KnowsWork

variable {direct : List Nat}

omit [World ω] in
/-- Where no work is disturbed and nothing is lost, work has what it needs as before. -/
theorem undisturbed (current : s.KnowsWork direct) (same : s.Undisturbed next)
    (tends : s.state.Tends next.state) (sound : next.state.IsSound) : next.KnowsWork direct where
  -- Orders and formatters may have changed, but none that work has need of is lost.
  sound := sound
  orders := tends.orders current.orders
  errands errand waits apart := by
    rw [same.jobs] at waits
    exact (current.errands errand waits apart).retained tends.retains
  sleepers sleeper asleep apart := by
    rw [same.sleepers] at asleep
    exact (current.sleepers sleeper asleep apart).retained tends.retains
  results := by
    rw [same.state.finished]
    exact current.results

omit [World ω] in
/-- More work may count as asked for directly. -/
theorem more (current : s.KnowsWork direct) (others : List Nat) : s.KnowsWork (direct ++ others) where
  sound := current.sound
  orders := current.orders
  -- Less is required, since more numbers are exempt.
  errands errand waits apart :=
    current.errands errand waits fun member => apart (List.mem_append_left _ member)
  sleepers sleeper asleep apart :=
    current.sleepers sleeper asleep fun member => apart (List.mem_append_left _ member)
  results number result kept apart :=
    current.results number result kept fun member => apart (List.mem_append_left _ member)

omit [World ω] in
/-- Work is asked for with what it needs, unless it is asked for directly. -/
theorem spawn (current : s.KnowsWork direct) {errand : Nat → Errand}
    (numbered : ∀ number, (errand number).number = number)
    (known : s.state.numbered ∉ direct → s.state.KnowsErrand (errand s.state.numbered)) :
    (Session.spawn errand s).1.KnowsWork direct := by
  -- Asking for work touches neither the formatters nor the documents.
  have retains : s.state.Retains (Session.spawn errand s).1.state := ⟨fun _ => rfl, fun _ => id⟩
  refine ⟨⟨current.sound.documents, current.sound.active⟩, current.orders, fun job waits apart => ?_,
    fun sleeper asleep apart => (current.sleepers sleeper asleep apart).retained retains,
    current.results⟩
  rw [jobs_spawn] at waits
  -- The job was there before, or it is the one that is asked for.
  rcases List.mem_append.mp waits with earlier | last
  · exact (current.errands job earlier apart).retained retains
  · rw [List.mem_singleton.mp last, numbered] at apart
    rw [List.mem_singleton.mp last]
    exact (known apart).retained retains

omit [World ω] in
/-- Work that goes on has what it needs, and gets its outcomes. -/
theorem continues (current : s.KnowsWork direct) {number : Nat} {known : Prop}
    {outcome : Workspace ω × Option (Nat × Sleeper)} {rest : List Sleeper}
    (continues : s.state.Continues known number outcome) (needs : number ∉ direct → known)
    (state : next.state = outcome.1) (tends : s.state.Tends next.state) (sound : next.state.IsSound)
    (jobs : ∀ errand ∈ DebouncedTimeline.jobs next, errand ∈ DebouncedTimeline.jobs s)
    (sleepers : (DebouncedTimeline.sleepers next).Perm ((outcome.2.map (·.2)).toList ++ rest))
    (others : ∀ sleeper ∈ rest, sleeper ∈ DebouncedTimeline.sleepers s) : next.KnowsWork direct := by
  have waiting : ∀ sleeper ∈ rest, sleeper.number ∉ direct → next.state.KnowsSleeper sleeper :=
    fun sleeper asleep apart =>
      (current.sleepers sleeper (others sleeper asleep) apart).retained tends.retains
  -- Only the work that had its turn may wait in a new way or give a result.
  refine ⟨sound, tends.orders current.orders, fun errand waits apart => ?_, ?_, ?_⟩
  · exact (current.errands errand (jobs errand waits) apart).retained tends.retains
  · intro sleeper asleep apart
    -- A sleeper goes on from this turn, or it slept before.
    rcases List.mem_append.mp (sleepers.mem_iff.mp asleep) with own | other
    · cases continues with
      | completes => cases own
      | waits finished same known =>
        cases List.mem_singleton.mp own
        exact (known (needs (same ▸ apart))).retained tends.retains
    · exact waiting sleeper other apart
  -- A new result is that of the work whose turn it was.
  · intro other result kept apart
    rw [state] at kept
    cases continues with
    | completes finished complete =>
      rw [finished] at kept
      rcases List.mem_cons.mp kept with new | earlier
      · cases new
        exact complete (needs apart)
      · exact current.results other result earlier apart
    | waits finished =>
      rw [finished] at kept
      exact current.results other result kept apart

/-- Work has what it needs in every turn. -/
theorem takes (current : s.KnowsWork direct)
    {turn : Turn (Work Update Errand) (Work Update Sleeper)}
    (taken : DebouncedTimeline.Takes machine s turn next) (sound : next.state.IsSound) :
    next.KnowsWork direct := by
  have tends := tends_takes taken
  -- A job begins, a sleeper goes on, or a delayed update is applied.
  rcases DebouncedTimeline.takes_cases taken with
    ⟨errand, rest, rfl, queued, jobs, sleepers, state⟩ |
    ⟨now, sleeper, rest, rfl, asleep, jobs, sleepers, state⟩ | ⟨-, -, jobs, sleepers, state⟩
  · refine current.continues
      (Workspace.continues_startErrand current.orders current.sound.documents s.clock errand)
      (current.errands errand (queued.mem_iff.mpr List.mem_cons_self)) state tends sound
      (fun job waits => ?_) sleepers fun _ => id
    exact queued.mem_iff.mpr (List.mem_cons_of_mem _ (jobs.mem_iff.mp waits))
  · exact current.continues (Workspace.continues_wakeSleeper now sleeper s.state)
      (current.sleepers sleeper (asleep.mem_iff.mpr List.mem_cons_self)) state tends sound
      (fun job waits => jobs ▸ waits) sleepers
      fun other listed => asleep.mem_iff.mpr (List.mem_cons_of_mem _ listed)
  · exact current.undisturbed (undisturbed_delayed jobs sleepers state) tends sound

end KnowsWork

omit [World ω] in
/-- The number of work that is asked for directly, and neither by a command nor by a save. -/
def directs (s : Session ω) : Option (Happening ω) → List Nat
  | some (.move (.call (.chain ..))) | some (.move (.call (.single ..))) => [s.state.numbered]
  | _ => []

/-- Something happens to a session, before its end or after it, or it ends. -/
inductive Lasts : Session ω → Option (Happening ω) → Session ω → Prop
  | happens {s next : Session ω} {happening : Happening ω} (happens : Happens s happening next) :
      Lasts s (some happening) next
  | stop {s : Session ω} : Lasts s none s.stop

/-- Handles are only made for documents that are there, whatever happens. -/
theorem isSound_lasts (sound : s.state.IsSound) {event : Option (Happening ω)}
    (lasts : Lasts s event next) : next.state.IsSound := by
  -- Whatever happens redraws the document table at most, and a stop leaves no active document.
  cases lasts with
  | happens happens =>
    obtain ⟨f, same, redraws⟩ := redraws_happens happens
    rw [same]
    exact redraws.sound sound
  | stop => exact ⟨sound.documents, nofun⟩

/-- A command asks for work that has what it needs. -/
theorem KnowsWork.command {direct : List Nat} (current : s.KnowsWork direct) (name : String) :
    (s.command name).1.KnowsWork direct := by
  have logged : Session.KnowsWork direct (s.modify (·.debug ("Command: " ++ name))) :=
    current.undisturbed
      (undisturbed_modify s (Workspace.Calm.of_onlySays (Workspace.onlySays_debug _ _)).idle)
      (.of_onlySays (Workspace.onlySays_debug _ _) (fun _ => id) rfl)
      ⟨current.sound.documents, current.sound.active⟩
  unfold Session.command
  dsimp only
  -- A command formats, turns a switch over, runs one formatter, or is unknown.
  split
  · exact logged.spawn (fun _ => rfl) fun _ => trivial
  · split
    · have steady := steady_set Settings.onSaveEnabledKey
        (s.state.store.toggled Settings.onSaveEnabledKey) (s.modify (·.debug ("Command: " ++ name)))
      exact logged.undisturbed (undisturbed_set _ _ _) (tends_set _ _ _)
        (logged.sound.congr steady.active steady.documents)
    · split
      · exact logged
      next formatter found =>
        split
        -- That the formatter is known is asked before the errand is spawned.
        next known =>
          have spawned : (Session.spawn (.runOnActive · formatter) _).1.KnowsWork direct :=
            logged.spawn (fun _ => rfl) fun _ => known
          exact spawned
        next => exact logged

/-- A call asks for work that has what it needs, or for work directly. -/
theorem KnowsWork.answer {direct : List Nat} (current : s.KnowsWork direct) (call : Call ω) :
    (s.answer call).KnowsWork (direct ++ s.directs (some (.move (.call call)))) := by
  have sound : (s.answer call).state.IsSound := isSound_lasts current.sound (.happens (.move (.call call)))
  have idle : call.IsIdle → (s.answer call).KnowsWork direct := fun idle =>
    current.undisturbed (undisturbed_answer s call idle) (tends_answer s call idle) sound
  -- What is asked for directly may need something that is not there.
  have direct : ∀ errand : Nat → Errand, (∀ number, (errand number).number = number) →
      (Session.spawn errand s).1.KnowsWork (direct ++ [s.state.numbered]) := fun errand numbered =>
    (current.more [s.state.numbered]).spawn numbered fun apart => absurd (by simp) apart
  cases call with
  | set | toggle | openDocument | edit | closeDocument | changeScope | activate | world =>
    exact (idle trivial).more []
  | command name => exact (current.command name).more []
  | saved document =>
    refine KnowsWork.more ?_ []
    rw [Session.answer, documentSaved_eq]
    -- A document is saved for formatting only if it is in the table.
    split
    next watched =>
      have present : (s.state.document? document).isSome := by
        cases found : s.state.document? document with
        | none => simp [found] at watched
        | some saved => rfl
      exact current.spawn (fun _ => rfl) fun _ => present
    next => exact current
  | chain document names mode => exact direct (.chain · document names mode) fun _ => rfl
  | single formatter document mode => exact direct (.single · formatter document mode) fun _ => rfl

/-- Work has what it needs whatever happens. -/
theorem KnowsWork.lasts {direct : List Nat} (current : s.KnowsWork direct)
    {event : Option (Happening ω)} (lasts : Lasts s event next) :
    next.KnowsWork (direct ++ s.directs event) := by
  -- Only a direct call asks for work that need not have what it needs.
  have sound := isSound_lasts current.sound lasts
  cases lasts with
  | happens happens =>
    cases happens with
    | move moved =>
      cases moved with
      | call call => exact current.answer call
      | turn taken => exact (current.takes taken sound).more []
    | notice fits =>
      exact (current.undisturbed (undisturbed_noticed _ s) (tends_noticed fits) sound).more []
  | stop => exact (current.undisturbed s.undisturbed_stop.1 s.undisturbed_stop.2 sound).more []

/-- Whatever happens, no formatter is added or removed. -/
theorem isSome_formatter?_lasts {event : Option (Happening ω)} (lasts : Lasts s event next)
    (name : String) : (next.state.formatter? name).isSome = (s.state.formatter? name).isSome := by
  rw [← Workspace.isSome_ownArguments, ← Workspace.isSome_ownArguments]
  -- The formatters with their arguments are kept by every call and every turn.
  cases lasts with
  | happens happens =>
    cases happens with
    | move moved => exact isSome_ownArguments_moves moved name
    | notice => rw [(quiet_noticed _ s).settled]
  | stop => rfl

/-! ## The run -/

variable {profiles : List Profile} {delay : Nat} {first : Session ω}

omit [World ω] in
/-- A session whose formatters are registered has no orders yet. -/
theorem knowsOrders_prepared (profiles : List Profile) (delay : Nat)
    (unset : first.state.coordination = .initial) : (first.prepared profiles delay).state.KnowsOrders := by
  -- Preparing registers formatters and observes nothing yet.
  have kept : (first.prepared profiles delay).state.coordination = first.state.coordination := by
    rw [state_prepared]
    exact (Workspace.unseen_register profiles first.state).coordination
  intro kind name member
  rw [kept, unset] at member
  cases kind <;> cases member

/-- After the start of a session exactly the profiles are registered. -/
theorem isSome_formatter?_start (fresh : first.state.formatters = []) (name : String) :
    ((first.start profiles delay).state.formatter? name).isSome ↔
      ∃ profile ∈ profiles, profile.name = name := by
  -- Observers change what formatters are set to, and neither add nor remove one.
  have observed := Workspace.tends_foldl_observe
    (Target.all (first.register profiles).state.formatterNames) (first.prepared profiles delay).state
  rw [state_start, ← state_prepared,
    (observed.trans (Workspace.tends_greeting _)).retains.formatters, Workspace.isSome_formatter?]
  have nobody : name ∉ first.state.formatterNames := by simp [Workspace.formatterNames, fresh]
  exact (Workspace.mem_register profiles first.state name).trans (or_iff_right nobody)

/-- The work of a session that has just started has what it needs. -/
theorem knowsWork_start (unused : first.Unused) (unset : first.state.coordination = .initial)
    (sound : first.state.documents.Sound) : (first.start profiles delay).KnowsWork [] := by
  -- Nothing waits at the start, so that only the orders are of interest.
  have started := unused.start profiles delay
  have orders := (Workspace.tends_foldl_observe (Target.all (first.register profiles).state.formatterNames)
    _).orders (knowsOrders_prepared profiles delay unset)
  obtain ⟨f, same, redraws⟩ := (does_start profiles delay first).redraws
  refine ⟨?_, ?_, ?_, ?_, ?_⟩
  · rw [same]
    exact redraws.sound ⟨sound, by simp [unset, Coordination.initial]⟩
  · rw [state_start, ← state_prepared]
    -- Orders that an observer gives up or takes name registered formatters, as it checks them.
    exact (Workspace.tends_greeting _).orders orders
  · simp [DebouncedTimeline.jobs, started.jobs]
  · simp [DebouncedTimeline.sleepers, started.sleepers]
  · simp [started.finished]

/-- The work of a session has what it needs at any time of a run. -/
theorem knowsWork_run {direct : List Nat} (unused : first.Unused)
    (unset : first.state.coordination = .initial) (sound : first.state.documents.Sound)
    (ran : Run Lasts directs [] (first.start profiles delay) direct s) : s.KnowsWork direct := by
  induction ran with
  | start => exact knowsWork_start unused unset sound
  | move before lasts ih => exact ih.lasts lasts

/-- Exactly the profiles are registered at any time of a run. -/
theorem isSome_formatter?_run {direct : List Nat} (fresh : first.state.formatters = [])
    (ran : Run Lasts directs [] (first.start profiles delay) direct s) (name : String) :
    (s.state.formatter? name).isSome ↔ ∃ profile ∈ profiles, profile.name = name := by
  induction ran with
  | start => exact isSome_formatter?_start fresh name
  | move before lasts ih => rw [isSome_formatter?_lasts lasts, ih]

/-- Work that has what it needs reports no unknown formatter when its turn comes. -/
theorem KnowsWork.unknownFormatter_not_mem {direct : List Nat} (current : s.KnowsWork direct)
    {turn : Turn (Work Update Errand) (Work Update Sleeper)}
    (taken : DebouncedTimeline.Takes machine s turn next) {number : Nat} (own : numberOf? turn = some number)
    (apart : number ∉ direct) (name : String) : .unknownFormatter name ∉ s.turnProblems turn := by
  -- The turn is that of a job or of a sleeper, for it has a number.
  rcases DebouncedTimeline.takes_cases taken with
    ⟨errand, rest, rfl, queued, -⟩ | ⟨now, sleeper, rest, rfl, asleep, -⟩ | ⟨noJob, noSleeper, -⟩
  · cases own
    exact Workspace.unknownFormatter_not_mem_errand current.orders current.sound.documents
      (current.errands errand (queued.mem_iff.mpr List.mem_cons_self) apart) s.clock name
  · cases own
    exact Workspace.unknownFormatter_not_mem_wake
      (current.sleepers sleeper (asleep.mem_iff.mpr List.mem_cons_self) apart) now name
  -- Only turns of delayed updates are left, and those have no number.
  · rw [numberOf?_idle noJob noSleeper] at own
    cases own

/-- Work that has what it needs starts a chain of registered formatters when it begins, or it is over. -/
theorem KnowsWork.begins {direct : List Nat} (current : s.KnowsWork direct) {errand : Errand}
    (taken : DebouncedTimeline.Takes machine s (.start (.other errand)) next) (apart : errand.number ∉ direct) :
    (∃ document names mode, s.state.chainOf? errand = some (document, names, mode) ∧ names ≠ [] ∧
      (∀ name ∈ names, (s.state.formatter? name).isSome) ∧
      next.state = (Workspace.startChain s.clock errand.number document names mode s.state).1) ∨
    ∃ spoken, s.state.OnlySays spoken ∧ next.state = spoken.finish errand.number (.chain []) := by
  -- The turn starts a job, which is the errand in question.
  rcases DebouncedTimeline.takes_cases taken with
    ⟨job, rest, turn, queued, -, -, state⟩ | ⟨_, _, _, turn, -⟩ | ⟨noJob, -⟩
  · cases turn
    have state : next.state = (Workspace.startErrand s.clock errand s.state).1 := state
    have known := current.errands errand (queued.mem_iff.mpr List.mem_cons_self) apart
    -- The errand begins a chain, or it was asked for directly, or it is refused.
    rcases Workspace.startErrand_cases s.clock errand s.state with
      ⟨document, names, mode, chain, started⟩ | ⟨_, _, _, _, rfl⟩ | ⟨-, -, spoken, speech, started⟩
    · obtain ⟨nonempty, -, formatters⟩ :=
        Workspace.known_of_chainOf? current.orders current.sound.documents known chain
      exact .inl ⟨document, names, mode, chain, nonempty, formatters, by rw [state, started]⟩
    · exact known.elim
    · exact .inr ⟨spoken, speech, by rw [state, started]⟩
  · cases turn
  · exact absurd rfl (noJob errand)

/-- Orders name registered formatters at any time, and so do the chains of commands and of saves. -/
theorem registeredOrders_run {direct : List Nat} (unused : first.Unused)
    (fresh : first.state.formatters = []) (unset : first.state.coordination = .initial)
    (sound : first.state.documents.Sound)
    (ran : Run Lasts directs [] (first.start profiles delay) direct s) :
    (∀ kind, ∀ name ∈ s.state.coordination.order kind,
      (s.state.formatter? name).isSome ∧ ∃ profile ∈ profiles, profile.name = name) ∧
    -- The same holds while settings take effect, in the start and later, and a list that is applied
    -- then is taken over or given up.
    (∀ (targets : List Target) store,
      let w := { targets.foldl Workspace.observe (first.prepared profiles delay).state with store := store }
      w.KnowsOrders ∧ w.TakesOrders) ∧
    (∀ (updates : List Update) store,
      let w := updates.foldl (fun w update => Update.apply update w) { s.state with store := store }
      w.KnowsOrders ∧ w.TakesOrders) ∧
    -- Work that was not asked for directly reports no unknown formatter when its turn comes.
    (∀ turn next number, DebouncedTimeline.Takes machine s turn next → numberOf? turn = some number →
      number ∉ direct → s.state.Reports (s.turnProblems turn) next.state ∧
        ∀ name, .unknownFormatter name ∉ s.turnProblems turn) ∧
    -- When it begins, it starts a chain of registered formatters, or it is over.
    (∀ errand next, DebouncedTimeline.Takes machine s (.start (.other errand)) next → errand.number ∉ direct →
      (∃ document names mode, s.state.chainOf? errand = some (document, names, mode) ∧ names ≠ [] ∧
        (∀ name ∈ names, (s.state.formatter? name).isSome) ∧
        next.state = (Workspace.startChain s.clock errand.number document names mode s.state).1) ∨
      ∃ spoken, s.state.OnlySays spoken ∧ next.state = spoken.finish errand.number (.chain [])) ∧
    ∀ number steps, s.state.result? number = some (.chain steps) → number ∉ direct →
      ∀ step ∈ steps, step.outcome.isSome := by
  have current := knowsWork_run unused unset sound ran
  have accepts : ∀ {w : Workspace ω}, w.KnowsOrders → w.KnowsOrders ∧ w.TakesOrders := fun knows =>
    ⟨knows, fun kind value => Workspace.takesOrder_setOrder knows kind (Settings.stringList value)⟩
  refine ⟨fun kind name member => ?_, fun targets store => ?_, fun updates store => ?_,
    fun turn next number taken own apart => ?_, fun errand next taken apart => ?_,
    fun number steps complete apart => ?_⟩
  · have known := current.orders kind name member
    exact ⟨known, (isSome_formatter?_run fresh ran name).mp known⟩
  · have observed := (Workspace.tends_foldl_observe targets _).orders
      (knowsOrders_prepared profiles delay unset)
    exact accepts observed
  · have stored : Workspace.KnowsOrders { s.state with store := store } := current.orders
    exact accepts ((Workspace.tends_foldl_apply updates _).orders stored)
  · refine ⟨reports_takes taken ?_, current.unknownFormatter_not_mem taken own apart⟩
    -- A delayed update has no number.
    rintro now entry rfl
    cases own
  · exact current.begins taken apart
  · obtain ⟨earlier, later, kept, -⟩ := List.lookup_eq_some_iff.mp complete
    exact current.results number (.chain steps) (by simp [kept]) apart steps rfl

/-- Nothing is asked for directly while time passes. -/
theorem run_wait_lasts {told direct : List Nat} (ran : Run Lasts directs told first direct s)
    (milliseconds : Nat) : Run Lasts directs told first direct (s.wait milliseconds) := by
  refine DebouncedTimeline.advance_keeps (Run Lasts directs told first direct ·) ?_ ran milliseconds
  intro t turn next ran taken
  exact List.append_nil direct ▸ ran.move (.happens (.move (.turn taken)))

/-- A session whose store has an order with a formatter that nobody knows. -/
def sampleUnordered : Session Scripted.Tables :=
  .initial (Scripted.sample []) .silent (.ofDefaults [
    (OrderKind.format.key, .array [.string "black", .string "isort"]),
    ("black.global.binPath", .string "black")])

/-- The order is corrected, and the active document is formatted by a command. -/
def sampleOrdered : Session Scripted.Tables :=
  (((((sampleUnordered.start [Scripted.sampleProfile] 250).answer
    (.openDocument (.opened 1 ⟨"/repo/main.py"⟩ none "" ⟨0, 0⟩ true))).answer (.activate (some 1))).answer
    (.set OrderKind.format.key (.array [.string "black"]))).wait 250).answer (.command Command.format)
    |>.wait 10

/-- In the sample the wrong order is given up, and the chain of the corrected one has its outcomes. -/
theorem registeredOrders_sample :
    (sampleUnordered.start [Scripted.sampleProfile] 250).state.coordination.formatOrder = [] ∧
    sampleOrdered.state.coordination.formatOrder = ["black"] ∧
    (∃ profile ∈ [Scripted.sampleProfile], profile.name = "black") ∧
    ∃ steps, sampleOrdered.state.result? 1 = some (.chain steps) ∧
      steps.map (·.name) = ["black"] ∧ ∀ step ∈ steps, step.outcome.isSome := by
  have started : Run Lasts directs [] (sampleUnordered.start [Scripted.sampleProfile] 250) [] _ := .start
  have changed := run_wait_lasts (((started.move (.happens (.move (.call
    (.openDocument (.opened 1 ⟨"/repo/main.py"⟩ none "" ⟨0, 0⟩ true)))))).move (.happens (.move (.call
    (.activate (some 1)))))).move (.happens (.move (.call
    (.set OrderKind.format.key (.array [.string "black"])))))) 250
  -- Nothing is asked for directly in the sample.
  have ordered : Run Lasts directs [] (sampleUnordered.start [Scripted.sampleProfile] 250) []
      sampleOrdered :=
    run_wait_lasts (changed.move (.happens (.move (.call (.command Command.format))))) 10
  obtain ⟨known, -, -, -, -, outcomes⟩ := registeredOrders_run
    ⟨rfl, rfl, rfl, rfl⟩ rfl rfl (fun _ _ known => by cases known) ordered
  have taken : sampleOrdered.state.coordination.formatOrder = ["black"] := by decide +kernel
  have complete : sampleOrdered.state.result? 1 =
      some (.chain [⟨"black", some (.ran .anywhere (.exited (some 0)))⟩]) := by decide +kernel
  refine ⟨by decide +kernel, taken, ?_, ?_⟩
  · exact (known .format "black" (by simp [Coordination.order, taken])).2
  · exact ⟨_, complete, rfl, outcomes 1 _ complete List.not_mem_nil⟩

end Session

end FormatPipeline
