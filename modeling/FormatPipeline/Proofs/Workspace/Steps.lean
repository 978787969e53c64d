import FormatPipeline.Proofs.Workspace.Progress
import FormatPipeline.Proofs.Workspace.Telling
import FormatPipeline.Proofs.Workspace.Unseen

/-! The steps of chains: one for each formatter in the order of the names, with an outcome if it is known. -/

namespace FormatPipeline

/-- A chain passes some of its formatters: it is complete, or it waits for the next one. -/
inductive ChainRun.Passes {ω : Type} (run : ChainRun) (earlier : List (Nat × Result))
    (names : List String) : List ChainStep → Workspace ω × Option (Nat × Sleeper) → Prop
  | complete {passed : List ChainStep} {later : Workspace ω} (all : passed.map (·.name) = names)
      (finished : later.finished = (run.number, .chain (run.steps.reverse ++ passed)) :: earlier) :
      Passes run earlier names passed (later, none)
  | waits {passed : List ChainStep} {later : Workspace ω} {next : ChainRun} {name : String}
      {rest : List String} {delay : Nat} {scope : Scope} {flight : InFlight}
      (same : next = { run with steps := passed.reverse ++ run.steps })
      (upTo : passed.map (·.name) ++ name :: rest = names) (finished : later.finished = earlier) :
      Passes run earlier names passed (later, some (delay, .chain next name rest scope flight))

/-- What a chain passes after a step comes behind it. -/
theorem ChainRun.Passes.record {ω : Type} {run : ChainRun} {earlier : List (Nat × Result)}
    {name : String} {rest : List String} {outcome : Option Outcome} {passed : List ChainStep}
    {result : Workspace ω × Option (Nat × Sleeper)}
    (passes : (run.record name outcome).Passes earlier rest passed result) :
    run.Passes earlier (name :: rest) (⟨name, outcome⟩ :: passed) result := by
  -- The step that is recorded is the first of those that have passed.
  cases passes with
  | complete all finished =>
    refine .complete (by simp [all]) ?_
    rw [finished]
    simp [ChainRun.record]
  | waits same upTo finished =>
    refine .waits ?_ (by simp [upTo]) finished
    simp [same, ChainRun.record]

namespace Workspace

variable {ω : Type}

/-! ## Formatters and documents -/

/-- The same formatters are registered, and no document has gone. -/
structure Retains (w later : Workspace ω) : Prop where
  formatters : ∀ name, (later.formatter? name).isSome = (w.formatter? name).isSome
  documents : ∀ handle, (w.document? handle).isSome → (later.document? handle).isSome

/-- Nothing is lost by doing nothing. -/
theorem Retains.refl (w : Workspace ω) : w.Retains w := ⟨fun _ => rfl, fun _ => id⟩

/-- Nothing is lost by one thing after another. -/
theorem Retains.trans {w mid later : Workspace ω} (first : w.Retains mid) (second : mid.Retains later) :
    w.Retains later :=
  ⟨fun name => (second.formatters name).trans (first.formatters name),
    fun handle present => second.documents handle (first.documents handle present)⟩

/-- What is missing at last was missing before. -/
theorem Retains.missing {w later : Workspace ω} (retains : w.Retains later) {name : String}
    {handle : Handle} (gone : later.formatter? name = none ∨ later.document? handle = none) :
    w.formatter? name = none ∨ w.document? handle = none := by
  -- Formatters are the same afterwards, and documents are only added.
  refine gone.imp (fun gone => ?_) fun gone => ?_
  · have same := retains.formatters name
    rw [gone] at same
    simpa using same.symm
  · have kept := retains.documents handle
    rw [gone] at kept
    cases present : w.document? handle with
    | none => rfl
    | some document => exact absurd (kept (by simp [present])) (by simp)

/-- A formatter is registered just if it has arguments of the user. -/
theorem isSome_ownArguments (w : Workspace ω) (name : String) :
    (w.settled.ownArguments name).isSome = (w.formatter? name).isSome := by
  simp [settled]

/-- Where the same is set and documents differ in texts only, nothing is lost. -/
theorem Retains.of_same {w later : Workspace ω} (settled : later.settled = w.settled)
    (documents : later.documents.blank = w.documents.blank) : w.Retains later where
  formatters name := by
    rw [← isSome_ownArguments, settled, isSome_ownArguments]
  documents handle present := (DocumentTable.isSome_get?_of_blank documents handle).trans present

/-! ## Steps -/

variable [World ω]

/-- A formatter that has run without a wait loses nothing and completes no work. -/
theorem retains_formatted {w mid : Workspace ω} {name label : String} {formatter : Formatter} {now : Nat}
    {handle : Handle} {document : Document} {mode : Mode} {outcome : Outcome}
    (present : w.formatter? name = some formatter)
    (done : (w.beginBusy now label).beginFormat formatter handle document mode = (mid, .done outcome)) :
    w.Retains (mid.endBusyLogged now label) ∧ (mid.endBusyLogged now label).finished = w.finished := by
  obtain rfl : ((w.beginBusy now label).beginFormat formatter handle document mode).1 = mid :=
    congrArg Prod.fst done
  -- Beginning, running and ending the step each change nothing of these.
  have effect := ((effect_beginBusy w now label).trans (effect_beginFormat
    (w := w.beginBusy now label) present 0 handle document mode)).trans (effect_endBusyLogged _ now label)
  have unseen := ((unseen_beginBusy w now label).trans
    (unseen_beginFormat _ formatter handle document mode)).trans (unseen_endBusyLogged _ now label)
  have unshown := (progress_formatDeeds (w.beginBusy now label) 0 formatter handle document mode).1
  exact ⟨.of_same effect.settled unseen.documents,
    (labels_endBusyLogged _ now label).2.trans unshown.finished⟩

omit [World ω] in
/-- A formatter or a document is missing if they are not there together. -/
theorem missing_of_apart {w : Workspace ω} {name : String} {handle : Handle}
    (apart : ∀ formatter document, w.formatter? name = some formatter →
      w.document? handle = some document → False) :
    w.formatter? name = none ∨ w.document? handle = none := by
  -- If both were there, they would be there together.
  cases present : w.formatter? name with
  | none => exact .inl rfl
  | some formatter =>
    cases opened : w.document? handle with
    | none => exact .inr rfl
    | some document => exact (apart formatter document present opened).elim

/-- A chain passes its formatters in order, and an outcome is missing only where something else is. -/
theorem passes_runChain (now : Nat) (run : ChainRun) (names : List String) (w : Workspace ω) :
    ∃ passed, run.Passes w.finished names passed (runChain now run names w) ∧
      ∀ step ∈ passed, step.outcome = none →
        w.formatter? step.name = none ∨ w.document? run.document = none := by
  -- The chain is over, waits, goes on with an outcome, or goes on without one.
  fun_induction runChain now run names w with
  | case1 run w =>
    have kept := (labels_endBusyLogged w now run.label).2
    exact ⟨[], .complete rfl (by simp [finish, kept]), by simp⟩
  | case2 run name rest w formatter document opened present begun mid delay scope flight started =>
    have unshown := (progress_formatDeeds begun 0 formatter run.document document run.mode).1
    rw [started] at unshown
    exact ⟨[], .waits rfl rfl unshown.finished, by simp⟩
  | case3 run name rest w formatter document opened present begun mid outcome done ih =>
    obtain ⟨retains, finished⟩ := retains_formatted present done
    obtain ⟨passed, passes, outcomes⟩ := ih
    refine ⟨_, (finished ▸ passes).record, List.forall_mem_cons.mpr ⟨by simp, ?_⟩⟩
    -- What is missing for a later formatter was missing from the beginning.
    exact fun step member missing => retains.missing (outcomes step member missing)
  | case4 run name rest w apart ih =>
    obtain ⟨outlet, -, same⟩ := onlySays_report w (.unknownFormatter name)
    have finished : (w.report (.unknownFormatter name)).finished = w.finished := by rw [same]
    obtain ⟨passed, passes, outcomes⟩ := ih
    refine ⟨_, (finished ▸ passes).record, List.forall_mem_cons.mpr ⟨fun _ => missing_of_apart apart, ?_⟩⟩
    rw [same] at outcomes
    exact outcomes

/-- A chain that begins passes its formatters in order. -/
theorem passes_startErrand {errand : Errand} {w : Workspace ω} {handle : Handle}
    {names : List String} {mode : Mode} (now : Nat)
    (chain : w.chainOf? errand = some (handle, names, mode)) (nonempty : names ≠ []) :
    ∃ passed, (w.chainRun errand.number handle mode).Passes w.finished names passed
        (startErrand now errand w) ∧
      ∀ step ∈ passed, step.outcome = none →
        w.formatter? step.name = none ∨ w.document? handle = none := by
  -- An errand of a chain starts it at its first name.
  rw [startErrand_of_chainOf? now chain, startChain_of_ne_nil now _ handle nonempty]
  let run := w.chainRun errand.number handle mode
  exact passes_runChain now run names (w.beginBusy now run.label)

omit [World ω] in
/-- Taking over what a process did loses nothing and completes no work. -/
theorem retains_ended (w : Workspace ω) (now : Nat) (label : String) (flight : InFlight) :
    w.Retains ((w.finishProcess flight).1.endBusyLogged now label) ∧
      ((w.finishProcess flight).1.endBusyLogged now label).finished = w.finished := by
  have effect := (effect_finishProcess w flight).trans (effect_endBusyLogged _ now label)
  have unseen := (unseen_finishProcess w flight).trans (unseen_endBusyLogged _ now label)
  exact ⟨.of_same effect.settled unseen.documents,
    (labels_endBusyLogged _ now label).2.trans (unshown_finishProcess w flight).finished⟩

/-- A chain that goes on passes the formatter that it waited for, and then the others in order. -/
theorem passes_wakeSleeper (now : Nat) (run : ChainRun) (name : String) (rest : List String)
    (scope : Scope) (flight : InFlight) (w : Workspace ω) :
    ∃ passed, run.Passes w.finished (name :: rest) passed
        (wakeSleeper now (.chain run name rest scope flight) w) ∧
      ∀ step ∈ passed, step.outcome = none →
        w.formatter? step.name = none ∨ w.document? run.document = none := by
  -- The formatter that was waited for is recorded before the rest of the chain runs.
  obtain ⟨retains, finished⟩ := retains_ended w now (run.stepLabel name) flight
  obtain ⟨passed, passes, outcomes⟩ := passes_runChain now
    (run.record name (some (.ran scope (w.finishProcess flight).2))) rest
    ((w.finishProcess flight).1.endBusyLogged now (run.stepLabel name))
  exact ⟨⟨name, some (.ran scope (w.finishProcess flight).2)⟩ :: passed, (finished ▸ passes).record,
    List.forall_mem_cons.mpr ⟨by simp, fun step member missing =>
      retains.missing (outcomes step member missing)⟩⟩

/-! ## Unknown formatters -/

omit [World ω] in
/-- No process complains of a formatter that nobody knows. -/
theorem unknownFormatter_not_mem_flight (flight : InFlight) (name : String) :
    .unknownFormatter name ∉ flight.problems := by
  unfold InFlight.problems
  split
  · simp
  · split <;> simp

/-- A formatter that starts is known. -/
theorem unknownFormatter_not_mem_format (w : Workspace ω) (formatter : Formatter) (handle : Handle)
    (document : Document) (mode : Mode) (name : String) :
    .unknownFormatter name ∉ w.formatProblems formatter handle document mode := by
  -- Without a binary that is reported, and a process reports nothing of the kind.
  unfold formatProblems
  split
  · simp
  · dsimp only
    split
    · exact unknownFormatter_not_mem_flight _ name
    · simp

/-- An unknown formatter is reported of a chain only where something is missing. -/
theorem missing_of_unknownFormatter {now : Nat} {run : ChainRun} {names : List String}
    {w : Workspace ω} {name : String} (reported : .unknownFormatter name ∈ chainProblems now run names w) :
    name ∈ names ∧ (w.formatter? name = none ∨ w.document? run.document = none) := by
  fun_induction chainProblems now run names w with
  | case1 => cases reported
  | case2 run first rest w formatter document opened present begun ih =>
    rcases List.mem_append.mp reported with own | later
    · exact absurd own (unknownFormatter_not_mem_format _ _ _ _ _ name)
    · cases result : begun.beginFormat formatter run.document document run.mode with
      | mk mid what =>
        rw [result] at later
        cases what with
        | running => cases later
        | done outcome =>
          obtain ⟨member, missing⟩ := ih mid outcome later
          exact ⟨List.mem_cons_of_mem _ member, (retains_formatted present result).1.missing missing⟩
  | case3 run first rest w apart ih =>
    obtain ⟨outlet, -, same⟩ := onlySays_report w (.unknownFormatter first)
    -- A name is reported because it is not known itself, or later in the chain.
    rcases List.mem_cons.mp reported with own | later
    · cases own
      exact ⟨List.mem_cons_self, missing_of_apart apart⟩
    · obtain ⟨member, missing⟩ := ih later
      rw [same] at missing
      exact ⟨List.mem_cons_of_mem _ member, missing⟩

end Workspace

end FormatPipeline
