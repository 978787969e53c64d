import FormatPipeline.Proofs.Workspace.Errands

/-! What is shown of work in progress, and the order in which its formatters run. -/

namespace FormatPipeline

/-- Waiting work as it can be seen from outside. -/
structure Piece where
  number : Nat
  /-- The labels under which the busy signal shows it. -/
  labels : List String
  /-- How many outcomes are known. -/
  known : Nat
  /-- Whether a process runs. -/
  running : Bool

/-- An errand before its turn. -/
def Errand.piece (errand : Errand) : Piece := ⟨errand.number, [], 0, false⟩

/-- A chain before its next formatter. -/
def ChainRun.piece (run : ChainRun) : Piece := ⟨run.number, [run.label], run.steps.length, false⟩

/-- Work while its process runs; a single formatter is not shown. -/
def Sleeper.piece : Sleeper → Piece
  | chain run name _ _ _ => ⟨run.number, [run.label, run.stepLabel name], run.steps.length, true⟩
  | single number _ _ => ⟨number, [], 0, true⟩

/-- How many outcomes a result gives. -/
def Result.outcomes : Result → Nat
  | chain steps => steps.length
  | single _ => 1

/-! ## One formatter after another -/

/-- Deeds lead from a number of known outcomes, with a process running or not, to another one. -/
inductive Progress : Nat → Bool → List Deed → Nat → Bool → Prop
  | done (known : Nat) (running : Bool) : Progress known running [] known running
  | wrote {known last : Nat} {still : Bool} {deeds : List Deed} {document : Handle} {id : Nat}
      {text : String} (rest : Progress known true deeds last still) :
      Progress known true (.wrote document id text :: deeds) last still
  | spawned {known last : Nat} {still : Bool} {deeds : List Deed} {line : String}
      {stdin : Option String} (rest : Progress known true deeds last still) :
      Progress known false (.spawned known line stdin :: deeds) last still
  | settled {known last : Nat} {running still : Bool} {deeds : List Deed}
      (rest : Progress (known + 1) false deeds last still) :
      Progress known running (.settled known :: deeds) last still

namespace Progress

variable {known mid last : Nat} {running between still : Bool} {deeds later : List Deed}

/-- What is done later goes on where the earlier deeds have led. -/
theorem append (first : Progress known running deeds mid between)
    (second : Progress mid between later last still) :
    Progress known running (deeds ++ later) last still := by
  -- The first deeds are done one by one, and the later ones go on from the last of them.
  induction first with
  | done => exact second
  | wrote _ ih => exact .wrote (ih second)
  | spawned _ ih => exact .spawned (ih second)
  | settled _ ih => exact .settled (ih second)

/-- Deeds of which some are earlier go through what the earlier ones have led to. -/
theorem split (progress : Progress known running (deeds ++ later) last still) :
    ∃ mid between, Progress known running deeds mid between ∧ Progress mid between later last still := by
  -- Each earlier deed is the first step of the whole.
  induction deeds generalizing known running with
  | nil => exact ⟨known, running, .done _ _, progress⟩
  | cons deed rest ih =>
    cases progress with
    | wrote remaining =>
      obtain ⟨mid, between, first, second⟩ := ih remaining
      exact ⟨mid, between, .wrote first, second⟩
    | spawned remaining =>
      obtain ⟨mid, between, first, second⟩ := ih remaining
      exact ⟨mid, between, .spawned first, second⟩
    | settled remaining =>
      obtain ⟨mid, between, first, second⟩ := ih remaining
      exact ⟨mid, between, .settled first, second⟩

/-- Outcomes stay known. -/
theorem known_le (progress : Progress known running deeds last still) : known ≤ last := by
  induction progress with
  | done => exact Nat.le_refl _
  | wrote _ ih => exact ih
  | spawned _ ih => exact ih
  | settled _ ih => omega

/-- A process goes on running until its outcome is known. -/
theorem running_or (progress : Progress known running deeds last still) :
    known < last ∨ (running = true → still = true) := by
  -- Only a settled outcome ends a process, and it counts one more.
  induction progress with
  | done => exact .inr id
  | wrote _ ih => exact ih
  | spawned _ ih => exact .inr nofun
  | settled rest ih => exact .inl rest.known_le

/-- Without a process and without an outcome nothing is done. -/
theorem eq_nil (progress : Progress known false deeds known false) : deeds = [] := by
  -- A process that starts would still run at last, and a settled outcome would be counted.
  cases progress with
  | done => rfl
  | spawned rest =>
    rcases rest.running_or with less | goesOn
    · omega
    · exact absurd (goesOn rfl) nofun
  | settled rest =>
    have more := rest.known_le
    omega

/-- The outcomes that become known are those between the number at first and at last. -/
theorem settled_mem_iff (progress : Progress known running deeds last still) (position : Nat) :
    .settled position ∈ deeds ↔ known ≤ position ∧ position < last := by
  induction progress with
  | done => simp
  | wrote _ ih => simpa using ih
  | spawned _ ih => simpa using ih
  | @settled known last running still deeds rest ih =>
    have more := rest.known_le
    -- An outcome becomes known under the number after those known before.
    simp only [List.mem_cons, Deed.settled.injEq, ih]
    omega

/-- A process is started only when all outcomes before its formatter's are known, and no others. -/
theorem settled_of_spawned {position : Nat} {line : String} {stdin : Option String}
    (progress : Progress 0 false (deeds ++ .spawned position line stdin :: later) last still)
    (other : Nat) : .settled other ∈ deeds ↔ other < position := by
  -- Where the process starts, exactly its own position is the number of known outcomes.
  obtain ⟨mid, between, first, second⟩ := progress.split
  cases second with
  | spawned rest => simpa using first.settled_mem_iff other

end Progress

namespace Workspace

variable {ω : Type}

/-! ## What formatters leave to the busy signal -/

/-- Neither the busy signal nor any result changes. -/
structure Unshown (w later : Workspace ω) : Prop where
  busy : later.busy = w.busy
  finished : later.finished = w.finished

/-- What shows nothing can be followed by more of it. -/
theorem Unshown.trans {w mid later : Workspace ω} (first : w.Unshown mid) (second : mid.Unshown later) :
    w.Unshown later :=
  ⟨second.busy.trans first.busy, second.finished.trans first.finished⟩

/-- The busy signal shows nothing of what is said. -/
theorem Unshown.of_onlySays {w later : Workspace ω} (speech : w.OnlySays later) : w.Unshown later := by
  obtain ⟨outlet, -, rfl⟩ := speech
  exact ⟨rfl, rfl⟩

/-- The busy signal shows nothing of formatters that are replaced. -/
theorem Unshown.of_replaces {w later : Workspace ω} {new : Formatter}
    (replaces : w.Replaces new later) : w.Unshown later := by
  obtain ⟨probes, outlet, -, rfl⟩ := replaces
  exact ⟨rfl, rfl⟩

/-- The busy signal shows nothing of texts that are replaced. -/
theorem unshown_setText (w : Workspace ω) (handle : Handle) (text : String) :
    w.Unshown (w.setText handle text) := by
  unfold setText
  cases w.document? handle <;> exact ⟨rfl, rfl⟩

/-- The busy signal shows nothing of cursors. -/
theorem unshown_setCursor (w : Workspace ω) (handle : Handle) (position : Position) :
    w.Unshown (w.setCursor handle position) := by
  unfold setCursor
  cases w.document? handle <;> exact ⟨rfl, rfl⟩

/-- The busy signal shows nothing of what a process leaves behind. -/
theorem unshown_finishProcess (w : Workspace ω) (flight : InFlight) :
    w.Unshown (w.finishProcess flight).1 := by
  obtain ⟨spoken, speech, same⟩ := finishProcess_cases w flight
  rw [same]
  split
  · exact (Unshown.of_onlySays speech).trans ((unshown_setText _ _ _).trans (unshown_setCursor _ _ _))
  · exact .of_onlySays speech

/-- Texts that a process puts into its document start nothing and settle nothing. -/
theorem progress_flightDeeds (w : Workspace ω) (flight : InFlight) (known : Nat) :
    Progress known true (w.flightDeeds flight) known true := by
  unfold flightDeeds textDeeds
  -- At most one text is written, while the process still counts as running.
  split
  · cases w.document? flight.document with
    | none => exact .done _ _
    | some document => exact .wrote (.done _ _)
  · exact .done _ _

/-- Work that begins is shown behind all other work. -/
theorem labels_beginBusy (w : Workspace ω) (now : Nat) (label : String) :
    (w.beginBusy now label).busy.labels = w.busy.labels ++ [label] := by
  simp [beginBusy, BusySignal.add, BusySignal.labels]

/-- Work that ends is not shown any longer; which of several with one label ends makes no difference. -/
theorem labels_endBusyLogged (w : Workspace ω) (now : Nat) (label : String) :
    (w.endBusyLogged now label).busy.labels = w.busy.labels.erase label ∧
      (w.endBusyLogged now label).finished = w.finished := by
  -- Taking out the first entry with the label takes out the first such label.
  have erased : (w.busy.entries.eraseP (·.label == label)).map (·.label) =
      w.busy.labels.erase label := by
    rw [List.erase_eq_eraseP', BusySignal.labels, List.eraseP_map]
    rfl
  unfold endBusyLogged endBusy BusySignal.remove
  cases found : w.busy.entries.find? (·.label == label) with
  | none =>
    -- Nothing is shown under a label that is not there.
    have missing : label ∉ w.busy.labels := by
      simpa [BusySignal.labels] using found
    exact ⟨(List.erase_of_not_mem missing).symm, rfl⟩
  | some entry => exact ⟨erased, rfl⟩

variable [World ω]

/-- What a formatter does when it starts: its process runs, or its outcome is about to be known. -/
theorem progress_formatDeeds (w : Workspace ω) (position : Nat) (formatter : Formatter)
    (handle : Handle) (document : Document) (mode : Mode) :
    w.Unshown (w.beginFormat formatter handle document mode).1 ∧
      ∃ running, Progress position false (w.formatDeeds position formatter handle document mode)
          position running ∧
        ∀ delay scope flight,
          (w.beginFormat formatter handle document mode).2 = .running delay scope flight →
            running = true := by
  have resolved := Unshown.of_replaces (replaces_resolve w formatter document.path mode)
  unfold beginFormat formatDeeds
  generalize w.resolve formatter document.path mode = resolution at resolved ⊢
  obtain ⟨mid, found⟩ := resolution
  -- Without a binary nothing runs at all.
  cases found with
  | none =>
    exact ⟨resolved.trans (.of_onlySays (onlySays_report mid _)), false, .done _ _, by simp⟩
  | some invocation =>
    have started : mid.Unshown
        (mid.startProcess handle document invocation.binary invocation.arguments mode).1 := ⟨rfl, rfl⟩
    have begun := resolved.trans started
    dsimp only at begun ⊢
    generalize mid.startProcess handle document invocation.binary invocation.arguments mode =
      launched at begun ⊢
    obtain ⟨later, delay, flight⟩ := launched
    dsimp only at begun ⊢
    -- An instant process has written its text already when the formatter is done.
    by_cases instant : delay = 0
    · simp only [instant, if_true]
      exact ⟨begun.trans (unshown_finishProcess later flight), true,
        .spawned (progress_flightDeeds later flight position), by simp⟩
    · simp only [instant, if_false]
      exact ⟨begun, true, .spawned (.done _ _), by simp⟩

/-! ## Turns of work -/

/-- A piece of work goes on with its deeds: it waits for a process, or it is complete. -/
structure GoesOn (w : Workspace ω) (piece : Piece) (deeds : List Deed)
    (outcome : Workspace ω × Option (Nat × Sleeper)) : Prop where
  labels : ∀ others, w.busy.labels.Perm (piece.labels ++ others) →
    outcome.1.busy.labels.Perm (outcome.2.elim [] (·.2.piece.labels) ++ others)
  completes : outcome.2 = none → ∃ result, outcome.1.finished = (piece.number, result) :: w.finished ∧
    Progress piece.known piece.running deeds result.outcomes false
  waits : ∀ delay sleeper, outcome.2 = some (delay, sleeper) →
    sleeper.piece.number = piece.number ∧ outcome.1.finished = w.finished ∧
      Progress piece.known piece.running deeds sleeper.piece.known sleeper.piece.running

omit [World ω] in
/-- Work goes on after deeds that change what is shown and leave the results. -/
theorem GoesOn.after {w mid : Workspace ω} (before piece : Piece) {deeds later : List Deed}
    {outcome : Workspace ω × Option (Nat × Sleeper)} (same : piece.number = before.number)
    (earlier : Progress before.known before.running deeds piece.known piece.running)
    (labels : ∀ others, w.busy.labels.Perm (before.labels ++ others) →
      mid.busy.labels.Perm (piece.labels ++ others))
    (finished : mid.finished = w.finished) (goes : mid.GoesOn piece later outcome) :
    w.GoesOn before (deeds ++ later) outcome where
  labels := fun others shown => goes.labels others (labels others shown)
  completes := by
    -- Whatever the later deeds come to, the earlier ones are put in front.
    intro complete
    obtain ⟨result, results, progress⟩ := goes.completes complete
    exact ⟨result, results.trans (by rw [finished, same]), earlier.append progress⟩
  waits := by
    intro delay sleeper waiting
    obtain ⟨number, results, progress⟩ := goes.waits delay sleeper waiting
    exact ⟨number.trans same, results.trans finished, earlier.append progress⟩

/-- A chain goes on until it has to wait for a formatter or none is left. -/
theorem goesOn_runChain (now : Nat) (run : ChainRun) (names : List String) (w : Workspace ω) :
    w.GoesOn run.piece (chainDeeds now run names w) (runChain now run names w) := by
  induction names generalizing run w with
  | nil =>
    -- With no formatter left, the label of the chain itself is taken down.
    have ended := labels_endBusyLogged w now run.label
    refine ⟨fun others same => ?_, fun _ => ⟨_, congrArg _ ended.2, ?_⟩, by simp [runChain]⟩
    · have erased := same.erase run.label
      simpa [runChain, finish, ended.1, ChainRun.piece] using erased
    · simpa [Result.outcomes, chainDeeds, ChainRun.piece] using Progress.done run.steps.length false
  | cons name rest ih =>
    -- A name that nobody has is settled without being shown.
    have unknown := Unshown.of_onlySays (onlySays_report w (.unknownFormatter name))
    have skipped : w.GoesOn run.piece
        (.settled run.steps.length :: chainDeeds now (run.record name none) rest
          (w.report (.unknownFormatter name)))
        (runChain now (run.record name none) rest (w.report (.unknownFormatter name))) :=
      .after run.piece (run.record name none).piece rfl (.settled (.done _ _))
        (fun others same => by rwa [unknown.busy]) unknown.finished (ih (run.record name none) _)
    unfold chainDeeds runChain
    cases present : w.formatter? name with
    | none => exact skipped
    | some formatter =>
      cases opened : w.document? run.document with
      | none => exact skipped
      | some document =>
        have begun := progress_formatDeeds (w.beginBusy now (run.stepLabel name)) run.steps.length
          formatter run.document document run.mode
        have shown := labels_beginBusy w now (run.stepLabel name)
        dsimp only
        generalize (w.beginBusy now (run.stepLabel name)).formatDeeds run.steps.length formatter
          run.document document run.mode = deeds at begun ⊢
        generalize (w.beginBusy now (run.stepLabel name)).beginFormat formatter run.document document
          run.mode = result at begun ⊢
        obtain ⟨mid, outcome | ⟨delay, scope, flight⟩⟩ := result
        · -- The outcome is known at once, and the next formatter's turn comes.
          obtain ⟨unshown, running, progress, -⟩ := begun
          have ended := labels_endBusyLogged mid now (run.stepLabel name)
          rw [unshown.busy, shown] at ended
          rw [List.append_cons]
          refine .after run.piece (run.record name (some outcome)).piece rfl
            (progress.append (.settled (.done _ _))) (fun others same => ?_)
            (ended.2.trans unshown.finished) (ih (run.record name (some outcome)) _)
          -- The label of the formatter was put up last, and taking it down restores what was shown.
          have erased := (List.perm_append_singleton (run.stepLabel name) w.busy.labels).erase
            (run.stepLabel name)
          rw [List.erase_cons_head] at erased
          exact (ended.1 ▸ erased).trans same
        · -- The process runs, and the formatter stays on show below its chain.
          obtain ⟨unshown, running, progress, waiting⟩ := begun
          obtain rfl : running = true := waiting delay scope flight rfl
          refine ⟨fun others same => ?_, by simp, fun _ _ asleep => ?_⟩
          · rw [unshown.busy, shown]
            have both := (List.perm_append_singleton (run.stepLabel name) w.busy.labels).trans
              (same.cons (run.stepLabel name))
            exact both.trans (.swap _ _ _)
          · cases asleep
            exact ⟨rfl, unshown.finished, by rw [List.append_nil]; exact progress⟩

/-- A process that ended lets its work go on. -/
theorem goesOn_wakeSleeper (now : Nat) (sleeper : Sleeper) (w : Workspace ω) :
    w.GoesOn sleeper.piece (wakeDeeds now sleeper w) (wakeSleeper now sleeper w) := by
  cases sleeper with
  | single number scope flight =>
    have ended := unshown_finishProcess w flight
    -- A formatter on its own is not shown, and its only outcome is known now.
    refine ⟨fun others same => ?_, fun _ => ⟨_, congrArg _ ended.finished, ?_⟩, by simp [wakeSleeper]⟩
    · simpa [wakeSleeper, finish, ended.busy, Sleeper.piece] using same
    · exact (progress_flightDeeds w flight 0).append (.settled (.done _ _))
  | chain run name rest scope flight =>
    have ended := unshown_finishProcess w flight
    -- The label of the formatter is taken down, and its chain goes on under its own.
    have shown := labels_endBusyLogged (w.finishProcess flight).1 now (run.stepLabel name)
    rw [ended.busy] at shown
    unfold wakeDeeds wakeSleeper
    dsimp only
    rw [List.append_cons]
    refine .after (Sleeper.chain run name rest scope flight).piece (run.record name _).piece rfl
      ((progress_flightDeeds w flight run.steps.length).append (.settled (.done _ _)))
      (fun others same => ?_) (shown.2.trans ended.finished)
      (goesOn_runChain now (run.record name (some (.ran scope (w.finishProcess flight).2))) rest _)
    have erased := (same.trans (.swap _ _ _)).erase (run.stepLabel name)
    rw [List.erase_cons_head] at erased
    exact shown.1 ▸ erased

omit [World ω] in
/-- A chain that is started has formatters, unless it was asked for without any. -/
theorem names_ne_nil {w : Workspace ω} {errand : Errand} {handle : Handle} {names : List String}
    {mode : Mode} (chain : w.chainOf? errand = some (handle, names, mode))
    (asked : ∀ number handle names mode, errand = .chain number handle names mode → names ≠ []) :
    names ≠ [] := by
  -- Empty orders start no chain, and a single name is a list that is not empty.
  cases errand with
  | formatActive number =>
    simp only [chainOf?, Option.ite_none_left_eq_some, Option.map_eq_some_iff, Prod.mk.injEq] at chain
    obtain ⟨nonempty, _, _, _, rfl, _⟩ := chain
    simpa using nonempty
  | runOnActive number formatter =>
    simp only [chainOf?, Option.map_eq_some_iff, Prod.mk.injEq] at chain
    obtain ⟨_, _, _, rfl, _⟩ := chain
    simp
  | formatSaved number document =>
    simp only [chainOf?, Option.ite_none_left_eq_some, Option.some.injEq, Prod.mk.injEq] at chain
    obtain ⟨nonempty, _, rfl, _⟩ := chain
    simpa using nonempty
  | chain number document given mode =>
    simp only [chainOf?, Option.some.injEq, Prod.mk.injEq] at chain
    obtain ⟨_, rfl, _⟩ := chain
    exact asked _ _ _ _ rfl
  | single number name document mode => simp [chainOf?] at chain

/-- An errand whose turn has come lets its work go on. -/
theorem goesOn_startErrand (now : Nat) (errand : Errand) (w : Workspace ω)
    (asked : ∀ number handle names mode, errand = .chain number handle names mode → names ≠ []) :
    w.GoesOn errand.piece (errandDeeds now errand w) (startErrand now errand w) := by
  rcases startErrand_cases now errand w with
    ⟨handle, names, mode, chain, started⟩ | ⟨number, name, handle, mode, rfl⟩ |
    ⟨none, other, spoken, speech, started⟩
  · simp only [errandDeeds, chain, started]
    rw [startChain_of_ne_nil now _ handle (names_ne_nil chain asked)]
    -- A chain is shown from its beginning, before its first formatter.
    have shown := labels_beginBusy w now (w.chainRun errand.number handle mode).label
    refine .after errand.piece (w.chainRun errand.number handle mode).piece rfl (.done 0 false)
      (fun others same => ?_) ?_
      (goesOn_runChain now (w.chainRun errand.number handle mode) names _)
    · rw [shown]
      exact (List.perm_append_singleton _ _).trans (same.cons _)
    · rfl
  · simp only [errandDeeds, chainOf?, startErrand]
    -- A formatter on its own is not shown, even while its process runs.
    have missing : w.GoesOn (Errand.single number name handle mode).piece [.settled 0]
        (w.finish number (.single .binaryNotFound), none) :=
      ⟨fun others same => same, fun _ => ⟨_, rfl, .settled (.done _ _)⟩, by simp⟩
    cases present : w.formatter? name with
    | none => exact missing
    | some formatter =>
      cases opened : w.document? handle with
      | none => exact missing
      | some document =>
        have begun := progress_formatDeeds w 0 formatter handle document mode
        dsimp only
        generalize w.formatDeeds 0 formatter handle document mode = deeds at begun ⊢
        generalize w.beginFormat formatter handle document mode = result at begun ⊢
        obtain ⟨unshown, running, progress, waiting⟩ := begun
        obtain ⟨mid, outcome | ⟨delay, scope, flight⟩⟩ := result
        all_goals have busy : mid.busy = w.busy := unshown.busy
        · refine ⟨fun others same => ?_, fun _ => ⟨_, congrArg _ unshown.finished, ?_⟩, by simp⟩
          · simpa [finish, busy, Errand.piece] using same
          · exact progress.append (.settled (.done _ _))
        · obtain rfl : running = true := waiting delay scope flight rfl
          refine ⟨fun others same => ?_, by simp, fun _ _ asleep => ?_⟩
          · simpa [Sleeper.piece, Errand.piece, busy] using same
          · cases asleep
            exact ⟨rfl, unshown.finished, by rw [List.append_nil]; exact progress⟩
  · rw [errandDeeds_of_none now none other, started]
    -- Without anything to run, the result is kept at once.
    have unshown := Unshown.of_onlySays speech
    refine ⟨fun others same => ?_, fun _ => ⟨_, congrArg _ unshown.finished, .done _ _⟩, by simp⟩
    simpa [finish, unshown.busy, Errand.piece] using same

end Workspace

end FormatPipeline
