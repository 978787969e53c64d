import FormatPipeline.Proofs.Workspace.Deeds

/-! What is done when an errand begins, and when a process has ended for which it had to wait. -/

namespace FormatPipeline

/-- The number of an errand. -/
def Errand.number : Errand → Nat
  | formatActive number => number
  | runOnActive number _ => number
  | formatSaved number _ => number
  | chain number _ _ _ => number
  | single number _ _ _ => number

/-- The number of a sleeper. -/
def Sleeper.number : Sleeper → Nat
  | chain run _ _ _ _ => run.number
  | single number _ _ => number

namespace Workspace

variable {ω : Type}

/-- The document, the formatters and the mode of the chain that an errand starts, if it does. -/
def chainOf? (w : Workspace ω) : Errand → Option (Handle × List String × Mode)
  -- An empty order starts nothing, not even an empty chain.
  | .formatActive _ =>
    if w.coordination.formatOrder.isEmpty then none
    else w.documents.active?.map (·, w.coordination.formatOrder, .buffer)
  | .runOnActive _ formatter => w.documents.active?.map (·, [formatter], .buffer)
  | .formatSaved _ handle =>
    if w.coordination.saveOrder.isEmpty then none
    else some (handle, w.coordination.saveOrder, .file)
  | .chain _ handle names mode => some (handle, names, mode)
  | .single .. => none

/-- A chain on a document before its first formatter. -/
def chainRun (w : Workspace ω) (number : Nat) (handle : Handle) (mode : Mode) : ChainRun :=
  ⟨number, handle, ((w.document? handle).map (·.displayPath)).getD "", mode, []⟩

variable [World ω]

/-- An errand starts a chain, runs one formatter, or has nothing to do. -/
theorem startErrand_cases (now : Nat) (errand : Errand) (w : Workspace ω) :
    (∃ handle names mode, w.chainOf? errand = some (handle, names, mode) ∧
      startErrand now errand w = startChain now errand.number handle names mode w) ∨
    (∃ number name handle mode, errand = .single number name handle mode) ∨
    (w.chainOf? errand = none ∧ (∀ number name handle mode, errand ≠ .single number name handle mode) ∧
      ∃ spoken, w.OnlySays spoken ∧
        startErrand now errand w = (spoken.finish errand.number (.chain []), none)) := by
  -- Without an active document or without an order there is nothing to do.
  cases errand with
  | formatActive number =>
    cases active : w.documents.active? with
    | none =>
      refine .inr (.inr ⟨by simp [chainOf?, active], by simp, _,
        onlySays_debug w "No active document to format.", ?_⟩)
      simp [startErrand, active, finishWithoutDocument, Errand.number]
    | some handle =>
      -- An order without formatters is reported instead of being run.
      by_cases empty : w.coordination.formatOrder.isEmpty
      · refine .inr (.inr ⟨by simp [chainOf?, empty], by simp, _,
          onlySays_report w (.configuration (.orderNotDefined .format)), ?_⟩)
        simp [startErrand, active, empty, Errand.number]
      · refine .inl ⟨handle, w.coordination.formatOrder, .buffer, ?_, ?_⟩
        · simp [chainOf?, active, empty]
        · simp [startErrand, active, empty, Errand.number]
  | runOnActive number formatter =>
    cases active : w.documents.active? with
    | none =>
      refine .inr (.inr ⟨by simp [chainOf?, active], by simp, _,
        onlySays_debug w "No active document to format.", ?_⟩)
      simp [startErrand, active, finishWithoutDocument, Errand.number]
    | some handle =>
      refine .inl ⟨handle, [formatter], .buffer, ?_, ?_⟩
      · simp [chainOf?, active]
      · simp [startErrand, active, Errand.number]
  | formatSaved number handle =>
    by_cases empty : w.coordination.saveOrder.isEmpty
    · refine .inr (.inr ⟨by simp [chainOf?, empty], by simp, _,
        onlySays_report w (.configuration (.orderNotDefined .save)), ?_⟩)
      simp [startErrand, empty, Errand.number]
    · refine .inl ⟨handle, w.coordination.saveOrder, .file, ?_, ?_⟩
      · simp [chainOf?, empty]
      · simp [startErrand, empty, Errand.number]
  | chain number handle names mode => exact .inl ⟨handle, names, mode, rfl, rfl⟩
  -- One formatter on its own is no chain, whatever comes of it.
  | single number name handle mode => exact .inr (.inl ⟨number, name, handle, mode, rfl⟩)

/-- An errand that starts a chain does nothing else. -/
theorem startErrand_of_chainOf? {errand : Errand} {w : Workspace ω} {handle : Handle}
    {names : List String} {mode : Mode} (now : Nat)
    (chain : w.chainOf? errand = some (handle, names, mode)) :
    startErrand now errand w = startChain now errand.number handle names mode w := by
  -- An errand begins a chain, runs one formatter, or does nothing, and only the first has a chain.
  rcases startErrand_cases now errand w with
    ⟨place, listed, way, found, started⟩ | ⟨_, _, _, _, rfl⟩ | ⟨none, -⟩
  · cases found.symm.trans chain
    exact started
  · cases chain
  · cases none.symm.trans chain

/-- A chain that is started runs its formatters in order, unless there is none. -/
theorem startChain_of_ne_nil (now number : Nat) (handle : Handle) {names : List String}
    (nonempty : names ≠ []) (mode : Mode) (w : Workspace ω) :
    startChain now number handle names mode w =
      runChain now (w.chainRun number handle mode) names
        (w.beginBusy now (w.chainRun number handle mode).label) := by
  unfold startChain
  -- Only an empty list of formatters is treated in a way of its own.
  cases names with
  | nil => exact absurd rfl nonempty
  | cons name rest => rfl

/-- What is done when an errand begins, up to where it has to wait. -/
def errandDeeds (now : Nat) (errand : Errand) (w : Workspace ω) : List Deed :=
  match w.chainOf? errand, errand with
  | some (handle, names, mode), _ =>
    let run := w.chainRun errand.number handle mode
    chainDeeds now run names (w.beginBusy now run.label)
  | none, .single _ name handle mode =>
    match w.formatter? name, w.document? handle with
    | some formatter, some document =>
      w.formatDeeds 0 formatter handle document mode ++
        match w.beginFormat formatter handle document mode with
        | (_, .running ..) => []
        | (_, .done _) => [.settled 0]
    | _, _ => [.settled 0]
  | none, _ => []

/-- What is done when a process has ended, up to where its chain has to wait again. -/
def wakeDeeds (now : Nat) (sleeper : Sleeper) (w : Workspace ω) : List Deed :=
  match sleeper with
  | .single _ _ flight => w.flightDeeds flight ++ [.settled 0]
  | .chain run name rest scope flight =>
    let (later, result) := w.finishProcess flight
    w.flightDeeds flight ++ .settled run.steps.length ::
      chainDeeds now (run.record name (some (.ran scope result))) rest
        (later.endBusyLogged now (run.stepLabel name))

/-- Without a chain or a formatter to run, nothing is done. -/
theorem errandDeeds_of_none {errand : Errand} {w : Workspace ω} (now : Nat)
    (none : w.chainOf? errand = none)
    (other : ∀ number name handle mode, errand ≠ .single number name handle mode) :
    errandDeeds now errand w = [] := by
  unfold errandDeeds
  rw [none]
  -- Only a single formatter is asked for without a chain and still does something.
  cases errand with
  | single number name handle mode => exact absurd rfl (other number name handle mode)
  | formatActive | runOnActive | formatSaved | chain => rfl

/-- What an errand does when it begins is all that it does then. -/
theorem effect_startErrand (now : Nat) (errand : Errand) (w : Workspace ω) :
    w.Effect (errandDeeds now errand w) (startErrand now errand w).1 := by
  rcases startErrand_cases now errand w with
    ⟨handle, names, mode, chain, started⟩ | ⟨number, name, handle, mode, rfl⟩ |
    ⟨none, other, spoken, speech, started⟩
  · simp only [errandDeeds, chain, started]
    -- A chain without formatters ends as it begins.
    by_cases empty : names = []
    · subst empty
      exact (effect_endBusy w now _).trans (effect_finish _ _ _)
    · rw [startChain_of_ne_nil now _ handle empty]
      exact (effect_beginBusy w now _).trans (effect_runChain now _ names _)
  · simp only [errandDeeds, chainOf?, startErrand]
    -- A formatter on its own settles its only outcome, whether it was found or not.
    have unknown := (effect_settled w 0).trans (effect_finish w number (.single .binaryNotFound))
    cases present : w.formatter? name with
    | none => exact unknown
    | some formatter =>
      cases opened : w.document? handle with
      | none => exact unknown
      | some document =>
        have begun := effect_beginFormat present 0 handle document mode
        dsimp only
        generalize w.beginFormat formatter handle document mode = result at begun ⊢
        obtain ⟨mid, outcome | ⟨delay, scope, flight⟩⟩ := result
        · simpa using begun.trans ((effect_settled mid 0).trans (effect_finish mid number _))
        · simpa using begun
  · rw [errandDeeds_of_none now none other, started]
    exact (Effect.of_onlySays speech).trans (effect_finish _ _ _)

/-- What is done when a process has ended is all that is done then. -/
theorem effect_wakeSleeper (now : Nat) (sleeper : Sleeper) (w : Workspace ω) :
    w.Effect (wakeDeeds now sleeper w) (wakeSleeper now sleeper w).1 := by
  cases sleeper with
  | single number scope flight =>
    -- The formatter's label ends before the next formatter begins.
    have ended := effect_finishProcess w flight
    exact ended.trans ((effect_settled _ 0).trans (effect_finish _ _ _))
  | chain run name rest scope flight =>
    have ended := (effect_finishProcess w flight).trans
      (effect_endBusyLogged _ now (run.stepLabel name))
    simp only [List.append_nil] at ended
    exact ended.trans (.trans (effect_settled _ run.steps.length) (effect_runChain now _ rest _))

end Workspace

end FormatPipeline
