import FormatPipeline.Proofs.Session.Tile

/-! What leaves the document of the status tile as it is, and all documents but for their texts. -/

namespace FormatPipeline

open Schedule (DebouncedTimeline Timeline Turn Work)

namespace Workspace

variable {ω : Type}

/-- The tile speaks of the same document, and documents differ in what is written in them only. -/
structure Steady (w later : Workspace ω) : Prop where
  active : later.coordination.activeDocument = w.coordination.activeDocument
  documents : later.documents.blank = w.documents.blank

/-- Doing nothing is steady. -/
theorem Steady.refl (w : Workspace ω) : w.Steady w := ⟨rfl, rfl⟩

/-- Steadiness lasts. -/
theorem Steady.trans {w mid later : Workspace ω} (first : w.Steady mid) (second : mid.Steady later) :
    w.Steady later :=
  ⟨second.active.trans first.active, second.documents.trans first.documents⟩

/-- What is unseen is steady. -/
theorem Unseen.steady {w later : Workspace ω} (unseen : w.Unseen later) : w.Steady later :=
  ⟨congrArg _ unseen.coordination, unseen.documents⟩

/-- Saying something is steady, also when it is about orders and switches that have changed. -/
theorem Steady.of_onlySays {w later : Workspace ω} {coordination : Coordination}
    (speech : OnlySays { w with coordination := coordination } later)
    (same : coordination.activeDocument = w.coordination.activeDocument) : w.Steady later := by
  obtain ⟨outlet, -, rfl⟩ := speech
  exact ⟨same, rfl⟩

/-- That the formatters apply to a document, or not any more, is told without changing it. -/
theorem steady_scopeChanged (w : Workspace ω) (document : Document) :
    w.Steady (w.scopeChanged document) := by
  unfold scopeChanged
  dsimp only
  split
  · exact .of_onlySays (onlySays_renderStatus (w.watchSaves document)) rfl
  · exact ⟨rfl, rfl⟩

variable [World ω]

/-- A setting that takes effect is steady. -/
theorem steady_apply (update : Update) (w : Workspace ω) : w.Steady (update.apply w) := by
  obtain ⟨target, value⟩ := update
  -- Switches and orders stand beside the active document, and nothing else is about the tile.
  cases target with
  | statusBar => exact .of_onlySays (onlySays_setStatusBar w _) rfl
  | onSaveEnabled => exact .of_onlySays (onlySays_renderStatus _) rfl
  | order kind =>
    obtain ⟨order, speech⟩ := onlySays_setOrder w kind (Settings.stringList value)
    exact .of_onlySays speech (by cases kind <;> rfl)
  | errorHandling | busySignal | slot => exact (unseen_apply _ w (by simp)).steady

/-- Settings that take effect are steady. -/
theorem steady_foldl_apply (updates : List Update) (w : Workspace ω) :
    w.Steady (updates.foldl (fun w update => update.apply w) w) :=
  foldl_apply_keeps (w.Steady ·) (fun update before => before.trans (steady_apply update _)) updates
    (.refl w)

/-- Letting settings take effect one after another is steady. -/
theorem steady_foldl_observe (targets : List Target) (w : Workspace ω) :
    w.Steady (targets.foldl observe w) :=
  foldl_observe_keeps (w.Steady ·) (fun _ _ before => before.trans ⟨rfl, rfl⟩)
    (fun update before => before.trans (steady_apply update _)) targets (.refl w)

end Workspace

namespace Session

variable {ω : Type} [World ω]

/-- Setting a setting is steady. -/
theorem steady_set (key : String) (value : Json.Value) (s : Session ω) :
    s.state.Steady (s.set key value).state := by
  have stored : s.state.Steady { s.state with store := (s.state.store.set key value).1 } := ⟨rfl, rfl⟩
  rw [state_set]
  exact stored.trans (Workspace.steady_foldl_apply _ _)

/-- A command is steady when it is given. -/
theorem steady_command (name : String) (s : Session ω) : s.state.Steady (s.command name).1.state := by
  have logged := (Workspace.unseen_debug s.state ("Command: " ++ name)).steady
  unfold command
  dsimp only
  -- A command formats, turns a switch over, runs one formatter, or is unknown.
  split
  · exact logged.trans ⟨rfl, rfl⟩
  · split
    · exact logged.trans (steady_set Settings.onSaveEnabledKey _
        (s.modify (·.debug ("Command: " ++ name))))
    · split
      · exact logged
      · split
        · exact logged.trans ⟨rfl, rfl⟩
        · exact logged

omit [World ω] in
/-- That a document was saved is steady. -/
theorem steady_documentSaved (document : Handle) (s : Session ω) :
    s.state.Steady (s.documentSaved document).1.state := by
  rw [documentSaved_eq]
  split
  · exact ⟨rfl, rfl⟩
  · exact .refl _

/-- Turns are steady. -/
theorem steady_takes {s next : Session ω} {turn : Turn (Work Update Errand) (Work Update Sleeper)}
    (taken : DebouncedTimeline.Takes machine s turn next) : s.state.Steady next.state := by
  -- The state follows from the work whose turn it was.
  rw [taken.state_eq]
  rcases turn with (task | errand) | ⟨now, task | sleeper⟩ | _
  · exact .refl _
  · exact (Workspace.unseen_startErrand s.clock errand s.state).steady
  · exact Workspace.steady_apply task.action s.state
  · exact (Workspace.unseen_wakeSleeper now sleeper s.state).steady
  · exact .refl _

/-- A start is steady if no document is active before it. -/
theorem steady_start (profiles : List Profile) (delay : Nat) {s : Session ω}
    (inactive : s.state.documents.active? = none) :
    s.state.Steady (s.start profiles delay).state := by
  have prepared : s.state.Steady (s.prepared profiles delay).state := by
    rw [state_prepared]
    exact (Workspace.unseen_register profiles s.state).steady.trans ⟨rfl, rfl⟩
  have observed := Workspace.steady_foldl_observe (Target.all (s.register profiles).state.formatterNames)
    (s.prepared profiles delay).state
  rw [← state_observeTargets] at observed
  rw [start_eq]
  refine (prepared.trans observed).trans ?_
  -- There is still no active document, so that none is taken over.
  have still := congrArg DocumentTable.active? (prepared.trans observed).documents
  refine Workspace.Steady.trans ?_ (Workspace.unseen_debug _ _).steady
  dsimp only
  split
  next => exact .of_onlySays (Workspace.onlySays_renderStatus _) rfl
  next handle taken => cases taken.symm.trans (still.trans inactive)

end Session

end FormatPipeline
