import FormatPipeline.Proofs.Workspace.Answers
import FormatPipeline.Proofs.Workspace.Deeds
import FormatPipeline.Session

/-! What settings that take effect make of a workspace, and what they leave as it is. -/

namespace FormatPipeline

open Settings (Slot)

namespace Workspace

variable {ω : Type}

/-- The arguments of the user after a setting of the formatter is given a value. -/
def withArguments (own : List String × List String) (value : Json.Value) :
    Slot → List String × List String
  | .localArguments => (Settings.stringList value, own.2)
  | .globalArguments => (own.1, Settings.stringList value)
  | .localBins | .localConfigs | .globalBinPath | .globalConfigs => own

/-- What was set after one more value has taken effect. -/
def Settled.take (before : Settled) (update : Update) : Settled :=
  match update.target with
  | .errorHandling => { before with handling := .ofValue update.value }
  | .busySignal => { before with busyEnabled := Settings.isTrue update.value }
  | .statusBar => { before with statusBar := Settings.isTrue update.value }
  | .onSaveEnabled => { before with onSaveEnabled := Settings.isTrue update.value }
  -- Whether an order is taken over depends on more than its value, so it is left out here.
  | .order _ => before
  | .slot name slot =>
    { before with
      ownArguments := fun other =>
        if name = other then
          (before.ownArguments name).map fun own => withArguments own update.value slot
        else before.ownArguments other }

/-- Nothing happens to the work in progress, to the documents, or to the texts in the editor. -/
structure Calm (w later : Workspace ω) : Prop where
  entries : later.busy.entries = w.busy.entries
  numbered : later.numbered = w.numbered
  finished : later.finished = w.finished
  documents : later.documents = w.documents
  speech : w.outlet.SaysMore later.outlet

/-- Calm lasts. -/
theorem Calm.trans {w mid later : Workspace ω} (first : w.Calm mid) (second : mid.Calm later) :
    w.Calm later :=
  ⟨second.entries.trans first.entries, second.numbered.trans first.numbered,
    second.finished.trans first.finished, second.documents.trans first.documents,
    first.speech.trans second.speech⟩

/-- Saying something is calm. -/
theorem Calm.of_onlySays {w later : Workspace ω} (speech : w.OnlySays later) : w.Calm later := by
  obtain ⟨outlet, more, rfl⟩ := speech
  exact ⟨rfl, rfl, rfl, rfl, more⟩

/-- Saying something changes nothing that was set. -/
theorem settled_of_onlySays {w later : Workspace ω} (speech : w.OnlySays later) :
    later.settled = w.settled := by
  obtain ⟨outlet, -, rfl⟩ := speech
  rfl

/-- Replacing a formatter is calm. -/
theorem Calm.of_replaces {w later : Workspace ω} {new : Formatter} (replaces : w.Replaces new later) :
    w.Calm later := by
  obtain ⟨probes, outlet, more, rfl⟩ := replaces
  exact ⟨rfl, rfl, rfl, rfl, more⟩

/-- Changing which formatters run when is calm. -/
theorem calm_coordination (w : Workspace ω) (coordination : Coordination) :
    w.Calm { w with coordination := coordination } :=
  ⟨rfl, rfl, rfl, rfl, .refl _⟩

/-- Drawing the status tile only says something. -/
theorem onlySays_renderStatus (w : Workspace ω) : w.OnlySays w.renderStatus := by
  unfold renderStatus
  split
  · exact onlySays_send w rfl
  · exact .refl w

/-! ## Targets one by one -/

/-- Turning the busy signal on or off does only that. -/
theorem settled_setBusyEnabled (w : Workspace ω) (enabled : Bool) :
    (w.setBusyEnabled enabled).settled = { w.settled with busyEnabled := enabled } := by
  unfold setBusyEnabled BusySignal.setEnabled
  -- Messages about labels are sent only when the signal changes.
  by_cases same : w.busy.enabled = enabled
  · subst same
    simp [settled, formatter?]
  · simp [same, settled, formatter?]

/-- Turning the busy signal on or off is calm. -/
theorem calm_setBusyEnabled (w : Workspace ω) (enabled : Bool) :
    w.Calm (w.setBusyEnabled enabled) := by
  unfold setBusyEnabled BusySignal.setEnabled
  by_cases same : w.busy.enabled = enabled
  · simpa [same] using ⟨rfl, rfl, rfl, rfl, .refl _⟩
  · -- Each label is put up or taken down in the editor, which is neither a process nor a text.
    have idle : ∀ message ∈ w.busy.labels.map fun label =>
        if enabled then Outgoing.progressStarted label else .progressFinished label,
        (Event.sent message).isIdle := by
      intro message member
      obtain ⟨label, -, rfl⟩ := List.mem_map.mp member
      split <;> rfl
    simpa [same] using ⟨rfl, rfl, rfl, rfl, Outlet.saysMore_sendAll idle w.outlet⟩

/-- Turning the status tile on or off only says something about it. -/
theorem onlySays_setStatusBar (w : Workspace ω) (enabled : Bool) :
    OnlySays { w with coordination := { w.coordination with statusBar := enabled } }
      (w.setStatusBar enabled) := by
  unfold setStatusBar
  dsimp only
  -- Turning the tile on draws it, and turning it off clears it if it was drawn.
  split
  · exact onlySays_renderStatus _
  · split
    · exact onlySays_send _ rfl
    · exact .refl _

/-- What is said is said whichever formatters run when. -/
theorem OnlySays.coordinated {w later : Workspace ω} (speech : w.OnlySays later)
    (change : Coordination → Coordination) :
    OnlySays { w with coordination := change w.coordination }
      { later with coordination := change later.coordination } := by
  obtain ⟨outlet, more, rfl⟩ := speech
  exact ⟨outlet, more, rfl⟩

/-- Setting an order of formatters changes at most that order, and says something about it. -/
theorem onlySays_setOrder (w : Workspace ω) (kind : Settings.OrderKind) (names : List String) :
    ∃ order, OnlySays { w with coordination := w.coordination.withOrder order kind }
      (w.setOrder kind names) := by
  unfold setOrder
  split
  next same =>
    -- The order that was set already is set again.
    refine ⟨names, ?_⟩
    subst same
    cases kind <;> exact .refl w
  next =>
    -- An order with an unknown formatter is reported and emptied.
    cases unknown : names.find? fun name => (w.formatter? name).isNone with
    | none =>
      exact ⟨names, ((onlySays_debug w _).coordinated (·.withOrder names kind)).trans
        (onlySays_renderStatus _)⟩
    | some name =>
      have speech := (onlySays_report w (.configuration (.unknownFormatterInOrder kind name))).trans
        (onlySays_debug _ (kind.title ++ ": [" ++ Text.joinWith ", " [] ++ "]"))
      exact ⟨[], (speech.coordinated (·.withOrder [] kind)).trans (onlySays_renderStatus _)⟩

variable [World ω]

/-- The setting of a formatter that a value stands for. -/
def settingOf (value : Json.Value) : Slot → Formatter.Setting
  | .localBins => .localBins (Settings.stringList value)
  | .localArguments => .localArguments (Settings.stringList value)
  | .localConfigs => .localConfigs (Settings.stringList value)
  | .globalBinPath => .globalBin (Settings.text value)
  | .globalArguments => .globalArguments (Settings.stringList value)
  | .globalConfigs => .globalConfigs (Settings.stringList value)

/-- Letting a value take effect on a formatter is a call that gives it the setting. -/
theorem applySlot_eq_call {w : Workspace ω} {name : String} {formatter : Formatter}
    (present : w.formatter? name = some formatter) (slot : Slot) (value : Json.Value) :
    w.applySlot formatter slot value = w.call name (.set (settingOf value slot)) := by
  cases slot <;> simp [applySlot, call, settingOf, present]

/-- Applying a value changes what was set as the value says. -/
theorem settled_apply (update : Update) (w : Workspace ω) :
    (update.apply w).settled = w.settled.take update := by
  obtain ⟨target, value⟩ := update
  -- Each target is one of the parts that settings make, except the orders.
  cases target with
  | errorHandling => rfl
  | busySignal => exact settled_setBusyEnabled w _
  | statusBar => exact settled_of_onlySays (onlySays_setStatusBar w _)
  | onSaveEnabled => exact settled_of_onlySays (onlySays_renderStatus _)
  | order kind =>
    obtain ⟨order, speech⟩ := onlySays_setOrder w kind (Settings.stringList value)
    have same := settled_of_onlySays speech
    cases kind <;> exact same
  | slot name slot =>
    simp only [Update.apply, applyTarget]
    cases present : w.formatter? name with
    | none =>
      -- Nobody has any arguments that could change.
      refine congrArg (fun own => { w.settled with ownArguments := own }) (funext fun other => ?_)
      by_cases here : name = other
      · subst here
        simp [present, settled]
      · simp [here, settled]
    | some formatter =>
      -- The formatter that takes its place has the same name.
      have same : (formatter.after (World.files w.world) (.set (settingOf value slot))).name = name := by
        rw [Formatter.name, Formatter.profile_after]
        exact name_of_formatter? present
      dsimp only
      rw [applySlot_eq_call present, settled_of_replaces (replaces_call present _) (same ▸ present), same]
      refine congrArg (fun own => { w.settled with ownArguments := own }) (funext fun other => ?_)
      by_cases here : name = other
      · subst here
        simp only [if_true, Formatter.localArguments_after, Formatter.globalArguments_after]
        cases slot <;> simp [settled, present, settingOf, Formatter.Setting.slot,
          Formatter.Setting.texts, withArguments]
      · simp [here, settled]

/-- Applying a value is calm. -/
theorem calm_apply (update : Update) (w : Workspace ω) : w.Calm (update.apply w) := by
  obtain ⟨target, value⟩ := update
  -- Orders and switches are part of the coordination, and the rest replaces formatters.
  cases target with
  | errorHandling => exact ⟨rfl, rfl, rfl, rfl, .refl _⟩
  | busySignal => exact calm_setBusyEnabled w _
  | statusBar => exact (calm_coordination w _).trans (.of_onlySays (onlySays_setStatusBar w _))
  | onSaveEnabled => exact (calm_coordination w _).trans (.of_onlySays (onlySays_renderStatus _))
  | order kind =>
    obtain ⟨order, speech⟩ := onlySays_setOrder w kind (Settings.stringList value)
    exact (calm_coordination w _).trans (.of_onlySays speech)
  | slot name slot =>
    simp only [Update.apply, applyTarget]
    split
    next formatter present =>
      rw [applySlot_eq_call present]
      exact .of_replaces (replaces_call present _)
    · exact ⟨rfl, rfl, rfl, rfl, .refl _⟩

/-- What each setting that takes effect keeps is kept by settings that take effect one after another. -/
theorem foldl_apply_keeps (holds : Workspace ω → Prop)
    (applied : ∀ {w : Workspace ω} (update : Update), holds w → holds (update.apply w))
    (updates : List Update) {w : Workspace ω} (before : holds w) :
    holds (updates.foldl (fun w update => update.apply w) w) := by
  induction updates generalizing w with
  | nil => exact before
  | cons update rest ih => exact ih (applied update before)

omit [World ω] in
/-- Watching the saves of a document changes nothing else. -/
theorem calm_watchSaves (w : Workspace ω) (document : Document) : w.Calm (w.watchSaves document) :=
  calm_coordination w _

omit [World ω] in
/-- That a formatter applies to a document or not any more is only seen in the status tile. -/
theorem calm_scopeChanged (w : Workspace ω) (document : Document) :
    w.Calm (w.scopeChanged document) ∧ (w.scopeChanged document).settled = w.settled := by
  unfold scopeChanged
  dsimp only
  -- The tile is rendered only where the document is the active one.
  split
  · have speech := onlySays_renderStatus (w.watchSaves document)
    exact ⟨(calm_watchSaves w document).trans (.of_onlySays speech), (settled_of_onlySays speech).trans rfl⟩
  · exact ⟨calm_watchSaves w document, rfl⟩

omit [World ω] in
/-- Which document is active is only seen in the status tile. -/
theorem calm_activeChanged (w : Workspace ω) (handle : Option Handle) :
    w.Calm (w.activeChanged handle) ∧ (w.activeChanged handle).settled = w.settled := by
  have speech := onlySays_renderStatus
    { w with coordination := { w.coordination with activeDocument := handle } }
  exact ⟨(calm_coordination w _).trans (.of_onlySays speech), (settled_of_onlySays speech).trans rfl⟩

omit [World ω] in
/-- That a document was closed is only seen in the status tile. -/
theorem calm_documentClosed (w : Workspace ω) (id : Nat) :
    w.Calm (w.documentClosed id) ∧ (w.documentClosed id).settled = w.settled := by
  unfold documentClosed
  dsimp only
  -- The tile is rendered only where the document was the active one.
  split
  · have speech := onlySays_renderStatus { w with coordination := { w.coordination with
      saveWatch := w.coordination.saveWatch.filter (· != id), activeDocument := none } }
    exact ⟨(calm_coordination w _).trans (.of_onlySays speech), (settled_of_onlySays speech).trans rfl⟩
  · exact ⟨calm_coordination w _, rfl⟩

end Workspace

end FormatPipeline
