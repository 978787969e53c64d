import FormatPipeline.Proofs.Session.Telling
import FormatPipeline.Proofs.Workspace.Placing

/-! Runs of a session leave every cursor in its text, and the editor is told of texts and cursors in pairs. -/

namespace FormatPipeline

open Schedule (DebouncedTimeline Timeline Turn Work)
open Settings (OrderKind Slot)

namespace Workspace

variable {ω : Type}

/-! ## Settings -/

/-- A message about neither a text nor a cursor tells nothing of them. -/
theorem pairs_nil_send (w : Workspace ω) {message : Outgoing} (other : message.isPlacing = false) :
    w.outlet.Pairs [] (w.send message).outlet :=
  .of_shows (Outlet.shows_send _ _) (by simp [placingsOf, Event.message?, other])

/-- Logging tells nothing of texts and cursors. -/
theorem pairs_nil_debug (w : Workspace ω) (text : String) :
    w.outlet.Pairs [] (w.debug text).outlet := .of_shows (Outlet.shows_log _ _ _) rfl

/-- Drawing the status tile tells nothing of texts and cursors. -/
theorem pairs_nil_renderStatus (w : Workspace ω) : w.outlet.Pairs [] w.renderStatus.outlet := by
  unfold renderStatus
  split
  · exact pairs_nil_send w rfl
  · exact .refl _

/-- Turning the status tile on or off tells nothing of texts and cursors. -/
theorem pairs_nil_setStatusBar (w : Workspace ω) (enabled : Bool) :
    w.outlet.Pairs [] (w.setStatusBar enabled).outlet := by
  -- The tile is drawn, taken down, or left, and none of these is a placing.
  unfold setStatusBar
  dsimp only
  split
  · exact pairs_nil_renderStatus
      { w with coordination := { w.coordination with statusBar := enabled } }
  · split
    · exact pairs_nil_send
        { w with coordination := { w.coordination with statusBar := enabled } } rfl
    · exact .refl _

/-- Turning the busy signal on or off tells nothing of texts and cursors. -/
theorem pairs_nil_setBusyEnabled (w : Workspace ω) (enabled : Bool) :
    w.outlet.Pairs [] (w.setBusyEnabled enabled).outlet := by
  have other : ∀ message ∈ (w.busy.setEnabled enabled).2, message.isPlacing = false := by
    intro message member
    unfold BusySignal.setEnabled at member
    split at member
    · cases member
    · -- Each label is put up or taken down.
      obtain ⟨label, -, rfl⟩ := List.mem_map.mp member
      split <;> rfl
  exact .of_shows (Outlet.shows_sendAll _ _) (placingsOf_eq_nil other)

/-- Setting an order tells nothing of texts and cursors. -/
theorem pairs_nil_setOrder (w : Workspace ω) (kind : OrderKind) (names : List String) :
    w.outlet.Pairs [] (w.setOrder kind names).outlet := by
  unfold setOrder
  split
  · exact .refl _
  · -- The order that is taken over is logged and drawn.
    cases names.find? fun name => (w.formatter? name).isNone with
    | none => exact (pairs_nil_debug w _).trans (pairs_nil_renderStatus _)
    | some name =>
      exact (places_report w _).told.trans ((pairs_nil_debug _ _).trans (pairs_nil_renderStatus _))

/-- What came of a new setting of a formatter tells nothing of texts and cursors. -/
theorem pairs_nil_noteApplied (w : Workspace ω) (what formatter : String)
    (error : Option ConfigurationError) :
    w.outlet.Pairs [] (w.noteApplied what formatter error).outlet := by
  cases error with
  | none => exact pairs_nil_debug w _
  | some error => exact (pairs_nil_debug w _).trans (places_report _ _).told

variable [World ω]

/-- A setting that takes effect puts nothing into documents. -/
theorem places_apply (update : Update) (w : Workspace ω) : w.Places [] [] (update.apply w) := by
  suffices w.outlet.Pairs [] (update.apply w).outlet from
    .of_pairs this (calm_apply update w).documents
  obtain ⟨target, value⟩ := update
  cases target with
  | errorHandling => exact .refl _
  | busySignal => exact pairs_nil_setBusyEnabled w _
  | statusBar => exact pairs_nil_setStatusBar w _
  | onSaveEnabled =>
    exact pairs_nil_renderStatus { w with coordination := { w.coordination with onSaveEnabled := _ } }
  | order kind => exact pairs_nil_setOrder w kind _
  | slot name slot =>
    simp only [Update.apply, applyTarget]
    split
    next formatter _ =>
      -- The formatter is replaced before anything is said.
      cases slot with
      | localBins => exact pairs_nil_noteApplied (w.putFormatter _) _ _ _
      | localArguments | globalArguments => exact .refl _
      | localConfigs | globalConfigs | globalBinPath =>
        simp only [applySlot, setLocalConfigs, setGlobalConfigs, setGlobalBin, counting]
        exact pairs_nil_noteApplied (Workspace.putFormatter { w with probes := _ } _) _ _ _
    · exact .refl _

/-- Settings that take effect put nothing into documents. -/
theorem places_foldl_apply (updates : List Update) (w : Workspace ω) :
    w.Places [] [] (updates.foldl (fun w update => update.apply w) w) :=
  foldl_apply_keeps (w.Places [] [] ·) (fun update before => before.trans (places_apply update _))
    updates (.of_pairs (.refl _) rfl)

/-! ## News of documents -/

omit [World ω] in
/-- That another document is active tells nothing of texts and cursors. -/
theorem pairs_nil_activeChanged (w : Workspace ω) (handle : Option Handle) :
    w.outlet.Pairs [] (w.activeChanged handle).outlet :=
  pairs_nil_renderStatus { w with coordination := { w.coordination with activeDocument := handle } }

omit [World ω] in
/-- That the formatters apply to a document or not any more tells nothing of texts and cursors. -/
theorem pairs_nil_scopeChanged (w : Workspace ω) (document : Document) :
    w.outlet.Pairs [] (w.scopeChanged document).outlet := by
  unfold scopeChanged
  dsimp only
  split
  · exact pairs_nil_renderStatus (w.watchSaves document)
  · exact .refl _

omit [World ω] in
/-- That a document was closed tells nothing of texts and cursors. -/
theorem pairs_nil_documentClosed (w : Workspace ω) (id : Nat) :
    w.outlet.Pairs [] (w.documentClosed id).outlet := by
  unfold documentClosed
  dsimp only
  -- The tile is drawn again if the document was its own.
  split
  · exact pairs_nil_renderStatus { w with coordination := { w.coordination with
      saveWatch := w.coordination.saveWatch.filter (· != id), activeDocument := none } }
  · exact .refl _

end Workspace

namespace Session

variable {ω : Type} [World ω] {s next : Session ω}

/-! ## Calls -/

/-- The documents after a call. -/
def Call.alter (table : DocumentTable) : Call ω → DocumentTable
  | .openDocument document => (table.insert document).1
  | .edit document text cursor => table.modify document (·.edited text cursor)
  | .closeDocument id => table.close id
  | .changeScope document inScope =>
    table.modify document fun document => { document with inScope := inScope }
  | .activate id => (table.activate? id).getD table
  | .set .. | .toggle _ | .command _ | .saved _ | .chain .. | .single .. | .world _ => table

/-- Settings and the documents are all that a call changes at once, and nothing is told of texts
and cursors. -/
theorem alters_answer (call : Call ω) (s : Session ω) :
    (s.answer call).state.documents = call.alter s.state.documents ∧
      s.state.outlet.Pairs [] (s.answer call).state.outlet := by
  have placesNothing : ∀ {next : Session ω}, s.state.Places [] [] next.state →
      next.state.documents = s.state.documents ∧ s.state.outlet.Pairs [] next.state.outlet :=
    fun places => ⟨places.documents, places.told⟩
  -- A setting is stored before anyone is told of it.
  have set : ∀ (key : String) (value : Json.Value) (s : Session ω),
      s.state.Places [] [] (s.set key value).state := by
    intro key value s
    have stored : s.state.Places [] [] { s.state with store := (s.state.store.set key value).1 } :=
      .of_pairs (.refl _) rfl
    rw [state_set]
    exact stored.trans (Workspace.places_foldl_apply _ _)
  cases call with
  | set key value => exact placesNothing (set key value s)
  | toggle key => exact placesNothing (set key _ s)
  | command name =>
    have logged : s.state.Places [] [] (s.state.debug ("Command: " ++ name)) :=
      .of_pairs (Workspace.pairs_nil_debug _ _) rfl
    refine placesNothing ?_
    simp only [answer, command]
    -- Work that is asked for only takes a number.
    split
    · exact logged.trans (.of_pairs (.refl _) rfl)
    · split
      · exact logged.trans (set _ _ (s.modify (·.debug ("Command: " ++ name))))
      · split
        · exact logged
        · split
          · exact logged.trans (.of_pairs (.refl _) rfl)
          · exact logged
  | saved document =>
    simp only [answer]
    rw [documentSaved_eq]
    split
    · exact ⟨rfl, .refl _⟩
    · exact ⟨rfl, .refl _⟩
  | chain | single | world | openDocument | edit => exact ⟨rfl, .refl _⟩
  | closeDocument id =>
    exact ⟨(Workspace.calm_documentClosed
      { s.state with documents := s.state.documents.close id } id).1.documents,
      Workspace.pairs_nil_documentClosed
        { s.state with documents := s.state.documents.close id } id⟩
  | changeScope document inScope =>
    simp only [answer, changeScope]
    split
    -- The scope is no text, and the tile that shows it is drawn without a text.
    next changed _ =>
      let table := s.state.documents.modify document fun document => { document with inScope := inScope }
      let rescoped : Workspace ω := { s.state with documents := table }
      exact ⟨(Workspace.calm_scopeChanged rescoped changed).1.documents,
        Workspace.pairs_nil_scopeChanged rescoped changed⟩
    · exact ⟨rfl, .refl _⟩
  | activate id =>
    simp only [answer, activateDocument, Call.alter]
    cases s.state.documents.activate? id with
    | none => exact ⟨rfl, .refl _⟩
    | some documents =>
      -- Which document is active is only drawn.
      exact ⟨(Workspace.calm_activeChanged { s.state with documents := documents }
        documents.active?).1.documents,
        Workspace.pairs_nil_activeChanged { s.state with documents := documents } _⟩

omit [World ω] in
/-- A call that opens no other document leaves every cursor in its text. -/
theorem Call.IsSighted.alter {call : Call ω} (proper : call.IsSighted) {table : DocumentTable}
    (sighted : table.IsSighted) : (call.alter table).IsSighted := by
  -- Only an edited text could lose the place of a cursor, and an edit clamps it.
  cases call with
  | openDocument document => exact sighted.insert proper
  | edit document text cursor =>
    exact sighted.modify document fun other _ => other.isSighted_edited text cursor
  | closeDocument id => exact sighted
  | changeScope document inScope => exact sighted.modify document fun other own => own
  | activate id =>
    simp only [Call.alter]
    cases activated : table.activate? id with
    | none => exact sighted
    | some later =>
      rw [DocumentTable.activate?_eq_some activated]
      exact sighted
  | set | toggle | command | saved | chain | single | world => exact sighted

/-! ## Turns -/

/-- What is put into documents in a turn. -/
theorem places_takes {turn : Turn (Work Update Errand) (Work Update Sleeper)}
    (taken : DebouncedTimeline.Takes machine s turn next) :
    ∃ placings, s.state.Places (s.turnDeeds turn) placings next.state := by
  -- The state follows from the work whose turn it was.
  rw [taken.state_eq]
  rcases turn with (task | errand) | ⟨now, task | sleeper⟩ | _
  · exact ⟨[], .of_pairs (.refl _) rfl⟩
  · exact Workspace.places_startErrand s.clock errand s.state
  · exact ⟨[], Workspace.places_apply task.action s.state⟩
  · exact Workspace.places_wakeSleeper now sleeper s.state
  · exact ⟨[], .of_pairs (.refl _) rfl⟩

/-- Cursors that are put into documents are in their texts. -/
theorem isSighted_foldl_put {table : DocumentTable} (sighted : table.IsSighted)
    (placings : List Placing) : (placings.foldl Placing.put table).IsSighted := by
  induction placings generalizing table with
  | nil => exact sighted
  | cons placing rest ih => exact ih (sighted.modify placing.document fun _ _ => placing.inside)

/-! ## Moves -/

/-- Calls that open no other documents leave every cursor in its text. -/
theorem isSighted_answer (sighted : s.state.documents.IsSighted) {call : Call ω}
    (proper : call.IsSighted) : (s.answer call).state.documents.IsSighted := by
  rw [(alters_answer call s).1]
  exact proper.alter sighted

/-- Turns leave every cursor in its text. -/
theorem isSighted_takes (sighted : s.state.documents.IsSighted)
    {turn : Turn (Work Update Errand) (Work Update Sleeper)}
    (taken : DebouncedTimeline.Takes machine s turn next) : next.state.documents.IsSighted := by
  obtain ⟨placings, places⟩ := places_takes taken
  rw [places.documents]
  exact isSighted_foldl_put sighted placings

end Session

end FormatPipeline
