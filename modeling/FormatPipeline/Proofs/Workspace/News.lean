import FormatPipeline.Proofs.Workspace.Tile

/-! News of documents: what they make of the status tile, and that they keep it up to date. -/

namespace FormatPipeline

/-- A later table has all documents of an earlier one, up to what is written in them. -/
def DocumentTable.Keeps (table later : DocumentTable) : Prop :=
  ∀ handle document, table.get? handle = some document →
    (later.get? handle).map Document.blank = some document.blank

namespace Workspace

variable {ω : Type}

/-! ## Documents -/

/-- A change of the table that keeps the documents makes nothing of the tile. -/
theorem redraws_documents (change : DocumentTable → DocumentTable) {w : Workspace ω}
    (alike : ∀ one other : DocumentTable, other.blank = one.blank → (change other).blank = (change one).blank)
    (keeps : w.documents.Keeps (change w.documents))
    (sound : w.documents.Sound → (change w.documents).Sound) :
    Redraws (fun w => { w with documents := change w.documents }) w [] := by
  refine .of_silent (fun other same => ?_) (fun _ => rfl) (fun before => ?_) fun before => ?_
  · exact ⟨same.settled, same.coordination, alike _ _ same.documents⟩
  · refine ⟨sound before.documents, fun handle active => ?_⟩
    obtain ⟨document, present⟩ := Option.isSome_iff_exists.mp (before.active handle active)
    simpa [document?] using congrArg Option.isSome (keeps handle document present)
  · refine tile_congr rfl rfl rfl ?_
    rw [blank_activeDocument?, blank_activeDocument?]
    -- The active document is one of those that are kept.
    cases active : w.coordination.activeDocument with
    | none => rfl
    | some handle =>
      obtain ⟨document, present⟩ := Option.isSome_iff_exists.mp (before.active handle active)
      have kept := keeps handle document present
      have found : w.documents.get? handle = some document := present
      simp [DocumentTable.get?_blank, kept, found]

/-- A change of who is watched makes nothing of the tile. -/
theorem redraws_saveWatch (change : List Nat → List Nat) (w : Workspace ω) :
    Redraws (fun w => { w with coordination := { w.coordination with
      saveWatch := change w.coordination.saveWatch } }) w [] :=
  .of_silent (fun _ same => same.coordinated fun coordination =>
      { coordination with saveWatch := change coordination.saveWatch }) (fun _ => rfl)
    (fun before => ⟨before.documents, before.active⟩) fun _ => rfl

/-- That a document was opened makes nothing of the tile. -/
theorem redraws_documentOpened (document : Document) (w : Workspace ω) :
    Redraws (·.documentOpened document) w [] :=
  redraws_saveWatch (fun watched =>
    let others := watched.filter (· != document.id)
    if document.inScope then document.id :: others else others) w

/-- Another active document, or none, is drawn. -/
theorem redraws_activeChanged {w : Workspace ω} (active : Option Handle)
    (present : w.IsSound → ∀ handle, active = some handle → (w.document? handle).isSome) :
    ∃ told, Redraws (·.activeChanged active) w told :=
  redraws_coordinated (fun coordination => { coordination with activeDocument := active }) id
    present

/-- That a document was closed is drawn if it was active. -/
theorem redraws_documentClosed (id : Nat) (w : Workspace ω) :
    ∃ told, Redraws (·.documentClosed id) w told := by
  -- Whether the document is active depends on nothing in which the workspaces may differ.
  have same : ∀ other, w.Alike other → other.isActive id = w.isActive id :=
    fun other same => isActive_congr same.activeDocument? id
  cases was : w.isActive id with
  | true =>
    -- With its document the tile goes, and so does the watch on saving it.
    obtain ⟨told, drawn⟩ := redraws_coordinated (w := w) (fun coordination =>
      { coordination with
        saveWatch := coordination.saveWatch.filter (· != id), activeDocument := none }) (fun off => off)
      (by simp)
    exact ⟨told, drawn.congr fun other alike => by simp [documentClosed, same other alike, was]⟩
  | false =>
    refine ⟨[], (redraws_saveWatch (·.filter (· != id)) w).congr fun other alike => ?_⟩
    simp [documentClosed, same other alike, was]

/-! ## The scope of a document -/

/-- The table in which the formatters apply to a document, or not any more. -/
def rescope (handle : Handle) (inScope : Bool) (table : DocumentTable) : DocumentTable :=
  table.modify handle fun document => { document with inScope := inScope }

/-- Changes whether the formatters apply to a document, and says so. -/
def changeScope (handle : Handle) (inScope : Bool) (w : Workspace ω) : Workspace ω :=
  let w := { w with documents := rescope handle inScope w.documents }
  match w.document? handle with
  | some document => w.scopeChanged document
  | none => w

/-- Tables that differ in texts only do so after the change. -/
theorem blank_rescope {table other : DocumentTable} (same : other.blank = table.blank) (handle : Handle)
    (inScope : Bool) : (rescope handle inScope other).blank = (rescope handle inScope table).blank :=
  DocumentTable.blank_modify_congr same handle fun _ _ alike =>
    congrArg (fun document => { document with inScope := inScope }) alike

/-- A workspace in which the scope of a document has changed, and its saves are watched or not. -/
def rescoped (handle : Handle) (inScope : Bool) (id : Nat) (w : Workspace ω) : Workspace ω :=
  { w with
    documents := rescope handle inScope w.documents
    coordination := { w.coordination with
      saveWatch :=
        let others := w.coordination.saveWatch.filter (· != id)
        if inScope then id :: others else others } }

/-- The change is made in all that is alike. -/
theorem Alike.rescoped {w other : Workspace ω} (same : w.Alike other) (handle : Handle) (inScope : Bool)
    (id : Nat) : (w.rescoped handle inScope id).Alike (other.rescoped handle inScope id) := by
  have watched := same.coordinated fun coordination => { coordination with
    saveWatch :=
      let others := coordination.saveWatch.filter (· != id)
      if inScope then id :: others else others }
  exact ⟨watched.settled, watched.coordination, blank_rescope same.documents handle inScope⟩

/-- The change adds and removes no document. -/
theorem IsSound.rescoped {w : Workspace ω} (sound : w.IsSound) (handle : Handle) (inScope : Bool)
    (id : Nat) : (w.rescoped handle inScope id).IsSound := by
  refine ⟨sound.documents.modify handle fun _ => rfl, fun place active => ?_⟩
  have present := sound.active place active
  simpa [document?, Workspace.rescoped, rescope, DocumentTable.get?_modify] using present

/-- The scope of an active document is drawn, that of another one is not. -/
theorem changeScope_eq {w : Workspace ω} {handle : Handle} {document : Document}
    (present : w.document? handle = some document) (inScope : Bool) :
    w.changeScope handle inScope =
      let changed := w.rescoped handle inScope document.id
      if changed.isActive document.id then changed.renderStatus else changed := by
  have found : (rescope handle inScope w.documents).get? handle =
      some { document with inScope := inScope } := by
    have present : w.documents.get? handle = some document := present
    simp [rescope, DocumentTable.get?_modify, present]
  -- Once the document is known to be there, both sides look at its new scope.
  simp only [changeScope, document?, found]
  rfl

/-- Without a document there is no scope to change. -/
theorem changeScope_of_none {w : Workspace ω} {handle : Handle} (absent : w.document? handle = none)
    (inScope : Bool) :
    w.changeScope handle inScope = { w with documents := rescope handle inScope w.documents } := by
  have nothing : (rescope handle inScope w.documents).get? handle = none := by
    have absent : w.documents.get? handle = none := absent
    simp [rescope, DocumentTable.get?_modify, absent]
  simp only [changeScope, document?, nothing]

/-- A document that is not active can change without the tile. -/
theorem tile_rescoped {w : Workspace ω} {handle : Handle} {document : Document}
    (present : w.document? handle = some document) {inScope : Bool}
    (inactive : (w.rescoped handle inScope document.id).isActive document.id = false) :
    (w.rescoped handle inScope document.id).tile = w.tile := by
  have present : w.documents.get? handle = some document := present
  refine tile_congr rfl rfl rfl (congrArg (Option.map Document.blank) ?_)
  unfold isActive activeDocument? at inactive
  unfold activeDocument?
  -- The active document is another one, so that it is as it was.
  cases active : w.coordination.activeDocument with
  | none => simp [rescoped, active]
  | some place =>
    by_cases here : place = handle
    · simp [rescoped, active, here, document?, rescope, DocumentTable.get?_modify, present] at inactive
    · simp [rescoped, active, here, document?, rescope, DocumentTable.get?_modify]

/-- Whether the formatters apply to a document is drawn if it is active. -/
theorem redraws_changeScope (handle : Handle) (inScope : Bool) (w : Workspace ω) :
    ∃ told, Redraws (changeScope handle inScope) w told := by
  cases present : w.document? handle with
  | none =>
    -- There is no document under the handle, so its table stays as it is.
    refine ⟨[], (redraws_documents (rescope handle inScope)
      (fun _ _ same => blank_rescope same handle inScope) (fun place document there => ?_)
      fun sound => sound.modify handle fun _ => rfl).congr fun other same => ?_⟩
    · have apart : place ≠ handle := by
        rintro rfl
        exact absurd (present.symm.trans there) (by simp)
      simp [rescope, DocumentTable.get?_modify, there, apart]
    · exact changeScope_of_none (same.document?_of_none present) inScope
  | some document =>
    have changed : ∀ other, w.Alike other → other.changeScope handle inScope =
        if (w.rescoped handle inScope document.id).isActive document.id then
          (other.rescoped handle inScope document.id).renderStatus
        else other.rescoped handle inScope document.id := by
      intro other same
      obtain ⟨written, there, named, -⟩ := same.document?_of_some present
      rw [changeScope_eq there, named]
      dsimp only
      rw [isActive_congr (same.rescoped handle inScope document.id).activeDocument?]
    have alike : ∀ other, w.Alike other → (w.rescoped handle inScope document.id).Alike
        (other.rescoped handle inScope document.id) := fun _ same => same.rescoped handle inScope _
    -- The tile shows the scope of the active document only.
    cases active : (w.rescoped handle inScope document.id).isActive document.id with
    | true =>
      exact ⟨_, (redraws_renderStatus _ alike (fun _ => rfl) (fun off => off)
        fun sound => sound.rescoped handle inScope _).congr
        fun other same => by simp [changed other same, active]⟩
    | false =>
      exact ⟨[], (Redraws.of_silent alike (fun _ => rfl) (fun sound => sound.rescoped handle inScope _)
        fun _ => tile_rescoped present active).congr fun other same => by simp [changed other same, active]⟩

end Workspace

end FormatPipeline
