import FormatPipeline.Proofs.Service.Coherence
import FormatPipeline.Proofs.Session.Steady

/-! Which document is active: the table has its number, and the status tile a handle of its own. -/

namespace FormatPipeline

open Schedule (Timeline Turn Work)

namespace Incoming

/-- Whether a message makes a document active, and not only opens it, if it does one of the two. -/
def activates? (id : Nat) : Incoming → Option Bool
  | openDocument number .. => if number = id then some false else none
  | activeDocumentChanged number => if number = some id then some true else none
  | _ => none

/-- Whether the formatters apply to a document as a message has it. -/
def inScope? (id : Nat) : Incoming → Option Bool
  | openDocument number _ _ _ _ inScope => if number = id then some inScope else none
  | scopeChanged number inScope => if number = id then some inScope else none
  | _ => none

/-- The path of a document that is shown to the user as a message has it. -/
def displayPath? (id : Nat) : Incoming → Option String
  | openDocument number path displayPath .. =>
    if number = id then some (displayPath.getD path.text) else none
  | _ => none

end Incoming

/-- The table and the tile speak of documents of one number, which is known by its latest message. -/
structure InStep (history : List Incoming) (active : Option Handle) (table : DocumentTable) : Prop where
  sound : table.Sound
  /-- The number that is active is the number of an open document. -/
  opened : ∀ id, table.activeId = some id → (table.handle? id).isSome
  /-- The document of the tile has the number that is active. -/
  named : ∀ handle, active = some handle →
    ∃ document, table.get? handle = some document ∧ table.activeId = some document.id
  absent : active = none → table.activeId = none
  same : ∀ id, table.activeId = some id →
    (active = table.active? ↔ latest (·.activates? id) history = some true)
  given : ∀ id handle document, table.handle? id = some handle → table.get? handle = some document →
    latest (·.inScope? id) history = some document.inScope ∧
      latest (·.displayPath? id) history = some document.displayPath

namespace InStep

variable {history : List Incoming} {active : Option Handle} {table : DocumentTable}

/-- Before any message there is nothing to be in step with. -/
theorem empty : InStep [] none .empty where
  sound _ _ known := by cases known
  opened _ chosen := by cases chosen
  named _ same := by cases same
  absent _ := rfl
  same _ chosen := by cases chosen
  given _ _ _ known := by cases known

/-- What is written in documents makes no difference. -/
theorem of_blank (current : InStep history active table) {other : DocumentTable}
    (blank : other.blank = table.blank) : InStep history active other := by
  have activeId : other.activeId = table.activeId := congrArg (·.activeId) blank
  have handles : ∀ id, other.handle? id = table.handle? id := fun id => congrArg (·.handle? id) blank
  have chosen : other.active? = table.active? := congrArg (·.active?) blank
  -- Blanking drops only texts and cursors, and the tile depends on neither of them.
  exact {
    sound := current.sound.of_blank blank
    opened id active := by
      rw [handles]
      exact current.opened id (activeId ▸ active)
    named handle same := by
      obtain ⟨document, present, named⟩ := current.named handle same
      obtain ⟨written, there, differs⟩ := DocumentTable.get?_of_blank blank present
      exact ⟨written, there, by rw [activeId, named, (Document.blank_eq_iff.mp differs).1]⟩
    absent none := by
      rw [activeId]
      exact current.absent none
    same id active := by
      rw [chosen]
      exact current.same id (activeId ▸ active)
    given id handle document known present := by
      obtain ⟨before, there, differs⟩ := DocumentTable.get?_of_blank blank.symm present
      obtain ⟨-, -, displayPath, inScope⟩ := Document.blank_eq_iff.mp differs
      rw [← inScope, ← displayPath]
      exact current.given id handle before (handles id ▸ known) there }

/-- A message about other documents changes nothing. -/
theorem receive (current : InStep history active table) {message : Incoming}
    (activates : ∀ id, table.activeId = some id → message.activates? id = none)
    (given : ∀ id, (table.handle? id).isSome → message.inScope? id = none ∧ message.displayPath? id = none) :
    InStep (history ++ [message]) active table where
  sound := current.sound
  opened := current.opened
  named := current.named
  absent := current.absent
  -- The active number is told of by neither message, so what was said of it last still holds.
  same id chosen := by
    rw [latest_append_singleton, activates id chosen]
    exact current.same id chosen
  given id handle document known present := by
    -- A document that is known was told of before, and the message adds nothing about it.
    obtain ⟨inScope, displayPath⟩ := given id (by simp [known])
    rw [latest_append_singleton, latest_append_singleton, inScope, displayPath]
    exact current.given id handle document known present

/-- A document that is opened takes the number over, but the tile goes on with the one before. -/
theorem insert (current : InStep history active table) (id : Nat) (path : Path)
    (displayPath : Option String) (text : String) (cursor : Position) (inScope : Bool) :
    InStep (history ++ [.openDocument id path displayPath text cursor inScope]) active
      (table.insert (.opened id path displayPath text cursor inScope)).1 where
  sound := current.sound.insert _
  opened number chosen := by
    rw [DocumentTable.handle?_insert]
    split
    -- The new number has a handle now, and the others keep theirs.
    · rfl
    · exact current.opened number chosen
  named handle same := by
    obtain ⟨document, present, named⟩ := current.named handle same
    exact ⟨document, by simp [DocumentTable.get?_insert, DocumentTable.ne_length_of_get? present, present],
      named⟩
  absent := current.absent
  same number chosen := by
    have before : table.activeId = some number := chosen
    rw [latest_append_singleton, DocumentTable.active?, chosen, Option.bind_some,
      DocumentTable.handle?_insert]
    by_cases own : number = id
    · -- The document of the tile was there before, so that it is not the new one.
      have old : active ≠ some table.documents.length := by
        intro new
        obtain ⟨document, present, -⟩ := current.named _ new
        exact DocumentTable.ne_length_of_get? present rfl
      simp [Incoming.activates?, Document.opened, own, old]
    -- Another number has the handle that it had.
    · have agreed := current.same number before
      rw [DocumentTable.active?, before, Option.bind_some] at agreed
      simpa [Incoming.activates?, Document.opened, own, Ne.symm own] using agreed
  given number handle document known present := by
    rw [latest_append_singleton, latest_append_singleton]
    rw [DocumentTable.handle?_insert] at known
    by_cases own : number = id
    · -- The number is now known for what it was opened with.
      simp only [own, Document.opened, if_true, Option.some.injEq] at known
      rw [DocumentTable.get?_insert, if_pos known.symm, Option.some.injEq] at present
      simp [← present, Incoming.inScope?, Incoming.displayPath?, Document.opened, own]
    -- The other documents stand where they stood.
    · simp only [own, Document.opened, if_false] at known
      obtain ⟨before, there, -⟩ := current.sound number handle known
      rw [DocumentTable.get?_insert, if_neg (DocumentTable.ne_length_of_get? there)] at present
      simpa [Incoming.inScope?, Incoming.displayPath?, Ne.symm own] using
        current.given number handle document known present

/-- Documents that stay open are known as before. -/
theorem given_close (current : InStep history active table) {id number : Nat} {handle : Handle}
    {document : Document} (known : (table.close id).handle? number = some handle)
    (present : (table.close id).get? handle = some document) :
    latest (·.inScope? number) history = some document.inScope ∧
      latest (·.displayPath? number) history = some document.displayPath := by
  rw [DocumentTable.handle?_close] at known
  exact current.given number handle document (Option.ite_none_left_eq_some.mp known).2 present

/-- When the active document is closed, there is none any more. -/
theorem close_active (current : InStep history active table) {id : Nat}
    (chosen : table.activeId = some id) : InStep history none (table.close id) := by
  -- Closing the active document leaves no active number, so that most parts have nothing to say.
  have nothing : (table.close id).activeId = none := by simp [DocumentTable.close, chosen]
  exact {
    sound := current.sound.close id
    opened number active := by simp [nothing] at active
    named handle same := by simp at same
    absent _ := nothing
    same number active := by simp [nothing] at active
    given _ _ _ known present := current.given_close known present }

/-- When another document is closed, the active one stays. -/
theorem close_other (current : InStep history active table) {id : Nat}
    (apart : table.activeId ≠ some id) : InStep history active (table.close id) := by
  have kept : (table.close id).activeId = table.activeId := by simp [DocumentTable.close, apart]
  -- The handle of the active number is not the one that is given up.
  have known : ∀ number, table.activeId = some number →
      (table.close id).handle? number = table.handle? number := by
    rintro number active
    rw [DocumentTable.handle?_close, if_neg]
    rintro rfl
    exact apart active
  -- What was closed was not active, so nothing but the table of documents is different.
  exact {
    sound := current.sound.close id
    opened number active := by
      rw [known number (kept ▸ active)]
      exact current.opened number (kept ▸ active)
    named handle same := by
      rw [kept]
      exact current.named handle same
    absent none := by
      rw [kept]
      exact current.absent none
    same number active := by
      rw [kept] at active
      have agreed := current.same number active
      rw [DocumentTable.active?, active, Option.bind_some] at agreed
      rwa [DocumentTable.active?, kept, active, Option.bind_some, known number active]
    given _ _ _ known present := current.given_close known present }

/-- A document that is closed is active neither in the table nor in the tile. -/
theorem close (current : InStep history active table) (id : Nat) :
    InStep (history ++ [.closeDocument id]) (if table.activeId = some id then none else active)
      (table.close id) := by
  refine InStep.receive ?_ (fun _ _ => rfl) fun _ _ => ⟨rfl, rfl⟩
  split
  next chosen => exact current.close_active chosen
  next apart => exact current.close_other apart

/-- Whether the formatters apply to an open document is known by the message about it. -/
theorem rescope (current : InStep history active table) {id : Nat} {handle : Handle}
    (known : table.handle? id = some handle) (inScope : Bool) :
    InStep (history ++ [.scopeChanged id inScope]) active
      (table.modify handle fun document => { document with inScope := inScope }) where
  sound := current.sound.modify handle fun _ => rfl
  opened := current.opened
  -- Only the scope is rewritten, and the number is no part of it.
  named place same := by
    obtain ⟨document, present, named⟩ := current.named place same
    refine ⟨_, by rw [DocumentTable.get?_modify, present]; rfl, ?_⟩
    split <;> exact named
  absent := current.absent
  same number chosen := by
    rw [latest_append_singleton]
    exact current.same number chosen
  given number place document found present := by
    rw [latest_append_singleton, latest_append_singleton]
    have found : table.handle? number = some place := found
    -- A document that is known goes by its own number.
    obtain ⟨before, there, rfl⟩ := current.sound number place found
    obtain ⟨scope, path⟩ := current.given before.id place before found there
    rw [DocumentTable.get?_modify, there, Option.map_some, Option.some.injEq] at present
    subst present
    by_cases here : place = handle
    · -- The document of the handle has one number only.
      obtain ⟨own, same, rfl⟩ := current.sound id handle known
      obtain rfl : own = before := Option.some.inj (same.symm.trans (here ▸ there))
      rw [if_pos here]
      exact ⟨by simp [Incoming.inScope?], path⟩
    -- Documents at other places have other numbers, of which the message says nothing.
    · have apart : id ≠ before.id := by
        rintro rfl
        exact here (Option.some.inj (found.symm.trans known))
      have silent : (Incoming.scopeChanged id inScope).inScope? before.id = none := if_neg apart
      rw [if_neg here, silent]
      exact ⟨scope, path⟩

/-- A document that is made active is so in the table and in the tile. -/
theorem activate (current : InStep history active table) {id : Option Nat} {later : DocumentTable}
    (activated : table.activate? id = some later) :
    InStep (history ++ [.activeDocumentChanged id]) later.active? later := by
  have opened : ∀ number, id = some number → (table.handle? number).isSome := by
    rintro number rfl
    exact (Option.ite_none_right_eq_some.mp activated).1
  obtain rfl := DocumentTable.activate?_eq_some activated
  -- The document in front is the one asked for, of which the last message about the choice tells.
  exact {
    sound := current.sound
    opened := opened
    named handle same := by
      obtain ⟨number, chosen, known⟩ := Option.bind_eq_some_iff.mp same
      obtain ⟨document, present, rfl⟩ := current.sound number handle known
      exact ⟨document, present, chosen⟩
    absent absent := by
      -- What is active is open, so that there is a handle of it.
      cases chosen : id with
      | none => rfl
      | some number =>
        obtain ⟨handle, known⟩ := Option.isSome_iff_exists.mp (opened number chosen)
        have absent : id.bind table.handle? = none := absent
        rw [chosen, Option.bind_some, known] at absent
        cases absent
    same number chosen := by
      have chosen : id = some number := chosen
      simp [latest_append_singleton, Incoming.activates?, chosen]
    given number handle document known present := by
      rw [latest_append_singleton, latest_append_singleton]
      exact current.given number handle document known present }

/-- A document that cannot be made active is not the one that is. -/
theorem refuse (current : InStep history active table) {id : Option Nat}
    (refused : table.activate? id = none) :
    InStep (history ++ [.activeDocumentChanged id]) active table := by
  refine current.receive (fun number chosen => ?_) fun _ _ => ⟨rfl, rfl⟩
  -- The table refuses a number that is not open, and the active one is open.
  have apart : id ≠ some number := by
    rintro rfl
    simp [DocumentTable.activate?, current.opened number chosen] at refused
  simp [Incoming.activates?, apart]

end InStep

namespace Workspace

variable {ω : Type}

/-- The tile goes on with its document unless that is the one that was closed. -/
theorem activeDocument_documentClosed (w : Workspace ω) (id : Nat) :
    (w.documentClosed id).coordination.activeDocument =
      if w.isActive id then none else w.coordination.activeDocument := by
  unfold documentClosed
  cases w.isActive id with
  | true => exact congrArg (·.activeDocument) (alike_renderStatus _).coordination
  | false => rfl

end Workspace

namespace Session

variable {ω : Type} {history : List Incoming} {s next : Session ω}

/-- Table and tile of a session are in step. -/
def IsInStep (history : List Incoming) (s : Session ω) : Prop :=
  InStep history s.state.coordination.activeDocument s.state.documents

namespace IsInStep

/-- What is steady keeps all in step. -/
theorem steady (current : s.IsInStep history) (steady : s.state.Steady next.state) :
    next.IsInStep history := by
  unfold IsInStep
  rw [steady.active]
  exact InStep.of_blank current steady.documents

/-- A message about other documents changes nothing if it is handled steadily. -/
theorem hear (current : s.IsInStep history) {message : Incoming}
    (activates : ∀ id, message.activates? id = none)
    (given : ∀ id, (s.state.documents.handle? id).isSome →
      message.inScope? id = none ∧ message.displayPath? id = none)
    (steady : s.state.Steady next.state) : next.IsInStep (history ++ [message]) := by
  have heard : s.IsInStep (history ++ [message]) := current.receive (fun id _ => activates id) given
  exact heard.steady steady

/-- A document is active for the tile if its number is active in the table. -/
theorem isActive_iff (current : s.IsInStep history) (id : Nat) :
    s.state.isActive id ↔ s.state.documents.activeId = some id := by
  -- The tile holds a handle, and the document behind it carries the number.
  unfold Workspace.isActive Workspace.activeDocument?
  cases active : s.state.coordination.activeDocument with
  | none => simp [current.absent active]
  | some handle =>
    obtain ⟨document, present, named⟩ := current.named handle active
    have present : s.state.document? handle = some document := present
    simp [present, named]

/-- A document that is closed is neither open nor active any more. -/
theorem close (current : s.IsInStep history) (id : Nat) :
    (s.closeDocument id).IsInStep (history ++ [.closeDocument id]) := by
  have documents : (s.closeDocument id).state.documents = s.state.documents.close id :=
    (Workspace.calm_documentClosed { s.state with documents := s.state.documents.close id } id).1.documents
  -- The tile still has a document that the table knows of no more.
  have active : (s.closeDocument id).state.coordination.activeDocument =
      if s.state.documents.activeId = some id then none else s.state.coordination.activeDocument := by
    refine (Workspace.activeDocument_documentClosed _ id).trans ?_
    exact ite_congr (propext (current.isActive_iff id)) (fun _ => rfl) fun _ => rfl
  unfold IsInStep
  rw [documents, active]
  exact InStep.close current id

/-- An open document whose scope has changed is known by its new scope. -/
theorem rescope (current : s.IsInStep history) {id : Nat} {handle : Handle}
    (known : s.state.documents.handle? id = some handle) (inScope : Bool) :
    (s.changeScope handle inScope).IsInStep (history ++ [.scopeChanged id inScope]) := by
  have changed : (s.changeDocument handle fun document =>
      { document with inScope := inScope }).IsInStep (history ++ [.scopeChanged id inScope]) :=
    InStep.rescope current known inScope
  unfold changeScope
  dsimp only
  -- The tile may be drawn again, which leaves both sides as they are.
  split
  · exact changed.steady (Workspace.steady_scopeChanged _ _)
  · exact changed

/-- A document that is made active is so in the table and in the tile. -/
theorem activate (current : s.IsInStep history) {id : Option Nat} {documents : DocumentTable}
    (activated : s.state.documents.activate? id = some documents) :
    Session.IsInStep (history ++ [.activeDocumentChanged id])
      (s.modify fun w => { w with documents := documents }.activeChanged documents.active?) := by
  -- Table and tile are changed before the tile is drawn.
  have active : Session.IsInStep (history ++ [.activeDocumentChanged id]) (s.modify fun w => { w with
      documents := documents
      coordination := { w.coordination with activeDocument := documents.active? } }) :=
    InStep.activate current activated
  exact active.steady (.of_onlySays (Workspace.onlySays_renderStatus _) rfl)

/-- The document of the tile has the number that is active in the table. -/
theorem id_activeDocument? (current : s.IsInStep history) :
    s.state.activeDocument?.map (·.id) = s.state.documents.activeId := by
  -- No handle and no number go together, and a handle leads to its own number.
  unfold Workspace.activeDocument?
  cases active : s.state.coordination.activeDocument with
  | none => exact (current.absent active).symm
  | some handle =>
    obtain ⟨document, present, named⟩ := current.named handle active
    have present : s.state.document? handle = some document := present
    simp [present, named]

/-- The tile has a document if and only if the table has an active one. -/
theorem isSome_activeDocument (current : s.IsInStep history) :
    s.state.coordination.activeDocument.isSome = s.state.documents.active?.isSome := by
  unfold DocumentTable.active?
  -- A document that is chosen is in the table under its number; without one there is no number.
  cases active : s.state.coordination.activeDocument with
  | none => simp [current.absent active]
  | some handle =>
    obtain ⟨document, -, named⟩ := current.named handle active
    simpa [named] using (current.opened document.id named).symm

/-- The tile has the document of the table if its number was not opened again after it became active. -/
theorem activeDocument_eq_iff (current : s.IsInStep history) :
    s.state.coordination.activeDocument = s.state.documents.active? ↔
      ∀ id, s.state.documents.activeId = some id → latest (·.activates? id) history = some true := by
  cases chosen : s.state.documents.activeId with
  | some id => simpa using current.same id chosen
  | none =>
    -- Without an active number there is a document neither in the table nor in the tile.
    have nothing : s.state.documents.active? = none := by simp [DocumentTable.active?, chosen]
    have absent := current.isSome_activeDocument
    rw [nothing, Option.isSome_none, Option.isSome_eq_false_iff, Option.isNone_iff_eq_none] at absent
    simp [nothing, absent]

/-- The tile shows what was said last of the active number if it has the document of the table. -/
theorem snapshot_eq (current : s.IsInStep history)
    (same : s.state.coordination.activeDocument = s.state.documents.active?) :
    s.state.snapshot.showTile =
        (s.state.documents.activeId.bind fun id => latest (·.inScope? id) history).getD false ∧
      s.state.snapshot.activePath =
        s.state.documents.activeId.bind fun id => latest (·.displayPath? id) history := by
  -- Both fields are read off the document of the active number, of which the messages tell.
  unfold Workspace.snapshot Workspace.activeDocument?
  rw [same]
  unfold DocumentTable.active?
  cases chosen : s.state.documents.activeId with
  | none => exact ⟨rfl, rfl⟩
  | some id =>
    obtain ⟨handle, known⟩ := Option.isSome_iff_exists.mp (current.opened id chosen)
    obtain ⟨document, present, -⟩ := current.sound id handle known
    obtain ⟨inScope, displayPath⟩ := current.given id handle document known present
    have present : s.state.document? handle = some document := present
    simp [known, present, inScope, displayPath]

end IsInStep

end Session

/-- Whether a message can change which documents are open, in scope or active. -/
def Incoming.isAboutSelection : Incoming → Bool
  | openDocument .. | closeDocument .. | scopeChanged .. | activeDocumentChanged .. => true
  | _ => false

namespace Service

variable {ω : Type} [World ω] {history : List Incoming} {service : Service ω}

omit [World ω] in
/-- A warning is steady. -/
theorem steady_warn (service : Service ω) (text : String) :
    service.session.state.Steady (service.warn text).session.state :=
  (Workspace.unseen_warn _ text).steady

/-- A message that opens, closes, rescopes and activates no document is handled steadily. -/
theorem steady_handle (service : Service ω) {message : Incoming}
    (about : message.isAboutSelection = false) :
    service.session.state.Steady (service.handle message).1.session.state := by
  cases message with
  | openDocument | closeDocument | scopeChanged | activeDocumentChanged =>
    simp [Incoming.isAboutSelection] at about
  | updateDocument id text cursor =>
    rcases service.lookUp_cases id with ⟨mirror, -, found⟩ | ⟨-, warning, found⟩
    · simp only [handle, found]
      exact ⟨rfl, DocumentTable.blank_modify _ _ fun _ => rfl⟩
    · simp only [handle, found]
      exact service.steady_warn warning
  | saved id =>
    -- Saving asks for work at most, which begins in a later turn.
    rcases service.lookUp_cases id with ⟨mirror, -, found⟩ | ⟨-, warning, found⟩
    · have asked := Session.steady_documentSaved mirror service.session
      simp only [handle, found]
      generalize service.session.documentSaved mirror = outcome at asked ⊢
      obtain ⟨s, none | number⟩ := outcome
      · exact asked
      · exact asked
    · simp only [handle, found]
      exact service.steady_warn warning
  | setting key value =>
    simp only [handle, setSetting, modify]
    -- A setting that nobody knows is logged before it is set.
    split
    · exact Session.steady_set key value service.session
    · exact (Workspace.unseen_debug _ _).steady.trans (Session.steady_set key value
        (service.session.modify (·.debug ("Unknown setting: " ++ key))))
  | command name =>
    have given := Session.steady_command name service.session
    simp only [handle, runCommand]
    -- A command that nobody knows is warned about.
    generalize service.session.command name = outcome at given ⊢
    obtain ⟨s, number | done | unknown⟩ := outcome
    · exact given
    · exact given
    · exact given.trans (Workspace.unseen_warn _ _).steady
  | shutdown => exact .refl _

/-- Messages keep table and tile in step. -/
theorem isInStep_handle (current : service.session.IsInStep history) (message : Incoming) :
    (service.handle message).1.session.IsInStep (history ++ [message]) := by
  cases message with
  | openDocument id path displayPath text cursor inScope =>
    exact current.insert id path displayPath text cursor inScope
  | closeDocument id => exact current.close id
  | scopeChanged id inScope =>
    rcases service.lookUp_cases id with ⟨mirror, known, found⟩ | ⟨unknown, warning, found⟩
    · simp only [handle, found]
      exact current.rescope known inScope
    · simp only [handle, found]
      refine current.hear (fun _ => rfl) (fun other known => ⟨?_, rfl⟩) (service.steady_warn warning)
      -- A document that is open is another one than that of the message.
      have apart : id ≠ other := by
        rintro rfl
        have unknown : service.session.state.documents.handle? id = none := unknown
        simp [unknown] at known
      simp [Incoming.inScope?, apart]
  -- Only a document that is open is made active; otherwise the message is warned about and forgotten.
  | activeDocumentChanged id =>
    cases activated : service.session.state.documents.activate? id with
    | none =>
      have refused : service.session.IsInStep (history ++ [.activeDocumentChanged id]) :=
        InStep.refuse current activated
      simp only [handle, Session.activateDocument, activated]
      exact refused.steady (service.steady_warn _)
    | some documents =>
      simp only [handle, Session.activateDocument, activated]
      exact current.activate activated
  | updateDocument | saved | setting | command | shutdown =>
    exact current.hear (fun _ => rfl) (fun _ _ => ⟨rfl, rfl⟩) (service.steady_handle rfl)

/-- The messages that are handled in a move. -/
def receipts (_ : Service ω) : Move → List Incoming
  | .message message => [message]
  | .skip _ | .turn _ => []

/-- Moves keep table and tile in step. -/
theorem isInStep_moves (current : service.session.IsInStep history) {move : Move} {next : Service ω}
    (moved : Moves service move next) : next.session.IsInStep (history ++ service.receipts move) := by
  cases moved with
  | message message =>
    have handled := isInStep_handle current message
    unfold answer
    generalize service.handle message = outcome at handled ⊢
    obtain ⟨later, goesOn⟩ := outcome
    -- Forgetting work that is complete makes no difference.
    cases goesOn <;> exact handled
  | skip text =>
    rw [receipts, List.append_nil]
    exact current.steady (service.steady_warn text)
  | turn taken =>
    rw [receipts, List.append_nil]
    exact current.steady (Session.steady_takes taken)

variable {profiles : List Profile} {delay : Nat} {first : Session ω}

/-- From the start on table and tile are in step. -/
theorem isInStep_run (unopened : first.state.documents = .empty)
    (unset : first.state.coordination.activeDocument = none)
    (ran : Run Moves receipts [] ⟨first.start profiles delay, []⟩ history service) :
    service.session.IsInStep history := by
  -- The induction is on the run, with agreement of table and tile as the invariant.
  induction ran with
  | start =>
    have before : first.IsInStep [] := by
      unfold Session.IsInStep
      rw [unopened, unset]
      exact .empty
    exact before.steady (Session.steady_start profiles delay (by rw [unopened]; rfl))
  | move before moved ih => exact isInStep_moves ih moved

/-- Table and tile agree on the active number, and on its document unless it was opened again. -/
theorem activeDocument_run (unopened : first.state.documents = .empty)
    (unset : first.state.coordination.activeDocument = none)
    (ran : Run Moves receipts [] ⟨first.start profiles delay, []⟩ history service) :
    let w := service.session.state
    w.activeDocument?.map (·.id) = w.documents.activeId ∧
      w.coordination.activeDocument.isSome = w.documents.active?.isSome ∧
      (w.coordination.activeDocument = w.documents.active? ↔
        ∀ id, w.documents.activeId = some id → latest (·.activates? id) history = some true) ∧
      (w.coordination.activeDocument = w.documents.active? →
        w.snapshot.showTile =
            (w.documents.activeId.bind fun id => latest (·.inScope? id) history).getD false ∧
          w.snapshot.activePath =
            w.documents.activeId.bind fun id => latest (·.displayPath? id) history) := by
  -- Every part is a consequence of the invariant alone.
  have current := isInStep_run unopened unset ran
  exact ⟨current.id_activeDocument?, current.isSome_activeDocument, current.activeDocument_eq_iff,
    current.snapshot_eq⟩

/-- The document of the sample as it is opened once more, under another path and out of scope. -/
def sampleOpeningAgain : Incoming :=
  .openDocument 1 ⟨"/repo/other.py"⟩ none "" ⟨0, 0⟩ false

/-- A service whose active document was opened once more. -/
def sampleStale : Service Scripted.Tables :=
  ((sampleFirst.answer (sampleOpening "")).answer (.activeDocumentChanged (some 1))).answer
    sampleOpeningAgain

/-- The messages up to the second opening. -/
def sampleReceipts : List Incoming :=
  [sampleOpening "", .activeDocumentChanged (some 1), sampleOpeningAgain]

/-- The second opening is the last move of a run. -/
theorem run_stale : Run Moves receipts [] sampleFirst sampleReceipts sampleStale := by
  have opened : Run Moves receipts [] sampleFirst _ _ := Run.start.move (.message (sampleOpening ""))
  have activated := opened.move (.message (.activeDocumentChanged (some 1)))
  exact activated.move (.message sampleOpeningAgain)

/-- The tile goes on with the document that was opened first, and shows its scope and its path. -/
theorem activeDocument_stale :
    Run Moves receipts [] sampleFirst sampleReceipts sampleStale ∧
      sampleStale.session.state.coordination.activeDocument = some 0 ∧
      sampleStale.session.state.documents.active? = some 1 ∧
      sampleStale.session.state.snapshot.showTile = true ∧
      -- One turn after the other is computed: the table and the tile no longer speak of the same document.
      latest (·.inScope? 1) sampleReceipts = some false ∧
      sampleStale.session.state.snapshot.activePath = some "/repo/main.py" ∧
      latest (·.displayPath? 1) sampleReceipts = some "/repo/other.py" := by
  refine ⟨run_stale, ?_⟩
  decide +kernel

/-- A service whose document was made active once more after that. -/
def sampleFresh : Service Scripted.Tables := sampleStale.answer (.activeDocumentChanged (some 1))

/-- When the document is made active once more, the tile shows what was said of it last. -/
theorem activeDocument_sample :
    sampleFresh.session.state.coordination.activeDocument = sampleFresh.session.state.documents.active? ∧
      sampleFresh.session.state.snapshot.showTile = false ∧
      sampleFresh.session.state.snapshot.activePath = some "/repo/other.py" := by
  have ran : Run Moves receipts [] sampleFirst _ sampleFresh :=
    run_stale.move (.message (.activeDocumentChanged (some 1)))
  -- The general statement says when the tile is fresh, and the last message makes it so.
  obtain ⟨-, -, agree, shown⟩ := activeDocument_run rfl rfl ran
  have chosen : sampleFresh.session.state.documents.activeId = some 1 := by decide +kernel
  have same := agree.mpr fun id active => by
    obtain rfl : id = 1 := Option.some.inj (active.symm.trans chosen)
    rfl
  obtain ⟨showTile, activePath⟩ := shown same
  rw [chosen] at showTile activePath
  exact ⟨same, showTile, activePath⟩

end Service

end FormatPipeline

/-! ## What messages make of the documents -/

namespace FormatPipeline

/-- The documents after a message, up to what is written in them. -/
def DocumentTable.after (table : DocumentTable) : Incoming → DocumentTable
  | .openDocument id path displayPath text cursor inScope =>
    (table.insert (.opened id path displayPath text cursor inScope)).1
  | .closeDocument id => table.close id
  | .scopeChanged id inScope =>
    match table.handle? id with
    | some handle => table.modify handle fun document => { document with inScope := inScope }
    | none => table
  | .activeDocumentChanged id => (table.activate? id).getD table
  | .updateDocument .. | .saved _ | .setting .. | .command _ | .shutdown => table

namespace Service

variable {ω : Type} [World ω]

/-- A message changes the documents as it says, and otherwise at most their texts. -/
theorem blank_documents_handle (service : Service ω) (message : Incoming) :
    (service.handle message).1.session.state.documents.blank =
      (service.session.state.documents.after message).blank := by
  cases message with
  -- Opening builds the same table on both sides.
  | openDocument => rfl
  | closeDocument id =>
    have closed := (Workspace.calm_documentClosed { service.session.state with
      documents := service.session.state.documents.close id } id).1
    exact congrArg DocumentTable.blank closed.documents
  | scopeChanged id inScope =>
    rcases service.lookUp_cases id with ⟨mirror, known, found⟩ | ⟨unknown, warning, found⟩
    · have known : service.session.state.documents.handle? id = some mirror := known
      simp only [handle, found, modify, DocumentTable.after, known, Session.changeScope]
      -- Who is told of the change does not change it.
      split
      · exact (Workspace.steady_scopeChanged _ _).documents
      · rfl
    · have unknown : service.session.state.documents.handle? id = none := unknown
      simp only [handle, found, DocumentTable.after, unknown]
      exact (service.steady_warn warning).documents
  | activeDocumentChanged id =>
    simp only [handle, Session.activateDocument, DocumentTable.after]
    cases service.session.state.documents.activate? id with
    | none => exact (service.steady_warn _).documents
    | some documents => exact congrArg DocumentTable.blank (Workspace.calm_activeChanged _ _).1.documents
  | updateDocument | saved | setting | command | shutdown => exact (service.steady_handle rfl).documents

/-- The documents after a move, up to what is written in them. -/
def documentsAfter (service : Service ω) : Move → DocumentTable
  | .message message => service.session.state.documents.after message
  | .skip _ | .turn _ => service.session.state.documents

/-- Of all moves only messages change documents but for their texts. -/
theorem blank_documents_moves {service next : Service ω} {move : Move} (moved : Moves service move next) :
    next.session.state.documents.blank = (service.documentsAfter move).blank := by
  -- Turns and skipped lines change texts at most, and a message changes what it says.
  cases moved with
  | message message =>
    have handled := service.blank_documents_handle message
    unfold answer
    generalize service.handle message = outcome at handled ⊢
    obtain ⟨later, goesOn⟩ := outcome
    cases goesOn <;> exact handled
  | skip text => exact (service.steady_warn text).documents
  | turn taken => exact (Session.steady_takes taken).documents

end Service

end FormatPipeline
