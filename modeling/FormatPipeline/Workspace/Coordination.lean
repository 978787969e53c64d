import FormatPipeline.Workspace.Formatting

/-! Which formatters run when, what the status tile shows, and what follows from events of documents. -/

namespace FormatPipeline

open Settings (ErrorHandling OrderKind)

/-- One of the two lists of formatters. -/
def Coordination.order (coordination : Coordination) : OrderKind → List String
  | .format => coordination.formatOrder
  | .save => coordination.saveOrder

/-- Replaces one of the two lists of formatters. -/
def Coordination.withOrder (coordination : Coordination) (names : List String) :
    OrderKind → Coordination
  | .format => { coordination with formatOrder := names }
  | .save => { coordination with saveOrder := names }

namespace Workspace

variable {ω : Type}

/-- The names of the registered formatters. -/
def formatterNames (w : Workspace ω) : List String := w.formatters.map (·.name)

/-- The document that the status tile speaks of. -/
def activeDocument? (w : Workspace ω) : Option Document :=
  w.coordination.activeDocument.bind w.document?

/-- What the status tile shows. -/
def snapshot (w : Workspace ω) : StatusSnapshot where
  showTick := w.coordination.onSaveEnabled
  showTile := w.activeDocument?.any (·.inScope)
  activePath := w.activeDocument?.map (·.displayPath)
  formatOrder := w.coordination.formatOrder
  saveOrder := w.coordination.saveOrder

/-- Draws the status tile again if there is to be one. -/
def renderStatus (w : Workspace ω) : Workspace ω :=
  if w.coordination.statusBar then w.send (.status (some w.snapshot)) else w

/-- Turns the status tile on or off. -/
def setStatusBar (w : Workspace ω) (enabled : Bool) : Workspace ω :=
  let wasEnabled := w.coordination.statusBar
  let w := { w with coordination := { w.coordination with statusBar := enabled } }
  if enabled then w.renderStatus
  -- A tile that is not there need not be removed.
  else if wasEnabled then w.send (.status none)
  else w

/-- Turns formatting on save on or off. -/
def setOnSaveEnabled (w : Workspace ω) (enabled : Bool) : Workspace ω :=
  { w with coordination := { w.coordination with onSaveEnabled := enabled } }.renderStatus

/-- Sets a list of formatters; one that names an unknown formatter is rejected as a whole. -/
def setOrder (w : Workspace ω) (kind : OrderKind) (names : List String) : Workspace ω :=
  if w.coordination.order kind = names then w
  else
    -- A single unknown name empties the whole order.
    let (w, names) := match names.find? fun name => (w.formatter? name).isNone with
      | some name => (w.report (.configuration (.unknownFormatterInOrder kind name)), [])
      | none => (w, names)
    let w := w.debug (kind.title ++ ": [" ++ Text.joinWith ", " names ++ "]")
    { w with coordination := w.coordination.withOrder names kind }.renderStatus

/-- Lets the value of a setting take effect. -/
def applyTarget [World ω] (target : Target) (value : Json.Value) (w : Workspace ω) : Workspace ω :=
  match target with
  | .errorHandling => { w with handling := .ofValue value }
  | .busySignal => w.setBusyEnabled (Settings.isTrue value)
  | .statusBar => w.setStatusBar (Settings.isTrue value)
  | .onSaveEnabled => w.setOnSaveEnabled (Settings.isTrue value)
  | .order kind => w.setOrder kind (Settings.stringList value)
  | .slot name slot =>
    match w.formatter? name with
    | some formatter => w.applySlot formatter slot value
    -- The formatter of the setting may not be registered.
    | none => w

/-- Formats the document on save from now on if the formatters apply to it, and else no longer. -/
def watchSaves (w : Workspace ω) (document : Document) : Workspace ω :=
  let others := w.coordination.saveWatch.filter (· != document.id)
  { w with coordination := { w.coordination with
      saveWatch := if document.inScope then document.id :: others else others } }

/-- Whether the active document has the number. -/
def isActive (w : Workspace ω) (id : Nat) : Bool := w.activeDocument?.any (·.id == id)

/-- A document was opened. -/
def documentOpened (w : Workspace ω) (document : Document) : Workspace ω := w.watchSaves document

/-- Whether the formatters apply to a document has changed. -/
def scopeChanged (w : Workspace ω) (document : Document) : Workspace ω :=
  let w := w.watchSaves document
  if w.isActive document.id then w.renderStatus else w

/-- Another document, or none, has become active. -/
def activeChanged (w : Workspace ω) (handle : Option Handle) : Workspace ω :=
  { w with coordination := { w.coordination with activeDocument := handle } }.renderStatus

/-- A document was closed. -/
def documentClosed (w : Workspace ω) (id : Nat) : Workspace ω :=
  -- Whether it was active can only be seen before it is taken out.
  let wasActive := w.isActive id
  let w := { w with coordination := { w.coordination with
    saveWatch := w.coordination.saveWatch.filter (· != id)
    activeDocument := if wasActive then none else w.coordination.activeDocument } }
  if wasActive then w.renderStatus else w

/-- Whether a document is formatted when it is saved. -/
def formatsOnSave (w : Workspace ω) (id : Nat) : Bool :=
  w.coordination.onSaveEnabled && w.coordination.saveWatch.contains id

end Workspace

end FormatPipeline
