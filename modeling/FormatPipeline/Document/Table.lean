import FormatPipeline.Document.Position
import FormatPipeline.Path.Basic

/-! The documents of the editor: which are open, which is active, and those still in use. -/

namespace FormatPipeline

/-- A copy of a document that is open in the editor. -/
structure Document where
  /-- The number by which the editor knows the document. -/
  id : Nat
  path : Path
  /-- The path that is shown to the user. -/
  displayPath : String
  text : String
  cursor : Position
  /-- Whether the formatters apply to the document. -/
  inScope : Bool
  deriving DecidableEq, Repr

namespace Document

/-- A document as the editor opens it; its path is shown unless another one is given. -/
def opened (id : Nat) (path : Path) (displayPath : Option String) (text : String) (cursor : Position)
    (inScope : Bool) : Document :=
  ⟨id, path, displayPath.getD path.text, text, cursor.clamp text, inScope⟩

/-- The document after an edit in the editor; the cursor stays where it is unless it is given. -/
def edited (document : Document) (text : String) (cursor : Option Position) : Document :=
  { document with text := text, cursor := (cursor.getD document.cursor).clamp text }

end Document

/-- Names one document among all that were ever opened. -/
abbrev Handle := Nat

/-- All documents that were ever opened, and by which numbers the open ones are known. -/
structure DocumentTable where
  documents : List Document
  /-- The open documents. -/
  handles : List (Nat × Handle)
  activeId : Option Nat
  deriving DecidableEq, Repr

namespace DocumentTable

/-- No document was ever opened. -/
def empty : DocumentTable := ⟨[], [], none⟩

/-- The document of a handle. -/
def get? (table : DocumentTable) (handle : Handle) : Option Document := table.documents[handle]?

/-- Changes the document of a handle. -/
def modify (table : DocumentTable) (handle : Handle) (f : Document → Document) : DocumentTable :=
  { table with documents := table.documents.modify handle f }

/-- Adds a document that is not open under any number yet. -/
def add (table : DocumentTable) (document : Document) : DocumentTable × Handle :=
  -- Documents are never taken out, so that a handle goes on naming its document.
  ({ table with documents := table.documents ++ [document] }, table.documents.length)

/-- The handle of the open document of a number. -/
def handle? (table : DocumentTable) (id : Nat) : Option Handle := table.handles.lookup id

/-- Opens a document, in place of one that is open under its number. -/
def insert (table : DocumentTable) (document : Document) : DocumentTable × Handle :=
  -- Work on the earlier document keeps its handle, which no number leads to any more.
  let (table, handle) := table.add document
  ({ table with
      handles := (document.id, handle) :: table.handles.filter (·.1 != document.id) }, handle)

/-- Closes a document; the active one is then no longer active. -/
def close (table : DocumentTable) (id : Nat) : DocumentTable :=
  { table with
    handles := table.handles.filter (·.1 != id)
    activeId := if table.activeId = some id then none else table.activeId }

/-- Makes an open document active, or none; a document that is not open is refused. -/
def activate? (table : DocumentTable) (id : Option Nat) : Option DocumentTable :=
  match id with
  | none => some { table with activeId := none }
  -- The active document stays the same when the new one is refused.
  | some id => if (table.handle? id).isSome then some { table with activeId := some id } else none

/-- The active document. -/
def active? (table : DocumentTable) : Option Handle := table.activeId.bind table.handle?

end DocumentTable

end FormatPipeline
