import FormatPipeline.Document.Position
import FormatPipeline.Json.Value
import FormatPipeline.Path.Basic

/-! The messages that an editor sends. -/

namespace FormatPipeline

/-- A message from the editor; documents are named by a number of the editor's choice. -/
inductive Incoming where
  | openDocument (id : Nat) (path : Path) (displayPath : Option String) (text : String)
      (cursor : Position) (inScope : Bool)
  | updateDocument (id : Nat) (text : String) (cursor : Option Position)
  | closeDocument (id : Nat)
  | scopeChanged (id : Nat) (inScope : Bool)
  | activeDocumentChanged (id : Option Nat)
  | saved (id : Nat)
  | setting (key : String) (value : Json.Value)
  | command (name : String)
  | shutdown

/-- The kinds of messages. -/
inductive Incoming.Kind where
  | openDocument | updateDocument | closeDocument | scopeChanged | activeDocumentChanged
  | saved | setting | command | shutdown
  deriving DecidableEq, Repr

/-- The kinds in the order in which they are listed to the user. -/
def Incoming.Kind.all : List Incoming.Kind := [
  .openDocument, .updateDocument, .closeDocument, .scopeChanged, .activeDocumentChanged,
  .saved, .setting, .command, .shutdown]

/-- The tag of a kind. -/
def Incoming.Kind.tag : Incoming.Kind → String
  | .openDocument => "openDocument"
  | .updateDocument => "updateDocument"
  | .closeDocument => "closeDocument"
  | .scopeChanged => "scopeChanged"
  | .activeDocumentChanged => "activeDocumentChanged"
  | .saved => "saved"
  | .setting => "setting"
  | .command => "command"
  | .shutdown => "shutdown"

/-- The kind of a tag. -/
def Incoming.Kind.ofTag? (tag : String) : Option Incoming.Kind :=
  Incoming.Kind.all.find? (·.tag == tag)

end FormatPipeline
