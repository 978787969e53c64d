import FormatPipeline.Document.Position
import FormatPipeline.Json.Writer

/-! The messages that are sent to the editor, one JSON object a line. -/

namespace FormatPipeline

open Json (Value)

/-- Something to show to the user. -/
structure Notification where
  title : String
  detail : Option String
  /-- Whether it stays until the user dismisses it. -/
  sticky : Bool
  deriving DecidableEq, Repr

/-- What the status tile shows. -/
structure StatusSnapshot where
  /-- Formatting on save is enabled. -/
  showTick : Bool
  /-- The active document can be formatted. -/
  showTile : Bool
  activePath : Option String
  formatOrder : List String
  saveOrder : List String
  deriving DecidableEq, Repr

/-- A message to the editor. -/
inductive Outgoing where
  | setText (id : Nat) (text : String)
  | setCursor (id : Nat) (cursor : Position)
  | progressStarted (label : String)
  | progressFinished (label : String)
  | notification (content : Notification)
  /-- Without a snapshot the status tile is removed. -/
  | status (snapshot : Option StatusSnapshot)
  | commands (names : List String)
  deriving DecidableEq, Repr

/-- A text or null. -/
def Json.Value.ofText? : Option String → Value
  | some text => .string text
  | none => .null

/-- A position as a JSON object. -/
def Position.toJson (position : Position) : Value :=
  .object [("row", .ofNat position.row), ("column", .ofNat position.column)]

/-- A snapshot as a JSON object. -/
def StatusSnapshot.toJson (snapshot : StatusSnapshot) : Value :=
  .object [
    ("showTick", .bool snapshot.showTick),
    ("showTile", .bool snapshot.showTile),
    ("activePath", .ofText? snapshot.activePath),
    ("formatOrder", .ofStrings snapshot.formatOrder),
    ("saveOrder", .ofStrings snapshot.saveOrder)]

namespace Outgoing

/-- The name of the kind of message. -/
def tag : Outgoing → String
  | setText .. => "setText"
  | setCursor .. => "setCursor"
  | progressStarted .. => "progressStarted"
  | progressFinished .. => "progressFinished"
  | notification .. => "notification"
  | status .. => "status"
  | commands .. => "commands"

/-- The fields of the message in their order. -/
def fields : Outgoing → List (String × Value)
  | setText id text => [("id", .ofNat id), ("text", .string text)]
  | setCursor id cursor => [("id", .ofNat id), ("cursor", cursor.toJson)]
  | progressStarted label => [("label", .string label)]
  | progressFinished label => [("label", .string label)]
  | notification content => [
      ("title", .string content.title),
      ("detail", .ofText? content.detail),
      ("sticky", .bool content.sticky)]
  | status snapshot => [("snapshot", match snapshot with
      | some snapshot => snapshot.toJson
      | none => .null)]
  | commands names => [("names", .ofStrings names)]

/-- The message as a JSON object, the kind in front. -/
def toJson (message : Outgoing) : Value :=
  .object (("type", .string message.tag) :: message.fields)

/-- The line that is written for the message. -/
def line (message : Outgoing) : String := message.toJson.compact ++ "\n"

end Outgoing

end FormatPipeline
