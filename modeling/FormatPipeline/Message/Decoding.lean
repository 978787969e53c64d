import FormatPipeline.Json.Reader
import FormatPipeline.Message.Incoming
import FormatPipeline.Text.Invisible

/-!
Reading messages from JSON, as an object or as a list.
The kind is looked at as soon as it is read, the fields when the text is complete.
-/

namespace FormatPipeline

open Json (Value Fault)

/-- Why a text is no message. -/
inductive DecodeError where
  /-- The text is no JSON, or breaks off. -/
  | text (fault : Fault)
  /-- The value has the wrong shape. -/
  | shape (message : String)
  deriving DecidableEq, Repr

namespace Decoding

/-- A word between backquotes. -/
def ticked (word : String) : String := "\x60" ++ word ++ "\x60"

/-- How a value is called in a message about its shape. -/
def describe : Value → String
  | .null => "null"
  | .bool value => "boolean " ++ ticked (if value then "true" else "false")
  | .number (.integer n) => "integer " ++ ticked (toString n)
  | .number (.float x) => "floating point " ++ ticked x.text
  | .string text => "string " ++ Text.escaped text
  | .array _ => "sequence"
  | .object _ => "map"

/-- A value has the wrong type. -/
def wrongType (described expected : String) : DecodeError :=
  .shape ("invalid type: " ++ described ++ ", expected " ++ expected)

/-- A field is missing. -/
def missing (name : String) : DecodeError := .shape ("missing field " ++ ticked name)

/-- A field is there twice. -/
def duplicate (name : String) : DecodeError := .shape ("duplicate field " ++ ticked name)

/-- A list has the wrong length. -/
def wrongLength (length : Nat) (expected : String) : DecodeError :=
  .shape ("invalid length " ++ toString length ++ ", expected " ++ expected)

/-- A number of elements in words. -/
def elements (count : Nat) : String :=
  if count = 1 then "1 element" else toString count ++ " elements"

/-- A natural number below `2 ^ bits`. -/
def readWord (bits : Nat) : Value → Except DecodeError Nat
  | .number (.integer n) =>
    -- A number that is negative or too large has the right type, but it is out of range.
    if 0 ≤ n ∧ n.toNat < Nat.pow 2 bits then .ok n.toNat
    else .error (.shape ("invalid value: integer " ++ ticked (toString n) ++
      ", expected u" ++ toString bits))
  | value => .error (wrongType (describe value) ("u" ++ toString bits))

/-- The values of the named fields in an object: each at most once, other members ignored. -/
def collect {α : Type} (read : String → Option (Value → Except DecodeError α)) :
    List (String × Value) → List (String × α) → Except DecodeError (List (String × α))
  | [], found => .ok found
  | (name, value) :: rest, found =>
    match read name with
    -- A member of another name is skipped, whatever its value is.
    | none => collect read rest found
    | some readField =>
      if found.any (·.1 == name) then .error (duplicate name)
      else match readField value with
        | .error error => .error error
        | .ok field => collect read rest (found ++ [(name, field)])

/-- A position, as an object or as a list of two numbers. -/
def readPosition : Value → Except DecodeError Position
  | .object members => do
    let found ← collect
      (fun name => if name = "row" ∨ name = "column" then some (readWord 32) else none) members []
    match found.lookup "row", found.lookup "column" with
    | none, _ => throw (missing "row")
    | _, none => throw (missing "column")
    | some row, some column => return ⟨row, column⟩
  | .array [] => .error (wrongLength 0 "struct Position with 2 elements")
  | .array [row] => do
    -- A fault of the item itself comes before that of the length.
    let _ ← readWord 32 row
    throw (wrongLength 1 "struct Position with 2 elements")
  | .array (row :: column :: extra) => do
    let row ← readWord 32 row
    let column ← readWord 32 column
    if extra.isEmpty then return ⟨row, column⟩
    else throw (wrongLength (2 + extra.length) (elements 2 ++ " in sequence"))
  | value => .error (wrongType (describe value) "struct Position")

/-- The kinds of fields. -/
inductive Shape where
  | id | text | path | switch | position | any
  | optional (shape : Shape)

/-- A field that has been read. -/
inductive Datum where
  | absent
  | id (value : Nat)
  | text (value : String)
  | switch (value : Bool)
  | position (value : Position)
  | any (value : Value)

/-- Reads a field of a shape. -/
def Shape.read (value : Value) : Shape → Except DecodeError Datum
  | .id => (readWord 64 value).map .id
  | .text =>
    match value with
    | .string written => .ok (.text written)
    | value => .error (wrongType (describe value) "a string")
  | .path =>
    match value with
    | .string written => .ok (.text written)
    | value => .error (wrongType (describe value) "path string")
  | .switch =>
    match value with
    | .bool value => .ok (.switch value)
    | value => .error (wrongType (describe value) "a boolean")
  | .position => (readPosition value).map .position
  -- Names that are repeated inside the value count once, with their last value.
  | .any => .ok (.any value.merge)
  | .optional shape =>
    match value with
    | .null => .ok .absent
    | value => shape.read value

/-- A field of a message; one with a default may be left out. -/
structure Field where
  name : String
  shape : Shape
  default : Option Datum

/-- The fields of a kind of message in their order. -/
def fieldsOf : Incoming.Kind → List Field
  | .openDocument => [
      ⟨"id", .id, none⟩,
      ⟨"path", .path, none⟩,
      ⟨"displayPath", .optional .text, some .absent⟩,
      ⟨"text", .text, some (.text "")⟩,
      ⟨"cursor", .position, some (.position ⟨0, 0⟩)⟩,
      ⟨"inScope", .switch, some (.switch true)⟩]
  | .updateDocument => [
      ⟨"id", .id, none⟩,
      ⟨"text", .text, none⟩,
      ⟨"cursor", .optional .position, some .absent⟩]
  | .closeDocument => [⟨"id", .id, none⟩]
  | .scopeChanged => [⟨"id", .id, none⟩, ⟨"inScope", .switch, none⟩]
  | .activeDocumentChanged => [⟨"id", .optional .id, some .absent⟩]
  | .saved => [⟨"id", .id, none⟩]
  | .setting => [⟨"key", .text, none⟩, ⟨"value", .any, none⟩]
  | .command => [⟨"name", .text, none⟩]
  | .shutdown => []

/-- The message of a kind whose fields have these values. -/
def build : Incoming.Kind → List Datum → Option Incoming
  | .openDocument, [.id id, .text path, display, .text text, .position cursor, .switch inScope] =>
    match display with
    | .text display => some (.openDocument id ⟨path⟩ (some display) text cursor inScope)
    | .absent => some (.openDocument id ⟨path⟩ none text cursor inScope)
    | _ => none
  | .updateDocument, [.id id, .text text, .position cursor] =>
    some (.updateDocument id text (some cursor))
  | .updateDocument, [.id id, .text text, .absent] => some (.updateDocument id text none)
  | .closeDocument, [.id id] => some (.closeDocument id)
  | .scopeChanged, [.id id, .switch inScope] => some (.scopeChanged id inScope)
  | .activeDocumentChanged, [.id id] => some (.activeDocumentChanged (some id))
  | .activeDocumentChanged, [.absent] => some (.activeDocumentChanged none)
  | .saved, [.id id] => some (.saved id)
  | .setting, [.text key, .any value] => some (.setting key value)
  | .command, [.text name] => some (.command name)
  | .shutdown, [] => some .shutdown
  | _, _ => none

/-- The fields of an object in their order, left out ones with their defaults. -/
def ofMembers (fields : List Field) (members : List (String × Value)) :
    Except DecodeError (List Datum) := do
  let found ← collect
    (fun name => (fields.find? (·.name == name)).map fun field value => field.shape.read value)
    members []
  fields.mapM fun field =>
    match found.lookup field.name, field.default with
    | some datum, _ => .ok datum
    | none, some datum => .ok datum
    | none, none => .error (missing field.name)

/-- The fields of a list by their position; `index` of `count` fields have been read. -/
def ofItems (owner : String) (count : Nat) (index : Nat) :
    List Field → List Value → Except DecodeError (List Datum)
  | [], [] => .ok []
  | [], extra =>
    .error (wrongLength (index + extra.length) (elements count ++ " in sequence"))
  | field :: fields, item :: items => do
    let datum ← field.shape.read item
    return datum :: (← ofItems owner count (index + 1) fields items)
  | field :: fields, [] =>
    -- A list may end in front of fields that have defaults.
    match field.default with
    | some datum => (ofItems owner count (index + 1) fields []).map (datum :: ·)
    | none => .error (wrongLength index (owner ++ " with " ++ elements count))

/-- A message whose kind is known and whose fields have been read but not looked at. -/
inductive Content where
  | members (members : List (String × Value))
  | items (items : List Value)

/-- The tag with a capital letter in front. -/
def variantName (kind : Incoming.Kind) : String :=
  match kind.tag.toList with
  | [] => ""
  | c :: rest => .ofList (c.toUpper :: rest)

/-- The message that the content holds. -/
def Content.message (kind : Incoming.Kind) (content : Content) : Except DecodeError Incoming := do
  let fields := fieldsOf kind
  let data ← match content with
    | .members found => ofMembers fields found
    | .items found =>
      ofItems ("struct variant IncomingMessage::" ++ variantName kind) fields.length 0 fields found
  match build kind data with
  | some message => return message
  -- Never reached: the data have the shapes of the fields of the kind.
  | none => throw (.text .malformed)

/-- What is said about a tag that names no kind. -/
def unknownKind (tag : String) : DecodeError :=
  .shape ("unknown variant " ++ ticked tag ++ ", expected one of " ++
    Text.joinWith ", " (Incoming.Kind.all.map fun kind => ticked kind.tag))

/-- A fault of the text as an error of the message. -/
def lift {α : Type} : Except Fault α → Except DecodeError α
  | .ok value => .ok value
  | .error fault => .error (.text fault)

/-- Reads the tag; a value of another type is refused without reading containers to their end. -/
def readKind (cs : List Char) : Except DecodeError (Incoming.Kind × List Char) := do
  let expected := "variant identifier"
  match Json.skipBlanks cs with
  | '[' :: _ => throw (wrongType "sequence" expected)
  | '\x7b' :: _ => throw (wrongType "map" expected)
  | start =>
    let (value, rest) ← lift (Json.readScalar start)
    match value with
    | .string tag =>
      match Incoming.Kind.ofTag? tag with
      | some kind => return (kind, rest)
      | none => throw (unknownKind tag)
    | value => throw (wrongType (describe value) expected)

/-- Reads the members of a message up to the end of its object. -/
def readMembers (fuel : Nat) (first : Bool) (kind : Option Incoming.Kind)
    (read : List (String × Value)) (cs : List Char) :
    Except DecodeError (Incoming.Kind × Content × List Char) :=
  match fuel with
  -- Never reached with the fuel that fits the text.
  | 0 => .error (.text .unfinished)
  | fuel + 1 => do
    match ← lift (Json.memberName first cs) with
    | (none, rest) =>
      -- Only the end of the object shows that there is no tag.
      match kind with
      | some kind => return (kind, .members read.reverse, rest)
      | none => throw (missing "type")
    | (some name, rest) =>
      if name = "type" then
        -- A second tag is refused before anything behind its name is looked at.
        if kind.isSome then throw (duplicate "type")
        let (kind, rest) ← readKind (← lift (Json.readColon rest))
        readMembers fuel false (some kind) read rest
      else
        let rest ← lift (Json.readColon rest)
        let (value, rest) ← lift (Json.readValue fuel (Json.depthLimit - 1) rest)
        readMembers fuel false kind ((name, value) :: read) rest

/-- Reads a message as an object or a list, without looking at what follows. -/
def readMessage (cs : List Char) : Except DecodeError (Incoming.Kind × Content × List Char) := do
  let fuel := Json.fuelFor cs
  match Json.skipBlanks cs with
  | '\x7b' :: rest => readMembers fuel true none [] rest
  | '[' :: rest =>
    match ← lift (Json.nextItem true rest) with
    | (none, _) => throw (missing "type")
    -- The tag comes first in a list.
    | (some start, _) =>
      let (kind, rest) ← readKind start
      let (items, rest) ← lift (Json.readItems fuel (Json.depthLimit - 1) false [] rest)
      return (kind, .items items, rest)
  | start =>
    let (value, _) ← lift (Json.readScalar start)
    throw (wrongType (describe value) "internally tagged enum IncomingMessage")

end Decoding

/-- The message that a text holds. -/
def Incoming.decode (text : String) : Except DecodeError Incoming := do
  let (kind, content, rest) ← Decoding.readMessage text.toList
  let message ← content.message kind
  -- What follows the message is looked at last.
  Decoding.lift (Json.expectEnd rest)
  return message

end FormatPipeline
