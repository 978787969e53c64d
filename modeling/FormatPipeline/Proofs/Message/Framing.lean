import FormatPipeline.Program
import FormatPipeline.Proofs.Json.Writing
import FormatPipeline.Proofs.Text.Pieces
import FormatPipeline.Proofs.Workspace.Telling

/-! Each message to the editor is one line, and the lines of an output give back the messages sent. -/

namespace FormatPipeline

open Json (Value putMember)

/-! ## Reading a message back -/

/-- The text that a value holds, where null stands for no text. -/
def Json.Value.optionalText? : Value → Option (Option String)
  | .null => some none
  | .string text => some (some text)
  | _ => none

/-- The texts that an array holds, and nothing if it holds anything else. -/
def Json.Value.texts? (value : Value) : Option (List String) := do
  let items ← value.array?
  items.mapM Value.string?

/-- The position that an object of exactly a row and a column describes. -/
def Position.ofJson? : Value → Option Position
  | .object [("row", row), ("column", column)] => do return ⟨← row.nat?, ← column.nat?⟩
  | _ => none

/-- The snapshot that an object of exactly its five parts describes. -/
def StatusSnapshot.ofJson? : Value → Option StatusSnapshot
  | .object [("showTick", .bool showTick), ("showTile", .bool showTile), ("activePath", activePath),
      ("formatOrder", formatOrder), ("saveOrder", saveOrder)] => do
    -- The path and the two lists may still have a wrong type.
    return ⟨showTick, showTile, ← activePath.optionalText?, ← formatOrder.texts?, ← saveOrder.texts?⟩
  | _ => none

namespace Outgoing

/-- The message of a kind that an object of exactly these members describes. -/
def ofFields? (tag : String) (members : List (String × Value)) : Option Outgoing :=
  -- The members have to come in this order, and no other may be among them.
  match tag, members with
  | "setText", [("id", id), ("text", .string text)] => do return .setText (← id.nat?) text
  | "setCursor", [("id", id), ("cursor", cursor)] => do
    return .setCursor (← id.nat?) (← Position.ofJson? cursor)
  | "progressStarted", [("label", .string label)] => some (.progressStarted label)
  | "progressFinished", [("label", .string label)] => some (.progressFinished label)
  | "notification", [("title", .string title), ("detail", detail), ("sticky", .bool sticky)] => do
    return .notification ⟨title, ← detail.optionalText?, sticky⟩
  | "status", [("snapshot", .null)] => some (.status none)
  | "status", [("snapshot", snapshot)] => do return .status (some (← StatusSnapshot.ofJson? snapshot))
  | "commands", [("names", names)] => do return .commands (← names.texts?)
  | _, _ => none

/-- The message that an object describes, which has the kind in front of the fields. -/
def ofJson? : Value → Option Outgoing
  | .object (("type", .string tag) :: members) => ofFields? tag members
  | _ => none

/-- The message that a line describes. -/
def ofLine? (line : List Char) : Option Outgoing :=
  (Json.parse (.ofList line)).toOption.bind ofJson?

end Outgoing

/-- A list of texts is found again. -/
theorem Json.Value.texts?_ofStrings (texts : List String) : (ofStrings texts).texts? = some texts := by
  have all : (texts.map Value.string).mapM Value.string? = some texts := by
    induction texts with
    | nil => rfl
    | cons text rest ih => simp [Value.string?, ih]
  exact all

/-- A text that need not be there is found again. -/
theorem Json.Value.optionalText?_ofText? (text : Option String) :
    (ofText? text).optionalText? = some text := by
  cases text <;> rfl

/-- A position is found again. -/
theorem Position.ofJson?_toJson (position : Position) : ofJson? position.toJson = some position := rfl

/-- A snapshot is found again. -/
theorem StatusSnapshot.ofJson?_toJson (snapshot : StatusSnapshot) :
    ofJson? snapshot.toJson = some snapshot := by
  simp [toJson, ofJson?, Value.optionalText?_ofText?, Value.texts?_ofStrings]

namespace Outgoing

/-- A message is described by its own object. -/
theorem ofJson?_toJson (message : Outgoing) : ofJson? message.toJson = some message := by
  cases message with
  | setText id text => rfl
  | setCursor id cursor => rfl
  | progressStarted label => rfl
  | progressFinished label => rfl
  | notification content =>
    simp [toJson, ofJson?, tag, fields, ofFields?, Value.optionalText?_ofText?]
  | status snapshot =>
    cases snapshot with
    | none => rfl
    | some snapshot =>
      have found := StatusSnapshot.ofJson?_toJson snapshot
      -- A snapshot that is there is an object, and so not null.
      simp only [StatusSnapshot.toJson] at found
      simp [toJson, ofJson?, tag, fields, ofFields?, StatusSnapshot.toJson, found]
  | commands names => simp [toJson, ofJson?, tag, fields, ofFields?, Value.texts?_ofStrings]

/-! ## What a message is as a value -/

/-- Whether the numbers in a message have the size that they have in memory. -/
def Fits : Outgoing → Prop
  | setText id _ => id < 2 ^ 64
  | setCursor id cursor => id < 2 ^ 64 ∧ cursor.row < 2 ^ 32 ∧ cursor.column < 2 ^ 32
  | _ => True

/-- There are no numbers in a list of texts. -/
theorem isWhole_ofStrings (texts : List String) : (Value.ofStrings texts).IsWhole := by
  show Value.AreWhole (texts.map .string)
  induction texts with
  | nil => trivial
  | cons text rest ih => exact ⟨trivial, ih⟩

/-- There is no number in a text that need not be there. -/
theorem isWhole_ofText? (text : Option String) : (Value.ofText? text).IsWhole := by
  cases text <;> trivial

/-- All numbers in a message are whole. -/
theorem isWhole_toJson {message : Outgoing} (fits : message.Fits) : message.toJson.IsWhole := by
  -- Each field is a text or a number within its limits.
  cases message with
  | setText id text => exact ⟨trivial, Value.isWhole_ofNat fits, trivial, trivial⟩
  | setCursor id cursor =>
    obtain ⟨id, row, column⟩ := fits
    have place : cursor.toJson.IsWhole :=
      ⟨Value.isWhole_ofNat (by omega), Value.isWhole_ofNat (by omega), trivial⟩
    exact ⟨trivial, Value.isWhole_ofNat id, place, trivial⟩
  | progressStarted label => exact ⟨trivial, trivial, trivial⟩
  | progressFinished label => exact ⟨trivial, trivial, trivial⟩
  | notification content => exact ⟨trivial, trivial, isWhole_ofText? _, trivial, trivial⟩
  | status snapshot =>
    cases snapshot with
    | none => exact ⟨trivial, trivial, trivial⟩
    | some snapshot =>
      have shown : snapshot.toJson.IsWhole :=
        ⟨trivial, trivial, isWhole_ofText? _, isWhole_ofStrings _, isWhole_ofStrings _, trivial⟩
      exact ⟨trivial, shown, trivial⟩
  | commands names => exact ⟨trivial, isWhole_ofStrings names, trivial⟩

/-- Texts have no members to be merged. -/
theorem merge_ofStrings (texts : List String) : (Value.ofStrings texts).merge = .ofStrings texts := by
  have all : Value.mergeItems (texts.map .string) = texts.map .string := by
    induction texts with
    | nil => rfl
    | cons text rest ih => simp [Value.mergeItems, Value.merge, ih]
  simp [Value.ofStrings, Value.merge, all]

/-- Neither has a text that need not be there. -/
theorem merge_ofText? (text : Option String) : (Value.ofText? text).merge = .ofText? text := by
  cases text <;> rfl

/-- No two fields of a message have the same name. -/
theorem merge_toJson (message : Outgoing) : message.toJson.merge = message.toJson := by
  -- Most messages have fixed names of fields, and texts and lists merge to themselves.
  cases message with
  | setText id text => rfl
  | setCursor id cursor => rfl
  | progressStarted label => rfl
  | progressFinished label => rfl
  | notification content =>
    simp [toJson, tag, fields, Value.merge, Value.mergeMembers, putMember, merge_ofText?]
  | status snapshot =>
    cases snapshot with
    | none => rfl
    | some snapshot =>
      simp [toJson, tag, fields, StatusSnapshot.toJson, Value.merge, Value.mergeMembers, putMember,
        merge_ofText?, merge_ofStrings]
  | commands names =>
    simp [toJson, tag, fields, Value.merge, Value.mergeMembers, putMember, merge_ofStrings]

/-- The texts in a list are not nested into each other. -/
theorem nesting_ofStrings (texts : List String) : (Value.ofStrings texts).nesting = 1 := by
  have flat : Value.nestingOfItems (texts.map .string) = 0 := by
    induction texts with
    | nil => rfl
    | cons text rest ih => simp [Value.nestingOfItems, Value.nesting, ih]
  simp [Value.ofStrings, Value.nesting, flat]

/-- A text that need not be there is nested into nothing. -/
theorem nesting_ofText? (text : Option String) : (Value.ofText? text).nesting = 0 := by
  cases text <;> rfl

/-- At most three containers are nested in a message: the lists in a snapshot. -/
theorem nesting_toJson_le (message : Outgoing) : message.toJson.nesting ≤ 3 := by
  -- Only a snapshot holds lists inside of an object inside of the message.
  cases message with
  | setText id text => exact Nat.le_of_ble_eq_true rfl
  | setCursor id cursor => exact Nat.le_of_ble_eq_true rfl
  | progressStarted label => exact Nat.le_of_ble_eq_true rfl
  | progressFinished label => exact Nat.le_of_ble_eq_true rfl
  | notification content =>
    simp [toJson, fields, Value.nesting, Value.nestingOfMembers, nesting_ofText?]
  | status snapshot =>
    cases snapshot with
    | none => decide
    | some snapshot =>
      simp [toJson, fields, StatusSnapshot.toJson, Value.nesting, Value.nestingOfMembers,
        nesting_ofText?, nesting_ofStrings]
  | commands names =>
    simp [toJson, fields, Value.nesting, Value.nestingOfMembers, nesting_ofStrings]

/-! ## The lines -/

/-- A text that is a message on a line of its own. -/
structure IsLine (message : Outgoing) (text : String) : Prop where
  /-- The only line end is the last character. -/
  ends : ∃ body, text.toList = body ++ ['\n'] ∧ '\n' ∉ body
  /-- Type and fields are those of the message, and there are no others. -/
  parses : Json.parse text = .ok (.object (("type", .string message.tag) :: message.fields))
  /-- So that no other message has the same line. -/
  reads : ofLine? text.toList = some message

/-- The compact text of a message holds no line end. -/
theorem notMem_compact {message : Outgoing} (fits : message.Fits) :
    '\n' ∉ message.toJson.compact.toList := by
  intro member
  rw [Value.compact, String.toList_ofList] at member
  have printable := message.toJson.isPrintable_write (isWhole_toJson fits) '\n' member
  exact absurd printable (by decide)

/-- A message is parsed as its own object, with or without its line end. -/
theorem parse_compact {message : Outgoing} (fits : message.Fits) {gap : String}
    (blank : Json.IsGap gap.toList) :
    Json.parse (message.toJson.compact ++ gap) = .ok message.toJson := by
  -- What is written spells the message, and behind it there is only a gap.
  have spelled := message.toJson.spelledBy_write (isWhole_toJson fits)
  have isText : message.toJson.IsText (message.toJson.compact ++ gap).toList := by
    have text := Value.IsText.text Json.isGap_nil spelled blank
    simpa [Value.compact] using text
  -- The nesting of a message is far below the limit.
  have shallow : message.toJson.nesting < Json.depthLimit :=
    Nat.lt_of_le_of_lt message.nesting_toJson_le (by decide)
  rw [Json.parse_of_isText isText shallow, merge_toJson]

/-- The text that is written for a message is a line of that message. -/
theorem isLine_line {message : Outgoing} (fits : message.Fits) : message.IsLine message.line := by
  have ending : Json.IsGap "\n".toList := List.all_eq_true.mp (by decide)
  have parses := parse_compact fits ending
  refine ⟨⟨message.toJson.compact.toList, by simp [line], notMem_compact fits⟩, parses, ?_⟩
  simp only [ofLine?, String.ofList_toList, line, parses]
  exact message.ofJson?_toJson

/-- What stands in front of the line end is read as the message, too. -/
theorem ofLine?_compact {message : Outgoing} (fits : message.Fits) :
    ofLine? message.toJson.compact.toList = some message := by
  have nothing : Json.IsGap "".toList := List.all_eq_true.mp (by decide)
  have parses := parse_compact fits nothing
  rw [String.append_empty] at parses
  simp only [ofLine?, String.ofList_toList, parses]
  exact message.ofJson?_toJson

/-! ## The output -/

/-- The messages that are read from an output line by line, what follows the last line end apart. -/
def readBack (output : String) : List (Option Outgoing) × List Char :=
  let lines := Text.pieces '\n' output.toList
  (lines.dropLast.map ofLine?, lines.getLastD [])

/-- The output is the lines of the messages among the events, one after another. -/
theorem outputOf_eq (events : List Event) :
    Program.outputOf events = String.join ((events.filterMap Event.message?).map line) := by
  rw [List.map_filterMap]
  refine congrArg (fun text? : Event → Option String => String.join (events.filterMap text?)) ?_
  funext event
  cases event <;> rfl

/-- The lines of messages are cut apart at their ends, and nothing is left behind the last one. -/
theorem pieces_lines {messages : List Outgoing} (fit : ∀ message ∈ messages, message.Fits) :
    Text.pieces '\n' (String.join (messages.map line)).toList =
      messages.map (fun message => message.toJson.compact.toList) ++ [[]] := by
  -- Each line end that was written cuts off the text in front of it.
  induction messages with
  | nil => rfl
  | cons message rest ih =>
    have later := ih fun other member => fit other (List.mem_cons_of_mem _ member)
    have free := notMem_compact (fit message List.mem_cons_self)
    have front := Text.pieces_append '\n' message.toJson.compact.toList
      (String.join (rest.map line)).toList
    rw [Text.pieces_of_notMem free, later] at front
    simpa [line] using front

/-- A message is written as one line that describes it and nothing else, and an output gives back
the messages that were sent, in their order. -/
theorem readBack_output :
    (∀ message : Outgoing, message.Fits → message.IsLine message.line) ∧
    ∀ events : List Event, (∀ message ∈ events.filterMap Event.message?, message.Fits) →
      readBack (Program.outputOf events) = ((events.filterMap Event.message?).map some, []) := by
  refine ⟨fun message => isLine_line, fun events fit => ?_⟩
  -- The events are replaced by the messages among them, which are all that is written.
  generalize sent : events.filterMap Event.message? = messages at fit
  -- Each line is read back by itself.
  have lines : messages.map (fun message => ofLine? message.toJson.compact.toList) =
      messages.map some :=
    List.map_congr_left fun message member => ofLine?_compact (fit message member)
  rw [readBack, outputOf_eq, sent, pieces_lines fit]
  simp [Function.comp_def, lines]

/-- The largest numbers, and texts of all kinds of characters between log texts. -/
theorem readBack_sample :
    let text := setText (2 ^ 64 - 1) "a\n\"\\\x01\x7fé"
    let cursor := setCursor 0 ⟨2 ^ 32 - 1, 0⟩
    let tile := status (some ⟨true, false, some "/ä\t", ["\r\n", ""], []⟩)
    let events := [.sent text, .log "\n", .sent cursor, .spawn "x" none, .sent tile]
    text.IsLine text.line ∧
      readBack (Program.outputOf events) = ([some text, some cursor, some tile], []) := by
  intro text cursor tile events
  -- The number is the largest that fits.
  have fits : text.Fits := by
    show 2 ^ 64 - 1 < 2 ^ 64
    decide
  have fit : ∀ message ∈ events.filterMap Event.message?, message.Fits := by
    show ∀ message ∈ [text, cursor, tile], message.Fits
    simp [text, cursor, tile, Fits]
  exact ⟨readBack_output.1 text fits, readBack_output.2 events fit⟩

end Outgoing

end FormatPipeline
