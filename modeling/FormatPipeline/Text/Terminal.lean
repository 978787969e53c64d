import FormatPipeline.Text.Utf8

/-! A text without the codes on which a terminal would act. -/

namespace FormatPipeline.Text

/-- What the next byte that is sent to a terminal belongs to. -/
inductive TerminalMode where
  /-- The text itself. -/
  | plain
  /-- The rest of a character in which a string ended, or else the text. -/
  | remainder
  /-- A code that has just begun. -/
  | escape
  /-- A code of which only the last byte is still to come, perhaps behind some others. -/
  | ending
  /-- A code with parameters, which a letter ends. -/
  | parameters
  /-- A title, which a bell ends. -/
  | title
  /-- The beginning of a device string, which may have parameters. -/
  | device
  /-- The parameters of a device string. -/
  | deviceParameters
  /-- A device string of which only the letter in front of its text is still to come. -/
  | deviceEnding
  /-- A string that only the next code or a terminator ends. -/
  | hidden
  deriving DecidableEq, Repr

namespace TerminalMode

/-- Whether a byte is shown although it is a control code: tabs, line ends and page breaks are. -/
def isLayout (byte : UInt8) : Bool := byte == 9 || byte == 10 || byte == 12 || byte == 13

/-- Whether the mode belongs to the text. -/
def isText (mode : TerminalMode) : Bool := mode == .plain || mode == .remainder

/-- Whether the mode takes control codes for parts of a string. -/
def isString (mode : TerminalMode) : Bool :=
  mode == .title || mode == .device || mode == .deviceParameters || mode == .deviceEnding ||
    mode == .hidden

/-- Whether a byte goes on with a character that another byte began. -/
def isContinuation (byte : UInt8) : Bool := 0x80 ≤ byte && byte < 0xc0

/-- Whether a byte is shown; one that is shown ends whatever it stands in. -/
def shows (mode : TerminalMode) (byte : UInt8) : Bool :=
  (isLayout byte && !mode.isString) ||
    (mode.isText && 0x20 ≤ byte && byte != 0x7f && !(mode == .remainder && isContinuation byte))

/-- What the byte behind the beginning of a code makes of it. -/
def behindEscape (byte : UInt8) : TerminalMode :=
  if byte = 0x5b then .parameters
  else if byte = 0x5d then .title
  else if byte = 0x50 then .device
  else if byte = 0x58 ∨ byte = 0x5e ∨ byte = 0x5f then .hidden
  else if 0x20 ≤ byte ∧ byte < 0x30 then .ending
  else if 0x30 ≤ byte ∧ byte < 0x7f then .plain
  else .escape

/-- What a byte in front of the text of a device string makes of it. -/
def inDevice (mode : TerminalMode) (byte : UInt8) : TerminalMode :=
  if 0x40 ≤ byte ∧ byte < 0x7f then .hidden
  else if 0x20 ≤ byte ∧ byte < 0x30 then .deviceEnding
  else if 0x30 ≤ byte ∧ byte < 0x40 then
    -- A private sign is a parameter only in front of all others.
    if mode = .device ∨ (mode = .deviceParameters ∧ byte < 0x3c) then .deviceParameters else .hidden
  else mode

/-- What the byte behind one that is not shown belongs to. -/
def next (mode : TerminalMode) (byte : UInt8) : TerminalMode :=
  if byte = 0x1b then .escape
  -- Two control codes break off everything.
  else if byte = 0x18 ∨ byte = 0x1a then .plain
  else match mode with
    | .plain => .plain
    | .remainder => .remainder
    | .escape => behindEscape byte
    | .ending => if 0x30 ≤ byte ∧ byte < 0x7f then .plain else .ending
    | .parameters => if 0x40 ≤ byte ∧ byte < 0x7f then .plain else .parameters
    | .title => if byte = 7 then .plain else .title
    | .device | .deviceParameters | .deviceEnding => mode.inDevice byte
    -- The terminator may be a part of a character.
    | .hidden => if byte = 0x9c then .remainder else .hidden

end TerminalMode

/-- The bytes that a terminal shows. -/
def shownBytes : TerminalMode → List UInt8 → List UInt8
  | _, [] => []
  | mode, byte :: rest =>
    if mode.shows byte then byte :: shownBytes .plain rest else shownBytes (mode.next byte) rest

/-- The text that a terminal shows. -/
def shown (text : String) : String := ofBytes (shownBytes .plain (toBytes text))

end FormatPipeline.Text
