import FormatPipeline.Sandbox.Tools.Basic

/-! Commands that are put together from items of the input. -/

namespace FormatPipeline.Sandbox

/-- Items that are read from a text, line by line. -/
structure ItemReading where
  /-- The lines that are complete, the last one first, each with its items in order. -/
  lines : List (List String)
  /-- The items of the line under way, the last one first. -/
  line : List String
  /-- The item under way, its last character first. -/
  item : Option (List Char)
  quote : Option Char
  /-- Whether the next character is protected. -/
  isProtected : Bool
  /-- The quote that is not closed on its line, behind which nothing is read. -/
  unclosed : Option Char

namespace ItemReading

/-- Nothing has been read. -/
def start : ItemReading := ⟨[], [], none, none, false, none⟩

/-- Adds a character to the item under way. -/
def push (r : ItemReading) (c : Char) : ItemReading :=
  { r with item := some (c :: r.item.getD []), isProtected := false }

/-- Ends the item under way. -/
def endItem (r : ItemReading) : ItemReading :=
  match r.item with
  | some item => { r with line := .ofList item.reverse :: r.line, item := none }
  | none => r

/-- Ends the line under way; a line without items is none. -/
def endLine (r : ItemReading) : ItemReading :=
  let r := r.endItem
  if r.line.isEmpty then r else { r with lines := r.line.reverse :: r.lines, line := [] }

/-- Reads a character; on demand blanks do not end items. -/
def read (whole : Bool) (r : ItemReading) (c : Char) : ItemReading :=
  if r.unclosed.isSome then r
  else if r.isProtected then r.push c
  else match r.quote with
    | some quote =>
      if c = '\n' then { r with unclosed := some quote, item := none, quote := none }
      else if c = quote then { r with quote := none }
      else r.push c
    | none =>
      match c with
      | '\\' => { r with isProtected := true }
      | '\'' | '"' => { r with quote := some c, item := some (r.item.getD []) }
      -- Behind a blank the items of a line go on in the next one.
      | '\n' => if r.item.isSome then r.endLine else r
      | ' ' | '\t' => if whole && r.item.isSome then r.push c else r.endItem
      | c => r.push c

/-- What has been read of a text up to a quote that is not closed on its line, and that quote. -/
def readAll (whole : Bool) (text : List Char) : ItemReading × Option Char :=
  let r := text.foldl (read whole) start
  match r.quote with
  | some quote => ({ r with item := none }, some quote)
  | none => if r.unclosed.isSome then (r, r.unclosed) else (r.endLine, none)

end ItemReading

/-- The words of a command that is given as one text. -/
def commandWords (text : List Char) : List String :=
  match ItemReading.readAll false text with
  | (r, none) => r.lines.reverse.flatten
  | (_, some _) => []

/-- How commands are put together from items. -/
structure BatchPlan where
  /-- What stands between items, if it is not blanks and line ends. -/
  separator : Option UInt8 := none
  /-- The text that an item takes the place of. -/
  place : Option String := none
  /-- How many items a command gets at most. -/
  most : Option Nat := none
  /-- How many bytes a command has at most. -/
  size : Nat := 131072
  /-- How many lines a command gets at most. -/
  lines : Option Nat := none
  /-- The item that ends all items. -/
  last : Option String := none
  /-- The file that the items are in. -/
  file : Option String := none
  /-- Whether no command runs without items. -/
  needsItems : Bool := false
  /-- Whether the commands are told. -/
  tells : Bool := false
  /-- Whether a command without room for all its items is given up. -/
  gives : Bool := false
  /-- What is said about options that exclude each other. -/
  warnings : List String := []
  command : List String := []

/-- Lists cut into groups of a size. -/
def groupsOf {α : Type} (size : Nat) : Nat → List α → List (List α)
  | 0, _ | _, [] => []
  | fuel + 1, items => items.take size :: groupsOf size fuel (items.drop size)

/-- A text in which another text is replaced everywhere; the number bounds how often. -/
def replacePlace (place item : List Char) : Nat → List Char → List Char
  | 0, text => text
  | _, [] => []
  | fuel + 1, c :: rest =>
    if !place.isEmpty && place.isPrefixOf (c :: rest) then
      item ++ replacePlace place item fuel ((c :: rest).drop place.length)
    else c :: replacePlace place item fuel rest

namespace BatchPlan

/-- The options of a program that puts commands together. -/
def rules : List String :=
  ["0|null", "d|delimiter:", "I:", "i|replace?", "n|max-args:", "L|max-lines:", "l?",
    "r|no-run-if-empty", "t|verbose", "P|max-procs:", "s|max-chars:", "x|exit", "E:", "e|eof?",
    "p|interactive", "o|open-tty", "a|arg-file:"]

/-- The byte that the digits of an escape stand for. -/
def escapedSeparator (text : String) (base : Nat) (digits : List Char) : Except String UInt8 :=
  let fault (what : String) : Except String UInt8 :=
    .error ("Invalid escape sequence " ++ text ++ " in input delimiter specification" ++ what ++ ".")
  let own := digits.takeWhile (Shell.isDigitOf base)
  let rest := digits.drop own.length
  let value := Shell.ofDigits base own
  if 255 < value then
    fault ("; character values must not exceed " ++ if base = 16 then "ff" else "377")
  else if rest.isEmpty then .ok value.toUInt8
  else fault ("; trailing characters " ++ .ofList rest ++ " not recognised")

/-- The byte that stands between items: a character or an escape. -/
def separatorByte (text : String) : Except String UInt8 :=
  match Text.toBytes text, text.toList with
  | [byte], _ => .ok byte
  | _, '\\' :: c :: rest =>
    match "abfnrtv\\".toList.idxOf? c with
    | some index => .ok (([7, 8, 12, 10, 13, 9, 11, 92] : List UInt8).getD index 92)
    | none =>
      if c = 'x' then escapedSeparator text 16 rest
      else if c.isDigit then escapedSeparator text 8 (c :: rest)
      else .error ("Invalid escape sequence " ++ text ++ " in input delimiter specification.")
  | _, _ =>
    .error ("Invalid input delimiter specification " ++ text ++ ": the delimiter must be either a " ++
      "single character or an escape sequence starting with \\.")

/-- The number that an option asks for, which must not be too small. -/
def readNumber (option text : String) (least : Nat) : Except String Nat :=
  let digits := if text.startsWith "-" then (text.drop 1).toString else text
  match Shell.decimal? digits with
  | none => .error ("invalid number \"" ++ text ++ "\" for -" ++ option ++ " option")
  | some number =>
    if number < least ∨ (text.startsWith "-" ∧ 0 < number) then
      .error ("value " ++ text ++ " for -" ++ option ++ " option should be >= " ++ toString least)
    else .ok number

/-- A plan without what an option excludes that is shown in a certain way. -/
def without (plan : BatchPlan) (others : List String) (shown : String) : BatchPlan :=
  let taken : List (String × Bool) := [("max-args", plan.most.isSome), ("max-lines", plan.lines.isSome),
    ("replace", plan.place.isSome)]
  let excluded := (taken.filter fun entry => entry.2 && others.contains entry.1).map (·.1)
  { plan with
    most := if excluded.contains "max-args" then none else plan.most
    lines := if excluded.contains "max-lines" then none else plan.lines
    place := if excluded.contains "replace" then none else plan.place
    warnings := plan.warnings ++ excluded.map fun name =>
      "warning: options --" ++ name ++ " and " ++ shown ++
        " are mutually exclusive, ignoring previous --" ++ name ++ " value" }

/-- Takes in an option; a fault comes with whether help is offered. -/
def withOption (plan : BatchPlan) (option : String × Option String) :
    Except (String × Bool) BatchPlan := do
  let text := option.2.getD ""
  let number (least : Nat) : Except (String × Bool) Nat :=
    (readNumber option.1 text least).mapError (·, true)
  let replacing (place : String) : BatchPlan :=
    { plan.without ["max-args", "max-lines"] "--replace/-I/-i" with place := some place }
  match option.1 with
  | "0" => return { plan with separator := some 0 }
  | "d" => return { plan with separator := some (← (separatorByte text).mapError (·, false)) }
  | "I" => return replacing text
  | "i" => return replacing (option.2.getD "\x7b\x7d")
  | "n" =>
    let most ← number 1
    -- Each place takes one item anyway.
    if most = 1 ∧ plan.place.isSome then return plan
    return { plan.without ["max-lines", "replace"] "--max-args/-n" with most := some most }
  | "L" =>
    let lines ← number 1
    return { plan.without ["max-args", "replace"] "-L" with lines := some lines, gives := true }
  | "l" =>
    let lines ← if option.2.isSome then number 1 else pure 1
    return { plan.without ["max-args", "replace"] "--max-lines/-l" with lines := some lines, gives := true }
  | "P" =>
    let _ ← number 0
    return plan
  | "s" =>
    let size ← if text = "0" then pure 0 else number 1
    let told := if size = 0 then ["value 0 for -s option should be >= 1"] else []
    return { plan with size := max size 1, warnings := plan.warnings ++ told }
  | "E" => return { plan with last := if text.isEmpty then none else some text }
  | "e" => return { plan with last := option.2 }
  | "a" => return { plan with file := some text }
  | "r" => return { plan with needsItems := true }
  | "t" => return { plan with tells := true }
  | "x" => return { plan with gives := true }
  | _ => return plan

/-- Reads a plan from arguments; a fault comes with whether help is offered. -/
def read (arguments : List String) : Except (String × Bool) BatchPlan := do
  let given ← (readWords (rules.map OptionRule.ofText) false none arguments).mapError (·, true)
  let plan ← given.options.foldlM withOption {}
  return { plan with command := if given.operands.isEmpty then ["echo"] else given.operands }

/-- Lines of items as far as they were read. -/
structure Items where
  lines : List (List String)
  /-- The items of a line that breaks off. -/
  rest : List String
  /-- What is wrong behind them. -/
  fault : Option String

/-- The items in front of the first one with a property, at which there may be a fault. -/
def Items.upTo (items : Items) (ends : String → Bool) (fault : Option String) : Items :=
  let (whole, others) := items.lines.span (!List.any · ends)
  let front (line : List String) : List String := line.takeWhile (!ends ·)
  match others with
  | line :: _ => ⟨whole, front line, fault⟩
  | [] => if items.rest.any ends then ⟨whole, front items.rest, fault⟩ else items

/-- The items among bytes. -/
def items (plan : BatchPlan) (bytes : List UInt8) : Items :=
  match plan.separator with
  | some separator => ⟨(bareLines separator bytes).map fun item => [Text.ofBytes item], [], none⟩
  | none =>
    let (r, unclosed) := ItemReading.readAll plan.place.isSome (Text.ofBytes bytes).toList
    let fault := unclosed.map fun quote =>
      "unmatched " ++ (if quote = '"' then "double" else "single") ++
        " quote; by default quotes are special to xargs unless you use the -0 option"
    let items : Items := ⟨r.lines.reverse, r.line.reverse, fault⟩
    match plan.last with
    | some last => items.upTo (· == last) none
    | none => items

/-- How many bytes words take, each with an end of its own. -/
def sizeOf (words : List String) : Nat := (words.map fun word => word.utf8ByteSize + 1).foldl (· + ·) 0

/-- Items cut into groups for which there is room; those of the group under way are in reverse order. -/
def groupsWithin (room : Nat) : Nat → List String → List String → List (List String)
  | _, [], [] => []
  | _, reversed, [] => [reversed.reverse]
  | used, reversed, item :: rest =>
    let more := sizeOf [item]
    if room < used + more ∧ reversed ≠ [] then
      reversed.reverse :: groupsWithin room more [item] rest
    else groupsWithin room (used + more) (item :: reversed) rest

/-- Commands with items in their places, up to the first one that is too long. -/
def filled (plan : BatchPlan) (place : String) (items : List String) :
    List (List String) × Option String :=
  let commands := items.map fun item => plan.command.map fun word =>
    .ofList (replacePlace place.toList item.toList word.length word.toList)
  let (short, rest) := commands.span fun command => sizeOf command ≤ plan.size
  (short, rest.head?.map fun command =>
    if command.any fun word => plan.size < sizeOf [word] then "command too long"
    else "argument list too long")

/-- The groups of items for the commands, up to the first one for which there is no room. -/
def grouped (plan : BatchPlan) (room : Nat) (items : Items) : List (List String) × Option String :=
  -- A command that must not be cut waits for all its items.
  let waits := plan.gives && items.fault.isSome
  let lines := if items.rest.isEmpty || waits then items.lines else items.lines ++ [items.rest]
  let all := if waits then (items.lines ++ [items.rest]).flatten else lines.flatten
  let groups := match plan.most, plan.lines with
    | some most, _ =>
      groupsOf most all.length (if waits then all.take (all.length / most * most) else all)
    | none, some count =>
      (groupsOf count lines.length
        (if waits then lines.take (lines.length / count * count) else lines)).map List.flatten
    | none, none => if all.isEmpty || waits then [] else [all]
  if plan.gives && (plan.most.isSome || plan.lines.isSome) then
    let (short, rest) := groups.span fun group => sizeOf group ≤ room
    (short, if rest.isEmpty then none else some "argument list too long")
  else (groups.flatMap (groupsWithin room 0 []), none)

/-- A word up to the first null character in it. -/
def ended (word : String) : String := .ofList (word.toList.takeWhile (· != '\x00'))

/-- The commands that are put together from the items among bytes, and what is wrong behind them. -/
def batches (plan : BatchPlan) (bytes : List UInt8) : List (List String) × Option String :=
  -- With places for items nothing of the command is fixed beforehand.
  let fixed := if plan.place.isSome then 0 else sizeOf plan.command
  if plan.size < fixed then
    ([], some "cannot fit single argument within argument list size limit")
  else
    let room := plan.size - fixed
    let items := (plan.items bytes).upTo (fun item => decide (room < sizeOf [item]))
      (some "argument line too long")
    let (commands, fault) := match plan.place with
      | some place => plan.filled place items.lines.flatten
      | none =>
        let (groups, fault) := plan.grouped room items
        let isIdle := groups.isEmpty && (fault.or items.fault).isNone
        ((if isIdle && !plan.needsItems then [[]] else groups).map (plan.command ++ ·), fault)
    (commands.map fun command => command.map ended, fault.or items.fault)

/-- What is said about null characters among bytes that they do not stand between. -/
def nullWarning : String :=
  "WARNING: a NUL character occurred in the input.  It cannot be passed through in the argument " ++
    "list.  Did you mean to use the --null option?"

/-- What is said in front of all commands. -/
def openingWarnings (plan : BatchPlan) (bytes : List UInt8) : List String :=
  if plan.separator.isNone && bytes.contains 0 then [nullWarning] else []

end BatchPlan

end FormatPipeline.Sandbox
