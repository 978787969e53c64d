import FormatPipeline.Sandbox.Printing
import FormatPipeline.Sandbox.Tools.Basic

/-! The program that prints its arguments with a format; it knows more than the shell's own command. -/

namespace FormatPipeline.Sandbox

/-- What a backslash and what follows it stand for. -/
inductive RichEscape where
  | bytes (bytes : List UInt8) (rest : List Char)
  /-- Nothing more is printed. -/
  | stop
  | fault (fault : PrintFault)

/-- The text by which a character is shown that has no byte of its own. -/
def universalText (code : Nat) : String :=
  let digits := String.ofList ((Nat.toDigits 16 code).map Char.toUpper)
  let padded (count : Nat) : String := .ofList (List.replicate (count - digits.length) '0') ++ digits
  if code < 0x10000 then "\\u" ++ padded 4 else "\\U" ++ padded 8

/-- The character whose number is written with so many digits. -/
def readUniversal (letter : Char) (count : Nat) (cs : List Char) : RichEscape :=
  let digits := cs.take count
  if digits.length < count ∨ !digits.all (Shell.isDigitOf 16) then .fault .noHexadecimal
  else
    let code := Shell.ofDigits 16 digits
    if 0xd800 ≤ code ∧ code ≤ 0xdfff then
      .fault (.badCharacter (.ofList ('\\' :: letter :: digits.map Char.toLower)))
    else
      let bytes := if code < 128 then [.ofNat code] else Text.toBytes (universalText code)
      .bytes bytes (cs.drop count)

/-- Reads what follows a backslash; in an argument a zero may stand in front of octal digits. -/
def readRichEscape (zeroLeads : Bool) (cs : List Char) : RichEscape :=
  match cs with
  | [] => .bytes [92] []
  | 'c' :: _ => .stop
  | '"' :: rest => .bytes [34] rest
  | 'u' :: rest => readUniversal 'u' 4 rest
  | 'U' :: rest => readUniversal 'U' 8 rest
  | 'x' :: rest =>
    let digits := (rest.take 2).takeWhile (Shell.isDigitOf 16)
    if digits.isEmpty then .fault .noHexadecimal
    else .bytes [.ofNat (Shell.ofDigits 16 digits)] (rest.drop digits.length)
  | c :: rest =>
    if isOctal c then
      let cs := if zeroLeads && c = '0' then rest else cs
      let digits := octalDigits cs
      .bytes [.ofNat (Shell.ofDigits 8 digits)] (cs.drop digits.length)
    else match escapeLetter? c with
      | some byte => .bytes [byte] rest
      | none => .bytes (92 :: Text.toBytes c.toString) rest

namespace Printed

/-- Ends everything without a fault, whatever was complained about before. -/
def finish (p : Printed) : Printed := { p with failure := some 0, stops := true }

/-- Prints an argument with the escapes in it. -/
def emitEscaped : Nat → List Char → Printed → Printed
  | 0, _, p | _, [], p => p
  | fuel + 1, '\\' :: cs, p =>
    match readRichEscape true cs with
    | .stop => p.finish
    | .fault fault => p.giveUp fault
    | .bytes bytes rest => emitEscaped fuel rest (p.emit bytes)
  | fuel + 1, c :: rest, p => emitEscaped fuel rest (p.emit (Text.toBytes c.toString))

/-- Warns of what follows a character that stands for a number. -/
def warn (p : Printed) : Printed :=
  match (p.arguments.headD "").toList with
  | '"' :: _ :: c :: rest | '\'' :: _ :: c :: rest => p.complain (.moreThanCharacter (.ofList (c :: rest)))
  | _ => p

end Printed

/-- A number in a layout, and what follows it; a star takes an argument, which must not be too large. -/
def readLimitedMeasure (kind : String) (p : Printed) (cs : List Char) :
    Option Int × Printed × List Char :=
  match cs with
  | '*' :: rest =>
    if p.arguments.isEmpty then (some 0, p, rest)
    else
      let argument := p.arguments.headD ""
      let (value, p) := p.nextInteger Shell.leastInteger Shell.greatestInteger
      let isLarge := 2147483647 < value || (kind == "field width" && value < -2147483648)
      (some value, if isLarge then p.giveUp (.badMeasure kind argument) else p, rest)
  | cs => readMeasure p cs

/-- The layout at the front of a conversion, what follows it, and whether it has a precision. -/
def readLimitedLayout (p : Printed) (cs : List Char) : Layout × Printed × List Char × Bool :=
  let flags := cs.takeWhile fun c => "-+ #0'I".toList.contains c
  let (width, p, rest) := readLimitedMeasure "field width" p (cs.drop flags.length)
  match rest with
  | '.' :: behind =>
    if p.failure.isSome then (⟨flags, width.getD 0, none⟩, p, rest, true)
    else
      let (precision, p, rest) := readLimitedMeasure "precision" p behind
      let precision := match precision with
        | some n => if n < 0 then none else some n.toNat
        | none => some 0
      (⟨flags, width.getD 0, precision⟩, p, rest, true)
  | rest => (⟨flags, width.getD 0, none⟩, p, rest, false)

/-- Whether a conversion goes together with flags and a precision. -/
def suits (flags : List Char) (hasPrecision : Bool) (conversion : Char) : Bool :=
  let among (letters : String) : Bool := letters.toList.contains conversion
  among "cdeEfFgGiosuxX" &&
    !((flags.contains '\'' || flags.contains 'I') && among "ceEosxX") &&
    !(flags.contains '#' && among "cdisu") && !(flags.contains '0' && among "cs") &&
    !(hasPrecision && among "c")

/-- Prints arguments in one pass through a format. -/
def printRichOnce : Nat → List Char → Printed → Printed
  | 0, _, p | _, [], p => p
  | fuel + 1, '%' :: '%' :: rest, p => printRichOnce fuel rest (p.emit [37])
  | fuel + 1, '%' :: 'b' :: rest, p =>
    let (argument, p) := p.next
    let p := Printed.emitEscaped (argument.length + 1) argument.toList p
    if p.failure.isSome then p else printRichOnce fuel rest p
  | fuel + 1, '%' :: 'q' :: rest, p =>
    let shown := if p.arguments.isEmpty then "" else Text.namedIfNeeded (p.arguments.headD "")
    printRichOnce fuel rest (p.next.2.emit (Text.toBytes shown))
  | fuel + 1, '%' :: cs, p =>
    let (layout, p, rest, hasPrecision) := readLimitedLayout p cs
    let rest := rest.dropWhile fun c => "lLhjtz".toList.contains c
    if p.failure.isSome then p
    else
      let conversion := rest.headD '\x00'
      if suits layout.flags hasPrecision conversion && layout.isPossible then
        let p := if "diouxXeEfFgG".toList.contains conversion then p.warn else p
        printRichOnce fuel rest.tail ((convert? p layout conversion).getD p)
      else
        let directive := '%' :: cs.take (cs.length - rest.length) ++ rest.take 1
        p.giveUp (.badConversion (.ofList directive))
  | fuel + 1, '\\' :: cs, p =>
    match readRichEscape false cs with
    | .stop => p.finish
    | .fault fault => p.giveUp fault
    | .bytes bytes rest => printRichOnce fuel rest (p.emit bytes)
  | fuel + 1, c :: rest, p => printRichOnce fuel rest (p.emit (Text.toBytes c.toString))

/-- Prints arguments with a format, which is used again while it takes arguments. -/
def printRich : Nat → List Char → Printed → Printed
  | 0, _, p => p
  | fuel + 1, format, p =>
    let printed := printRichOnce (format.length + 1) format p
    let goesOn := printed.failure.isNone && !printed.arguments.isEmpty &&
      printed.arguments.length < p.arguments.length
    if goesOn then printRich fuel format printed else printed

/-- Prints arguments with a format. -/
def runPrintfTool : Tool := fun job name arguments =>
  match if arguments.head? = some "--" then arguments.tail else arguments with
  | [] => job.blameUse 1 name "missing operand"
  | format :: arguments =>
    let printed := printRich (arguments.length + 1) format.toList (.ofArguments arguments)
    let job := printed.complaints.foldl (fun (job : Job) fault =>
      let blamed := job.blame 1 name fault.toolMessage
      if fault.isWarning then blamed.ended job.status else blamed) (job.ended 0)
    let job := if printed.stops then job.ended 0
      else match printed.failure, printed.arguments with
        | none, argument :: _ => job.write 2 (name ++ ": warning: ignoring excess arguments, starting with " ++
            Text.cited argument ++ "\n")
        | _, _ => job
    job.writeBytes 1 printed.bytes

end FormatPipeline.Sandbox
