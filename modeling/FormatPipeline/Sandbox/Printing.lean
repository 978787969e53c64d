import FormatPipeline.Shell.Number
import FormatPipeline.Text.Named
import FormatPipeline.Text.Pieces
import FormatPipeline.Text.Places
import FormatPipeline.Text.Utf8

/-! What a shell's commands for printing make of their arguments. -/

namespace FormatPipeline.Sandbox

/-- Whether a character is an octal digit. -/
def isOctal (c : Char) : Bool := '0' ≤ c && c ≤ '7'

/-- The byte that a letter behind a backslash stands for. -/
def escapeLetter? : Char → Option UInt8
  | 'a' => some 7
  | 'b' => some 8
  | 'e' => some 27
  | 'f' => some 12
  | 'n' => some 10
  | 'r' => some 13
  | 't' => some 9
  | 'v' => some 11
  | '\\' => some 92
  | _ => none

/-- The octal digits behind a backslash, of which there are at most three. -/
def octalDigits (cs : List Char) : List Char := (cs.take 3).takeWhile isOctal

/-- The bytes that a backslash and what follows it stand for, and what is left. -/
def readEscape (cs : List Char) : List UInt8 × List Char :=
  match octalDigits cs with
  | [] =>
    match cs with
    | [] => ([92], [])
    | c :: rest =>
      match escapeLetter? c with
      | some byte => ([byte], rest)
      | none => (92 :: Text.toBytes c.toString, rest)
  | digits => ([.ofNat (Shell.ofDigits 8 digits)], cs.drop digits.length)

/-- The bytes of a text with escapes, and whether the text asks for nothing to follow it. -/
def unescape : Nat → List Char → List UInt8 × Bool
  | 0, _ | _, [] => ([], false)
  | _ + 1, '\\' :: 'c' :: _ => ([], true)
  | fuel + 1, '\\' :: rest =>
    -- A zero may stand in front of three octal digits.
    let rest := match rest with
      | '0' :: c :: others => if isOctal c then c :: others else rest
      | rest => rest
    let (bytes, rest) := readEscape rest
    let (others, stops) := unescape fuel rest
    (bytes ++ others, stops)
  | fuel + 1, c :: rest =>
    let (others, stops) := unescape fuel rest
    (Text.toBytes c.toString ++ others, stops)

/-- What echo prints for its arguments. -/
def echo (arguments : List String) : List UInt8 :=
  let (words, ending) : List String × List UInt8 := match arguments with
    | "-n" :: rest => (rest, [])
    | rest => (rest, [10])
  let text := (Text.joinWith " " words).toList
  match unescape (text.length + 1) text with
  | (bytes, true) => bytes
  | (bytes, false) => bytes ++ ending

/-- How an argument is laid out. -/
structure Layout where
  flags : List Char
  width : Int
  precision : Option Nat
  deriving DecidableEq, Repr

namespace Layout

/-- Whether the layout asks for no more than the system can print. -/
def isPossible (layout : Layout) : Bool :=
  layout.width.natAbs < 2147483648 && layout.precision.all (· < 2147483648)

/-- Whether the argument stands at the left end. -/
def isLeft (layout : Layout) : Bool := layout.flags.contains '-' || layout.width < 0

/-- Fills bytes up to the width; zeros stand behind what leads. -/
def fill (layout : Layout) (zeros : Bool) (lead bytes : List UInt8) : List UInt8 :=
  let missing := layout.width.natAbs - (lead.length + bytes.length)
  if layout.isLeft then lead ++ bytes ++ List.replicate missing 32
  else if zeros then lead ++ List.replicate missing 48 ++ bytes
  else List.replicate missing 32 ++ lead ++ bytes

/-- The sign that a number shows. -/
def sign (layout : Layout) (negative : Bool) : List UInt8 :=
  if negative then [45]
  else if layout.flags.contains '+' then [43]
  else if layout.flags.contains ' ' then [32] else []

/-- A text cut to the precision. -/
def text (layout : Layout) (bytes : List UInt8) : List UInt8 :=
  layout.fill false [] (match layout.precision with
    | some count => bytes.take count
    | none => bytes)

/-- Digits behind what leads, as many as the precision asks for. -/
def digits (layout : Layout) (lead : List UInt8) (digits : String) : List UInt8 :=
  let bytes := if digits = "0" ∧ layout.precision = some 0 then [] else Text.toBytes digits
  let bytes := List.replicate ((layout.precision.getD 0) - bytes.length) 48 ++ bytes
  layout.fill (layout.flags.contains '0' && layout.precision.isNone) lead bytes

/-- A whole number with a sign. -/
def signed (layout : Layout) (n : Int) : List UInt8 :=
  layout.digits (layout.sign (n < 0)) (toString n.natAbs)

/-- A whole number without a sign, written in a way that a letter asks for. -/
def unsigned (layout : Layout) (conversion : Char) (n : Nat) : List UInt8 :=
  let marked := layout.flags.contains '#'
  let hexadecimal := String.ofList (Nat.toDigits 16 n)
  match conversion with
  | 'o' =>
    let octal := String.ofList (Nat.toDigits 8 n)
    layout.digits [] (if marked && n != 0 then "0" ++ octal else octal)
  | 'x' => layout.digits (if marked && n != 0 then [48, 120] else []) hexadecimal
  | 'X' =>
    layout.digits (if marked && n != 0 then [48, 88] else [])
      (.ofList (hexadecimal.toList.map Char.toUpper))
  | _ => layout.digits [] (toString n)

/-- A quantity, written in a way that a letter asks for. -/
def quantity (layout : Layout) (conversion : Char) (value : Quantity) : List UInt8 :=
  let pointed := layout.flags.contains '#'
  let places := layout.precision.getD 6
  let lead := layout.sign value.isNegative
  let cased (text : List Char) : List UInt8 :=
    Text.toBytes (.ofList (if conversion.isUpper then text.map Char.toUpper else text))
  match value with
  | .infinite _ => layout.fill false lead (cased "inf".toList)
  | .undefined => layout.fill false lead (cased "nan".toList)
  | .finite _ magnitude =>
    let text := match conversion.toLower with
      | 'f' => magnitude.fixedText places pointed
      | 'e' => magnitude.scientificText places pointed 'e'
      | _ => magnitude.generalText places pointed 'e'
    layout.fill (layout.flags.contains '0') lead (cased text)

end Layout

/-- What can be wrong with a format or with an argument for it. -/
inductive PrintFault where
  | noNumber (argument : String)
  /-- Something follows the number. -/
  | moreThanNumber (argument : String)
  | outOfRange (argument : String)
  /-- A conversion without a letter. -/
  | noConversion (directive : String)
  | badConversion (directive : String)
  /-- A width or a precision that cannot be. -/
  | badMeasure (kind argument : String)
  | noHexadecimal
  | badCharacter (text : String)
  /-- Something follows a character that stands for a number. -/
  | moreThanCharacter (text : String)
  deriving DecidableEq, Repr

namespace PrintFault

/-- What the shell says about a fault. -/
def message : PrintFault → String
  | noNumber argument => argument ++ ": expected numeric value"
  | moreThanNumber argument => argument ++ ": not completely converted"
  | outOfRange argument => argument ++ ": Numerical result out of range"
  | noConversion _ => "missing format character"
  | badConversion directive => directive ++ ": invalid directive"
  | badMeasure .. | noHexadecimal | badCharacter _ | moreThanCharacter _ => "xvsnprintf failed"

/-- What the program of the same name says about a fault. -/
def toolMessage : PrintFault → String
  | noNumber argument => Text.cited argument ++ ": expected a numeric value"
  | moreThanNumber argument => Text.cited argument ++ ": value not completely converted"
  | outOfRange argument => Text.cited argument ++ ": Numerical result out of range"
  | noConversion directive | badConversion directive => directive ++ ": invalid conversion specification"
  | badMeasure kind argument => "invalid " ++ kind ++ ": " ++ Text.cited argument
  | noHexadecimal => "missing hexadecimal number in escape"
  | badCharacter text => "invalid universal character name " ++ text
  | moreThanCharacter text =>
    "warning: " ++ text ++ ": character(s) following character constant have been ignored"

/-- Whether the fault leaves the status as it is. -/
def isWarning (fault : PrintFault) : Bool := fault matches .moreThanCharacter _

end PrintFault

/-- What has been printed, what was complained about, and whether nothing more can be printed. -/
structure Printed where
  bytes : List UInt8
  complaints : List PrintFault
  /-- The status if printing was given up. -/
  failure : Option Nat
  /-- Whether the text asks for nothing to follow it. -/
  stops : Bool
  arguments : List String

namespace Printed

/-- Nothing has been printed for some arguments. -/
def ofArguments (arguments : List String) : Printed := ⟨[], [], none, false, arguments⟩

/-- Prints bytes. -/
def emit (p : Printed) (bytes : List UInt8) : Printed := { p with bytes := p.bytes ++ bytes }

/-- Complains. -/
def complain (p : Printed) (fault : PrintFault) : Printed :=
  { p with complaints := p.complaints ++ [fault] }

/-- Gives up. -/
def giveUp (p : Printed) (fault : PrintFault) : Printed := { p.complain fault with failure := some 2 }

/-- Takes the next argument; missing ones are empty. -/
def next (p : Printed) : String × Printed :=
  (p.arguments.headD "", { p with arguments := p.arguments.tail })

/-- Complains about an argument that is not wholly a number, or one that does not fit. -/
def check (p : Printed) (argument : String) (rest : Option (List Char)) (fits : Bool) : Printed :=
  match rest with
  | none =>
    if argument.isEmpty then p else p.complain (.noNumber argument)
  | some (_ :: _) => p.complain (.moreThanNumber argument)
  | some [] => if fits then p else p.complain (.outOfRange argument)

/-- Takes an argument that is a whole number between limits; behind a quote it is a character. -/
def nextInteger (p : Printed) (least greatest : Int) : Int × Printed :=
  let (argument, p) := p.next
  match argument.toList with
  | '"' :: rest | '\'' :: rest =>
    (((Text.toBytes (.ofList (rest.take 1))).head?.map (·.toNat)).getD 0, p)
  | cs =>
    match Shell.leadingInteger? cs with
    | none => (0, p.check argument none true)
    | some (value, rest) =>
      let kept := max least (min greatest value)
      (kept, p.check argument (some rest) (kept == value))

/-- Takes an argument that is a quantity. -/
def nextQuantity (p : Printed) : Quantity × Printed :=
  let (argument, p) := p.next
  match argument.toList with
  | '"' :: rest | '\'' :: rest =>
    let code := ((Text.toBytes (.ofList (rest.take 1))).head?.map (·.toNat)).getD 0
    (.ofDecimal false code 0, p)
  | cs =>
    let hexadecimal := match cs with
      | '0' :: 'x' :: _ | '0' :: 'X' :: _ => true
      | _ => false
    match Shell.leadingInteger? cs, Quantity.read? cs with
    | some (value, rest), some _ | some (value, rest), none =>
      if hexadecimal then
        (.ofDecimal (value < 0) value.natAbs 0, p.check argument (some rest) true)
      else match Quantity.read? cs with
        | some (quantity, rest) =>
          let fits := match quantity with
            | .infinite _ => cs.any fun c => c == 'i' || c == 'I'
            | _ => true
          (quantity, p.check argument (some rest) fits)
        | none => (.zero, p.check argument none true)
    | none, some (quantity, rest) => (quantity, p.check argument (some rest) true)
    | none, none => (.zero, p.check argument none true)

end Printed

/-- A number in a layout: digits, or a star that takes an argument, of which thirty-two bits count. -/
def readMeasure (p : Printed) (cs : List Char) : Option Int × Printed × List Char :=
  match cs with
  | '*' :: rest =>
    let (value, p) := p.nextInteger Shell.leastInteger Shell.greatestInteger
    (some (value.bmod 4294967296), p, rest)
  | cs =>
    let digits := cs.takeWhile (·.isDigit)
    if digits.isEmpty then (none, p, cs)
    else (some (Shell.ofDigits 10 digits), p, cs.drop digits.length)

/-- The layout at the front of a conversion, and what follows it. -/
def readLayout (p : Printed) (cs : List Char) : Layout × Printed × List Char :=
  let flags := cs.takeWhile fun c => "-+ #0".toList.contains c
  let (width, p, rest) := readMeasure p (cs.drop flags.length)
  match rest with
  | '.' :: behind =>
    let (precision, p, rest) := readMeasure p behind
    let precision := match precision with
      | some n => if n < 0 then none else some n.toNat
      | none => some 0
    (⟨flags, width.getD 0, precision⟩, p, rest)
  | rest => (⟨flags, width.getD 0, none⟩, p, rest)

/-- Prints an argument in the way that a letter asks for; nothing if there is no such way. -/
def convert? (p : Printed) (layout : Layout) (conversion : Char) : Option Printed :=
  match conversion with
  | 'd' | 'i' =>
    let (n, p) := p.nextInteger Shell.leastInteger Shell.greatestInteger
    some (p.emit (layout.signed n))
  | 'o' | 'u' | 'x' | 'X' =>
    let (n, p) := p.nextInteger (-18446744073709551615) 18446744073709551615
    some (p.emit (layout.unsigned conversion (n.emod 18446744073709551616).toNat))
  | 'e' | 'E' | 'f' | 'F' | 'g' | 'G' =>
    let (value, p) := p.nextQuantity
    some (p.emit (layout.quantity conversion value))
  | 'c' =>
    let (argument, p) := p.next
    let bytes := (Text.toBytes argument).take 1
    some (p.emit (layout.fill false [] (if bytes.isEmpty then [0] else bytes)))
  | 's' =>
    let (argument, p) := p.next
    some (p.emit (layout.text (Text.toBytes argument)))
  | 'b' =>
    let (argument, p) := p.next
    let (bytes, stops) := unescape (argument.length + 1) argument.toList
    some { p.emit (layout.text bytes) with stops := stops }
  | _ => none

/-- Prints arguments in one pass through a format. -/
def printOnce : Nat → List Char → Printed → Printed
  | 0, _, p | _, [], p => p
  | fuel + 1, '%' :: '%' :: rest, p => printOnce fuel rest (p.emit [37])
  | fuel + 1, '%' :: cs, p =>
    let (layout, p, rest) := readLayout p cs
    match rest with
    | [] => p.giveUp (.noConversion (.ofList ('%' :: cs)))
    | conversion :: rest =>
      if !layout.isPossible then p.giveUp (.badMeasure "field width" "")
      else match convert? p layout conversion with
      | some p => if p.stops then p else printOnce fuel rest p
      | none =>
        let directive := '%' :: cs.take (cs.length - rest.length)
        p.giveUp (.badConversion (.ofList directive))
  | fuel + 1, '\\' :: rest, p =>
    let (bytes, rest) := readEscape rest
    printOnce fuel rest (p.emit bytes)
  | fuel + 1, c :: rest, p => printOnce fuel rest (p.emit (Text.toBytes c.toString))

/-- Prints arguments with a format, which is used again while there are arguments left. -/
def printAll : Nat → List Char → Printed → Printed
  | 0, _, p => p
  | fuel + 1, format, p =>
    let printed := printOnce (format.length + 1) format p
    let goesOn := printed.failure.isNone && !printed.stops && !printed.arguments.isEmpty &&
      printed.arguments.length != p.arguments.length
    if goesOn then printAll fuel format printed else printed

/-- Prints arguments with a format. -/
def printFormatted (format : String) (arguments : List String) : Printed :=
  printAll (arguments.length + 1) format.toList (.ofArguments arguments)

end FormatPipeline.Sandbox
