import FormatPipeline.Json.Value

/-! Reading JSON texts: the grammar of values, and which of the two faults a bad text has. -/

namespace FormatPipeline.Json

/-- Why a text is no JSON text. -/
inductive Fault where
  /-- The text stops before the value is complete. -/
  | unfinished
  /-- A character stands where the grammar has no place for it, or a number is out of range. -/
  | malformed
  deriving DecidableEq, Repr

/-- Containers nested this deeply are refused. -/
def depthLimit : Nat := 128

/-- The text without the blanks that JSON allows between tokens. -/
def skipBlanks (cs : List Char) : List Char :=
  cs.dropWhile fun c => c == ' ' || c == '\n' || c == '\t' || c == '\r'

/-- The value of a hexadecimal digit. -/
def hexValue? (c : Char) : Option Nat :=
  if '0' ≤ c ∧ c ≤ '9' then some (c.toNat - '0'.toNat)
  else if 'a' ≤ c ∧ c ≤ 'f' then some (c.toNat - 'a'.toNat + 10)
  else if 'A' ≤ c ∧ c ≤ 'F' then some (c.toNat - 'A'.toNat + 10)
  else none

/-- The number written by the four hexadecimal digits at the front of the text. -/
def readHex (cs : List Char) : Except Fault Nat :=
  -- Whether four bytes are left is checked before what they are.
  if (String.ofList (cs.take 4)).utf8ByteSize < 4 then .error .unfinished
  else match cs.take 4 |>.mapM hexValue? with
    | some [a, b, c, d] => .ok (((a * 16 + b) * 16 + c) * 16 + d)
    | _ => .error .malformed

/-- The character written by what follows `\u`, and how many characters that takes. -/
def readCodeUnits (cs : List Char) : Except Fault (Char × Nat) := do
  let first ← readHex cs
  if 0xDC00 ≤ first ∧ first ≤ 0xDFFF then throw .malformed
  if first < 0xD800 ∨ 0xDBFF < first then return (Char.ofNat first, 4)
  -- The first half of a pair must be followed by the second one.
  match cs.drop 4 with
  | [] => throw .unfinished
  | '\\' :: [] => throw .unfinished
  | '\\' :: 'u' :: rest =>
    let second ← readHex rest
    if second < 0xDC00 ∨ 0xDFFF < second then throw .malformed
    return (Char.ofNat ((first - 0xD800) * 0x400 + (second - 0xDC00) + 0x10000), 10)
  | _ => throw .malformed

/-- The character written by what follows a backslash, and how many characters that takes. -/
def readEscape : List Char → Except Fault (Char × Nat)
  | [] => .error .unfinished
  | '"' :: _ => .ok ('"', 1)
  | '\\' :: _ => .ok ('\\', 1)
  | '/' :: _ => .ok ('/', 1)
  | 'b' :: _ => .ok ('\x08', 1)
  | 'f' :: _ => .ok ('\x0c', 1)
  | 'n' :: _ => .ok ('\n', 1)
  | 'r' :: _ => .ok ('\r', 1)
  | 't' :: _ => .ok ('\t', 1)
  | 'u' :: rest => (readCodeUnits rest).map fun (c, used) => (c, used + 1)
  | _ => .error .malformed

/-- Reads the rest of a string up to its closing quote, first passing over `skip` characters. -/
def readChars (skip : Nat) (read : List Char) : List Char → Except Fault (List Char × List Char)
  | [] => .error .unfinished
  | c :: rest =>
    if 0 < skip then readChars (skip - 1) read rest
    else if c = '"' then .ok (read.reverse, rest)
    else if c = '\\' then
      match readEscape rest with
      | .error fault => .error fault
      | .ok (written, used) => readChars used (written :: read) rest
    else if c.toNat < 0x20 then .error .malformed
    else readChars 0 (c :: read) rest

/-- Reads the rest of a string whose opening quote has been read. -/
def readString (cs : List Char) : Except Fault (String × List Char) :=
  (readChars 0 [] cs).map fun (read, rest) => (String.ofList read, rest)

/-- The digits at the front of the text as numbers, and what follows them. -/
def spanDigits (cs : List Char) : List Nat × List Char :=
  ((cs.takeWhile Char.isDigit).map fun c => c.toNat - '0'.toNat, cs.dropWhile Char.isDigit)

/-- Appends digits as long as the number stays below `2 ^ 64`; the digits that no longer fit are left. -/
def absorb (significand : Nat) : List Nat → Nat × List Nat
  | [] => (significand, [])
  | digit :: rest =>
    if significand * 10 + digit < Nat.pow 2 64 then absorb (significand * 10 + digit) rest
    else (significand, digit :: rest)

/-- The parts of a number's text. -/
structure Numeral where
  negative : Bool
  whole : List Nat
  fraction : Option (List Nat)
  exponent : Option Int
  deriving Repr

/-- The number that a text denotes, unless it is out of range. -/
def Numeral.value? (numeral : Numeral) : Option Number :=
  let (significand, dropped) := absorb 0 numeral.whole
  match numeral.fraction, numeral.exponent, dropped with
  | none, none, [] =>
    -- Whole numbers of 64 bits stay whole, but minus zero has no whole number.
    if ¬ numeral.negative then some (.integer significand)
    else if significand ≠ 0 ∧ significand ≤ Nat.pow 2 63 then some (.integer (-significand))
    else (Binary64.ofNat true significand).map .float
  | fraction, exponent, _ =>
    -- Digits that no longer fit move the point, or are forgotten behind it.
    let behind := fraction.getD []
    let (significand, forgotten) := absorb significand behind
    let places : Int := dropped.length - (behind.length - forgotten.length : Nat) + exponent.getD 0
    do
      let whole ← Magnitude.nearest significand 1
      let magnitude ← whole.shiftDecimal places
      return .float ⟨numeral.negative, magnitude⟩

/-- Reads the digits of an exponent with their optional sign. -/
def readExponent (cs : List Char) : Except Fault (Int × List Char) :=
  let (negative, cs) := match cs with
    | '+' :: rest => (false, rest)
    | '-' :: rest => (true, rest)
    | cs => (false, cs)
  match cs with
  | [] => .error .unfinished
  | _ =>
    match spanDigits cs with
    | ([], _) => .error .malformed
    | (digits, rest) =>
      let size : Nat := digits.foldl (fun n digit => n * 10 + digit) 0
      .ok (if negative then -Int.ofNat size else Int.ofNat size, rest)

/-- Reads the fraction of a number, when there is one. -/
def readFraction : List Char → Except Fault (Option (List Nat) × List Char)
  | '.' :: rest =>
    match spanDigits rest with
    | ([], []) => .error .unfinished
    | ([], _ :: _) => .error .malformed
    | (digits, rest) => .ok (some digits, rest)
  | cs => .ok (none, cs)

/-- Reads the exponent of a number, when there is one. -/
def readScale : List Char → Except Fault (Option Int × List Char)
  | 'e' :: rest => (readExponent rest).map fun (n, rest) => (some n, rest)
  | 'E' :: rest => (readExponent rest).map fun (n, rest) => (some n, rest)
  | cs => .ok (none, cs)

/-- Reads a number whose sign has been read. -/
def readNumber (negative : Bool) (cs : List Char) : Except Fault (Number × List Char) := do
  let (whole, rest) := spanDigits cs
  match whole, cs with
  | [], [] => throw .unfinished
  | [], _ :: _ => throw .malformed
  | 0 :: _ :: _, _ => throw .malformed
  | whole, _ =>
    let (fraction, rest) ← readFraction rest
    let (exponent, rest) ← readScale rest
    match Numeral.value? ⟨negative, whole, fraction, exponent⟩ with
    | some number => return (number, rest)
    | none => throw .malformed

/-- Reads the remaining letters of a literal. -/
def readLetters : List Char → List Char → Except Fault (List Char)
  | [], rest => .ok rest
  | _ :: _, [] => .error .unfinished
  | letter :: letters, c :: rest => if c = letter then readLetters letters rest else .error .malformed

/-- Reads a literal, a string or a number, for a text that opens no container. -/
def readScalar : List Char → Except Fault (Value × List Char)
  | [] => .error .unfinished
  | 'n' :: rest => (readLetters "ull".toList rest).map (Value.null, ·)
  | 't' :: rest => (readLetters "rue".toList rest).map (Value.bool true, ·)
  | 'f' :: rest => (readLetters "alse".toList rest).map (Value.bool false, ·)
  | '"' :: rest => (readString rest).map fun (text, rest) => (.string text, rest)
  | '-' :: rest => (readNumber true rest).map fun (n, rest) => (.number n, rest)
  | c :: rest =>
    if c.isDigit then (readNumber false (c :: rest)).map fun (n, rest) => (.number n, rest)
    else .error .malformed

/-- Steps to the next item of an array, or past its end. -/
def nextItem (first : Bool) (cs : List Char) : Except Fault (Option (List Char) × List Char) :=
  -- A comma is due before every item but the first one, and never before the end.
  match skipBlanks cs with
  | [] => .error .unfinished
  | ']' :: rest => .ok (none, rest)
  | c :: rest =>
    if first then .ok (some (c :: rest), [])
    else if c ≠ ',' then .error .malformed
    else match skipBlanks rest with
      | [] => .error .unfinished
      | ']' :: _ => .error .malformed
      | rest => .ok (some rest, [])

/-- Reads the name of an object's next member, or steps past the object's end. -/
def memberName (first : Bool) (cs : List Char) : Except Fault (Option String × List Char) := do
  let start ← match skipBlanks cs with
    | [] => throw .unfinished
    | '\x7d' :: rest => return (none, rest)
    | c :: rest =>
      if first then pure (c :: rest)
      else if c = ',' then pure (skipBlanks rest)
      else throw .malformed
  match start with
  | [] => throw .unfinished
  | '"' :: rest =>
    let (name, rest) ← readString rest
    return (some name, rest)
  | _ => throw .malformed

/-- Reads the colon behind a member's name. -/
def readColon (cs : List Char) : Except Fault (List Char) :=
  match skipBlanks cs with
  | [] => .error .unfinished
  | ':' :: rest => .ok rest
  | _ => .error .malformed

/-- Reads the name of an object's next member with its colon, or steps past the object's end. -/
def nextName (first : Bool) (cs : List Char) : Except Fault (Option String × List Char) := do
  match ← memberName first cs with
  | (none, rest) => return (none, rest)
  | (some name, rest) => return (some name, ← readColon rest)

mutual
/-- Reads a value; `depth` containers may still be opened before one is refused. -/
def readValue (fuel depth : Nat) (cs : List Char) : Except Fault (Value × List Char) :=
  match fuel with
  | 0 => .error .unfinished
  | fuel + 1 =>
    match skipBlanks cs with
    | '[' :: rest =>
      if depth ≤ 1 then .error .malformed
      else (readItems fuel (depth - 1) true [] rest).map fun (items, rest) => (.array items, rest)
    | '\x7b' :: rest =>
      if depth ≤ 1 then .error .malformed
      else (readMembers fuel (depth - 1) true [] rest).map fun (members, rest) =>
        (.object members, rest)
    | cs => readScalar cs

/-- Reads the items of an array up to its end; those already read are in reverse order. -/
def readItems (fuel depth : Nat) (first : Bool) (read : List Value) (cs : List Char) :
    Except Fault (List Value × List Char) :=
  match fuel with
  | 0 => .error .unfinished
  | fuel + 1 =>
    match nextItem first cs with
    | .error fault => .error fault
    | .ok (none, rest) => .ok (read.reverse, rest)
    | .ok (some start, _) =>
      match readValue fuel depth start with
      | .error fault => .error fault
      | .ok (item, rest) => readItems fuel depth false (item :: read) rest

/-- Reads the members of an object up to its end; those already read are in reverse order. -/
def readMembers (fuel depth : Nat) (first : Bool) (read : List (String × Value)) (cs : List Char) :
    Except Fault (List (String × Value) × List Char) :=
  match fuel with
  | 0 => .error .unfinished
  | fuel + 1 =>
    match nextName first cs with
    | .error fault => .error fault
    | .ok (none, rest) => .ok (read.reverse, rest)
    | .ok (some name, rest) =>
      match readValue fuel depth rest with
      | .error fault => .error fault
      | .ok (value, rest) => readMembers fuel depth false ((name, value) :: read) rest
end

/-- Enough fuel for any text: every call consumes a character or ends a container. -/
def fuelFor (cs : List Char) : Nat := 2 * cs.length + 2

/-- Nothing but blanks may follow the value. -/
def expectEnd (cs : List Char) : Except Fault Unit :=
  if (skipBlanks cs).isEmpty then .ok () else .error .malformed

/-- The value of a text in which at most `depth` containers are nested, every member kept. -/
def readText (depth : Nat) (text : String) : Except Fault Value := do
  let (value, rest) ← readValue (fuelFor text.toList) depth text.toList
  expectEnd rest
  return value

/-- The value of a text, with one member per name in every object. -/
def parse (text : String) : Except Fault Value :=
  (readText depthLimit text).map Value.merge

end FormatPipeline.Json
