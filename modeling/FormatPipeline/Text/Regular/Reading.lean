import FormatPipeline.Text.Regular.Basic

/-! The written form of regular expressions: a basic one and an extended one. -/

namespace FormatPipeline.Text

/-- How regular expressions are written. -/
structure RegularStyle where
  /-- Whether groups, bounds and alternatives are written without backslashes. -/
  extended : Bool
  /-- Whether signs that are out of place stand for themselves. -/
  lenient : Bool
  deriving DecidableEq, Repr

/-- Why a text is no regular expression. -/
inductive RegularFault where
  | badClass | badReference | badBounds | badRange | nothingToRepeat
  | openBracket | openGroup | unopenedGroup | openBounds | trailingBackslash | tooBig
  deriving DecidableEq, Repr

/-- What is said about a text that is no regular expression. -/
def RegularFault.message : RegularFault → String
  | badClass => "Invalid character class name"
  | badReference => "Invalid back reference"
  | badBounds => "Invalid content of \\\x7b\\\x7d"
  | badRange => "Invalid range end"
  | nothingToRepeat => "Invalid preceding regular expression"
  | openBracket => "Unmatched [, [^, [:, [., or [="
  | openGroup => "Unmatched ( or \\("
  | unopenedGroup => "Unmatched ) or \\)"
  | openBounds => "Unmatched \\\x7b"
  | trailingBackslash => "Trailing backslash"
  | tooBig => "Regular expression too big"

/-- The bytes of the class with the name. -/
def byteClass? (name : String) : Option (List (UInt8 × UInt8)) :=
  match name with
  | "alnum" => some [(48, 57), (65, 90), (97, 122)]
  | "alpha" => some [(65, 90), (97, 122)]
  | "blank" => some [(32, 32), (9, 9)]
  | "cntrl" => some [(0, 31), (127, 127)]
  | "digit" => some [(48, 57)]
  | "graph" => some [(33, 126)]
  | "lower" => some [(97, 122)]
  | "print" => some [(32, 126)]
  | "punct" => some [(33, 47), (58, 64), (91, 96), (123, 126)]
  | "space" => some [(9, 13), (32, 32)]
  | "upper" => some [(65, 90)]
  | "xdigit" => some [(48, 57), (65, 70), (97, 102)]
  | _ => none

/-- The bytes of words. -/
def wordRanges : List (UInt8 × UInt8) := [(48, 57), (65, 90), (95, 95), (97, 122)]

/-- The bytes that are blank. -/
def spaceRanges : List (UInt8 × UInt8) := [(9, 13), (32, 32)]

/-- A member of a set of bytes, with what follows it; a class cannot begin a range. -/
inductive SetMember where
  | single (byte : UInt8)
  | several (ranges : List (UInt8 × UInt8))

/-- The member at the front of what stands between brackets. -/
def readMember : List UInt8 → Except RegularFault (SetMember × List UInt8)
  | [] => .error .openBracket
  | 91 :: kind :: rest =>
    if kind = 58 ∨ kind = 46 ∨ kind = 61 then
      let name := rest.takeWhile (· != kind)
      match rest.drop name.length, kind, name with
      | _ :: 93 :: rest, 58, name =>
        match byteClass? (.ofList (name.map fun byte => .ofNat byte.toNat)) with
        | some ranges => .ok (.several ranges, rest)
        | none => .error .badClass
      | _ :: 93 :: rest, _, [byte] => .ok (.single byte, rest)
      | _ :: 93 :: _, _, _ => .error .badClass
      | _, _, _ => .error .openBracket
    else .ok (.single 91, kind :: rest)
  | byte :: rest => .ok (.single byte, rest)

/-- The ranges up to a closing bracket, and what follows it. -/
def readRanges : Nat → Bool → List UInt8 →
    Except RegularFault (List (UInt8 × UInt8) × List UInt8)
  | 0, _, _ => .error .openBracket
  | fuel + 1, first, bytes =>
    match bytes, first with
    | 93 :: rest, false => .ok ([], rest)
    | bytes, _ => do
      let (member, rest) ← readMember bytes
      match member, rest with
      | .several ranges, rest =>
        let (others, rest) ← readRanges fuel false rest
        return (ranges ++ others, rest)
      | .single low, 45 :: 93 :: rest =>
        let (others, rest) ← readRanges fuel false (45 :: 93 :: rest)
        return ((low, low) :: others, rest)
      | .single low, 45 :: behind =>
        match ← readMember behind with
        | (.single high, rest) =>
          if high < low then throw .badRange
          let (others, rest) ← readRanges fuel false rest
          return ((low, high) :: others, rest)
        | (.several _, _) => throw .badRange
      | .single byte, rest =>
        let (others, rest) ← readRanges fuel false rest
        return ((byte, byte) :: others, rest)

/-- The set behind an opening bracket, and what follows it. -/
def readSet (bytes : List UInt8) : Except RegularFault (ByteSet × List UInt8) := do
  let (negated, members) : Bool × List UInt8 := match bytes with
    | 94 :: rest => (true, rest)
    | bytes => (false, bytes)
  let (ranges, rest) ← readRanges (bytes.length + 1) true members
  return (⟨negated, ranges⟩, rest)

/-- A sign of a written regular expression. -/
inductive Sign where
  | finish
  | opening
  | closing
  | alternative
  /-- The number of rounds, at least and at most. -/
  | rounds (least : Nat) (most : Option Nat)
  | bounds
  | bracket
  | byte (byte : UInt8)
  | any
  | set (set : ByteSet)
  | edge (edge : Edge)
  | back (number : Nat)
  /-- A backslash with nothing behind it. -/
  | backslash
  deriving DecidableEq, Repr

/-- The sign that a byte behind a backslash is part of. -/
def escapedSign (style : RegularStyle) (byte : UInt8) : Sign :=
  let basic (sign : Sign) : Sign := if style.extended then .byte byte else sign
  match byte with
  | 40 => basic .opening
  | 41 => basic .closing
  | 124 => basic .alternative
  | 123 => basic .bounds
  | 43 => basic (.rounds 1 none)
  | 63 => basic (.rounds 0 (some 1))
  | 119 => .set ⟨false, wordRanges⟩
  | 87 => .set ⟨true, wordRanges⟩
  | 115 => .set ⟨false, spaceRanges⟩
  | 83 => .set ⟨true, spaceRanges⟩
  | 98 => .edge .word
  | 66 => .edge .noWord
  | 60 => .edge .wordStart
  | 62 => .edge .wordEnd
  | 96 => .edge .textStart
  | 39 => .edge .textEnd
  | byte => if 49 ≤ byte ∧ byte ≤ 57 then .back (byte.toNat - 48) else .byte byte

/-- The sign at the front, and what follows it; some signs mean more at the start. -/
def readSign (style : RegularStyle) (atStart : Bool) (bytes : List UInt8) : Sign × List UInt8 :=
  match bytes with
  | [] => (.finish, [])
  | [92] => (.backslash, [])
  | 92 :: byte :: rest => (escapedSign style byte, rest)
  | byte :: rest =>
    let extended (sign : Sign) : Sign := if style.extended then sign else .byte byte
    let sign : Sign := match byte with
      | 40 => extended .opening
      | 41 => extended .closing
      | 124 => extended .alternative
      | 123 => extended .bounds
      | 43 => extended (.rounds 1 none)
      | 63 => extended (.rounds 0 (some 1))
      | 42 => .rounds 0 none
      | 46 => .any
      | 91 => .bracket
      | 94 => if style.extended || atStart then .edge .lineStart else .byte 94
      | 36 =>
        let ends := match rest with
          | [] | 92 :: 41 :: _ | 92 :: 124 :: _ => true
          | _ => false
        if style.extended || ends then .edge .lineEnd else .byte 36
      | byte => .byte byte
    (sign, rest)

/-- How many rounds can be asked for. -/
def mostRounds : Nat := 32767

/-- A number of rounds up to a comma or the end of the bounds: none if there are no digits. -/
def readBound (style : RegularStyle) : List UInt8 → Option Nat → Except Bool (Option Nat × Bool × List UInt8)
  | [], _ => .error false
  | 44 :: rest, number => .ok (number, true, rest)
  | 125 :: rest, number => if style.extended then .ok (number, false, rest) else .error true
  | 92 :: 125 :: rest, number => if style.extended then .error true else .ok (number, false, rest)
  | byte :: rest, number =>
    if 48 ≤ byte ∧ byte ≤ 57 then
      readBound style rest (some (min (mostRounds + 1) (number.getD 0 * 10 + (byte.toNat - 48))))
    else .error (rest.any (· == 125))

/-- The bounds behind an opening brace, and what follows them; there may be none. -/
def readBounds (style : RegularStyle) (bytes : List UInt8) :
    Except RegularFault (Option (Nat × Option Nat × List UInt8)) :=
  let broken (closed : Bool) : Except RegularFault (Option (Nat × Option Nat × List UInt8)) :=
    if style.extended && style.lenient then .ok none
    else .error (if closed then .badBounds else .openBounds)
  let checked (least : Nat) (most : Option Nat) (rest : List UInt8) :
      Except RegularFault (Option (Nat × Option Nat × List UInt8)) :=
    if most.any (· < least) then .error .badBounds
    else if mostRounds < most.getD least then .error .tooBig
    else .ok (some (least, most, rest))
  match readBound style bytes none with
  | .error closed => broken closed
  | .ok (none, false, _) => broken true
  | .ok (some number, false, rest) => checked number (some number) rest
  | .ok (least, true, rest) =>
    match readBound style rest none with
    | .ok (most, false, rest) => checked (least.getD 0) most rest
    | .ok (_, true, rest) => broken (rest.any (· == 125))
    | .error closed => broken closed

/-- What is left to be read, how many groups were opened, and which of them are closed. -/
structure RegularReading where
  rest : List UInt8
  opened : Nat
  closed : List Nat

/-- The signs behind an expression that ask for rounds of it. -/
def readRounds (style : RegularStyle) : Nat → Regular → List UInt8 →
    Except RegularFault (Regular × List UInt8)
  | 0, inner, bytes => .ok (inner, bytes)
  | fuel + 1, inner, bytes =>
    match readSign style false bytes with
    | (.rounds least most, rest) => readRounds style fuel (.rounds inner least most) rest
    | (.bounds, rest) => do
      match ← readBounds style rest with
      | some (least, most, rest) => readRounds style fuel (.rounds inner least most) rest
      | none => return (inner, bytes)
    | _ => .ok (inner, bytes)

mutual

/-- Alternatives, inside of a group or outside. -/
def readAlternatives (style : RegularStyle) : Nat → Bool → RegularReading →
    Except RegularFault (Regular × RegularReading)
  | 0, _, reading => .ok (.empty, reading)
  | fuel + 1, inside, reading => do
    let (first, reading) ← readParts style fuel inside true .empty reading
    match readSign style false reading.rest with
    | (.alternative, rest) =>
      let (second, reading) ← readAlternatives style fuel inside { reading with rest := rest }
      return (.either first second, reading)
    | _ => return (first, reading)

/-- Parts in a row behind those that have been read. -/
def readParts (style : RegularStyle) : Nat → Bool → Bool → Regular → RegularReading →
    Except RegularFault (Regular × RegularReading)
  | 0, _, _, sofar, reading => .ok (sofar, reading)
  | fuel + 1, inside, atStart, sofar, reading =>
    match readSign style atStart reading.rest with
    | (.finish, _) | (.alternative, _) => .ok (sofar, reading)
    | (sign, rest) =>
      if sign = .closing ∧ inside then .ok (sofar, reading)
      else do
        let (part, reading) ← readPart style fuel sign { reading with rest := rest }
        let joined := match sofar with
          | .empty => part
          | sofar => .both sofar part
        readParts style fuel inside false joined reading

/-- The part that begins with a sign, with its rounds. -/
def readPart (style : RegularStyle) : Nat → Sign → RegularReading →
    Except RegularFault (Regular × RegularReading)
  | 0, _, reading => .ok (.empty, reading)
  | fuel + 1, sign, reading =>
    let repeated (part : Regular) (reading : RegularReading) :
        Except RegularFault (Regular × RegularReading) := do
      let (part, rest) ← readRounds style (reading.rest.length + 1) part reading.rest
      return (part, { reading with rest := rest })
    match sign with
    | .byte byte => repeated (.byte byte) reading
    | .any => repeated .any reading
    | .set members => repeated (.set members) reading
    -- Signs for rounds behind an edge are out of place.
    | .edge place => .ok (.edge place, reading)
    | .back number =>
      if reading.closed.contains number then repeated (.back number) reading
      else .error .badReference
    | .bracket => do
      let (members, rest) ← readSet reading.rest
      repeated (.set members) { reading with rest := rest }
    | .opening => do
      let number := reading.opened + 1
      let (inner, reading) ← readAlternatives style fuel true { reading with opened := number }
      match readSign style false reading.rest with
      | (.closing, rest) =>
        repeated (.group number inner)
          { reading with rest := rest, closed := number :: reading.closed }
      | _ => throw .openGroup
    | .closing => if style.lenient && style.extended then repeated (.byte 41) reading else .error .unopenedGroup
    | .rounds least most =>
      if style.extended && !style.lenient then .error .nothingToRepeat
      else if style.extended then .ok (.empty, reading)
      else repeated (.byte (if least = 1 then 43 else if most.isSome then 63 else 42)) reading
    | .bounds =>
      if !style.lenient then .error .nothingToRepeat
      else if !style.extended then repeated (.byte 123) reading
      else do
        match ← readBounds style reading.rest with
        | some (_, _, rest) => return (.empty, { reading with rest := rest })
        | none => repeated (.byte 123) reading
    | .backslash => .error .trailingBackslash
    | .finish | .alternative => .ok (.empty, reading)

end

/-- How a sign for rounds is written. -/
def roundsSign (least : Nat) (most : Option Nat) : String :=
  if least = 1 then "+" else if most.isSome then "?" else "*"

/-- The signs for rounds in an extended expression that have nothing in front of them. -/
def misplacedRounds (style : RegularStyle) : Nat → Bool → List UInt8 → List String
  | 0, _, _ => []
  | fuel + 1, atStart, bytes =>
    match readSign style atStart bytes with
    | (.finish, _) => []
    | (.opening, rest) | (.alternative, rest) => misplacedRounds style fuel true rest
    | (.edge _, rest) => misplacedRounds style fuel atStart rest
    | (.rounds least most, rest) =>
      (if atStart then [roundsSign least most] else []) ++ misplacedRounds style fuel atStart rest
    | (.bounds, rest) =>
      match readBounds style rest with
      | .ok (some (_, _, rest)) =>
        (if atStart then ["\x7b...\x7d"] else []) ++ misplacedRounds style fuel false rest
      | _ => misplacedRounds style fuel false rest
    | (.bracket, rest) =>
      match readSet rest with
      | .ok (_, rest) => misplacedRounds style fuel false rest
      | .error _ => []
    | (_, rest) => misplacedRounds style fuel false rest

/-- The regular expression that bytes stand for, and how many groups it has. -/
def readRegular (style : RegularStyle) (bytes : List UInt8) : Except RegularFault (Regular × Nat) := do
  let (regular, reading) ← readAlternatives style (4 * bytes.length + 8) false ⟨bytes, 0, []⟩
  return (regular, reading.opened)

end FormatPipeline.Text
