import FormatPipeline.Text.Utf8

/-! Patterns for texts, as a shell knows them: byte by byte. -/

namespace FormatPipeline.Shell

/-- A character with the right to a special meaning or without it. -/
structure Mark where
  char : Char
  special : Bool
  deriving DecidableEq, Repr

/-- The bytes of a text, each of them as a character. -/
def byteChars (text : String) : List Char := (Text.toBytes text).map fun byte => Char.ofNat byte.toNat

/-- The text of bytes, each of which is a character. -/
def ofByteChars (chars : List Char) : String := Text.ofBytes (chars.map fun c => UInt8.ofNat c.toNat)

/-- What a set of characters is made of. -/
inductive Member where
  | range (low high : Char)
  /-- A class that is known by its name. -/
  | named (name : List Char)
  deriving DecidableEq, Repr

/-- A part of a pattern. -/
inductive PatternPart where
  | char (c : Char)
  /-- Any character. -/
  | one
  /-- Any characters. -/
  | many
  /-- A character of a set, or one that is not in it. -/
  | set (negated : Bool) (members : List Member)
  deriving DecidableEq, Repr

/-- A pattern for texts. -/
abbrev Pattern := List PatternPart

/-- Whether a character is of the class with the name. -/
def isOfClass (name : List Char) (c : Char) : Bool :=
  match String.ofList name with
  | "alnum" => c.isAlphanum
  | "alpha" => c.isAlpha
  | "blank" => c == ' ' || c == '\t'
  | "cntrl" => c.toNat < 32 || c.toNat == 127
  | "digit" => c.isDigit
  | "graph" => 32 < c.toNat && c.toNat < 127
  | "lower" => c.isLower
  | "print" => 32 ≤ c.toNat && c.toNat < 127
  | "punct" => 32 < c.toNat && c.toNat < 127 && !c.isAlphanum
  | "space" => c == ' ' || (9 ≤ c.toNat && c.toNat ≤ 13)
  | "upper" => c.isUpper
  | "xdigit" => c.isDigit || ('a' ≤ c && c ≤ 'f') || ('A' ≤ c && c ≤ 'F')
  | _ => false

/-- The classes of characters that are known by their names. -/
def classNames : List String :=
  ["alnum", "alpha", "blank", "cntrl", "digit", "graph", "lower", "print", "punct", "space", "upper",
    "xdigit"]

/-- Whether a character is the member, or among those that it stands for. -/
def Member.holds (member : Member) (c : Char) : Bool :=
  match member with
  | range low high => low ≤ c && c ≤ high
  | named name => isOfClass name c

/-- The name of a class between colons, and what follows the bracket behind it. -/
def readClass? (marks : List Mark) : Option (List Char × List Mark) :=
  let name := (marks.takeWhile fun mark => mark.char != ':').map (·.char)
  match marks.drop name.length with
  | _ :: close :: rest =>
    if close.char = ']' ∧ classNames.contains (.ofList name) then some (name, rest) else none
  | _ => none

/-- The members of a set up to its closing bracket, and what follows that. -/
def readMembers? : Nat → Bool → List Mark → Option (List Member × List Mark)
  | 0, _, _ | _, _, [] => none
  | fuel + 1, first, mark :: rest =>
    let further (member : Member) (rest : List Mark) : Option (List Member × List Mark) :=
      (readMembers? fuel false rest).map fun (members, rest) => (member :: members, rest)
    let single (mark : Mark) (rest : List Mark) : Option (List Member × List Mark) :=
      match rest with
      | dash :: high :: behind =>
        if dash.char = '-' ∧ dash.special ∧ ¬(high.char = ']' ∧ high.special) then
          further (.range mark.char high.char) behind
        else further (.range mark.char mark.char) rest
      | rest => further (.range mark.char mark.char) rest
    if mark.char = ']' ∧ mark.special ∧ ¬first then some ([], rest)
    else match mark.char, mark.special, rest with
      | '\\', true, next :: rest => single next rest
      | '[', true, colon :: behind =>
        match if colon.char = ':' then readClass? behind else none with
        | some (name, rest) => further (.named name) rest
        | none => single mark rest
      | _, _, rest => single mark rest

/-- The pattern that marks stand for; the number bounds how long it is. -/
def Pattern.read : Nat → List Mark → Pattern
  | 0, _ | _, [] => []
  | fuel + 1, ⟨'*', true⟩ :: rest => .many :: read fuel rest
  | fuel + 1, ⟨'?', true⟩ :: rest => .one :: read fuel rest
  | fuel + 1, ⟨'\\', true⟩ :: ⟨c, _⟩ :: rest => .char c :: read fuel rest
  | fuel + 1, ⟨'[', true⟩ :: rest =>
    let (negated, members) : Bool × List Mark := match rest with
      | ⟨'!', true⟩ :: rest => (true, rest)
      | rest => (false, rest)
    match readMembers? (members.length + 1) true members with
    | some (members, rest) => .set negated members :: read fuel rest
    -- A bracket that is not closed stands for itself.
    | none => .char '[' :: read fuel rest
  | fuel + 1, ⟨c, _⟩ :: rest => .char c :: read fuel rest

/-- The pattern that marks stand for. -/
def Pattern.ofMarks (marks : List Mark) : Pattern :=
  let bytes := marks.flatMap fun mark => (byteChars mark.char.toString).map (⟨·, mark.special⟩)
  read bytes.length bytes

/-- Whether a test holds of a list or of what is left of it behind some of its items. -/
def holdsOfRest {α : Type} (test : List α → Bool) : List α → Bool
  | [] => test []
  | x :: rest => test (x :: rest) || holdsOfRest test rest

/-- Whether bytes are what the pattern stands for. -/
def Pattern.accepts : Pattern → List Char → Bool
  | [], text => text.isEmpty
  | .many :: pattern, text => holdsOfRest (accepts pattern) text
  | .one :: pattern, _ :: rest => accepts pattern rest
  | .char expected :: pattern, c :: rest => c == expected && accepts pattern rest
  | .set negated members :: pattern, c :: rest =>
    (members.any (·.holds c)) != negated && accepts pattern rest
  | _ :: _, [] => false

/-- Whether a text is what the pattern stands for. -/
def Pattern.describes (pattern : Pattern) (text : String) : Bool := pattern.accepts (byteChars text)

/-- Whether a pattern stands for more than one text. -/
def Pattern.isOpen (pattern : Pattern) : Bool := pattern.any fun part => match part with
  | .char _ => false
  | _ => true

/-- The lengths at which a text is cut to find what a pattern stands for, in their order. -/
def cutLengths (longest : Bool) (length : Nat) : List Nat :=
  let lengths := List.range (length + 1)
  if longest then lengths.reverse else lengths

/-- A text without what a pattern stands for at one of its ends, if that is there. -/
def Pattern.trim? (pattern : Pattern) (atEnd longest : Bool) (whole : String) : Option String :=
  let text := byteChars whole
  let cut (length : Nat) : Option (List Char) :=
    if atEnd then
      let kept := text.take (text.length - length)
      if pattern.accepts (text.drop kept.length) then some kept else none
    else if pattern.accepts (text.take length) then some (text.drop length) else none
  ((cutLengths longest text.length).findSome? cut).map ofByteChars

/-- A text without what a pattern stands for at one of its ends. -/
def Pattern.trim (pattern : Pattern) (atEnd longest : Bool) (whole : String) : String :=
  (pattern.trim? atEnd longest whole).getD whole

/-- Values up to the last one at whose end a pattern matches, without what it stands for there. -/
def Pattern.cutBehind? (pattern : Pattern) : List String → Option (List String)
  | [] => none
  | value :: rest =>
    match cutBehind? pattern rest with
    | some kept => some (value :: kept)
    | none => (pattern.trim? true false value).map ([·])

/-- Values that stay apart without what a pattern stands for at one of their ends. -/
def Pattern.trimValues (pattern : Pattern) (atEnd longest : Bool) (values : List String) :
    List String :=
  match values with
  | [] => []
  | first :: rest =>
    -- What is cut off at an end takes along everything behind it.
    if atEnd && longest then ((pattern.trim? true true first).map ([·])).getD values
    else if atEnd then (pattern.cutBehind? values).getD values
    -- The whole of the first value passes for the whole of all of them.
    else if longest && !rest.isEmpty && pattern.describes first then [""]
    else pattern.trim false longest first :: rest

end FormatPipeline.Shell
