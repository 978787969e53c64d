import FormatPipeline.Json.Reader

/-! The texts that spell a JSON value: gaps between its parts, escapes in strings, all forms of numbers. -/

namespace FormatPipeline.Json

/-! ## Gaps -/

/-- The characters that may stand between the parts of a text. -/
def isGap (c : Char) : Bool := c == ' ' || c == '\n' || c == '\t' || c == '\r'

/-- Whether a text is nothing but a gap. -/
def IsGap (cs : List Char) : Prop := ∀ c ∈ cs, isGap c

/-! ## Strings -/

/-- The letters that stand behind a backslash for one character each. -/
def shortEscapes : List (Char × Char) :=
  [('"', '"'), ('\\', '\\'), ('/', '/'), ('b', '\x08'), ('f', '\x0c'), ('n', '\n'), ('r', '\r'),
    ('t', '\t')]

/-- Four hexadecimal digits write a number. -/
inductive WritesHex : Nat → List Char → Prop
  | digits {w x y z : Char} {a b c d : Nat} :
    hexValue? w = some a → hexValue? x = some b → hexValue? y = some c → hexValue? z = some d →
    WritesHex (((a * 16 + b) * 16 + c) * 16 + d) [w, x, y, z]

/-- The texts that write one character of a string. -/
inductive WritesChar : Char → List Char → Prop
  | itself {c : Char} : 0x20 ≤ c.toNat → c ≠ '"' → c ≠ '\\' → WritesChar c [c]
  | short {c letter : Char} : (letter, c) ∈ shortEscapes → WritesChar c ['\\', letter]
  | unit {c : Char} {digits : List Char} : WritesHex c.toNat digits →
    WritesChar c ('\\' :: 'u' :: digits)
  /-- A character beyond the first plane takes two units. -/
  | pair {c : Char} {high low : Nat} {first second : List Char} :
    0xD800 ≤ high → high ≤ 0xDBFF → 0xDC00 ≤ low → low ≤ 0xDFFF →
    c.toNat = (high - 0xD800) * 0x400 + (low - 0xDC00) + 0x10000 →
    WritesHex high first → WritesHex low second →
    WritesChar c ('\\' :: 'u' :: (first ++ '\\' :: 'u' :: second))

/-- The texts that write several characters of a string. -/
inductive WritesChars : List Char → List Char → Prop
  | nil : WritesChars [] []
  | cons {c : Char} {rest first others : List Char} :
    WritesChar c first → WritesChars rest others → WritesChars (c :: rest) (first ++ others)

/-- The texts that write a string between its quotes. -/
inductive WritesString : String → List Char → Prop
  | quoted {text : String} {inner : List Char} :
    WritesChars text.toList inner → WritesString text ('"' :: (inner ++ ['"']))

/-! ## Numbers -/

/-- Digits in a row, of which there is at least one. -/
structure WritesDigits (digits : List Nat) (cs : List Char) : Prop where
  some : cs ≠ []
  areDigits : ∀ c ∈ cs, c.isDigit
  numbers : digits = cs.map fun c => c.toNat - '0'.toNat

/-- The number that digits write. -/
def decimal (digits : List Nat) : Nat := digits.foldl (fun n digit => n * 10 + digit) 0

/-- The texts of a fraction, which need not be there. -/
inductive WritesFraction : Option (List Nat) → List Char → Prop
  | none : WritesFraction none []
  | some {digits : List Nat} {cs : List Char} : WritesDigits digits cs →
    WritesFraction (some digits) ('.' :: cs)

/-- The texts of an exponent, which need not be there. -/
inductive WritesExponent : Option Int → List Char → Prop
  | none : WritesExponent none []
  | bare {mark : Char} {digits : List Nat} {cs : List Char} : mark = 'e' ∨ mark = 'E' →
    WritesDigits digits cs → WritesExponent (some (decimal digits)) (mark :: cs)
  | plus {mark : Char} {digits : List Nat} {cs : List Char} : mark = 'e' ∨ mark = 'E' →
    WritesDigits digits cs → WritesExponent (some (decimal digits)) (mark :: '+' :: cs)
  | minus {mark : Char} {digits : List Nat} {cs : List Char} : mark = 'e' ∨ mark = 'E' →
    WritesDigits digits cs → WritesExponent (some (-decimal digits)) (mark :: '-' :: cs)

/-- The texts of a number by its parts; no zero stands in front of other digits. -/
inductive WritesNumeral : Numeral → List Char → Prop
  | parts {negative : Bool} {whole : List Nat} {fraction : Option (List Nat)} {exponent : Option Int}
      {front behind scale : List Char} :
    WritesDigits whole front → (whole.head? = some 0 → whole = [0]) →
    WritesFraction fraction behind → WritesExponent exponent scale →
    WritesNumeral ⟨negative, whole, fraction, exponent⟩
      ((if negative then ['-'] else []) ++ (front ++ (behind ++ scale)))

/-- The texts that write a number. -/
def WritesNumber (n : Number) (cs : List Char) : Prop :=
  ∃ numeral : Numeral, numeral.value? = some n ∧ WritesNumeral numeral cs

/-! ## Values -/

/-- What stands in front of an item or a member: a comma, unless it is the first one, and gaps. -/
inductive LeadsItem : Bool → List Char → Prop
  | first {gap : List Char} : IsGap gap → LeadsItem true gap
  | next {before after : List Char} : IsGap before → IsGap after →
    LeadsItem false (before ++ ',' :: after)

mutual
/-- The texts that spell a value. -/
inductive Value.SpelledBy : Value → List Char → Prop
  | null : Value.SpelledBy .null "null".toList
  | bool {value : Bool} : Value.SpelledBy (.bool value) (if value then "true" else "false").toList
  | number {n : Number} {cs : List Char} : WritesNumber n cs → Value.SpelledBy (.number n) cs
  | string {text : String} {cs : List Char} : WritesString text cs → Value.SpelledBy (.string text) cs
  | array {items : List Value} {cs : List Char} : ItemsSpelledBy true items cs →
    Value.SpelledBy (.array items) ('[' :: cs)
  | object {members : List (String × Value)} {cs : List Char} : MembersSpelledBy true members cs →
    Value.SpelledBy (.object members) ('\x7b' :: cs)

/-- The texts that go on with the items of an array up to its end; the flag is for the first item. -/
inductive ItemsSpelledBy : Bool → List Value → List Char → Prop
  | closeArray {first : Bool} {gap : List Char} : IsGap gap →
    ItemsSpelledBy first [] (gap ++ [']'])
  | item {first : Bool} {item : Value} {items : List Value} {lead body more : List Char} :
    LeadsItem first lead → item.SpelledBy body → ItemsSpelledBy false items more →
    ItemsSpelledBy first (item :: items) (lead ++ (body ++ more))

/-- The texts that go on with the members of an object up to its end. -/
inductive MembersSpelledBy : Bool → List (String × Value) → List Char → Prop
  | closeObject {first : Bool} {gap : List Char} : IsGap gap →
    MembersSpelledBy first [] (gap ++ ['\x7d'])
  | member {first : Bool} {name : String} {value : Value} {members : List (String × Value)}
      {lead quoted before after body more : List Char} :
    LeadsItem first lead → WritesString name quoted → IsGap before → IsGap after →
    value.SpelledBy body → MembersSpelledBy false members more →
    MembersSpelledBy first ((name, value) :: members)
      (lead ++ (quoted ++ (before ++ ':' :: (after ++ (body ++ more)))))
end

/-- The texts of a value, with gaps around it. -/
inductive Value.IsText : Value → List Char → Prop
  | text {value : Value} {before body after : List Char} : IsGap before → value.SpelledBy body →
    IsGap after → Value.IsText value (before ++ (body ++ after))

mutual
/-- How many arrays and objects are nested into each other. -/
def Value.nesting : Value → Nat
  | .array items => Value.nestingOfItems items + 1
  | .object members => Value.nestingOfMembers members + 1
  -- No other value holds values.
  | _ => 0

/-- The deepest nesting of several items. -/
def Value.nestingOfItems : List Value → Nat
  | [] => 0
  | item :: rest => max item.nesting (Value.nestingOfItems rest)

/-- The deepest nesting of several members. -/
def Value.nestingOfMembers : List (String × Value) → Nat
  | [] => 0
  | (_, value) :: rest => max value.nesting (Value.nestingOfMembers rest)
end

end FormatPipeline.Json
