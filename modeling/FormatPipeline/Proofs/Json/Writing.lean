import FormatPipeline.Json.Writer
import FormatPipeline.Proofs.Json.Reading
import Mathlib.Algebra.Group.Int.Defs
import Mathlib.Algebra.Group.Nat.Defs

/-! The compact text of a value spells that value on a single line. -/

namespace FormatPipeline.Json

/-! ## Strings -/

/-- A number below sixteen is written by its digit. -/
theorem hexValue?_hexDigit {n : Nat} (small : n < 16) : hexValue? (hexDigit n) = some n := by
  -- There are sixteen digits.
  have all : ∀ n < 16, hexValue? (hexDigit n) = some n := by decide
  exact all n small

/-- A character is written by its escape. -/
theorem writesChar_escapeChar (c : Char) : WritesChar c (escapeChar c) := by
  unfold escapeChar
  -- The characters with a letter of their own come first.
  split
  next same => subst same; exact .short (by decide)
  split
  next same => subst same; exact .short (by decide)
  split
  next same => subst same; exact .short (by decide)
  split
  next same => subst same; exact .short (by decide)
  split
  next same => subst same; exact .short (by decide)
  split
  next same => subst same; exact .short (by decide)
  split
  next same => subst same; exact .short (by decide)
  split
  next control =>
    -- The code of any other control character takes two digits behind two zeros.
    have high : c.toNat / 16 < 16 := by omega
    have low : c.toNat % 16 < 16 := by omega
    have zero : hexValue? '0' = some 0 := by decide
    have code : ((0 * 16 + 0) * 16 + c.toNat / 16) * 16 + c.toNat % 16 = c.toNat := by omega
    have writes := WritesHex.digits zero zero (hexValue?_hexDigit high) (hexValue?_hexDigit low)
    rw [code] at writes
    exact .unit writes
  next noQuote noBackslash _ _ _ _ _ printable =>
    exact .itself (Nat.le_of_not_lt printable) noQuote noBackslash

/-- Characters are written by their escapes. -/
theorem writesChars_flatMap (cs : List Char) : WritesChars cs (cs.flatMap escapeChar) := by
  induction cs with
  | nil => exact .nil
  | cons c rest ih => exact .cons (writesChar_escapeChar c) ih

/-- A string is written between its quotes. -/
theorem writesString_quote (text : String) : WritesString text (quote text) :=
  .quoted (writesChars_flatMap text.toList)

/-! ## Whole numbers -/

/-- The digits of a number as numbers. -/
def digitsOf (n : Nat) : List Nat := (Nat.toDigits 10 n).map fun c => c.toNat - '0'.toNat

/-- The digits of a number write it. -/
theorem writesDigits_digitsOf (n : Nat) : WritesDigits (digitsOf n) (Nat.toDigits 10 n) where
  some := Nat.toDigits_ne_nil
  areDigits := fun _ member => Nat.isDigit_of_mem_toDigits (by decide) (by decide) member
  numbers := rfl

/-- The number that the digits of a number write is that number. -/
theorem decimal_digitsOf (n : Nat) : decimal (digitsOf n) = n := by
  -- Both ways of reading digits fold over them, and differ only in how they multiply.
  have same : decimal (digitsOf n) = Nat.ofDigitChars 10 (Nat.toDigits 10 n) 0 := by
    simp only [decimal, digitsOf, List.foldl_map, Nat.ofDigitChars, Nat.mul_comm]
  rw [same, Nat.ofDigitChars_ten_toDigits]

/-- A positive number does not begin with a zero. -/
theorem head?_digitsOf {n : Nat} (positive : 0 < n) : (digitsOf n).head? ≠ some 0 := by
  -- The first digit stays when the last one is cut off.
  induction n using Nat.strongRecOn with
  | ind n ih =>
    by_cases small : n < 10
    · have all : ∀ n < 10, 0 < n → (digitsOf n).head? ≠ some 0 := by decide +kernel
      exact all n small positive
    · have shorter := ih (n / 10) (by omega) (by omega)
      have some : digitsOf (n / 10) ≠ [] := by simp [digitsOf, Nat.toDigits_ne_nil]
      have split : digitsOf n = digitsOf (n / 10) ++ [((n % 10).digitChar).toNat - '0'.toNat] := by
        simp [digitsOf, Nat.toDigits_of_base_le (b := 10) (n := n) (by decide) (by omega)]
      obtain ⟨first, others, cut⟩ := List.exists_cons_of_ne_nil some
      rw [cut] at shorter
      rw [split, cut]
      exact shorter

/-- Only the zero itself begins with a zero. -/
theorem digitsOf_eq_zero {n : Nat} (zero : (digitsOf n).head? = some 0) : digitsOf n = [0] := by
  rcases Nat.eq_zero_or_pos n with rfl | positive
  · decide +kernel
  · exact absurd zero (head?_digitsOf positive)

/-- Reading further digits makes no number smaller. -/
theorem le_foldl_digits (digits : List Nat) (start : Nat) :
    start ≤ digits.foldl (fun n digit => n * 10 + digit) start := by
  induction digits generalizing start with
  | nil => exact Nat.le_refl start
  | cons digit rest ih => exact Nat.le_trans (by omega) (ih (start * 10 + digit))

/-- All digits of a number of 64 bits are taken up. -/
theorem absorb_of_lt {digits : List Nat} {start : Nat}
    (fits : digits.foldl (fun n digit => n * 10 + digit) start < Nat.pow 2 64) :
    absorb start digits = (digits.foldl (fun n digit => n * 10 + digit) start, []) := by
  induction digits generalizing start with
  | nil => rfl
  | cons digit rest ih =>
    -- What has been read so far is at most the whole number.
    have here : start * 10 + digit < Nat.pow 2 64 :=
      Nat.lt_of_le_of_lt (le_foldl_digits rest _) fits
    simp only [absorb, here, if_true]
    exact ih fits

/-- The digits of a number of 64 bits are taken up, and make that number. -/
theorem absorb_digitsOf {n : Nat} (fits : n < 2 ^ 64) : absorb 0 (digitsOf n) = (n, []) := by
  have value := decimal_digitsOf n
  unfold decimal at value
  have taken := absorb_of_lt (Nat.lt_of_le_of_lt (Nat.le_of_eq value) fits)
  rwa [value] at taken

/-- A natural number is printed by its digits. -/
theorem toList_text_ofNat (n : Nat) : (Number.text (.integer (.ofNat n))).toList = Nat.toDigits 10 n := by
  show (Nat.repr n).toList = _
  rw [Nat.repr_eq_ofList_toDigits, String.toList_ofList]

/-- A negative number is printed by a sign and the digits of its size. -/
theorem toList_text_negSucc (m : Nat) :
    (Number.text (.integer (.negSucc m))).toList = '-' :: Nat.toDigits 10 (m + 1) := by
  show ("-" ++ Nat.repr (m + 1)).toList = _
  simp only [String.toList_append, Nat.repr_eq_ofList_toDigits, String.toList_ofList]
  rfl

/-- The numbers that are written as they are read: whole ones of 64 bits. -/
def Number.IsWord : Number → Prop
  | .integer n => -2 ^ 63 ≤ n ∧ n < 2 ^ 64
  | .float _ => False

/-- A whole number of 64 bits is written by its text. -/
theorem writesNumber_text {n : Number} (word : n.IsWord) : WritesNumber n n.text.toList := by
  cases n with
  | float x => exact absurd word id
  | integer n =>
    obtain ⟨least, most⟩ := word
    -- A number that is not negative and a negative one are written with the same digits.
    cases n with
    | ofNat n =>
      have taken := absorb_digitsOf (n := n) (by simp only [Int.ofNat_eq_natCast] at most; omega)
      have writes : WritesNumeral ⟨false, digitsOf n, none, none⟩ _ :=
        .parts (writesDigits_digitsOf n) digitsOf_eq_zero .none .none
      refine ⟨⟨false, digitsOf n, none, none⟩, by simp [Numeral.value?, taken], ?_⟩
      rw [toList_text_ofNat]
      simpa using writes
    | negSucc m =>
      have size : m + 1 ≤ 2 ^ 63 := by omega
      have taken := absorb_digitsOf (n := m + 1) (by omega)
      have writes : WritesNumeral ⟨true, digitsOf (m + 1), none, none⟩ _ :=
        .parts (writesDigits_digitsOf (m + 1)) digitsOf_eq_zero .none .none
      -- Only a negative number that is not too large stays a whole one.
      have bound : m + 1 ≠ 0 ∧ m + 1 ≤ Nat.pow 2 63 := ⟨by omega, size⟩
      have meaning : Numeral.value? ⟨true, digitsOf (m + 1), none, none⟩ =
          some (.integer (Int.negSucc m)) := by
        simp only [Numeral.value?, taken, not_true_eq_false, if_false, if_pos bound]
        rfl
      refine ⟨⟨true, digitsOf (m + 1), none, none⟩, meaning, ?_⟩
      rw [toList_text_negSucc]
      simpa using writes

/-! ## Values -/

mutual
/-- Whether all numbers in a value are whole ones of 64 bits. -/
def Value.IsWhole : Value → Prop
  | .number n => n.IsWord
  | .array items => Value.AreWhole items
  | .object members => Value.AreWholeMembers members
  -- No other value holds numbers.
  | _ => True

/-- Whether this holds of all items. -/
def Value.AreWhole : List Value → Prop
  | [] => True
  | item :: rest => item.IsWhole ∧ Value.AreWhole rest

/-- Whether this holds of the values of all members. -/
def Value.AreWholeMembers : List (String × Value) → Prop
  | [] => True
  | (_, value) :: rest => value.IsWhole ∧ Value.AreWholeMembers rest
end

/-- A natural number of 64 bits is a whole one. -/
theorem Value.isWhole_ofNat {n : Nat} (fits : n < 2 ^ 64) : (Value.ofNat n).IsWhole := by
  show -2 ^ 63 ≤ (n : Int) ∧ (n : Int) < 2 ^ 64
  omega

/-- What is written in front of the rest of a list: a comma, unless it is the beginning or the end. -/
def separator {α : Type} : Bool → List α → List Char
  | false, _ :: _ => [',']
  | _, _ => []

/-- A comma without a gap leads to an item that is not the first one, and nothing to the first. -/
theorem leadsItem_separator {α : Type} (first : Bool) (item : α) (rest : List α) :
    LeadsItem first (separator first (item :: rest)) := by
  cases first with
  | true => exact .first isGap_nil
  | false => exact .next isGap_nil isGap_nil

/-- The end of a list is written without a gap. -/
theorem separator_nil {α : Type} (first : Bool) : separator first ([] : List α) = [] := by
  cases first <;> rfl

/-- The items are written one after another, with a comma in front of all but the first. -/
theorem writeItems_cons (item : Value) (rest : List Value) :
    Value.writeItems (item :: rest) = item.write ++ (separator false rest ++ Value.writeItems rest) := by
  cases rest <;> simp [Value.writeItems, separator]

/-- The members are written one after another, with a comma in front of all but the first. -/
theorem writeMembers_cons (name : String) (value : Value) (rest : List (String × Value)) :
    Value.writeMembers ((name, value) :: rest) =
      quote name ++ ':' :: (value.write ++ (separator false rest ++ Value.writeMembers rest)) := by
  cases rest <;> simp [Value.writeMembers, separator]

mutual
/-- The compact text of a value spells it. -/
theorem Value.spelledBy_write : ∀ value : Value, value.IsWhole → value.SpelledBy value.write
  -- The recursion is that of the writer, which only separates containers with commas.
  | .null, _ => .null
  | .bool true, _ => .bool
  | .bool false, _ => .bool
  | .number _, whole => .number (writesNumber_text whole)
  | .string text, _ => .string (writesString_quote text)
  | .array items, whole => .array (itemsSpelledBy_write true items whole)
  | .object members, whole => .object (membersSpelledBy_write true members whole)

/-- The items of an array are spelled out as they are written. -/
theorem itemsSpelledBy_write (first : Bool) : ∀ items : List Value, Value.AreWhole items →
    ItemsSpelledBy first items (separator first items ++ (Value.writeItems items ++ [']']))
  -- Without items there is no separator in front of the bracket.
  | [], _ => by
    rw [separator_nil]
    exact .closeArray isGap_nil
  | item :: rest, ⟨whole, others⟩ => by
    -- The item is written in front of the others, whose separators are theirs.
    have spelled := item.spelledBy_write whole
    have more := itemsSpelledBy_write false rest others
    rw [writeItems_cons, List.append_assoc, List.append_assoc]
    exact .item (leadsItem_separator first item rest) spelled more

/-- The members of an object are spelled out as they are written. -/
theorem membersSpelledBy_write (first : Bool) :
    ∀ members : List (String × Value), Value.AreWholeMembers members →
    MembersSpelledBy first members (separator first members ++ (Value.writeMembers members ++ ['\x7d']))
  | [], _ => by
    rw [separator_nil]
    exact .closeObject isGap_nil
  | (name, value) :: rest, ⟨whole, others⟩ => by
    -- A name is written as a string, and there are no blanks around its colon.
    have spelled := value.spelledBy_write whole
    have more := membersSpelledBy_write false rest others
    have all := MembersSpelledBy.member (leadsItem_separator first (name, value) rest)
      (writesString_quote name) isGap_nil isGap_nil spelled more
    simpa [writeMembers_cons] using all
end

/-- The compact text of a value is a text of it. -/
theorem Value.isText_compact {value : Value} (whole : value.IsWhole) :
    value.IsText value.compact.toList := by
  have text := Value.IsText.text isGap_nil (value.spelledBy_write whole) isGap_nil
  simpa [Value.compact] using text

/-! ## No line ends -/

/-- Whether there are no control codes in a text. -/
def IsPrintable (cs : List Char) : Prop := ∀ c ∈ cs, 0x20 ≤ c.toNat

/-- Whether there are control codes in a text can be found out character by character. -/
theorem isPrintable_of_all {cs : List Char} (all : cs.all (0x20 ≤ ·.toNat)) : IsPrintable cs := by
  intro c member
  exact of_decide_eq_true (List.all_eq_true.mp all c member)

/-- Texts without control codes can be put together. -/
theorem IsPrintable.append {first second : List Char} (one : IsPrintable first)
    (other : IsPrintable second) : IsPrintable (first ++ second) := by
  intro c member
  rcases List.mem_append.mp member with front | back
  · exact one c front
  · exact other c back

/-- A character can be put in front of a text without control codes. -/
theorem IsPrintable.cons {c : Char} {cs : List Char} (printable : 0x20 ≤ c.toNat)
    (others : IsPrintable cs) : IsPrintable (c :: cs) := by
  intro d member
  rcases List.mem_cons.mp member with rfl | behind
  · exact printable
  · exact others d behind

/-- A digit is no control code. -/
theorem printable_hexDigit {n : Nat} (small : n < 16) : 0x20 ≤ (hexDigit n).toNat := by
  have all : ∀ n < 16, 0x20 ≤ (hexDigit n).toNat := by decide
  exact all n small

/-- No control code is left by an escape. -/
theorem isPrintable_escapeChar (c : Char) : IsPrintable (escapeChar c) := by
  unfold escapeChar
  -- The characters with a letter of their own come first.
  split
  · exact isPrintable_of_all (by decide)
  split
  · exact isPrintable_of_all (by decide)
  split
  · exact isPrintable_of_all (by decide)
  split
  · exact isPrintable_of_all (by decide)
  split
  · exact isPrintable_of_all (by decide)
  split
  · exact isPrintable_of_all (by decide)
  split
  · exact isPrintable_of_all (by decide)
  split
  next control =>
    have front : IsPrintable ['\\', 'u', '0', '0'] := isPrintable_of_all (by decide)
    have high := printable_hexDigit (n := c.toNat / 16) (by omega)
    have low := printable_hexDigit (n := c.toNat % 16) (by omega)
    exact front.append (.cons high (.cons low (isPrintable_of_all rfl)))
  next printable =>
    exact .cons (Nat.le_of_not_lt printable) (isPrintable_of_all rfl)

/-- A string between its quotes holds no control code. -/
theorem isPrintable_quote (text : String) : IsPrintable (quote text) := by
  have inner : IsPrintable (text.toList.flatMap escapeChar) := by
    intro c member
    obtain ⟨d, -, written⟩ := List.mem_flatMap.mp member
    exact isPrintable_escapeChar d c written
  have close : IsPrintable ['"'] := isPrintable_of_all (by decide)
  exact .cons (by decide) (inner.append close)

/-- Digits are no control codes. -/
theorem isPrintable_toDigits (n : Nat) : IsPrintable (Nat.toDigits 10 n) := by
  intro c member
  have digit : c.isDigit = true := Nat.isDigit_of_mem_toDigits (by decide) (by decide) member
  simp only [Char.isDigit, Bool.and_eq_true, decide_eq_true_eq] at digit
  exact Nat.le_trans (by decide) digit.1

/-- The text of a whole number holds no control code. -/
theorem isPrintable_text {n : Number} (word : n.IsWord) : IsPrintable n.text.toList := by
  -- A whole number is a row of digits, perhaps behind a sign.
  cases n with
  | float x => exact absurd word id
  | integer n =>
    cases n with
    | ofNat n =>
      rw [toList_text_ofNat]
      exact isPrintable_toDigits n
    | negSucc m =>
      rw [toList_text_negSucc]
      exact .cons (by decide) (isPrintable_toDigits (m + 1))

/-- A separator is no control code. -/
theorem isPrintable_separator {α : Type} (first : Bool) (items : List α) :
    IsPrintable (separator first items) := by
  unfold separator
  split <;> exact isPrintable_of_all (by decide)

mutual
/-- The compact text of a value holds no control code, and so no line end. -/
theorem Value.isPrintable_write : ∀ value : Value, value.IsWhole → IsPrintable value.write
  -- Literals and brackets are printable, and so is all that is written between them.
  | .null, _ => isPrintable_of_all (by decide)
  | .bool true, _ => isPrintable_of_all (by decide)
  | .bool false, _ => isPrintable_of_all (by decide)
  | .number _, whole => isPrintable_text whole
  | .string text, _ => isPrintable_quote text
  | .array items, whole => by
    have close : IsPrintable [']'] := isPrintable_of_all (by decide)
    exact .cons (by decide) ((isPrintable_writeItems items whole).append close)
  | .object members, whole => by
    have close : IsPrintable ['\x7d'] := isPrintable_of_all (by decide)
    exact .cons (by decide) ((isPrintable_writeMembers members whole).append close)

/-- Neither do the texts of several items. -/
theorem isPrintable_writeItems :
    ∀ items : List Value, Value.AreWhole items → IsPrintable (Value.writeItems items)
  | [], _ => isPrintable_of_all rfl
  | item :: rest, ⟨whole, others⟩ => by
    rw [writeItems_cons]
    exact (item.isPrintable_write whole).append
      ((isPrintable_separator false rest).append (isPrintable_writeItems rest others))

/-- Neither do the texts of several members. -/
theorem isPrintable_writeMembers :
    ∀ members : List (String × Value), Value.AreWholeMembers members →
    IsPrintable (Value.writeMembers members)
  | [], _ => isPrintable_of_all rfl
  | (name, value) :: rest, ⟨whole, others⟩ => by
    -- A member is its name, a colon, its value and what separates it from the others.
    rw [writeMembers_cons]
    exact (isPrintable_quote name).append (.cons (by decide) ((value.isPrintable_write whole).append
      ((isPrintable_separator false rest).append (isPrintable_writeMembers rest others))))
end

end FormatPipeline.Json
