import FormatPipeline.Proofs.Json.Grammar
import FormatPipeline.Proofs.Text.Utf8

/-! Every text that spells a value is read as that value, up to the limits of depth and fuel. -/

namespace FormatPipeline.Json

/-! ## Gaps -/

/-- There are four characters that make up gaps. -/
theorem isGap_iff {c : Char} : isGap c ↔ c = ' ' ∨ c = '\n' ∨ c = '\t' ∨ c = '\r' := by
  simp [isGap, or_assoc]

/-- Nothing is a gap. -/
theorem isGap_nil : IsGap [] := fun _ member => absurd member List.not_mem_nil

/-- A gap in front of a text is passed over. -/
theorem skipBlanks_gap {gap : List Char} (blank : IsGap gap) (rest : List Char) :
    skipBlanks (gap ++ rest) = skipBlanks rest :=
  List.dropWhile_append_of_pos blank

/-- Nothing is passed over in front of any other character. -/
theorem skipBlanks_cons {c : Char} (busy : isGap c = false) (rest : List Char) :
    skipBlanks (c :: rest) = c :: rest :=
  List.dropWhile_cons_of_neg (by simpa [isGap] using busy)

/-- Nothing is left of a gap. -/
theorem skipBlanks_of_isGap {gap : List Char} (blank : IsGap gap) : skipBlanks gap = [] := by
  have left := skipBlanks_gap blank []
  rw [List.append_nil] at left
  exact left

/-! ## Strings -/

/-- Four hexadecimal digits are read as the number that they write. -/
theorem readHex_append {n : Nat} {digits : List Char} (writes : WritesHex n digits)
    (rest : List Char) : readHex (digits ++ rest) = .ok n := by
  cases writes with
  | @digits w x y z a b c d first second third fourth =>
    -- Every digit takes a byte, so that four bytes are there.
    have bytes : ¬ (String.ofList [w, x, y, z]).utf8ByteSize < 4 := by
      have := w.utf8Size_pos
      have := x.utf8Size_pos
      have := y.utf8Size_pos
      have := z.utf8Size_pos
      simp only [String.ofList_cons, String.ofList_nil, String.append_empty, String.append_singleton,
        String.utf8ByteSize_append, String.utf8ByteSize_singleton, String.utf8ByteSize_push]
      omega
    have front : List.take 4 ([w, x, y, z] ++ rest) = [w, x, y, z] := rfl
    unfold readHex
    rw [front, if_neg bytes]
    simp [first, second, third, fourth]

/-- Four hexadecimal digits are four characters. -/
theorem WritesHex.length_eq {n : Nat} {digits : List Char} (writes : WritesHex n digits) :
    digits.length = 4 := by
  cases writes
  rfl

/-- The code of a character is read as that character. -/
theorem readCodeUnits_unit {c : Char} {digits : List Char} (writes : WritesHex c.toNat digits)
    (rest : List Char) : readCodeUnits (digits ++ rest) = .ok (c, 4) := by
  -- No character has the code of half a pair.
  have valid := Text.toNat_valid c
  have whole : ¬ (0xDC00 ≤ c.toNat ∧ c.toNat ≤ 0xDFFF) := by omega
  have alone : c.toNat < 0xD800 ∨ 0xDBFF < c.toNat := by omega
  unfold readCodeUnits
  rw [readHex_append writes]
  simp [Bind.bind, Except.bind, pure, Except.pure, whole, alone, Char.ofNat_toNat]

/-- The two halves of a pair are read as the character that they write together. -/
theorem readCodeUnits_pair {c : Char} {high low : Nat} {first second : List Char}
    (high_ge : 0xD800 ≤ high) (high_le : high ≤ 0xDBFF) (low_ge : 0xDC00 ≤ low) (low_le : low ≤ 0xDFFF)
    (code : c.toNat = (high - 0xD800) * 0x400 + (low - 0xDC00) + 0x10000)
    (writesHigh : WritesHex high first) (writesLow : WritesHex low second) (rest : List Char) :
    readCodeUnits (first ++ ('\\' :: 'u' :: (second ++ rest))) = .ok (c, 10) := by
  have notLow : ¬ (0xDC00 ≤ high ∧ high ≤ 0xDFFF) := by omega
  have notAlone : ¬ (high < 0xD800 ∨ 0xDBFF < high) := by omega
  have isLow : ¬ (low < 0xDC00 ∨ 0xDFFF < low) := by omega
  -- What follows the first half is the second one.
  have behind : (first ++ ('\\' :: 'u' :: (second ++ rest))).drop 4 = '\\' :: 'u' :: (second ++ rest) := by
    rw [← writesHigh.length_eq, List.drop_left]
  unfold readCodeUnits
  rw [readHex_append writesHigh, behind]
  simp only [Bind.bind, Except.bind, notLow, notAlone, if_false, pure, Except.pure,
    readHex_append writesLow, isLow, ← code, Char.ofNat_toNat]

/-- A character that is written in a string is read, and nothing else of the text. -/
theorem readChars_writesChar {c : Char} {written : List Char} (writes : WritesChar c written)
    (read rest : List Char) :
    readChars 0 read (written ++ rest) = readChars 0 (c :: read) rest := by
  -- The characters of an escape are passed over once it has been read.
  have passes : ∀ (passed : List Char), readChars passed.length (c :: read) (passed ++ rest) =
      readChars 0 (c :: read) rest := by
    intro passed
    induction passed with
    | nil => rfl
    | cons d passed ih => simp [readChars, ih]
  -- So it is enough that an escape is read as the character with the right length.
  have escaped : ∀ passed : List Char, readEscape (passed ++ rest) = .ok (c, passed.length) →
      readChars 0 read ('\\' :: (passed ++ rest)) = readChars 0 (c :: read) rest := by
    intro passed meaning
    simp [readChars, meaning, passes]
  cases writes with
  | itself printable noQuote noBackslash =>
    have plain : ¬ c.toNat < 0x20 := by omega
    simp [readChars, noQuote, noBackslash, plain]
  | @short letter known =>
    refine escaped [letter] ?_
    -- There are eight letters, each of which has its own branch.
    simp only [shortEscapes, List.mem_cons, Prod.mk.injEq, List.not_mem_nil, or_false] at known
    rcases known with h | h | h | h | h | h | h | h <;> obtain ⟨rfl, rfl⟩ := h <;> rfl
  | @unit digits hex =>
    refine escaped ('u' :: digits) ?_
    simp [readEscape, readCodeUnits_unit hex, hex.length_eq, Except.map]
  | @pair high low first second high_ge high_le low_ge low_le code writesHigh writesLow =>
    have spelled : first ++ '\\' :: 'u' :: second ++ rest = first ++ '\\' :: 'u' :: (second ++ rest) := by
      simp
    refine escaped ('u' :: (first ++ '\\' :: 'u' :: second)) ?_
    simp [readEscape, readCodeUnits_pair high_ge high_le low_ge low_le code writesHigh writesLow,
      writesHigh.length_eq, writesLow.length_eq, Except.map]

/-- The characters of a string are read up to its closing quote. -/
theorem readChars_writesChars {chars written : List Char} (writes : WritesChars chars written)
    (read rest : List Char) :
    readChars 0 read (written ++ '"' :: rest) = .ok (read.reverse ++ chars, rest) := by
  -- The induction is on the characters, each of which is read by itself.
  induction writes generalizing read with
  | nil => simp [readChars]
  | @cons c chars first others one _ ih =>
    rw [List.append_assoc, readChars_writesChar one, ih]
    simp

/-- A string between quotes is read once its opening quote has been. -/
theorem readString_writesString {text : String} {cs : List Char} (writes : WritesString text cs)
    (rest : List Char) :
    ∃ inner, cs = '"' :: inner ∧ readString (inner ++ rest) = .ok (text, rest) := by
  cases writes with
  | @quoted inner chars =>
    refine ⟨_, rfl, ?_⟩
    -- The characters inside are read up to the quote, with nothing read before.
    have read := readChars_writesChars chars [] rest
    simp [readString, read, Except.map]

/-! ## Numbers -/

/-- The characters that can go on with a number. -/
def extendsNumber (c : Char) : Bool := c.isDigit || c == '.' || c == 'e' || c == 'E'

/-- Whether a number can end in front of a text. -/
def Stops (rest : List Char) : Prop := ∀ c ∈ rest.head?, extendsNumber c = false

/-- Digits in a row are read up to the first other character. -/
theorem spanDigits_append {digits : List Nat} {cs : List Char} (writes : WritesDigits digits cs)
    {rest : List Char} (other : ∀ c ∈ rest.head?, c.isDigit = false) :
    spanDigits (cs ++ rest) = (digits, rest) := by
  -- The rest begins with no digit, so that nothing of it is taken.
  have stays : rest.takeWhile Char.isDigit = [] ∧ rest.dropWhile Char.isDigit = rest := by
    cases rest with
    | nil => exact ⟨rfl, rfl⟩
    | cons c rest => simp [other c rfl]
  unfold spanDigits
  rw [List.takeWhile_append_of_pos writes.areDigits, List.dropWhile_append_of_pos writes.areDigits,
    stays.1, stays.2, List.append_nil, writes.numbers]

/-- Digits in a row have at least one number. -/
theorem WritesDigits.exists_cons {digits : List Nat} {cs : List Char} (writes : WritesDigits digits cs) :
    ∃ c tail digit others, cs = c :: tail ∧ c.isDigit ∧ digits = digit :: others := by
  have numbers := writes.numbers
  cases cs with
  | nil => exact absurd rfl writes.some
  | cons c tail => exact ⟨c, tail, _, _, rfl, writes.areDigits c List.mem_cons_self, numbers⟩

/-- A fraction is read, and so is that there is none. -/
theorem readFraction_append {fraction : Option (List Nat)} {cs : List Char}
    (writes : WritesFraction fraction cs) {rest : List Char}
    (stops : ∀ c ∈ rest.head?, c.isDigit = false ∧ c ≠ '.') :
    readFraction (cs ++ rest) = .ok (fraction, rest) := by
  cases writes with
  | none =>
    -- Without a point there is no fraction.
    rw [List.nil_append]
    unfold readFraction
    split
    · exact absurd rfl (stops '.' rfl).2
    · rfl
  | @some digits cs digitsWritten =>
    have span := spanDigits_append digitsWritten fun c member => (stops c member).1
    obtain ⟨c, tail, digit, others, -, -, rfl⟩ := digitsWritten.exists_cons
    simp [readFraction, span]

/-- The digits of an exponent are read behind its sign. -/
theorem readExponent_append {digits : List Nat} {cs : List Char} (writes : WritesDigits digits cs)
    {rest : List Char} (stops : Stops rest) :
    readExponent (cs ++ rest) = .ok ((decimal digits : Int), rest) ∧
      readExponent ('+' :: (cs ++ rest)) = .ok ((decimal digits : Int), rest) ∧
      readExponent ('-' :: (cs ++ rest)) = .ok (-(decimal digits : Int), rest) := by
  have span := spanDigits_append writes fun c member => by
    have stop := stops c member
    simp only [extendsNumber, Bool.or_eq_false_iff] at stop
    exact stop.1.1.1
  -- A digit is no sign, so that the first one is not lost.
  obtain ⟨c, tail, digit, others, rfl, isDigit, rfl⟩ := writes.exists_cons
  have noPlus : c ≠ '+' := by rintro rfl; exact absurd isDigit (by decide)
  have noMinus : c ≠ '-' := by rintro rfl; exact absurd isDigit (by decide)
  rw [List.cons_append] at span
  refine ⟨?_, ?_, ?_⟩
  all_goals simp [readExponent, noPlus, noMinus, span, decimal]

/-- An exponent is read, and so is that there is none. -/
theorem readScale_append {exponent : Option Int} {cs : List Char}
    (writes : WritesExponent exponent cs) {rest : List Char} (stops : Stops rest) :
    readScale (cs ++ rest) = .ok (exponent, rest) := by
  -- What stops a number is no letter of an exponent, and each way to write a sign is read.
  cases writes with
  | none =>
    rw [List.nil_append]
    unfold readScale
    split
    · exact absurd (stops 'e' rfl) (by decide)
    · exact absurd (stops 'E' rfl) (by decide)
    · rfl
  | bare isMark digits =>
    have read := (readExponent_append digits stops).1
    rcases isMark with rfl | rfl <;> simp [readScale, read, Except.map]
  | plus isMark digits =>
    have read := (readExponent_append digits stops).2.1
    rcases isMark with rfl | rfl <;> simp [readScale, read, Except.map]
  | minus isMark digits =>
    have read := (readExponent_append digits stops).2.2
    rcases isMark with rfl | rfl <;> simp [readScale, read, Except.map]

/-- Neither digits nor a fraction go on in front of an exponent or what follows a number. -/
theorem stops_scale {exponent : Option Int} {cs : List Char} (writes : WritesExponent exponent cs)
    {rest : List Char} (stops : Stops rest) :
    ∀ c ∈ (cs ++ rest).head?, c.isDigit = false ∧ c ≠ '.' := by
  intro c member
  -- An exponent begins with its mark.
  have marked : ∀ {mark : Char}, mark = 'e' ∨ mark = 'E' → mark.isDigit = false ∧ mark ≠ '.' := by
    rintro mark (rfl | rfl) <;> decide
  cases writes with
  | none =>
    have stop := stops c member
    simp only [extendsNumber, Bool.or_eq_false_iff, beq_eq_false_iff_ne] at stop
    exact ⟨stop.1.1.1, stop.1.1.2⟩
  | bare isMark | plus isMark | minus isMark =>
    obtain rfl := Option.some.inj member
    exact marked isMark

/-- Digits do not go on in front of a fraction or what follows it. -/
theorem stops_fraction {fraction : Option (List Nat)} {cs : List Char}
    (writes : WritesFraction fraction cs) {rest : List Char}
    (stops : ∀ c ∈ rest.head?, c.isDigit = false ∧ c ≠ '.') :
    ∀ c ∈ (cs ++ rest).head?, c.isDigit = false := by
  intro c member
  -- Either the number stops, or a point comes first.
  cases writes with
  | none => exact (stops c member).1
  | some digits =>
    obtain rfl := Option.some.inj member
    decide

/-- A number is read once its sign has been. -/
theorem readNumber_append {negative : Bool} {whole : List Nat} {fraction : Option (List Nat)}
    {exponent : Option Int} {front behind scale rest : List Char} {n : Number}
    (digits : WritesDigits whole front) (noZero : whole.head? = some 0 → whole = [0])
    (writesFraction : WritesFraction fraction behind) (writesExponent : WritesExponent exponent scale)
    (meaning : Numeral.value? ⟨negative, whole, fraction, exponent⟩ = some n) (stops : Stops rest) :
    readNumber negative (front ++ (behind ++ (scale ++ rest))) = .ok (n, rest) := by
  have stopsScale := stops_scale writesExponent stops
  have span := spanDigits_append digits (stops_fraction writesFraction stopsScale)
  have readBehind := readFraction_append writesFraction stopsScale
  have readScale := readScale_append writesExponent stops
  -- There is a first digit, and it is no zero in front of others.
  obtain ⟨c, tail, digit, others, rfl, -, rfl⟩ := digits.exists_cons
  have single : digit = 0 → others = [] := by
    rintro rfl
    simpa using noZero rfl
  rw [List.cons_append] at span ⊢
  unfold readNumber
  rw [span]
  -- What is left is to go through the parts in their order.
  cases others with
  | nil =>
    simp [readBehind, readScale, meaning, Bind.bind, Except.bind, pure, Except.pure]
  | cons next others =>
    have positive : digit ≠ 0 := fun zero => by simpa using single zero
    simp [positive, readBehind, readScale, meaning, Bind.bind, Except.bind, pure, Except.pure]

/-- A number begins with its sign or with a digit. -/
theorem WritesNumber.exists_cons {n : Number} {cs : List Char} (writes : WritesNumber n cs) :
    ∃ c tail, cs = c :: tail ∧ (c = '-' ∨ c.isDigit) := by
  obtain ⟨numeral, -, parts⟩ := writes
  -- Only the sign and the first digit of the whole part are looked at.
  cases parts with
  | @parts negative whole fraction exponent front behind scale digits =>
    cases negative with
    | true => exact ⟨_, _, rfl, .inl rfl⟩
    | false =>
      obtain ⟨c, tail, -, -, rfl, isDigit, -⟩ := digits.exists_cons
      exact ⟨c, _, rfl, .inr isDigit⟩

/-- No number begins with a character that another value or a gap begins with. -/
theorem ne_of_beginsNumber {c d : Char} (begins : c = '-' ∨ c.isDigit)
    (other : d ≠ '-' ∧ d.isDigit = false) : c ≠ d := by
  rintro rfl
  rcases begins with minus | digit
  · exact other.1 minus
  · simp [other.2] at digit

/-- A number is read as a value. -/
theorem readScalar_number {n : Number} {cs rest : List Char} (writes : WritesNumber n cs)
    (stops : Stops rest) : readScalar (cs ++ rest) = .ok (.number n, rest) := by
  obtain ⟨numeral, meaning, parts⟩ := writes
  cases parts with
  | @parts negative whole fraction exponent front behind scale digits noZero isFraction isExponent =>
    have read := readNumber_append digits noZero isFraction isExponent meaning stops
    cases negative with
    | true => simp [readScalar, read, Except.map]
    | false =>
      -- A digit in front is none of the characters that begin another value.
      obtain ⟨c, tail, -, -, rfl, isDigit, -⟩ := digits.exists_cons
      simp only [Bool.false_eq_true, if_false, List.nil_append, List.cons_append,
        List.append_assoc] at read ⊢
      unfold readScalar
      split
      case h_7 first others _ _ _ _ _ same =>
        obtain ⟨rfl, rfl⟩ := List.cons.inj same
        simp [isDigit, read, Except.map]
      case h_1 same => simp at same
      all_goals
        rename_i same
        obtain ⟨rfl, -⟩ := List.cons.inj same
        exact absurd isDigit (by decide)

/-! ## What stands between values -/

/-- A value begins with a character that is neither a gap nor the end of an array. -/
theorem Value.SpelledBy.exists_cons {value : Value} {cs : List Char} (spelled : value.SpelledBy cs) :
    ∃ c tail, cs = c :: tail ∧ isGap c = false ∧ c ≠ ']' := by
  -- Every kind of value has its own first character.
  cases spelled with
  | null | array | object => exact ⟨_, _, rfl, by decide, by decide⟩
  | @bool value => cases value <;> exact ⟨_, _, rfl, by decide, by decide⟩
  | string writes =>
    cases writes
    exact ⟨_, _, rfl, by decide, by decide⟩
  -- A number begins with its sign or a digit, which are neither blank nor a bracket.
  | number writes =>
    obtain ⟨c, tail, rfl, begins⟩ := writes.exists_cons
    refine ⟨c, tail, rfl, Bool.eq_false_iff.mpr fun gap => ?_, ne_of_beginsNumber begins (by decide)⟩
    rcases isGap_iff.mp gap with blank | blank | blank | blank <;>
      exact ne_of_beginsNumber begins (by decide) blank

/-- What leads to an item is passed over in front of it. -/
theorem nextItem_lead {first : Bool} {lead : List Char} (leads : LeadsItem first lead) {c : Char}
    (busy : isGap c = false) (opens : c ≠ ']') (rest : List Char) :
    nextItem first (lead ++ c :: rest) = .ok (some (c :: rest), []) := by
  -- In front of the first item there is a gap only, and a comma in front of the others.
  cases leads with
  | first gap => simp [nextItem, skipBlanks_gap gap, skipBlanks_cons busy]
  | @next before after gapBefore gapAfter =>
    have comma : isGap ',' = false := by decide
    simp [nextItem, skipBlanks_gap gapBefore, skipBlanks_gap gapAfter, skipBlanks_cons comma,
      skipBlanks_cons busy, opens]

/-- The end of an array is found behind a gap. -/
theorem nextItem_close {gap : List Char} (blank : IsGap gap) (first : Bool) (rest : List Char) :
    nextItem first (gap ++ ']' :: rest) = .ok (none, rest) := by
  have close : isGap ']' = false := by decide
  simp [nextItem, skipBlanks_gap blank, skipBlanks_cons close]

/-- The name of a member is read behind what leads to it. -/
theorem memberName_lead {first : Bool} {lead quoted : List Char} {name : String}
    (leads : LeadsItem first lead) (writes : WritesString name quoted) (rest : List Char) :
    memberName first (lead ++ (quoted ++ rest)) = .ok (some name, rest) := by
  -- Behind the lead the opening quote comes first, and then the string is read.
  obtain ⟨inner, rfl, read⟩ := readString_writesString writes rest
  have quote : isGap '"' = false := by decide
  cases leads with
  | first gap =>
    simp [memberName, skipBlanks_gap gap, skipBlanks_cons quote, read, Bind.bind, Except.bind, pure,
      Except.pure]
  | @next before after gapBefore gapAfter =>
    have comma : isGap ',' = false := by decide
    simp [memberName, skipBlanks_gap gapBefore, skipBlanks_gap gapAfter, skipBlanks_cons comma,
      skipBlanks_cons quote, read, Bind.bind, Except.bind, pure, Except.pure]

/-- The end of an object is found behind a gap. -/
theorem memberName_close {gap : List Char} (blank : IsGap gap) (first : Bool) (rest : List Char) :
    memberName first (gap ++ '\x7d' :: rest) = .ok (none, rest) := by
  have close : isGap '\x7d' = false := by decide
  simp [memberName, skipBlanks_gap blank, skipBlanks_cons close, pure, Except.pure]

/-- The colon behind a name is found behind a gap. -/
theorem readColon_gap {gap : List Char} (blank : IsGap gap) (rest : List Char) :
    readColon (gap ++ ':' :: rest) = .ok rest := by
  have colon : isGap ':' = false := by decide
  simp [readColon, skipBlanks_gap blank, skipBlanks_cons colon]

/-- No character that can go on with a number begins a gap, or a mark between values. -/
theorem extendsNumber_of_isGap {c : Char} (gap : isGap c) : extendsNumber c = false := by
  rcases isGap_iff.mp gap with rfl | rfl | rfl | rfl <;> decide

/-- A number can end in front of a gap. -/
theorem stops_gap {gap : List Char} (blank : IsGap gap) {rest : List Char} (stops : Stops rest) :
    Stops (gap ++ rest) := by
  intro c member
  -- A gap is empty, or its first character ends the number.
  cases gap with
  | nil => exact stops c member
  | cons d gap =>
    obtain rfl := Option.some.inj member
    exact extendsNumber_of_isGap (blank _ List.mem_cons_self)

/-- A number can end in front of what leads to a further item or member. -/
theorem stops_lead {lead : List Char} (leads : LeadsItem false lead) (rest : List Char) :
    Stops (lead ++ rest) := by
  -- The lead begins with a gap, or with the comma itself.
  cases leads with
  | @next before after gapBefore =>
    rw [List.append_assoc]
    refine stops_gap gapBefore fun c member => ?_
    obtain rfl := Option.some.inj member
    decide

/-- A number can end in front of the rest of an array. -/
theorem ItemsSpelledBy.stops {items : List Value} {cs : List Char}
    (spelled : ItemsSpelledBy false items cs) (rest : List Char) : Stops (cs ++ rest) := by
  -- Behind the last item a bracket or a comma ends the number.
  cases spelled with
  | closeArray gap =>
    rw [List.append_assoc]
    refine stops_gap gap fun c member => ?_
    obtain rfl := Option.some.inj member
    decide
  | item lead =>
    rw [List.append_assoc]
    exact stops_lead lead _

/-- The end of an array takes a character. -/
theorem ItemsSpelledBy.length_pos {items : List Value} {cs : List Char} {first : Bool}
    (spelled : ItemsSpelledBy first items cs) : 0 < cs.length := by
  -- Either there is a bracket, or the value of the item has a first character.
  cases spelled with
  | closeArray => simp
  | item _ spelled =>
    obtain ⟨c, tail, rfl, -⟩ := spelled.exists_cons
    simp only [List.length_append, List.length_cons]
    omega

/-- A number can end in front of the rest of an object. -/
theorem MembersSpelledBy.stops {members : List (String × Value)} {cs : List Char}
    (spelled : MembersSpelledBy false members cs) (rest : List Char) : Stops (cs ++ rest) := by
  -- Behind the last member a brace or a comma ends the number.
  cases spelled with
  | closeObject gap =>
    rw [List.append_assoc]
    refine stops_gap gap fun c member => ?_
    obtain rfl := Option.some.inj member
    decide
  | member lead =>
    rw [List.append_assoc]
    exact stops_lead lead _

/-! ## Values -/

/-- A gap in front of a value makes no difference. -/
theorem readValue_gap {gap : List Char} (blank : IsGap gap) (fuel depth : Nat) (cs : List Char) :
    readValue fuel depth (gap ++ cs) = readValue fuel depth cs := by
  cases fuel with
  | zero => rfl
  | succ fuel => simp only [readValue, skipBlanks_gap blank]

/-- Whether a text is read as a value in front of anything that ends a number. -/
def Value.ReadFrom (value : Value) (cs : List Char) : Prop :=
  ∀ (fuel depth : Nat) (rest : List Char), Stops rest → value.nesting < depth →
    -- Every character pays for two calls.
    2 * cs.length ≤ fuel → readValue fuel depth (cs ++ rest) = .ok (value, rest)

/-- Whether a text is read as the further items of an array, with its end. -/
def ItemsReadFrom (first : Bool) (items : List Value) (cs : List Char) : Prop :=
  ∀ (fuel depth : Nat) (read : List Value) (rest : List Char), Value.nestingOfItems items < depth →
    2 * cs.length ≤ fuel → readItems fuel depth first read (cs ++ rest) = .ok (read.reverse ++ items, rest)

/-- Whether a text is read as the further members of an object, with its end. -/
def MembersReadFrom (first : Bool) (members : List (String × Value)) (cs : List Char) : Prop :=
  ∀ (fuel depth : Nat) (read : List (String × Value)) (rest : List Char),
    Value.nestingOfMembers members < depth → 2 * cs.length ≤ fuel →
    readMembers fuel depth first read (cs ++ rest) = .ok (read.reverse ++ members, rest)

/-- A text that opens no container is read if it is read as a scalar. -/
theorem Value.readFrom_of_scalar {value : Value} {c : Char} {tail : List Char} (busy : isGap c = false)
    (noArray : c ≠ '[') (noObject : c ≠ '\x7b')
    (scalar : ∀ rest, Stops rest → readScalar (c :: (tail ++ rest)) = .ok (value, rest)) :
    value.ReadFrom (c :: tail) := by
  -- One unit of fuel is spent on the value itself.
  intro fuel depth rest stops _ enough
  rw [List.length_cons] at enough
  obtain ⟨fuel, rfl⟩ : ∃ less, fuel = less + 1 := ⟨fuel - 1, by omega⟩
  simp [readValue, skipBlanks_cons busy, noArray, noObject, scalar rest stops]

/-- A number is read. -/
theorem Value.readFrom_number {n : Number} {cs : List Char} (writes : WritesNumber n cs) :
    Value.ReadFrom (.number n) cs := by
  obtain ⟨c, tail, rfl, begins⟩ := writes.exists_cons
  obtain ⟨_, _, same, busy, -⟩ := (Value.SpelledBy.number writes).exists_cons
  obtain ⟨rfl, rfl⟩ := List.cons.inj same
  exact readFrom_of_scalar busy (ne_of_beginsNumber begins (by decide))
    (ne_of_beginsNumber begins (by decide)) fun rest => readScalar_number writes

/-- A string is read. -/
theorem Value.readFrom_string {text : String} {cs : List Char} (writes : WritesString text cs) :
    Value.ReadFrom (.string text) cs := by
  obtain ⟨inner, rfl, -⟩ := readString_writesString writes []
  refine readFrom_of_scalar (by decide) (by decide) (by decide) fun rest _ => ?_
  -- Where the string ends does not depend on what follows it.
  obtain ⟨_, same, read⟩ := readString_writesString writes rest
  obtain ⟨-, rfl⟩ := List.cons.inj same
  simp [readScalar, read, Except.map]

/-- An array is read if its items are. -/
theorem Value.readFrom_array {items : List Value} {cs : List Char}
    (itemsRead : ItemsReadFrom true items cs) : Value.ReadFrom (.array items) ('[' :: cs) := by
  intro fuel depth rest _ shallow enough
  simp only [Value.nesting] at shallow
  rw [List.length_cons] at enough
  obtain ⟨fuel, rfl⟩ : ∃ less, fuel = less + 1 := ⟨fuel - 1, by omega⟩
  -- The array takes one level of the depth.
  have room : ¬ depth ≤ 1 := by omega
  have read := itemsRead fuel (depth - 1) [] rest (by omega) (by omega)
  have bracket : isGap '[' = false := by decide
  simp [readValue, skipBlanks_cons bracket, room, read, Except.map]

/-- An object is read if its members are. -/
theorem Value.readFrom_object {members : List (String × Value)} {cs : List Char}
    (membersRead : MembersReadFrom true members cs) :
    Value.ReadFrom (.object members) ('\x7b' :: cs) := by
  intro fuel depth rest _ shallow enough
  simp only [Value.nesting] at shallow
  rw [List.length_cons] at enough
  obtain ⟨fuel, rfl⟩ : ∃ less, fuel = less + 1 := ⟨fuel - 1, by omega⟩
  -- So does an object.
  have room : ¬ depth ≤ 1 := by omega
  have read := membersRead fuel (depth - 1) [] rest (by omega) (by omega)
  have brace : isGap '\x7b' = false := by decide
  simp [readValue, skipBlanks_cons brace, room, read, Except.map]

/-- The end of an array is read. -/
theorem itemsReadFrom_close {gap : List Char} (blank : IsGap gap) (first : Bool) :
    ItemsReadFrom first [] (gap ++ [']']) := by
  intro fuel depth read rest _ enough
  rw [List.length_append, List.length_singleton] at enough
  obtain ⟨fuel, rfl⟩ : ∃ less, fuel = less + 1 := ⟨fuel - 1, by omega⟩
  simp [readItems, nextItem_close blank]

/-- An item and those behind it are read if they are read by themselves. -/
theorem itemsReadFrom_item {first : Bool} {item : Value} {items : List Value}
    {lead body more : List Char} (leads : LeadsItem first lead) (spelled : item.SpelledBy body)
    (others : ItemsSpelledBy false items more) (itemRead : item.ReadFrom body)
    (othersRead : ItemsReadFrom false items more) :
    ItemsReadFrom first (item :: items) (lead ++ (body ++ more)) := by
  intro fuel depth read rest shallow enough
  simp only [Value.nestingOfItems] at shallow
  simp only [List.length_append] at enough
  obtain ⟨c, tail, rfl, busy, opens⟩ := spelled.exists_cons
  rw [List.length_cons] at enough
  obtain ⟨fuel, rfl⟩ : ∃ less, fuel = less + 1 := ⟨fuel - 1, by omega⟩
  -- The item ends where the rest of the array begins, which is at least its end.
  have some := others.length_pos
  have next := nextItem_lead leads busy opens (tail ++ (more ++ rest))
  have here := itemRead fuel depth (more ++ rest) (others.stops rest) (by omega)
    (by rw [List.length_cons]; omega)
  have later := othersRead fuel depth (item :: read) rest (by omega) (by omega)
  rw [List.cons_append] at here
  simp [readItems, next, here, later]

/-- The end of an object is read. -/
theorem membersReadFrom_close {gap : List Char} (blank : IsGap gap) (first : Bool) :
    MembersReadFrom first [] (gap ++ ['\x7d']) := by
  intro fuel depth read rest _ enough
  rw [List.length_append, List.length_singleton] at enough
  obtain ⟨fuel, rfl⟩ : ∃ less, fuel = less + 1 := ⟨fuel - 1, by omega⟩
  simp [readMembers, nextName, memberName_close blank, Bind.bind, Except.bind, pure, Except.pure]

/-- A member and those behind it are read if they are read by themselves. -/
theorem membersReadFrom_member {first : Bool} {name : String} {value : Value}
    {members : List (String × Value)} {lead quoted before after body more : List Char}
    (leads : LeadsItem first lead) (writes : WritesString name quoted) (gapBefore : IsGap before)
    (gapAfter : IsGap after) (others : MembersSpelledBy false members more)
    (valueRead : value.ReadFrom body) (othersRead : MembersReadFrom false members more) :
    MembersReadFrom first ((name, value) :: members)
      (lead ++ (quoted ++ (before ++ ':' :: (after ++ (body ++ more))))) := by
  intro fuel depth read rest shallow enough
  simp only [Value.nestingOfMembers] at shallow
  simp only [List.length_append, List.length_cons] at enough
  obtain ⟨fuel, rfl⟩ : ∃ less, fuel = less + 1 := ⟨fuel - 1, by omega⟩
  -- The name ends at its quote, and the value where the rest of the object begins.
  have named := memberName_lead leads writes (before ++ ':' :: (after ++ (body ++ (more ++ rest))))
  have colon := readColon_gap gapBefore (after ++ (body ++ (more ++ rest)))
  have here := valueRead fuel depth (more ++ rest) (others.stops rest) (by omega) (by omega)
  have later := othersRead fuel depth ((name, value) :: read) rest (by omega) (by omega)
  rw [← readValue_gap gapAfter] at here
  simp [readMembers, nextName, named, colon, here, later, Bind.bind, Except.bind, pure, Except.pure]

/-- A value is read from every text that spells it. -/
theorem Value.SpelledBy.readFrom {value : Value} {cs : List Char} (spelled : value.SpelledBy cs) :
    value.ReadFrom cs := by
  -- The induction is on the spelling, with all three kinds of texts at once.
  induction spelled using Value.SpelledBy.rec
    (motive_2 := fun first items cs _ => ItemsReadFrom first items cs)
    (motive_3 := fun first members cs _ => MembersReadFrom first members cs) with
  | null => exact readFrom_of_scalar (by decide) (by decide) (by decide) fun _ _ => rfl
  | @bool value =>
    cases value <;> exact readFrom_of_scalar (by decide) (by decide) (by decide) fun _ _ => rfl
  | number writes => exact readFrom_number writes
  | string writes => exact readFrom_string writes
  | array _ itemsRead => exact readFrom_array itemsRead
  | object _ membersRead => exact readFrom_object membersRead
  | closeArray gap => exact itemsReadFrom_close gap _
  | item leads spelled others itemRead othersRead =>
    exact itemsReadFrom_item leads spelled others itemRead othersRead
  | closeObject gap => exact membersReadFrom_close gap _
  | member leads writes gapBefore gapAfter _ others valueRead othersRead =>
    exact membersReadFrom_member leads writes gapBefore gapAfter others valueRead othersRead

/-- So are the items of an array. -/
theorem ItemsSpelledBy.readFrom {first : Bool} {items : List Value} {cs : List Char}
    (spelled : ItemsSpelledBy first items cs) : ItemsReadFrom first items cs := by
  -- The induction is on the items, with the spelling taken apart along with them.
  induction items generalizing first cs with
  | nil =>
    cases spelled with
    | closeArray gap => exact itemsReadFrom_close gap first
  | cons item items ih =>
    cases spelled with
    | item leads spelled others =>
      exact itemsReadFrom_item leads spelled others spelled.readFrom (ih others)

/-- Nothing but a gap may follow a text. -/
theorem expectEnd_gap {gap : List Char} (blank : IsGap gap) : expectEnd gap = .ok () := by
  simp [expectEnd, skipBlanks_of_isGap blank]

/-- Every text of a value that is not nested too deeply is read as that value. -/
theorem readText_of_isText {value : Value} {text : String} (isText : value.IsText text.toList)
    {depth : Nat} (shallow : value.nesting < depth) : readText depth text = .ok value := by
  unfold readText
  generalize text.toList = cs at isText
  cases isText with
  | @text before body after gapBefore spelled gapAfter =>
    -- The gap behind the value is all that is left of the text.
    have nothing : Stops [] := by simp [Stops]
    have stops : Stops after := by simpa using stops_gap gapAfter nothing
    have read := spelled.readFrom (fuelFor (before ++ (body ++ after))) depth after stops shallow
      (by simp only [fuelFor, List.length_append]; omega)
    rw [← readValue_gap gapBefore] at read
    simp [read, expectEnd_gap gapAfter, Bind.bind, Except.bind, pure, Except.pure]

/-- Parsing a text gives the value that it spells, with one member per name. -/
theorem parse_of_isText {value : Value} {text : String} (isText : value.IsText text.toList)
    (shallow : value.nesting < depthLimit) : parse text = .ok value.merge := by
  rw [parse, readText_of_isText isText shallow]
  rfl

end FormatPipeline.Json
