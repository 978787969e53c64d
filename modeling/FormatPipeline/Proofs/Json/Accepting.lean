import FormatPipeline.Proofs.Json.Reading

/-! Whatever text is read is spelled by the value that is read, so that the grammar is read and no more. -/

namespace FormatPipeline.Json

section Outcomes

variable {ε α β : Type}

/-- What is made of an outcome comes from one. -/
theorem exists_of_map_eq_ok {read : Except ε α} {f : α → β} {made : β} (mapped : read.map f = .ok made) :
    ∃ outcome, read = .ok outcome ∧ f outcome = made := by
  cases read with
  | error fault => cases mapped
  | ok outcome => exact ⟨outcome, rfl, Except.ok.inj mapped⟩

/-- What goes on comes from an outcome. -/
theorem exists_of_bind_eq_ok {read : Except ε α} {f : α → Except ε β} {made : β}
    (bound : read >>= f = .ok made) : ∃ outcome, read = .ok outcome ∧ f outcome = .ok made := by
  cases read with
  | error fault => cases bound
  | ok outcome => exact ⟨outcome, rfl, bound⟩

end Outcomes

/-! ## Gaps -/

/-- What is passed over in front of a text is a gap. -/
theorem exists_gap_skipBlanks (cs : List Char) : ∃ gap, IsGap gap ∧ cs = gap ++ skipBlanks cs := by
  refine ⟨cs.takeWhile isGap, fun c member => ?_, List.takeWhile_append_dropWhile.symm⟩
  exact List.all_eq_true.mp List.all_takeWhile c member

/-- A gap and another one are a gap. -/
theorem IsGap.append {first second : List Char} (before : IsGap first) (after : IsGap second) :
    IsGap (first ++ second) := by
  intro c member
  exact (List.mem_append.mp member).elim (before c) (after c)

/-- A gap may follow what stands in front of an item. -/
theorem LeadsItem.append {first : Bool} {lead gap : List Char} (leads : LeadsItem first lead)
    (blank : IsGap gap) : LeadsItem first (lead ++ gap) := by
  cases leads with
  | first before => exact .first (before.append blank)
  | @next before after gapBefore gapAfter =>
    rw [List.append_assoc, List.cons_append]
    exact .next gapBefore (gapAfter.append blank)

/-! ## Strings -/

/-- The first of several hexadecimal digits comes from the first character. -/
theorem exists_of_mapM_eq_cons {cs : List Char} {digit : Nat} {digits : List Nat}
    (meaning : cs.mapM hexValue? = some (digit :: digits)) :
    ∃ c rest, cs = c :: rest ∧ hexValue? c = some digit ∧ rest.mapM hexValue? = some digits := by
  -- Mapping over a list can only begin with a digit if the list begins with its character.
  cases cs with
  | nil => simp at meaning
  | cons c rest =>
    simp only [List.mapM_cons, Option.bind_eq_bind, Option.bind_eq_some_iff, Option.pure_def,
      Option.some.injEq, List.cons.injEq] at meaning
    obtain ⟨_, first, _, others, rfl, rfl⟩ := meaning
    exact ⟨c, rest, rfl, first, others⟩

/-- A number that is read in hexadecimal digits is written by the first four characters. -/
theorem writesHex_of_readHex {cs : List Char} {n : Nat} (read : readHex cs = .ok n) :
    WritesHex n (cs.take 4) := by
  unfold readHex at read
  split at read
  · cases read
  have short : (cs.take 4).length ≤ 4 := List.length_take_le 4 cs
  generalize cs.take 4 = digits at read short ⊢
  split at read
  next a b c d meaning =>
    cases read
    -- Each digit comes from one character, and there is no fifth one.
    obtain ⟨w, _, rfl, first, meaning⟩ := exists_of_mapM_eq_cons meaning
    obtain ⟨x, _, rfl, second, meaning⟩ := exists_of_mapM_eq_cons meaning
    obtain ⟨y, _, rfl, third, meaning⟩ := exists_of_mapM_eq_cons meaning
    obtain ⟨z, rest, rfl, fourth, -⟩ := exists_of_mapM_eq_cons meaning
    have last : rest.length = 0 := by
      simp only [List.length_cons] at short
      omega
    obtain rfl := List.eq_nil_of_length_eq_zero last
    exact .digits first second third fourth
  · cases read

/-- Hexadecimal digits write numbers of sixteen bits. -/
theorem WritesHex.lt {n : Nat} {digits : List Char} (writes : WritesHex n digits) : n < 0x10000 := by
  have small : ∀ {c : Char} {value : Nat}, hexValue? c = some value → value < 16 := by
    intro c value meaning
    unfold hexValue? at meaning
    -- Each of the three ranges has at most ten digits.
    split at meaning
    next decimal => cases meaning; simp [Char.le_def, UInt32.le_iff_toNat_le] at decimal ⊢; omega
    next =>
      split at meaning
      next lower => cases meaning; simp [Char.le_def, UInt32.le_iff_toNat_le] at lower ⊢; omega
      next =>
        split at meaning
        next upper => cases meaning; simp [Char.le_def, UInt32.le_iff_toNat_le] at upper ⊢; omega
        next => cases meaning
  cases writes with
  | digits first second third fourth =>
    have := small first
    have := small second
    have := small third
    have := small fourth
    omega

/-- What is read behind `\u` is written by the characters that it takes. -/
theorem writesChar_of_readCodeUnits {cs : List Char} {c : Char} {used : Nat}
    (read : readCodeUnits cs = .ok (c, used)) : WritesChar c ('\\' :: 'u' :: cs.take used) := by
  unfold readCodeUnits at read
  obtain ⟨first, high, read⟩ := exists_of_bind_eq_ok read
  have writesHigh := writesHex_of_readHex high
  have small := writesHigh.lt
  by_cases whole : 0xDC00 ≤ first ∧ first ≤ 0xDFFF
  · rw [if_pos whole] at read
    cases read
  rw [if_neg whole] at read
  by_cases alone : first < 0xD800 ∨ 0xDBFF < first
  · -- The number is the code of a character.
    rw [if_pos alone] at read
    cases read
    refine .unit ?_
    rwa [Text.toNat_ofNat (by omega)]
  rw [if_neg alone] at read
  -- The number is the first half of a pair, and the second half has to follow.
  split at read
  · cases read
  · cases read
  next rest behind =>
    obtain ⟨second, low, read⟩ := exists_of_bind_eq_ok read
    have writesLow := writesHex_of_readHex low
    by_cases other : second < 0xDC00 ∨ 0xDFFF < second
    · rw [if_pos other] at read
      cases read
    rw [if_neg other] at read
    obtain ⟨rfl, rfl⟩ := Prod.mk.inj (Except.ok.inj read)
    have spelled : cs.take 10 = cs.take 4 ++ '\\' :: 'u' :: rest.take 4 := by
      rw [show (10 : Nat) = 4 + 6 from rfl, List.take_add, behind]
      rfl
    rw [spelled]
    have code : (Char.ofNat ((first - 0xD800) * 0x400 + (second - 0xDC00) + 0x10000)).toNat =
        (first - 0xD800) * 0x400 + (second - 0xDC00) + 0x10000 := Text.toNat_ofNat (by omega)
    exact .pair (by omega) (by omega) (by omega) (by omega) code writesHigh writesLow
  · cases read

/-- What is read behind a backslash is written by the characters that it takes. -/
theorem writesChar_of_readEscape {cs : List Char} {c : Char} {used : Nat}
    (read : readEscape cs = .ok (c, used)) : WritesChar c ('\\' :: cs.take used) := by
  unfold readEscape at read
  split at read
  · cases read
  -- Eight letters stand for one character each.
  iterate 8
    · cases read
      exact .short (by decide)
  next rest =>
    obtain ⟨⟨unit, taken⟩, units, same⟩ := exists_of_map_eq_ok read
    cases same
    exact writesChar_of_readCodeUnits units
  · cases read

/-- The characters that are read are written up to the closing quote, behind those passed over. -/
theorem writesChars_of_readChars {skip : Nat} {read cs chars rest : List Char}
    (ended : readChars skip read cs = .ok (chars, rest)) :
    ∃ more written, chars = read.reverse ++ more ∧ WritesChars more written ∧
      cs.drop skip = written ++ '"' :: rest := by
  induction cs generalizing skip read with
  | nil => cases ended
  | cons c others ih =>
    rw [readChars] at ended
    split at ended
    -- Behind an escape its characters are passed by.
    next passed =>
      obtain ⟨more, written, rfl, writes, left⟩ := ih ended
      obtain ⟨skip, rfl⟩ : ∃ less, skip = less + 1 := ⟨skip - 1, by omega⟩
      exact ⟨more, written, rfl, writes, left⟩
    next here =>
      obtain rfl : skip = 0 := by omega
      rw [List.drop_zero]
      split at ended
      next quote =>
        -- The string ends here.
        cases ended
        exact ⟨[], [], by simp, .nil, by rw [quote]; rfl⟩
      next noQuote =>
        split at ended
        next backslash =>
          split at ended
          · cases ended
          next escaped used meaning =>
            -- The escape takes some of the characters, and the string goes on behind them.
            obtain ⟨more, written, rfl, writes, left⟩ := ih ended
            refine ⟨escaped :: more, _, by simp, .cons (writesChar_of_readEscape meaning) writes, ?_⟩
            simp only [backslash, List.cons_append, List.append_assoc, ← left, List.take_append_drop]
        next noBackslash =>
          split at ended
          · cases ended
          -- Any other character stands for itself, unless it is a control character.
          next printable =>
            obtain ⟨more, written, rfl, writes, left⟩ := ih ended
            refine ⟨c :: more, _, by simp, .cons (.itself (by omega) noQuote noBackslash) writes, ?_⟩
            rw [List.append_assoc, ← left]
            rfl

/-- A string that is read is written between its quotes. -/
theorem writesString_of_readString {cs rest : List Char} {text : String}
    (read : readString cs = .ok (text, rest)) :
    ∃ inner, WritesString text ('"' :: inner) ∧ cs = inner ++ rest := by
  -- The quote that ends the string was read with its characters.
  obtain ⟨⟨chars, left⟩, ended, same⟩ := exists_of_map_eq_ok read
  cases same
  obtain ⟨more, written, rfl, writes, spelled⟩ := writesChars_of_readChars ended
  refine ⟨written ++ ['"'], .quoted (by simpa using writes), ?_⟩
  simpa using spelled

/-! ## Numbers -/

/-- Digits that are taken from a text stand at its front, if there are any. -/
theorem writesDigits_of_spanDigits {cs rest : List Char} {digits : List Nat}
    (spanned : spanDigits cs = (digits, rest)) (some : digits ≠ []) :
    ∃ front, WritesDigits digits front ∧ cs = front ++ rest := by
  obtain ⟨rfl, rfl⟩ := Prod.mk.inj spanned
  refine ⟨cs.takeWhile Char.isDigit, ⟨by simpa using some, fun c member => ?_, rfl⟩,
    List.takeWhile_append_dropWhile.symm⟩
  exact List.all_eq_true.mp List.all_takeWhile c member

/-- There are digits if a text without them is refused, whether it ends or not. -/
theorem ne_nil_of_refused {digits : List Nat} {cs : List Char} (ends : digits = [] → cs = [] → False)
    (goesOn : ∀ c rest, digits = [] → cs = c :: rest → False) : digits ≠ [] := by
  rintro rfl
  cases cs with
  | nil => exact ends rfl rfl
  | cons c rest => exact goesOn c rest rfl rfl

/-- A fraction that is read is written at the front of the text. -/
theorem writesFraction_of_readFraction {cs rest : List Char} {fraction : Option (List Nat)}
    (read : readFraction cs = .ok (fraction, rest)) :
    ∃ written, WritesFraction fraction written ∧ cs = written ++ rest := by
  -- Without a point there is no fraction, and behind one there has to be a digit.
  unfold readFraction at read
  split at read
  next behind =>
    split at read
    · cases read
    · cases read
    -- Only digits that end somewhere can be read, and there is at least one.
    next digits left ends goesOn spanned =>
      cases read
      have any := ne_nil_of_refused ends goesOn
      obtain ⟨front, writes, rfl⟩ := writesDigits_of_spanDigits spanned any
      exact ⟨_, .some writes, rfl⟩
  next =>
    cases read
    exact ⟨[], .none, rfl⟩

/-- An exponent that is read is written behind its mark. -/
theorem writesExponent_of_readExponent {mark : Char} (marks : mark = 'e' ∨ mark = 'E') {cs rest : List Char}
    {n : Int} (read : readExponent cs = .ok (n, rest)) :
    ∃ written, WritesExponent (some n) (mark :: written) ∧ cs = written ++ rest := by
  unfold readExponent at read
  split at read
  next negative behind sign =>
    split at read
    · cases read
    next =>
      split at read
      · cases read
      next digits left any spanned =>
        cases read
        obtain ⟨front, writes, rfl⟩ := writesDigits_of_spanDigits spanned any
        -- The sign was taken off, if there was one.
        split at sign <;> cases sign
        · exact ⟨_, .plus marks writes, rfl⟩
        · exact ⟨_, .minus marks writes, rfl⟩
        · exact ⟨_, .bare marks writes, rfl⟩

/-- The exponent of a number is written at the front of the text, if there is one. -/
theorem writesExponent_of_readScale {cs rest : List Char} {exponent : Option Int}
    (read : readScale cs = .ok (exponent, rest)) :
    ∃ written, WritesExponent exponent written ∧ cs = written ++ rest := by
  -- Both letters for an exponent read alike, and otherwise nothing is read.
  unfold readScale at read
  split at read
  next behind =>
    obtain ⟨⟨n, left⟩, ended, same⟩ := exists_of_map_eq_ok read
    cases same
    obtain ⟨written, writes, rfl⟩ := writesExponent_of_readExponent (.inl rfl) ended
    exact ⟨_, writes, rfl⟩
  next behind =>
    obtain ⟨⟨n, left⟩, ended, same⟩ := exists_of_map_eq_ok read
    cases same
    obtain ⟨written, writes, rfl⟩ := writesExponent_of_readExponent (.inr rfl) ended
    exact ⟨_, writes, rfl⟩
  next =>
    cases read
    exact ⟨[], .none, rfl⟩

/-- A number that is read is written at the front of the text, behind its sign. -/
theorem writesNumber_of_readNumber {negative : Bool} {cs rest : List Char} {n : Number}
    (read : readNumber negative cs = .ok (n, rest)) :
    ∃ body, WritesNumber n ((if negative then ['-'] else []) ++ body) ∧ cs = body ++ rest := by
  unfold readNumber at read
  split at read
  next whole behind spanned =>
    split at read
    · cases read
    · cases read
    · cases read
    next noZero empty other =>
      have any := ne_nil_of_refused empty other
      -- A zero in front is the only digit, for more of them were refused.
      have single : whole.head? = some 0 → whole = [0] := by
        intro zero
        cases whole with
        | nil => cases zero
        | cons digit others =>
          obtain rfl : digit = 0 := by simpa using zero
          cases others with
          | nil => rfl
          | cons head tail => exact absurd rfl (noZero head tail)
      obtain ⟨⟨fraction, left⟩, fractionRead, goesOn⟩ := exists_of_bind_eq_ok read
      obtain ⟨⟨exponent, last⟩, scaleRead, ends⟩ := exists_of_bind_eq_ok goesOn
      obtain ⟨front, digits, rfl⟩ := writesDigits_of_spanDigits spanned any
      obtain ⟨behind, isFraction, rfl⟩ := writesFraction_of_readFraction fractionRead
      obtain ⟨scale, isExponent, rfl⟩ := writesExponent_of_readScale scaleRead
      simp only at ends
      split at ends
      -- Only now the digits are given their meaning, which a number too large does not have.
      next number meaning =>
        cases ends
        exact ⟨front ++ (behind ++ scale), ⟨_, meaning, .parts digits single isFraction isExponent⟩, by simp⟩
      next => cases ends

/-! ## Literals and other scalars -/

/-- The letters that are read are those of the literal. -/
theorem eq_append_of_readLetters {letters cs rest : List Char} (read : readLetters letters cs = .ok rest) :
    cs = letters ++ rest := by
  -- One letter is compared in each step, so that the induction is on the letters.
  induction letters generalizing cs with
  | nil =>
    cases read
    rfl
  | cons letter letters ih =>
    cases cs with
    | nil => cases read
    | cons c cs =>
      rw [readLetters] at read
      split at read
      next same => rw [same, ih read]; rfl
      next => cases read

/-- A value that is no container is spelled at the front of the text. -/
theorem spelledBy_of_readScalar {cs rest : List Char} {value : Value}
    (read : readScalar cs = .ok (value, rest)) :
    value.nesting = 0 ∧ ∃ body, value.SpelledBy body ∧ cs = body ++ rest := by
  -- The first character decides what kind of value is read, and each kind has its own lemma.
  unfold readScalar at read
  split at read
  · cases read
  next behind =>
    obtain ⟨left, letters, same⟩ := exists_of_map_eq_ok read
    cases same
    exact ⟨rfl, _, .null, congrArg _ (eq_append_of_readLetters letters)⟩
  next behind =>
    obtain ⟨left, letters, same⟩ := exists_of_map_eq_ok read
    cases same
    exact ⟨rfl, _, .bool, congrArg _ (eq_append_of_readLetters letters)⟩
  next behind =>
    obtain ⟨left, letters, same⟩ := exists_of_map_eq_ok read
    cases same
    exact ⟨rfl, _, .bool, congrArg _ (eq_append_of_readLetters letters)⟩
  -- Strings and numbers carry their own spelling.
  next behind =>
    obtain ⟨⟨text, left⟩, string, same⟩ := exists_of_map_eq_ok read
    cases same
    obtain ⟨inner, writes, rfl⟩ := writesString_of_readString string
    exact ⟨rfl, _, .string writes, rfl⟩
  next behind =>
    obtain ⟨⟨n, left⟩, number, same⟩ := exists_of_map_eq_ok read
    cases same
    obtain ⟨body, writes, rfl⟩ := writesNumber_of_readNumber number
    exact ⟨rfl, _, .number writes, rfl⟩
  -- Any other character begins a number or is refused.
  next c behind _ _ _ _ _ =>
    split at read
    · obtain ⟨⟨n, left⟩, number, same⟩ := exists_of_map_eq_ok read
      cases same
      obtain ⟨body, writes, spelled⟩ := writesNumber_of_readNumber number
      exact ⟨rfl, _, .number writes, spelled⟩
    · cases read

/-! ## Containers -/

/-- Where an item is to come, it comes behind what may stand in front of it. -/
theorem leadsItem_of_nextItem {first : Bool} {cs start rest : List Char}
    (next : nextItem first cs = .ok (some start, rest)) :
    ∃ lead, LeadsItem first lead ∧ cs = lead ++ start := by
  obtain ⟨gap, blank, same⟩ := exists_gap_skipBlanks cs
  unfold nextItem at next
  split at next
  · cases next
  · cases next
  next c behind _ front =>
    rw [front] at same
    -- The first item comes at once, and all others behind a comma.
    split at next
    next begins =>
      cases next
      exact ⟨gap, begins ▸ .first blank, same⟩
    next goesOn =>
      obtain rfl : first = false := by simpa using goesOn
      split at next
      · cases next
      -- Behind the comma there may be blanks, but then an item has to follow.
      next comma =>
        obtain rfl : c = ',' := by simpa using comma
        obtain ⟨after, blankAfter, sameAfter⟩ := exists_gap_skipBlanks behind
        split at next
        · cases next
        · cases next
        next =>
          cases next
          refine ⟨_, .next blank blankAfter, ?_⟩
          rw [same, List.append_assoc, List.cons_append, ← sameAfter]

/-- Where no item is to come, the array is closed behind a gap. -/
theorem exists_gap_of_nextItem {first : Bool} {cs rest : List Char}
    (next : nextItem first cs = .ok (none, rest)) : ∃ gap, IsGap gap ∧ cs = gap ++ ']' :: rest := by
  -- Whatever blanks come first are the gap, and only a bracket behind them ends the array.
  obtain ⟨gap, blank, same⟩ := exists_gap_skipBlanks cs
  unfold nextItem at next
  split at next
  · cases next
  next behind front =>
    cases next
    exact ⟨gap, blank, front ▸ same⟩
  next =>
    split at next
    · cases next
    next =>
      split at next
      · cases next
      next => split at next <;> cases next

/-- A name that is read behind its opening quote is written with it. -/
theorem writesString_of_quote {cs rest : List Char} {name : String}
    (read : (do let (name, rest) ← readString cs; return (some name, rest) :
      Except Fault (Option String × List Char)) = .ok (some name, rest)) :
    ∃ inner, WritesString name ('"' :: inner) ∧ cs = inner ++ rest := by
  obtain ⟨⟨text, left⟩, string, same⟩ := exists_of_bind_eq_ok read
  cases same
  exact writesString_of_readString string

/-- Where a member is to come, its name is written behind what may stand in front of it. -/
theorem writesString_of_memberName {first : Bool} {cs rest : List Char} {name : String}
    (next : memberName first cs = .ok (some name, rest)) :
    ∃ lead quoted, LeadsItem first lead ∧ WritesString name quoted ∧ cs = lead ++ (quoted ++ rest) := by
  obtain ⟨gap, blank, same⟩ := exists_gap_skipBlanks cs
  unfold memberName at next
  split at next
  · cases next
  · cases next
  next c behind _ front =>
    rw [front] at same
    dsimp only at next
    -- The first name comes at once, and all others behind a comma.
    split at next
    next begins =>
      obtain ⟨start, here, named⟩ := exists_of_bind_eq_ok next
      cases here
      split at named
      · cases named
      next inner opened =>
        obtain ⟨quoted, writes, rfl⟩ := writesString_of_quote named
        exact ⟨gap, _, begins ▸ .first blank, writes, same.trans (by rw [opened]; rfl)⟩
      · cases named
    next goesOn =>
      obtain rfl : first = false := by simpa using goesOn
      split at next
      -- Behind the comma a name has to follow, as nothing but a closing brace ends the members.
      next comma =>
        obtain ⟨after, blankAfter, sameAfter⟩ := exists_gap_skipBlanks behind
        obtain ⟨start, here, named⟩ := exists_of_bind_eq_ok next
        cases here
        split at named
        · cases named
        next inner opened =>
          obtain ⟨quoted, writes, rfl⟩ := writesString_of_quote named
          refine ⟨_, _, .next blank blankAfter, writes, ?_⟩
          rw [same, comma, sameAfter, opened]
          simp
        · cases named
      next => cases next

/-- Where no member is to come, the object is closed behind a gap. -/
theorem exists_gap_of_memberName {first : Bool} {cs rest : List Char}
    (next : memberName first cs = .ok (none, rest)) : ∃ gap, IsGap gap ∧ cs = gap ++ '\x7d' :: rest := by
  obtain ⟨gap, blank, same⟩ := exists_gap_skipBlanks cs
  -- A name that is read is there.
  have named : ∀ {inner left : List Char}, (do let (name, rest) ← readString inner; return (some name, rest) :
      Except Fault (Option String × List Char)) ≠ .ok (none, left) := by
    intro inner left read
    obtain ⟨outcome, -, same⟩ := exists_of_bind_eq_ok read
    cases same
  unfold memberName at next
  split at next
  · cases next
  next behind front =>
    cases next
    exact ⟨gap, blank, front ▸ same⟩
  next c behind _ front =>
    dsimp only at next
    split at next
    -- A first name, and one behind a comma: in both cases the result would hold the name.
    · obtain ⟨start, -, read⟩ := exists_of_bind_eq_ok next
      split at read
      · cases read
      · exact absurd read named
      · cases read
    · split at next
      · obtain ⟨start, -, read⟩ := exists_of_bind_eq_ok next
        split at read
        · cases read
        · exact absurd read named
        · cases read
      · cases next

/-- A colon that is read stands behind a gap. -/
theorem exists_gap_of_readColon {cs rest : List Char} (read : readColon cs = .ok rest) :
    ∃ gap, IsGap gap ∧ cs = gap ++ ':' :: rest := by
  -- The gap is skipped, and only a colon is taken behind it.
  obtain ⟨gap, blank, same⟩ := exists_gap_skipBlanks cs
  unfold readColon at read
  split at read
  · cases read
  next behind front =>
    cases read
    exact ⟨gap, blank, front ▸ same⟩
  · cases read

/-- What is read as far as the colon of a member is written there. -/
theorem writesString_of_nextName {first : Bool} {cs rest : List Char} {name : String}
    (next : nextName first cs = .ok (some name, rest)) :
    ∃ lead quoted gap, LeadsItem first lead ∧ WritesString name quoted ∧ IsGap gap ∧
      cs = lead ++ (quoted ++ (gap ++ ':' :: rest)) := by
  -- The name and its colon are read one after the other, each with its own spelling.
  obtain ⟨⟨found, left⟩, named, goesOn⟩ := exists_of_bind_eq_ok next
  cases found with
  | none => cases goesOn
  | some found =>
    obtain ⟨behind, colon, same⟩ := exists_of_bind_eq_ok goesOn
    cases same
    obtain ⟨lead, quoted, leads, writes, rfl⟩ := writesString_of_memberName named
    obtain ⟨gap, blank, rfl⟩ := exists_gap_of_readColon colon
    exact ⟨lead, quoted, gap, leads, writes, blank, rfl⟩

/-- Where no name is to come, the object is closed behind a gap. -/
theorem exists_gap_of_nextName {first : Bool} {cs rest : List Char}
    (next : nextName first cs = .ok (none, rest)) : ∃ gap, IsGap gap ∧ cs = gap ++ '\x7d' :: rest := by
  -- The end of the object is found where a name would be read.
  obtain ⟨⟨found, left⟩, named, goesOn⟩ := exists_of_bind_eq_ok next
  cases found with
  | none =>
    cases goesOn
    exact exists_gap_of_memberName named
  | some found =>
    obtain ⟨behind, -, same⟩ := exists_of_bind_eq_ok goesOn
    cases same

/-! ## Values -/

/-- With some fuel a value is read from its texts only, behind a gap and not nested too deeply. -/
def ReadsValues (fuel : Nat) : Prop :=
  -- What is read is what was written, and the depth was enough for it.
  ∀ {depth : Nat} {cs rest : List Char} {value : Value}, 0 < depth →
    readValue fuel depth cs = .ok (value, rest) →
    value.nesting < depth ∧ ∃ gap body, IsGap gap ∧ value.SpelledBy body ∧ cs = gap ++ (body ++ rest)

/-- With some fuel the further items of an array are read from their texts only. -/
def ReadsItems (fuel : Nat) : Prop :=
  ∀ {depth : Nat} {first : Bool} {read items : List Value} {cs rest : List Char}, 0 < depth →
    readItems fuel depth first read cs = .ok (items, rest) →
    ∃ more text, items = read.reverse ++ more ∧ Value.nestingOfItems more < depth ∧
      ItemsSpelledBy first more text ∧ cs = text ++ rest

/-- With some fuel the further members of an object are read from their texts only. -/
def ReadsMembers (fuel : Nat) : Prop :=
  ∀ {depth : Nat} {first : Bool} {read members : List (String × Value)} {cs rest : List Char}, 0 < depth →
    readMembers fuel depth first read cs = .ok (members, rest) →
    ∃ more text, members = read.reverse ++ more ∧ Value.nestingOfMembers more < depth ∧
      MembersSpelledBy first more text ∧ cs = text ++ rest

/-- An item is read, and then the further ones, or the end of the array. -/
theorem readsItems_succ {fuel : Nat} (values : ReadsValues fuel) (others : ReadsItems fuel) :
    ReadsItems (fuel + 1) := by
  intro depth first read items cs rest deep ended
  -- Either a bracket ends the array, or a value is followed by what is left of it.
  rw [readItems] at ended
  split at ended
  · cases ended
  next closed =>
    cases ended
    obtain ⟨gap, blank, rfl⟩ := exists_gap_of_nextItem closed
    exact ⟨[], _, by simp, deep, .closeArray blank, by simp⟩
  next start left next =>
    obtain ⟨lead, leads, rfl⟩ := leadsItem_of_nextItem next
    split at ended
    · cases ended
    -- The value has less fuel, and so do the items behind it.
    next item behind itemRead =>
      obtain ⟨shallow, gap, body, blank, spelled, rfl⟩ := values deep itemRead
      obtain ⟨more, text, rfl, shallowMore, spelledMore, rfl⟩ := others deep ended
      refine ⟨item :: more, _, by simp, Nat.max_lt.mpr ⟨shallow, shallowMore⟩,
        .item (leads.append blank) spelled spelledMore, by simp⟩

/-- A member is read, and then the further ones, or the end of the object. -/
theorem readsMembers_succ {fuel : Nat} (values : ReadsValues fuel) (others : ReadsMembers fuel) :
    ReadsMembers (fuel + 1) := by
  intro depth first read members cs rest deep ended
  -- Either a brace ends the object, or a member is followed by what is left of it.
  rw [readMembers] at ended
  split at ended
  · cases ended
  next closed =>
    cases ended
    obtain ⟨gap, blank, rfl⟩ := exists_gap_of_nextName closed
    exact ⟨[], _, by simp, deep, .closeObject blank, by simp⟩
  next name left next =>
    obtain ⟨lead, quoted, before, leads, writes, gapBefore, rfl⟩ := writesString_of_nextName next
    split at ended
    · cases ended
    -- The name is read already, and both the value and the further members have less fuel.
    next value behind valueRead =>
      obtain ⟨shallow, after, body, gapAfter, spelled, rfl⟩ := values deep valueRead
      obtain ⟨more, text, rfl, shallowMore, spelledMore, rfl⟩ := others deep ended
      refine ⟨(name, value) :: more, _, by simp, Nat.max_lt.mpr ⟨shallow, shallowMore⟩,
        .member leads writes gapBefore gapAfter spelled spelledMore, by simp⟩

/-- A value is a container with what is read inside, or it is read in one go. -/
theorem readsValues_succ {fuel : Nat} (items : ReadsItems fuel) (members : ReadsMembers fuel) :
    ReadsValues (fuel + 1) := by
  intro depth cs rest value deep read
  obtain ⟨gap, blank, same⟩ := exists_gap_skipBlanks cs
  rw [readValue] at read
  split at read
  -- A container may be opened only if its content may be nested less deeply by one.
  next inner opened =>
    split at read
    · cases read
    next room =>
      obtain ⟨⟨listed, left⟩, inside, made⟩ := exists_of_map_eq_ok read
      cases made
      obtain ⟨more, text, rfl, shallow, spelled, rfl⟩ := items (by omega) inside
      refine ⟨?_, gap, _, blank, .array spelled, same.trans (by rw [opened]; rfl)⟩
      rw [Value.nesting]
      exact Nat.add_lt_of_lt_sub shallow
  next inner opened =>
    split at read
    · cases read
    next room =>
      obtain ⟨⟨listed, left⟩, inside, made⟩ := exists_of_map_eq_ok read
      cases made
      obtain ⟨more, text, rfl, shallow, spelled, rfl⟩ := members (by omega) inside
      refine ⟨?_, gap, _, blank, .object spelled, same.trans (by rw [opened]; rfl)⟩
      rw [Value.nesting]
      exact Nat.add_lt_of_lt_sub shallow
  -- A scalar is not nested, whatever the depth that is left.
  next =>
    obtain ⟨flat, body, spelled, front⟩ := spelledBy_of_readScalar read
    exact ⟨flat ▸ deep, gap, body, blank, spelled, front ▸ same⟩

/-- Whatever the fuel, all is read from its texts only. -/
theorem reads_fuel (fuel : Nat) : ReadsValues fuel ∧ ReadsItems fuel ∧ ReadsMembers fuel := by
  -- The three are proved at once, since each of them calls the others with less fuel.
  induction fuel with
  | zero =>
    refine ⟨?_, ?_, ?_⟩
    · intro _ _ _ _ _ read
      cases read
    · intro _ _ _ _ _ _ _ read
      cases read
    · intro _ _ _ _ _ _ _ read
      cases read
  | succ fuel ih =>
    obtain ⟨values, items, members⟩ := ih
    exact ⟨readsValues_succ items members, readsItems_succ values items, readsMembers_succ values members⟩

/-- A text is read as a value just if it is a text of the value, which is not nested too deeply. -/
theorem readText_eq_ok_iff {depth : Nat} (deep : 0 < depth) {text : String} {value : Value} :
    readText depth text = .ok value ↔ value.IsText text.toList ∧ value.nesting < depth := by
  refine ⟨fun read => ?_, fun ⟨isText, shallow⟩ => readText_of_isText isText shallow⟩
  obtain ⟨⟨found, rest⟩, valueRead, read⟩ := exists_of_bind_eq_ok read
  obtain ⟨_, ended, same⟩ := exists_of_bind_eq_ok read
  cases same
  obtain ⟨shallow, gap, body, blank, spelled, same⟩ := (reads_fuel _).1 deep valueRead
  -- Nothing but a gap is left behind the value.
  have blankAfter : IsGap rest := by
    obtain ⟨after, blankAfter, all⟩ := exists_gap_skipBlanks rest
    unfold expectEnd at ended
    split at ended
    next empty =>
      rw [all, List.isEmpty_iff.mp empty, List.append_nil]
      exact blankAfter
    next => cases ended
  exact ⟨same ▸ .text blank spelled blankAfter, shallow⟩

end FormatPipeline.Json
