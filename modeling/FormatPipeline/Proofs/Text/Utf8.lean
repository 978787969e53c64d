import FormatPipeline.Text.Utf8
import Mathlib.Algebra.Group.Nat.Defs
import Mathlib.Tactic.SplitIfs

/-! Bytes are read as a text exactly when they are the bytes of that text. -/

namespace FormatPipeline.Text

/-! ## One character -/

/-- The code of a character is no surrogate. -/
theorem toNat_valid (c : Char) : c.toNat < 0xd800 ∨ 0xdfff < c.toNat ∧ c.toNat < 0x110000 := c.valid

/-- The character of a code that is no surrogate has this code. -/
theorem toNat_ofNat {n : Nat} (valid : n < 0xd800 ∨ 0xdfff < n ∧ n < 0x110000) :
    (Char.ofNat n).toNat = n := by
  have isValid : n.isValidChar := valid
  exact congrArg Char.toNat (dif_pos isValid)

/-- The bytes of a code behind its first byte, six bits in each of them. -/
def tailBytes : Nat → Nat → List UInt8
  | 0, _ => []
  | count + 1, n => .ofNat (n / 64 ^ count % 64 + 0x80) :: tailBytes count n

/-- How many bytes of a code follow its first byte. -/
def width (n : Nat) : Nat := if n ≤ 0x7f then 0 else if n ≤ 0x7ff then 1 else if n ≤ 0xffff then 2 else 3

/-- What is added to the first bits of a code to tell how many bytes follow. -/
def mark : Nat → Nat
  | 0 => 0
  | 1 => 0xc0
  | 2 => 0xe0
  | _ => 0xf0

/-- The bytes of a character are the first bits of its code with a mark, and the others. -/
theorem utf8EncodeChar_eq (c : Char) :
    String.utf8EncodeChar c =
      .ofNat (c.toNat / 64 ^ width c.toNat + mark (width c.toNat)) :: tailBytes (width c.toNat) c.toNat := by
  have valid := toNat_valid c
  have code : c.val.toNat = c.toNat := rfl
  simp only [String.utf8EncodeChar, code, width]
  generalize c.toNat = n at valid
  -- In each range, the first byte has room for all bits that are left.
  split
  · simp [tailBytes, mark]
  · split
    next least most =>
      have room : n / 64 % 32 = n / 64 := by omega
      simp [tailBytes, mark, room]
    · split
      next least most =>
        have room : n / 4096 % 16 = n / 4096 := by omega
        simp [tailBytes, mark, room]
      next least =>
        have room : n / 262144 % 8 = n / 262144 := by omega
        simp [tailBytes, mark, room]

/-- The character that bytes complete, if they do that and nothing more. -/
def Lead.follow : Lead → List UInt8 → Option Char
  | .whole c, [] => some c
  -- Each byte has to lie within the bounds that the bytes before have set.
  | .unfinished rest, byte :: bytes =>
    if rest.accepts byte then (rest.next byte).follow bytes else none
  | _, _ => none

/-- What a byte at the beginning of a character tells, in numbers. -/
theorem Lead.ofByte_eq (byte : UInt8) :
    ofByte byte =
      let b := byte.toNat
      if b < 0x80 then .whole (.ofNat b)
      else if b < 0xc2 then .invalid
      else if b < 0xe0 then .unfinished ⟨1, b - 0xc0, 0x80, 0xbf⟩
      else if b = 0xe0 then .unfinished ⟨2, b - 0xe0, 0xa0, 0xbf⟩
      else if b = 0xed then .unfinished ⟨2, b - 0xe0, 0x80, 0x9f⟩
      else if b < 0xf0 then .unfinished ⟨2, b - 0xe0, 0x80, 0xbf⟩
      else if b = 0xf0 then .unfinished ⟨3, b - 0xf0, 0x90, 0xbf⟩
      else if b < 0xf4 then .unfinished ⟨3, b - 0xf0, 0x80, 0xbf⟩
      else if b = 0xf4 then .unfinished ⟨3, b - 0xf0, 0x80, 0x8f⟩
      else .invalid := by
  -- The comparisons of bytes are those of their numbers.
  unfold ofByte
  simp only [UInt8.lt_iff_toNat_lt, ← UInt8.toNat_inj]
  rfl

/-- The next byte of an unfinished character lies between its limits. -/
theorem follow_cons (missing value : Nat) (low high byte : UInt8) (bytes : List UInt8) (c : Char) :
    (Lead.unfinished ⟨missing, value, low, high⟩).follow (byte :: bytes) = some c ↔
      low.toNat ≤ byte.toNat ∧ byte.toNat ≤ high.toNat ∧
        (Unfinished.next ⟨missing, value, low, high⟩ byte).follow bytes = some c := by
  simp [Lead.follow, Unfinished.accepts, UInt8.le_iff_toNat_le, and_assoc]

/-- The bits of a code fall into those of its first bytes and six others. -/
theorem div_pow_succ (n count : Nat) : n / 64 ^ (count + 1) = n / 64 ^ count / 64 := by
  rw [Nat.pow_succ, Nat.div_div_eq_div_mul]

/-- A byte of six bits and a mark is made of these bits. -/
theorem ofNat_bits (byte : UInt8) {bits : Nat} (low : 0x80 ≤ byte.toNat)
    (same : bits = byte.toNat - 0x80) : .ofNat (bits + 0x80) = byte := by
  rw [same, Nat.sub_add_cancel low, UInt8.ofNat_toNat]

/-- The bits of a byte with a mark are those that it was made of. -/
theorem toNat_bits {bits : Nat} (few : bits < 64) : (UInt8.ofNat (bits + 0x80)).toNat = bits + 0x80 := by
  rw [UInt8.toNat_ofNat']
  omega

/-- An unfinished character is completed by the bytes of a code whose first bits are known, and whose
next bits lie between the limits. -/
theorem follow_unfinished_iff {count value : Nat} {low high : UInt8} (least : 0x80 ≤ low.toNat)
    (most : high.toNat ≤ 0xbf) (bytes : List UInt8) (c : Char) :
    (Lead.unfinished ⟨count + 1, value, low, high⟩).follow bytes = some c ↔
      ∃ n, n / 64 ^ (count + 1) = value ∧ low.toNat ≤ n / 64 ^ count % 64 + 0x80 ∧
        n / 64 ^ count % 64 + 0x80 ≤ high.toNat ∧ c = .ofNat n ∧ bytes = tailBytes (count + 1) n := by
  -- The induction is on the number of bytes that are missing.
  induction count generalizing value low high bytes with
  | zero =>
    cases bytes with
    | nil => simp [Lead.follow, tailBytes]
    | cons byte rest =>
      have known : Unfinished.next ⟨1, value, low, high⟩ byte =
          .whole (.ofNat (value * 64 + (byte.toNat - 0x80))) := rfl
      rw [follow_cons, known]
      constructor
      -- The last byte adds its six bits, which makes the number whole.
      · rintro ⟨atLeast, atMost, completed⟩
        cases rest with
        | cons => simp [Lead.follow] at completed
        | nil =>
          obtain rfl : Char.ofNat (value * 64 + (byte.toNat - 0x80)) = c := by
            simpa [Lead.follow] using completed
          refine ⟨value * 64 + (byte.toNat - 0x80), by omega, ?_, ?_, rfl, ?_⟩
          · rw [Nat.pow_zero, Nat.div_one]
            omega
          · rw [Nat.pow_zero, Nat.div_one]
            omega
          simp only [tailBytes, Nat.pow_zero, Nat.div_one]
          rw [ofNat_bits byte (by omega) (by omega)]
      · rintro ⟨n, bits, atLeast, atMost, rfl, spelled⟩
        simp only [tailBytes, Nat.pow_zero, Nat.div_one, List.cons.injEq] at spelled
        obtain ⟨rfl, rfl⟩ := spelled
        simp only [Nat.pow_zero, Nat.div_one] at atLeast atMost
        rw [toNat_bits (by omega)]
        refine ⟨atLeast, atMost, ?_⟩
        have whole : value * 64 + (n % 64 + 0x80 - 0x80) = n := by omega
        rw [whole, Lead.follow]
  | succ count ih =>
    cases bytes with
    | nil => simp [Lead.follow, tailBytes]
    | cons byte rest =>
      have known : Unfinished.next ⟨count + 2, value, low, high⟩ byte =
          .unfinished ⟨count + 1, value * 64 + (byte.toNat - 0x80), 0x80, 0xbf⟩ := rfl
      rw [follow_cons, known, ih (by decide) (by decide)]
      constructor
      · rintro ⟨atLeast, atMost, n, bits, -, -, rfl, rfl⟩
        have upper := div_pow_succ n (count + 1)
        refine ⟨n, by omega, by omega, by omega, rfl, ?_⟩
        conv => rhs; rw [tailBytes]
        rw [ofNat_bits byte (by omega) (by omega)]
      -- The lead of a number with one byte less to come holds six bits more.
      · rintro ⟨n, bits, atLeast, atMost, rfl, spelled⟩
        rw [tailBytes, List.cons.injEq] at spelled
        obtain ⟨rfl, rfl⟩ := spelled
        have upper := div_pow_succ n (count + 1)
        have limits : (0x80 : UInt8).toNat = 0x80 ∧ (0xbf : UInt8).toNat = 0xbf := by decide
        rw [toNat_bits (by omega)]
        refine ⟨atLeast, atMost, n, by omega, by omega, by omega, rfl, rfl⟩

/-- A code is one of those that an unfinished character can still have. -/
structure Unfinished.Fits (rest : Unfinished) (n : Nat) : Prop where
  bits : n / 64 ^ rest.missing = rest.value
  atLeast : rest.low.toNat ≤ n / 64 ^ (rest.missing - 1) % 64 + 0x80
  atMost : n / 64 ^ (rest.missing - 1) % 64 + 0x80 ≤ rest.high.toNat

/-- The codes of two bytes. -/
theorem width_of_two {n : Nat} (range : 0x80 ≤ n ∧ n ≤ 0x7ff) : width n = 1 := by
  rw [width, if_neg (by omega), if_pos range.2]

/-- The codes of three bytes. -/
theorem width_of_three {n : Nat} (range : 0x800 ≤ n ∧ n ≤ 0xffff) : width n = 2 := by
  rw [width, if_neg (by omega), if_neg (by omega), if_pos range.2]

/-- The codes of four bytes. -/
theorem width_of_four {n : Nat} (large : 0x10000 ≤ n) : width n = 3 := by
  rw [width, if_neg (by omega), if_neg (by omega), if_neg (by omega)]

/-- The first byte of a code is the one with its first bits and the mark for its length. -/
theorem lead_of_bits {byte : UInt8} {n count : Nat} (length : width n = count)
    (bits : byte.toNat = n / 64 ^ count + mark count) :
    count = width n ∧ byte = .ofNat (n / 64 ^ width n + mark (width n)) := by
  rw [length, ← bits, UInt8.ofNat_toNat]
  exact ⟨rfl, rfl⟩

/-- The limits of second bytes as numbers. -/
theorem limits_toNat : (0x80 : UInt8).toNat = 0x80 ∧ (0xbf : UInt8).toNat = 0xbf ∧
    (0xa0 : UInt8).toNat = 0xa0 ∧ (0x9f : UInt8).toNat = 0x9f ∧ (0x90 : UInt8).toNat = 0x90 ∧
    (0x8f : UInt8).toNat = 0x8f := by decide

/-- A character that is unfinished behind its first byte can only have codes with that first byte. -/
theorem fits_ofByte {byte : UInt8} {rest : Unfinished} (lead : Lead.ofByte byte = .unfinished rest) :
    rest.missing ≠ 0 ∧ 0x80 ≤ rest.low.toNat ∧ rest.high.toNat ≤ 0xbf ∧ ∀ n, rest.Fits n →
      (n < 0xd800 ∨ 0xdfff < n ∧ n < 0x110000) ∧ rest.missing = width n ∧
        byte = .ofNat (n / 64 ^ width n + mark (width n)) := by
  rw [Lead.ofByte_eq] at lead
  dsimp only at lead
  have limits := limits_toNat
  -- The limits of the second byte keep to codes that are as long as the first byte tells.
  split_ifs at lead
  all_goals
    obtain rfl := Lead.unfinished.inj lead
    dsimp only
    refine ⟨by omega, by omega, by omega, ?_⟩
    rintro n ⟨bits, atLeast, atMost⟩
    dsimp only at bits atLeast atMost
  · exact ⟨by omega, lead_of_bits (width_of_two (by omega)) (by simp only [mark]; omega)⟩
  · exact ⟨by omega, lead_of_bits (width_of_three (by omega)) (by simp only [mark]; omega)⟩
  · exact ⟨by omega, lead_of_bits (width_of_three (by omega)) (by simp only [mark]; omega)⟩
  · exact ⟨by omega, lead_of_bits (width_of_three (by omega)) (by simp only [mark]; omega)⟩
  · exact ⟨by omega, lead_of_bits (width_of_four (by omega)) (by simp only [mark]; omega)⟩
  · exact ⟨by omega, lead_of_bits (width_of_four (by omega)) (by simp only [mark]; omega)⟩
  · exact ⟨by omega, lead_of_bits (width_of_four (by omega)) (by simp only [mark]; omega)⟩

/-- A first byte of two leaves a character unfinished. -/
theorem ofByte_two {lead : Nat} (range : 0xc2 ≤ lead ∧ lead ≤ 0xdf) :
    Lead.ofByte (.ofNat lead) = .unfinished ⟨1, lead - 0xc0, 0x80, 0xbf⟩ := by
  rw [Lead.ofByte_eq, UInt8.toNat_ofNat_of_lt' (show lead < 256 by omega)]
  dsimp only
  rw [if_neg (by omega), if_neg (by omega), if_pos (by omega)]

/-- A first byte of three leaves a character unfinished; there are no short forms and no surrogates. -/
theorem ofByte_three {lead : Nat} (range : 0xe0 ≤ lead ∧ lead ≤ 0xef) :
    Lead.ofByte (.ofNat lead) = .unfinished
      ⟨2, lead - 0xe0, if lead = 0xe0 then 0xa0 else 0x80, if lead = 0xed then 0x9f else 0xbf⟩ := by
  rw [Lead.ofByte_eq, UInt8.toNat_ofNat_of_lt' (show lead < 256 by omega)]
  dsimp only
  rw [if_neg (by omega), if_neg (by omega), if_neg (by omega)]
  split_ifs <;> first | rfl | omega

/-- A first byte of four leaves a character unfinished; there are no short forms and no larger codes. -/
theorem ofByte_four {lead : Nat} (range : 0xf0 ≤ lead ∧ lead ≤ 0xf4) :
    Lead.ofByte (.ofNat lead) = .unfinished
      ⟨3, lead - 0xf0, if lead = 0xf0 then 0x90 else 0x80, if lead = 0xf4 then 0x8f else 0xbf⟩ := by
  -- Only the limits of the second byte differ within the range.
  rw [Lead.ofByte_eq, UInt8.toNat_ofNat_of_lt' (show lead < 256 by omega)]
  dsimp only
  rw [if_neg (by omega), if_neg (by omega), if_neg (by omega), if_neg (by omega), if_neg (by omega),
    if_neg (by omega)]
  split_ifs <;> first | rfl | omega

/-- The first byte of a longer code leaves a character unfinished that can still have this code. -/
theorem ofByte_lead {n : Nat} (valid : n < 0xd800 ∨ 0xdfff < n ∧ n < 0x110000) (long : 0x80 ≤ n) :
    ∃ rest, Lead.ofByte (.ofNat (n / 64 ^ width n + mark (width n))) = .unfinished rest ∧
      rest.missing = width n ∧ rest.Fits n := by
  have limits := limits_toNat
  have lengths : n ≤ 0x7ff ∨ (0x800 ≤ n ∧ n ≤ 0xffff) ∨ 0x10000 ≤ n := by omega
  -- The width of the code decides which of the three rules for first bytes applies.
  rcases lengths with two | three | four
  · rw [width_of_two ⟨long, two⟩, ofByte_two (by simp only [mark]; omega)]
    exact ⟨_, rfl, rfl, by simp only [mark]; omega, by dsimp only; omega, by dsimp only; omega⟩
  · rw [width_of_three three, ofByte_three (by simp only [mark]; omega)]
    refine ⟨_, rfl, rfl, by simp only [mark]; omega, ?_, ?_⟩
    · simp only [mark]
      split_ifs <;> omega
    · simp only [mark]
      split_ifs <;> omega
  · rw [width_of_four four, ofByte_four (by simp only [mark]; omega)]
    refine ⟨_, rfl, rfl, by simp only [mark]; omega, ?_, ?_⟩
    · simp only [mark]
      split_ifs <;> omega
    · simp only [mark]
      split_ifs <;> omega

/-- A first byte that is a whole character has its code. -/
theorem whole_ofByte {byte : UInt8} {c : Char} (whole : Lead.ofByte byte = .whole c) :
    byte.toNat ≤ 0x7f ∧ c = .ofNat byte.toNat := by
  rw [Lead.ofByte_eq] at whole
  dsimp only at whole
  split_ifs at whole
  exact ⟨by omega, (Lead.whole.inj whole).symm⟩

/-- An unfinished character is completed by the other bytes of a code that it can still have. -/
theorem follow_iff_fits {rest : Unfinished} (more : rest.missing ≠ 0) (least : 0x80 ≤ rest.low.toNat)
    (most : rest.high.toNat ≤ 0xbf) (bytes : List UInt8) (c : Char) :
    (Lead.unfinished rest).follow bytes = some c ↔
      ∃ n, rest.Fits n ∧ c = .ofNat n ∧ bytes = tailBytes rest.missing n := by
  -- With nothing missing there is no such character, and otherwise the bytes carry six bits each.
  obtain ⟨_ | count, value, low, high⟩ := rest
  · exact absurd rfl more
  · rw [follow_unfinished_iff least most]
    constructor
    · rintro ⟨n, bits, atLeast, atMost, same, spelled⟩
      exact ⟨n, ⟨bits, atLeast, atMost⟩, same, spelled⟩
    · rintro ⟨n, ⟨bits, atLeast, atMost⟩, same, spelled⟩
      exact ⟨n, bits, atLeast, atMost, same, spelled⟩

/-- Bytes complete a character exactly if they are the bytes of it. -/
theorem follow_ofByte_iff (byte : UInt8) (bytes : List UInt8) (c : Char) :
    (Lead.ofByte byte).follow bytes = some c ↔ String.utf8EncodeChar c = byte :: bytes := by
  rw [utf8EncodeChar_eq, List.cons.injEq]
  constructor
  · intro completed
    -- The first byte decides whether the code is short, long or none at all.
    cases lead : Lead.ofByte byte with
    | invalid => simp [lead, Lead.follow] at completed
    | whole d =>
      obtain ⟨short, rfl⟩ := whole_ofByte lead
      cases bytes with
      | cons => simp [lead, Lead.follow] at completed
      | nil =>
        obtain rfl : Char.ofNat byte.toNat = c := by simpa [lead, Lead.follow] using completed
        have isZero : width byte.toNat = 0 := if_pos short
        rw [toNat_ofNat (by omega), isZero]
        simp [mark, tailBytes]
    -- Every code that fits what is unfinished is a valid one with this first byte.
    | unfinished rest =>
      obtain ⟨more, least, most, fit⟩ := fits_ofByte lead
      rw [lead, follow_iff_fits more least most] at completed
      obtain ⟨n, fits, rfl, rfl⟩ := completed
      obtain ⟨valid, length, first⟩ := fit n fits
      rw [toNat_ofNat valid, ← length]
      exact ⟨by rw [length]; exact first.symm, rfl⟩
  · rintro ⟨rfl, rfl⟩
    have code : Char.ofNat c.toNat = c := Char.ofNat_toNat c
    -- Short codes are a byte of their own, and longer ones leave the rest of their bits.
    by_cases short : c.toNat ≤ 0x7f
    · have isZero : width c.toNat = 0 := if_pos short
      have lead : Lead.ofByte (.ofNat c.toNat) = .whole (.ofNat c.toNat) := by
        rw [Lead.ofByte_eq, UInt8.toNat_ofNat_of_lt' (show c.toNat < 256 by omega)]
        exact if_pos (by omega)
      rw [isZero]
      simp [mark, tailBytes, lead, Lead.follow, code]
    · obtain ⟨rest, lead, length, fits⟩ := ofByte_lead (toNat_valid c) (by omega)
      obtain ⟨more, least, most, -⟩ := fits_ofByte lead
      rw [lead, follow_iff_fits more least most]
      exact ⟨c.toNat, fits, code.symm, by rw [length]⟩

/-- A character that bytes complete is the next one of the text. -/
theorem foldl_step_follow {lead : Lead} {bytes : List UInt8} {c : Char}
    (completed : lead.follow bytes = some c) (reversed : List Char) :
    bytes.foldl Decoding.step (Decoding.take ⟨reversed, none⟩ lead) = ⟨c :: reversed, none⟩ := by
  -- The induction is on the further bytes, each of which is accepted in its place.
  induction bytes generalizing lead with
  | nil =>
    cases lead with
    | whole d =>
      obtain rfl : d = c := by simpa [Lead.follow] using completed
      rfl
    | unfinished rest => simp [Lead.follow] at completed
    | invalid => simp [Lead.follow] at completed
  | cons byte bytes ih =>
    cases lead with
    | whole d => simp [Lead.follow] at completed
    | invalid => simp [Lead.follow] at completed
    | unfinished rest =>
      simp only [Lead.follow, Option.ite_none_right_eq_some] at completed
      obtain ⟨accepted, later⟩ := completed
      -- An accepted byte is taken as the next part of the same character.
      have went : Decoding.step (Decoding.take ⟨reversed, none⟩ (.unfinished rest)) byte =
          Decoding.take ⟨reversed, none⟩ (rest.next byte) := by
        simp only [Decoding.take, Decoding.step, accepted, if_true]
      rw [List.foldl_cons, went, ih later]

/-! ## Whole texts -/

/-- The bytes of characters. -/
def encode (cs : List Char) : List UInt8 := cs.flatMap String.utf8EncodeChar

/-- The bytes behind a first byte complete its character, and other characters follow. -/
def Lead.Begins (lead : Lead) (bytes : List UInt8) : Prop :=
  ∃ c first cs, lead.follow first = some c ∧ bytes = first ++ encode cs

/-- Behind a whole character there are other characters. -/
theorem begins_whole (c : Char) (bytes : List UInt8) :
    (Lead.whole c).Begins bytes ↔ ∃ cs, bytes = encode cs := by
  constructor
  -- A whole character needs no further bytes.
  · rintro ⟨d, first, cs, completed, rfl⟩
    cases first with
    | nil => exact ⟨cs, rfl⟩
    | cons => simp [Lead.follow] at completed
  · rintro ⟨cs, rfl⟩
    exact ⟨c, [], cs, rfl, rfl⟩

/-- Nothing can follow a byte that begins no character. -/
theorem not_begins_invalid (bytes : List UInt8) : ¬ Lead.invalid.Begins bytes := by
  rintro ⟨c, first, cs, completed, -⟩
  simp [Lead.follow] at completed

/-- An unfinished character goes on with a byte between its limits. -/
theorem begins_unfinished (rest : Unfinished) (byte : UInt8) (bytes : List UInt8) :
    (Lead.unfinished rest).Begins (byte :: bytes) ↔
      (if rest.accepts byte then rest.next byte else .invalid).Begins bytes := by
  constructor
  · rintro ⟨c, first, cs, completed, spelled⟩
    -- At least one byte is missing, and the next one has to be within the limits.
    cases first with
    | nil => simp [Lead.follow] at completed
    | cons next others =>
      simp only [List.cons_append, List.cons.injEq] at spelled
      obtain ⟨rfl, rfl⟩ := spelled
      simp only [Lead.follow, Option.ite_none_right_eq_some] at completed
      rw [if_pos completed.1]
      exact ⟨c, others, cs, completed.2, rfl⟩
  · split
    -- An accepted byte completes the same character as without it.
    next accepted =>
      rintro ⟨c, first, cs, completed, rfl⟩
      exact ⟨c, byte :: first, cs, by simp [Lead.follow, accepted, completed], rfl⟩
    next => exact fun begins => absurd begins (not_begins_invalid bytes)

/-- Bytes of characters begin with the bytes of the first one. -/
theorem encode_eq_cons_iff (byte : UInt8) (bytes : List UInt8) :
    (∃ cs, byte :: bytes = encode cs) ↔ (Lead.ofByte byte).Begins bytes := by
  constructor
  · rintro ⟨cs, spelled⟩
    cases cs with
    | nil => simp [encode] at spelled
    | cons c rest =>
      -- No character is without bytes.
      cases own : String.utf8EncodeChar c with
      | nil => simp [utf8EncodeChar_eq] at own
      | cons first others =>
        simp only [encode, List.flatMap_cons, own, List.cons_append, List.cons.injEq] at spelled
        obtain ⟨rfl, rfl⟩ := spelled
        exact ⟨c, others, rest, (follow_ofByte_iff byte others c).mpr own, rfl⟩
  · rintro ⟨c, first, cs, completed, rfl⟩
    have own := (follow_ofByte_iff byte first c).mp completed
    exact ⟨c :: cs, by simp [encode, own]⟩

/-- The first fault of the bytes behind a byte that has told how to go on. -/
def faultBehind (index count : Nat) (bytes : List UInt8) : Lead → Option Utf8Fault
  | .whole _ => faultFrom (index + count + 1) 0 none bytes
  | .unfinished rest => faultFrom index (count + 1) (some rest) bytes
  | .invalid => some ⟨index, some (max count 1)⟩

/-- Bytes that may go on with a character under way have no fault if they complete it, and other
characters follow. -/
theorem faultFrom_eq_none_iff (bytes : List UInt8) (index count : Nat) (pending : Option Unfinished) :
    faultFrom index count pending bytes = none ↔
      match pending with
      | none => ∃ cs, bytes = encode cs
      | some rest => (Lead.unfinished rest).Begins bytes := by
  induction bytes generalizing index count pending with
  | nil =>
    cases pending with
    | none => simpa [faultFrom] using ⟨[], rfl⟩
    | some rest =>
      simp only [faultFrom, Option.map_some, reduceCtorEq, false_iff]
      rintro ⟨c, first, cs, completed, spelled⟩
      obtain rfl : first = [] := (List.append_eq_nil_iff.mp spelled.symm).1
      simp [Lead.follow] at completed
  | cons byte bytes ih =>
    -- One byte says how to go on, be it the first one of a character or not.
    have further : ∀ lead, faultBehind index count bytes lead = none ↔ lead.Begins bytes := by
      intro lead
      cases lead with
      | whole c => exact (ih _ _ none).trans (begins_whole c bytes).symm
      | unfinished rest => exact ih _ _ (some rest)
      | invalid => simpa [faultBehind] using not_begins_invalid bytes
    cases pending with
    | none => exact (further _).trans (encode_eq_cons_iff byte bytes).symm
    | some rest => exact (further _).trans (begins_unfinished rest byte bytes).symm

/-- The bytes of a byte array one after another. -/
theorem toList_loop (bytes : ByteArray) (index : Nat) (reversed : List UInt8) :
    ByteArray.toList.loop bytes index reversed = reversed.reverse ++ bytes.data.toList.drop index := by
  -- The induction is on the number of bytes that are left.
  induction left : bytes.size - index generalizing index reversed with
  | zero =>
    have size : bytes.data.toList.length = bytes.size := Array.length_toList
    rw [ByteArray.toList.loop, if_neg (by omega), List.drop_eq_nil_of_le (by omega), List.append_nil]
  | succ left ih =>
    have inside : index < bytes.data.toList.length := by
      have size : bytes.data.toList.length = bytes.size := Array.length_toList
      omega
    have next : bytes.get! index = bytes.data.toList[index] := by
      have bound : index < bytes.data.size := by simpa using inside
      show bytes.data[index]! = _
      rw [getElem!_pos bytes.data index bound, Array.getElem_toList]
    rw [ByteArray.toList.loop, if_pos (by omega), ih _ _ (by omega), List.drop_eq_getElem_cons inside, next]
    simp

/-- The bytes of a text are those of its characters. -/
theorem toBytes_eq (text : String) : toBytes text = encode text.toList := by
  -- A text holds its bytes as those of its characters, one behind the other.
  have array : text.toUTF8.data.toList = encode text.toList := by
    have bytes : (String.ofList text.toList).toByteArray = text.toList.utf8Encode := String.toByteArray_ofList
    rw [String.ofList_toList] at bytes
    show text.toByteArray.data.toList = _
    rw [bytes, List.utf8Encode, List.toList_data_toByteArray]
    rfl
  rw [toBytes, ByteArray.toList, toList_loop, array]
  rfl

/-- Bytes have no fault exactly if they are the bytes of a text. -/
theorem utf8Fault?_eq_none_iff (bytes : List UInt8) :
    utf8Fault? bytes = none ↔ ∃ text, toBytes text = bytes := by
  rw [utf8Fault?, faultFrom_eq_none_iff]
  -- The search finds no fault exactly in the bytes of some characters.
  constructor
  · rintro ⟨cs, rfl⟩
    exact ⟨.ofList cs, by rw [toBytes_eq, String.toList_ofList]⟩
  · rintro ⟨text, rfl⟩
    exact ⟨text.toList, toBytes_eq text⟩

/-- The bytes of characters are read as these characters. -/
theorem foldl_step_encode (cs reversed : List Char) :
    (encode cs).foldl Decoding.step ⟨reversed, none⟩ = ⟨cs.reverse ++ reversed, none⟩ := by
  -- The induction is on the characters, and each of them has at least one byte.
  induction cs generalizing reversed with
  | nil => rfl
  | cons c rest ih =>
    cases own : String.utf8EncodeChar c with
    | nil => simp [utf8EncodeChar_eq] at own
    | cons byte bytes =>
      have read := foldl_step_follow ((follow_ofByte_iff byte bytes c).mpr own) reversed
      have begun : Decoding.step ⟨reversed, none⟩ byte = Decoding.take ⟨reversed, none⟩ (.ofByte byte) := rfl
      rw [encode, List.flatMap_cons, own, List.cons_append, List.foldl_cons, List.foldl_append, begun, read]
      exact (ih (c :: reversed)).trans (by simp)

/-- The bytes of a text are read as this text. -/
@[simp] theorem ofBytes_toBytes (text : String) : ofBytes (toBytes text) = text := by
  rw [ofBytes, toBytes_eq, foldl_step_encode]
  simp [Decoding.finish]

end FormatPipeline.Text
