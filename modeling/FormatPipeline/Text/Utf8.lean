/-! Reading bytes as UTF-8: what is wrong with them, and a text in spite of it. -/

namespace FormatPipeline.Text

/-- A character of which some bytes are still to come, the next of them between two limits. -/
structure Unfinished where
  missing : Nat
  value : Nat
  low : UInt8
  high : UInt8
  deriving DecidableEq, Repr

/-- What a byte at the beginning of a character tells. -/
inductive Lead where
  | whole (c : Char)
  | unfinished (rest : Unfinished)
  | invalid
  deriving DecidableEq, Repr

/-- Reads the first byte of a character. -/
def Lead.ofByte (byte : UInt8) : Lead :=
  -- The limits of the second byte exclude overlong forms, surrogates and numbers that are too large.
  let wait (missing mark : Nat) (low high : UInt8) : Lead :=
    .unfinished ⟨missing, byte.toNat - mark, low, high⟩
  if byte < 0x80 then .whole (.ofNat byte.toNat)
  else if byte < 0xc2 then .invalid
  else if byte < 0xe0 then wait 1 0xc0 0x80 0xbf
  else if byte = 0xe0 then wait 2 0xe0 0xa0 0xbf
  else if byte = 0xed then wait 2 0xe0 0x80 0x9f
  else if byte < 0xf0 then wait 2 0xe0 0x80 0xbf
  else if byte = 0xf0 then wait 3 0xf0 0x90 0xbf
  else if byte < 0xf4 then wait 3 0xf0 0x80 0xbf
  else if byte = 0xf4 then wait 3 0xf0 0x80 0x8f
  else .invalid

/-- Whether a byte is the next one of the character. -/
def Unfinished.accepts (rest : Unfinished) (byte : UInt8) : Bool :=
  rest.low ≤ byte && byte ≤ rest.high

/-- What is known after the next byte of the character. -/
def Unfinished.next (rest : Unfinished) (byte : UInt8) : Lead :=
  let value := rest.value * 64 + (byte.toNat - 0x80)
  if rest.missing ≤ 1 then .whole (.ofNat value)
  else .unfinished ⟨rest.missing - 1, value, 0x80, 0xbf⟩

/-- Stands for bytes that are no character. -/
def replacementChar : Char := '\ufffd'

/-- The state while bytes are read: the characters in reverse order, and the one under way. -/
structure Decoding where
  reversed : List Char
  pending : Option Unfinished
  deriving DecidableEq, Repr

namespace Decoding

/-- Takes over what a byte told. -/
def take (state : Decoding) : Lead → Decoding
  | .whole c => ⟨c :: state.reversed, none⟩
  | .unfinished rest => { state with pending := some rest }
  | .invalid => ⟨replacementChar :: state.reversed, none⟩

/-- Reads a byte; one that does not continue the character under way begins another one. -/
def step (state : Decoding) (byte : UInt8) : Decoding :=
  match state.pending with
  | none => state.take (.ofByte byte)
  | some rest =>
    if rest.accepts byte then state.take (rest.next byte)
    else (state.take .invalid).take (.ofByte byte)

/-- The text that was read; an unfinished character at the end is replaced. -/
def finish (state : Decoding) : String :=
  .ofList (match state.pending with
    | none => state.reversed
    | some _ => replacementChar :: state.reversed).reverse

end Decoding

/-- The text of the bytes, with replacements where they are not UTF-8. -/
def ofBytes (bytes : List UInt8) : String := (bytes.foldl Decoding.step ⟨[], none⟩).finish

/-- The bytes of a text. -/
def toBytes (text : String) : List UInt8 := text.toUTF8.toList

/-- Where bytes stop being UTF-8, and how many bytes are wrong there unless only more are missing. -/
structure Utf8Fault where
  index : Nat
  length : Option Nat
  deriving DecidableEq, Repr

/-- The wording of a fault. -/
def Utf8Fault.message : Utf8Fault → String
  | ⟨index, some length⟩ =>
    "invalid utf-8 sequence of " ++ toString length ++ " bytes from index " ++ toString index
  | ⟨index, none⟩ => "incomplete utf-8 byte sequence from index " ++ toString index

/-- The first fault of bytes, of which some were read before and some belong to a character under way. -/
def faultFrom (index count : Nat) (pending : Option Unfinished) : List UInt8 → Option Utf8Fault
  | [] => pending.map fun _ => ⟨index, none⟩
  | byte :: rest =>
    let lead := match pending with
      | none => Lead.ofByte byte
      | some unfinished => if unfinished.accepts byte then unfinished.next byte else .invalid
    match lead with
    | .whole _ => faultFrom (index + count + 1) 0 none rest
    | .unfinished unfinished => faultFrom index (count + 1) (some unfinished) rest
    -- A byte that does not continue a character is not counted as part of it.
    | .invalid => some ⟨index, some (max count 1)⟩

/-- The first fault of bytes. -/
def utf8Fault? (bytes : List UInt8) : Option Utf8Fault := faultFrom 0 0 none bytes

end FormatPipeline.Text
