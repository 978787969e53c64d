import FormatPipeline.Text.Utf8

/-! Names as they are shown in messages, so that a shell would read them back. -/

namespace FormatPipeline.Text

/-- Whether a byte can be shown as it is. -/
def isShowable (byte : UInt8) : Bool := 32 ≤ byte && byte < 127

/-- How a byte that cannot be shown is written. -/
def escapedByte (byte : UInt8) : String :=
  let octal (n : Nat) : Char := Char.ofNat ('0'.toNat + n % 8)
  match byte with
  | 7 => "\\a"
  | 8 => "\\b"
  | 9 => "\\t"
  | 10 => "\\n"
  | 11 => "\\v"
  | 12 => "\\f"
  | 13 => "\\r"
  | byte => .ofList ['\\', octal (byte.toNat / 64), octal (byte.toNat / 8), octal byte.toNat]

/-- The bytes of a name, with those that cannot be shown in quotes of their own. -/
def namedBytes : Bool → List UInt8 → String
  | _, [] => ""
  | escaping, byte :: rest =>
    if isShowable byte then
      let shown := if byte = 39 then "'\\''" else (Char.ofNat byte.toNat).toString
      (if escaping then "''" else "") ++ shown ++ namedBytes false rest
    else (if escaping then "" else "'$'") ++ escapedByte byte ++ namedBytes true rest

/-- Whether a character means nothing more between double quotes. -/
def isHarmless (byte : UInt8) : Bool :=
  (48 ≤ byte && byte ≤ 57) || (65 ≤ byte && byte ≤ 90) || (97 ≤ byte && byte ≤ 122) ||
    "%+,-./:]_ '".toList.contains (Char.ofNat byte.toNat)

/-- A name between quotes. -/
def named (name : String) : String :=
  let bytes := toBytes name
  -- Single quotes stand between double quotes, if nothing else is special there.
  if bytes.contains 39 && bytes.all isHarmless then "\"" ++ name ++ "\""
  else "'" ++ namedBytes false bytes ++ "'"

/-- Whether a shell would make something else of a name. -/
def needsQuotes (name : String) : Bool :=
  let cs := name.toList
  cs.isEmpty || cs.head? == some '#' || cs.head? == some '~' || cs == ['\x7b'] || cs == ['\x7d'] ||
    (toBytes name).any (!isShowable ·) || cs.any " !\"$&'()*;<=>?[\\^\x60|".toList.contains

/-- A name, between quotes if a shell would make something else of it. -/
def namedIfNeeded (name : String) : String := if needsQuotes name then named name else name

/-- A name between single quotes, with everything in it spelled out that is no plain character. -/
def cited (name : String) : String :=
  let shown (byte : UInt8) : String :=
    if byte = 39 ∨ byte = 92 then .ofList ['\\', Char.ofNat byte.toNat]
    else if isShowable byte then (Char.ofNat byte.toNat).toString
    else escapedByte byte
  "'" ++ String.join ((toBytes name).map shown) ++ "'"

end FormatPipeline.Text
