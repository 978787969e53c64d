import FormatPipeline.Json.Value

/-! The compact JSON text of a value. -/

namespace FormatPipeline.Json

/-- The lower-case hexadecimal digit of a number below sixteen. -/
def hexDigit (n : Nat) : Char :=
  if n < 10 then Char.ofNat ('0'.toNat + n) else Char.ofNat ('a'.toNat + (n - 10))

/-- A character inside a JSON string: quotes, backslashes and control codes are escaped. -/
def escapeChar (c : Char) : List Char :=
  if c = '"' then ['\\', '"']
  else if c = '\\' then ['\\', '\\']
  else if c = '\x08' then ['\\', 'b']
  else if c = '\t' then ['\\', 't']
  else if c = '\n' then ['\\', 'n']
  else if c = '\x0c' then ['\\', 'f']
  else if c = '\r' then ['\\', 'r']
  else if c.toNat < 0x20 then
    ['\\', 'u', '0', '0', hexDigit (c.toNat / 16), hexDigit (c.toNat % 16)]
  else [c]

/-- A string between double quotes. -/
def quote (text : String) : List Char :=
  '"' :: (text.toList.flatMap escapeChar ++ ['"'])

/-- The text of a number. -/
def Number.text : Number → String
  | .integer n => toString n
  | .float x => x.text

mutual
/-- The compact text of a value, without any blank between its parts. -/
def Value.write : Value → List Char
  | .null => "null".toList
  | .bool true => "true".toList
  | .bool false => "false".toList
  | .number n => n.text.toList
  | .string text => quote text
  | .array items => '[' :: (Value.writeItems items ++ [']'])
  | .object members => '\x7b' :: (Value.writeMembers members ++ ['\x7d'])

/-- The items with commas between them. -/
def Value.writeItems : List Value → List Char
  | [] => []
  | [item] => item.write
  | item :: next :: rest => item.write ++ ',' :: Value.writeItems (next :: rest)

/-- The members with commas between them, each as a name, a colon and a value. -/
def Value.writeMembers : List (String × Value) → List Char
  | [] => []
  | [(name, value)] => quote name ++ ':' :: value.write
  | (name, value) :: next :: rest =>
    quote name ++ ':' :: (value.write ++ ',' :: Value.writeMembers (next :: rest))
end

/-- The compact text of a value as a string. -/
def Value.compact (value : Value) : String := .ofList value.write

end FormatPipeline.Json
