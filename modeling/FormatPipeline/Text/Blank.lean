/-! Blank characters, control characters, and trimming. -/

namespace FormatPipeline.Text

/-- The characters that have the Unicode property White_Space. -/
def isBlank (c : Char) : Bool :=
  let code := c.toNat
  -- Twenty-five code points in eleven ranges.
  (9 ≤ code && code ≤ 13) || code == 0x20 || code == 0x85 || code == 0xA0 || code == 0x1680 ||
    (0x2000 ≤ code && code ≤ 0x200A) || code == 0x2028 || code == 0x2029 || code == 0x202F ||
    code == 0x205F || code == 0x3000

/-- The characters of the Unicode category Cc: the two blocks of control codes. -/
def isControl (c : Char) : Bool :=
  c.toNat < 0x20 || (0x7F ≤ c.toNat && c.toNat ≤ 0x9F)

/-- The characters that are left once the trailing ones satisfying `drop` are gone. -/
def dropEndWhile (drop : Char → Bool) (cs : List Char) : List Char :=
  -- The end of a list is the start of its reverse.
  (cs.reverse.dropWhile drop).reverse

/-- The text without its leading and trailing blanks. -/
def trim (text : String) : String :=
  .ofList (dropEndWhile isBlank (text.toList.dropWhile isBlank))

/-- The text without its trailing blanks. -/
def trimEnd (text : String) : String :=
  .ofList (dropEndWhile isBlank text.toList)

/-- Whether the text holds nothing but blanks. -/
def allBlank (text : String) : Bool :=
  text.toList.all isBlank

end FormatPipeline.Text
