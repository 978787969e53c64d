import FormatPipeline.Sandbox.Tools.Ordering

/-! Programs that show bytes as numbers or letters. -/

namespace FormatPipeline.Sandbox

/-- How bytes are shown: some of them at a time, as a number or as a character. -/
inductive DumpStyle where
  | character
  | name
  | number (base size : Nat) (signed : Bool)
  deriving DecidableEq, Repr

/-- How many bytes are shown at a time. -/
def DumpStyle.size : DumpStyle → Nat
  | number _ size _ => size
  | _ => 1

/-- Digits with something in front of them up to a width. -/
def padded (width : Nat) (fill : Char) (digits : List Char) : String := .ofList (digits.leftpad width fill)

/-- The names of the bytes that cannot be shown. -/
def byteNames : List String :=
  ["nul", "soh", "stx", "etx", "eot", "enq", "ack", "bel", "bs", "ht", "nl", "vt", "ff", "cr", "so",
    "si", "dle", "dc1", "dc2", "dc3", "dc4", "nak", "syn", "etb", "can", "em", "sub", "esc", "fs", "gs",
    "rs", "us", "sp"]

/-- A byte as a character or an escape. -/
def characterText (byte : UInt8) : String :=
  match byte with
  | 0 => "\\0"
  | 7 => "\\a"
  | 8 => "\\b"
  | 9 => "\\t"
  | 10 => "\\n"
  | 11 => "\\v"
  | 12 => "\\f"
  | 13 => "\\r"
  | byte =>
    if 32 ≤ byte ∧ byte < 127 then (Char.ofNat byte.toNat).toString
    else padded 3 '0' (Nat.toDigits 8 byte.toNat)

/-- How many signs the greatest number of some bytes needs. -/
def numberWidth (base size : Nat) (signed : Bool) : Nat :=
  match base, size with
  | 16, size => 2 * size
  | 8, 1 => 3
  | 8, 2 => 6
  | 8, 4 => 11
  | 8, _ => 22
  | _, 1 => if signed then 4 else 3
  | _, 2 => if signed then 6 else 5
  | _, 4 => if signed then 11 else 10
  | _, _ => 20

/-- Bytes as they are shown; the first byte of a number counts least. -/
def DumpStyle.text (style : DumpStyle) (bytes : List UInt8) : String :=
  match style with
  | character => leftPad 3 (characterText (bytes.headD 0))
  | name =>
    let byte := bytes.headD 0 % 128
    leftPad 3 (if byte = 127 then "del"
      else (byteNames[byte.toNat]?).getD (Char.ofNat byte.toNat).toString)
  | number base size signed =>
    let value := bytes.foldr (fun byte (n : Nat) => n * 256 + byte.toNat) 0
    let width := numberWidth base size signed
    if base = 10 then
      let half : Nat := Nat.pow 256 size / 2
      let shown : Int := if signed ∧ half ≤ value then (value : Int) - Nat.pow 256 size else value
      leftPad width (toString shown)
    else padded width '0' (Nat.toDigits base value)

/-- The style that a written type asks for, and whether the characters are shown as well. -/
def dumpStyle? (text : String) : Option (DumpStyle × Bool) :=
  let cs := text.toList
  let shows := cs.getLast? = some 'z'
  let cs := if shows then cs.dropLast else cs
  let sized (base usual : Nat) (signed : Bool) (size : List Char) : Option (DumpStyle × Bool) :=
    match size with
    | [] => some (.number base usual signed, shows)
    | ['C'] => some (.number base 1 signed, shows)
    | ['S'] => some (.number base 2 signed, shows)
    | ['I'] => some (.number base 4 signed, shows)
    | ['L'] => some (.number base 8 signed, shows)
    | [digit] => if "1248".toList.contains digit then
        some (.number base (digit.toNat - '0'.toNat) signed, shows) else none
    | _ => none
  match cs with
  | ['a'] => some (.name, shows)
  | ['c'] => some (.character, shows)
  | 'o' :: size => sized 8 4 false size
  | 'x' :: size => sized 16 4 false size
  | 'u' :: size => sized 10 4 false size
  | 'd' :: size => sized 10 4 true size
  | _ => none

/-- Lists cut into rows of a length. -/
def rowsOf (length : Nat) : Nat → List UInt8 → List (List UInt8)
  | 0, _ | _, [] => []
  | fuel + 1, bytes => bytes.take length :: rowsOf length fuel (bytes.drop length)

/-- Where a row begins, as a number to a base; without a base nothing. -/
def dumpAddress (base : Option (Nat × Nat)) (offset : Nat) : String :=
  match base with
  | some (base, width) => padded width '0' (Nat.toDigits base offset)
  | none => ""

/-- The rows of bytes that are shown; of rows that are equal only the first one is. -/
def dumpRows (style : DumpStyle) (shows all : Bool) (address : Nat → String) (length : Nat) :
    Nat → Option (List UInt8) → Bool → List (List UInt8) → List String
  | _, _, _, [] => []
  | offset, last, starred, row :: rest =>
    if !all && last == some row && row.length == length && !rest.isEmpty then
      (if starred then [] else ["*\n"]) ++
        dumpRows style shows all address length (offset + length) last true rest
    else
      let items := (rowsOf style.size row.length row).map fun bytes => " " ++ style.text bytes
      let characters := if shows then
          let missing := (length - row.length) / style.size * (" " ++ style.text [0]).length
          .ofList (List.replicate missing ' ') ++ "  >" ++ .ofList (row.map fun byte =>
            if 32 ≤ byte ∧ byte < 127 then Char.ofNat byte.toNat else '.') ++ "<"
        else ""
      (address offset ++ String.join items ++ characters ++ "\n") ::
        dumpRows style shows all address length (offset + length) (some row) false rest

/-- Shows the bytes of files as numbers or letters. -/
def runOd : Tool :=
  withOptions ["A|address-radix:", "t|format:", "v|output-duplicates", "w|width?", "N|read-bytes:",
    "j|skip-bytes:", "a", "b", "c", "d", "o", "x", "s", "i", "l", "S|strings?", "endian:"] 1
    fun job name given =>
    let chosen : Option (DumpStyle × Bool) :=
      match given.last? ["t", "a", "b", "c", "d", "o", "x", "s", "i", "l"] with
      | some "t" => dumpStyle? ((given.value? "t").getD "")
      | some "a" => some (.name, false)
      | some "b" => some (.number 8 1 false, false)
      | some "c" => some (.character, false)
      | some "d" => some (.number 10 2 false, false)
      | some "x" => some (.number 16 2 false, false)
      | some "s" => some (.number 10 2 true, false)
      | some "i" => some (.number 10 4 true, false)
      | some "l" => some (.number 10 8 true, false)
      | _ => some (.number 8 2 false, false)
    let type := (given.value? "t").getD ""
    let unknown := type.toList.head?.filter fun c => !"acdfoux".toList.contains c
    match chosen, unknown, ["j", "N", "w"].findSome? fun key => ((given.value? key).filter fun text =>
        (readSize text.toList).toOption.isNone).map (key, ·) with
    | _, _, some (key, text) => job.blame 1 name ("invalid -" ++ key ++ " argument " ++ Text.cited text)
    | none, some c, none =>
      job.blame 1 name ("invalid character " ++ Text.named c.toString ++ " in type string " ++ Text.cited type)
    | none, none, none => job.blame 1 name ("invalid type string " ++ Text.cited type)
    | some (style, shows), _, none =>
      let base : Option (Nat × Nat) := match (given.value? "A").getD "o" with
        | "d" => some (10, 7)
        | "x" => some (16, 6)
        | "n" => none
        | _ => some (8, 7)
      let count (key : String) : Option Nat := (given.value? key).bind fun text => (readSize text.toList).toOption
      let (job, bytes) := forInputs job given.inputs (fun job path error => job.failAt name path error)
        (fun job sofar _ bytes => (job, sofar ++ bytes)) []
      let skipped := (count "j").getD 0
      if bytes.length < skipped then job.blame 1 name "cannot skip past end of combined input"
      else
      let bytes := bytes.drop skipped
      let bytes := match count "N" with
        | some most => bytes.take most
        | none => bytes
      let width := if given.has "w" then (count "w").getD 32 else 16
      let width := max width 1
      let rows := dumpRows style shows (given.has "v") (dumpAddress base) width skipped none false
        (rowsOf width bytes.length bytes)
      let final := match base with
        | some _ => dumpAddress base (skipped + bytes.length) ++ "\n"
        | none => ""
      job.write 1 (String.join rows ++ final)

/-- The letters that stand for six bits each. -/
def sixBitLetters : List Char :=
  "ABCDEFGHIJKLMNOPQRSTUVWXYZabcdefghijklmnopqrstuvwxyz0123456789+/".toList

/-- Bytes as letters, three bytes at a time. -/
def sixBitText : List UInt8 → List Char
  | [] => []
  | [a] =>
    let n := a.toNat * 16
    [letter (n / 64), letter n, '=', '=']
  | [a, b] =>
    let n := (a.toNat * 256 + b.toNat) * 4
    [letter (n / 4096), letter (n / 64), letter n, '=']
  | a :: b :: c :: rest =>
    let n := (a.toNat * 256 + b.toNat) * 256 + c.toNat
    letter (n / 262144) :: letter (n / 4096) :: letter (n / 64) :: letter n :: sixBitText rest
where
  /-- The letter of the last six bits of a number. -/
  letter (n : Nat) : Char := sixBitLetters.getD (n % 64) 'A'

/-- The bytes that letters stand for, four letters at a time, and whether all letters made sense. -/
def sixBitBytes : List Char → List UInt8 × Bool
  | [] => ([], true)
  | a :: b :: '=' :: '=' :: rest =>
    match value? a, value? b with
    | some a, some b => ([.ofNat (a * 4 + b / 16)], rest.isEmpty)
    | _, _ => ([], false)
  | a :: b :: c :: '=' :: rest =>
    match value? a, value? b, value? c with
    | some a, some b, some c => ([.ofNat (a * 4 + b / 16), .ofNat (b * 16 + c / 4)], rest.isEmpty)
    | _, _, _ => ([], false)
  | a :: b :: c :: d :: rest =>
    match value? a, value? b, value? c, value? d with
    | some a, some b, some c, some d =>
      let (others, fine) := sixBitBytes rest
      (.ofNat (a * 4 + b / 16) :: .ofNat (b * 16 + c / 4) :: .ofNat (c * 64 + d) :: others, fine)
    | some a, some b, some c, none => ([.ofNat (a * 4 + b / 16), .ofNat (b * 16 + c / 4)], false)
    | some a, some b, none, _ => ([.ofNat (a * 4 + b / 16)], false)
    | _, _, _, _ => ([], false)
  | [a, b] =>
    match value? a, value? b with
    | some a, some b => ([.ofNat (a * 4 + b / 16)], false)
    | _, _ => ([], false)
  | [a, b, c] =>
    match value? a, value? b, value? c with
    | some a, some b, some c => ([.ofNat (a * 4 + b / 16), .ofNat (b * 16 + c / 4)], false)
    | some a, some b, none => ([.ofNat (a * 4 + b / 16)], false)
    | _, _, _ => ([], false)
  | _ => ([], false)
where
  /-- The six bits that a letter stands for. -/
  value? (letter : Char) : Option Nat := sixBitLetters.findIdx? (· == letter)

/-- Characters in lines of a width; with a width of nothing they stay together. -/
def inLines (width : Nat) : Nat → List Char → List Char
  | 0, cs => cs
  | _, [] => []
  | fuel + 1, cs =>
    if width = 0 then cs
    else cs.take width ++ '\n' :: inLines width fuel (cs.drop width)

/-- Turns bytes into letters and back. -/
def runBase64 : Tool :=
  withOptions ["d|decode", "i|ignore-garbage", "w|wrap:"] 1 fun job name given =>
    let path := given.operands.headD "-"
    match given.operands, (given.value? "w").filter fun text => (Shell.decimal? text).isNone with
    | _, some text => job.blame 1 name ("invalid wrap size: " ++ Text.cited text)
    | _ :: extra :: _, none => job.blameUse 1 name ("extra operand " ++ Text.cited extra)
    | _, none => match job.readOperand path with
    | (.error error, job) => job.failAt name path error
    | (.ok bytes, job) =>
      if given.has "d" then
        let letters := (bytes.map fun byte => Char.ofNat byte.toNat).filter (· != '\n')
        let letters := if given.has "i" then
            letters.filter fun c => c == '=' || sixBitLetters.contains c
          else letters
        let (decoded, fine) := sixBitBytes letters
        let job := job.writeBytes 1 decoded
        if fine then job else job.blame 1 name "invalid input"
      else
        let width := ((given.value? "w").bind Shell.decimal?).getD 76
        let letters := sixBitText bytes
        job.write 1 (.ofList (inLines width letters.length letters))

end FormatPipeline.Sandbox
