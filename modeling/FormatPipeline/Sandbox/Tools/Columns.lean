import FormatPipeline.Sandbox.Tools.Basic
import FormatPipeline.Text.Regular.Reading

/-! Programs that pick, join and replace parts of lines. -/

namespace FormatPipeline.Sandbox

/-- The numbers from one to another; without an end they go on. -/
abbrev Span := Nat × Option Nat

/-- Whether a number is in one of several spans. -/
def inSpans (spans : List Span) (n : Nat) : Bool :=
  spans.any fun (low, high) => low ≤ n && high.all (n ≤ ·)

/-- What is read of a span: the number in front of the dash, if there was a dash, and the last number. -/
structure SpanStart where
  front : Option (Option Nat)
  number : Option Nat
  /-- The text that the last number begins. -/
  text : List Char

/-- How the parts of lines are called that spans number. -/
structure SpanNames where
  zero : String
  invalid : String
  range : String
  large : String × String

/-- The names of fields, or those of bytes. -/
def spanNames (fields : Bool) : SpanNames :=
  if fields then ⟨"fields are numbered from 1", "invalid field value ", "invalid field range",
    ("field number ", " is too large")⟩
  else ⟨"byte/character positions are numbered from 1", "invalid byte/character position ",
    "invalid byte or character range", ("byte/character offset ", " is too large")⟩

/-- The span that ends where a list of spans has a separator. -/
def SpanStart.finish (names : SpanNames) (start : SpanStart) : Except String Span :=
  match start.front, start.number with
  | none, none | none, some 0 => .error names.zero
  | none, some n => .ok (n, some n)
  | some none, none => .error "invalid range with no endpoint: -"
  | some low, none => .ok (low.getD 1, none)
  | some low, some n =>
    if n < low.getD 1 then .error "invalid decreasing range" else .ok (low.getD 1, some n)

/-- Reads spans with commas or blanks between them. -/
def readSpans (names : SpanNames) (start : SpanStart) : List Char → Except String (List Span)
  | [] => do return [← start.finish names]
  | c :: rest =>
    if c = '-' then
      if start.front.isSome then .error names.range
      else if start.number = some 0 then .error names.zero
      else readSpans names ⟨some start.number, none, []⟩ rest
    else if c = ',' ∨ c = ' ' ∨ c = '\t' then do
      let span ← start.finish names
      return span :: (← readSpans names ⟨none, none, []⟩ rest)
    else if c.isDigit then
      let text := if start.number.isNone then c :: rest else start.text
      let number := start.number.getD 0 * 10 + (c.toNat - '0'.toNat)
      if sizeLimit - 1 ≤ number then
        .error (names.large.1 ++ Text.cited (.ofList (text.takeWhile (·.isDigit))) ++ names.large.2)
      else readSpans names ⟨start.front, some number, text⟩ rest
    else .error (names.invalid ++ Text.cited (.ofList (c :: rest)))

/-- Spans in order of which no two have a number in common. -/
def mergedSpans (spans : List Span) : List Span :=
  (spans.mergeSort fun a b => a.1 ≤ b.1).foldr (fun span (merged : List Span) =>
    let touches (other : Span) : Bool := span.2.all (other.1 ≤ ·)
    let within := merged.takeWhile touches
    let stop := within.foldl (fun (stop : Option Nat) other =>
      match stop, other.2 with
      | some a, some b => some (max a b)
      | _, _ => none) span.2
    (span.1, stop) :: merged.drop within.length) []

/-- Lists with something between each two of them. -/
def joinBytes (between : List UInt8) : List (List UInt8) → List UInt8
  | [] => []
  | [part] => part
  | part :: rest => part ++ between ++ joinBytes between rest

/-- The parts of bytes between separators. -/
def splitBytes (separator : UInt8) (bytes : List UInt8) : List (List UInt8) :=
  bytes.foldr (fun byte (parts : List (List UInt8)) =>
    if byte = separator then [] :: parts
    else match parts with
      | part :: others => (byte :: part) :: others
      | [] => [[byte]]) [[]]

/-- The chosen bytes of a line, with something between those that do not stand side by side. -/
def chosenBytes (chosen : Nat → Bool) (starts : Nat → Bool) (between : List UInt8) (line : List UInt8) :
    List UInt8 :=
  (line.zipIdx.foldl (fun (shown, started) (byte, index) =>
    if chosen (index + 1) then
      if started && starts (index + 1) then (byte :: between.reverse ++ shown, true)
      else (byte :: shown, true)
    else (shown, started)) (([] : List UInt8), false)).1.reverse

/-- Prints chosen parts of lines. -/
def runCut : Tool :=
  withOptions ["b|bytes:", "c|characters:", "d|delimiter:", "f|fields:", "n", "s|only-delimited",
    "complement", "output-delimiter:", "z|zero-terminated"] 1 fun job name given =>
    let lists := given.options.filter fun option => ["b", "c", "f"].contains option.1
    match lists with
    | [] => job.blameUse 1 name "you must specify a list of bytes, characters, or fields"
    | _ :: _ :: _ => job.blameUse 1 name "only one list may be specified"
    | [(key, list)] =>
      let fields := key == "f"
      let delimiter := Text.toBytes ((given.value? "d").getD "\t")
      if given.has "d" && 1 < delimiter.length then
        job.blameUse 1 name "the delimiter must be a single character"
      else if given.has "d" && !fields then
        job.blameUse 1 name "an input delimiter may be specified only when operating on fields"
      else if given.has "s" && !fields then
        job.blameUse 1 name
          "suppressing non-delimited lines makes sense\n\tonly when operating on fields"
      else match readSpans (spanNames fields) ⟨none, none, []⟩ (list.getD "").toList with
        | .error text => job.blameUse 1 name text
        | .ok spans =>
          let spans := mergedSpans spans
          let chosen (n : Nat) : Bool := inSpans spans n != given.has "complement"
          let starts (n : Nat) : Bool :=
            if given.has "complement" then chosen n && !chosen (n - 1) else spans.any (·.1 == n)
          let ending : UInt8 := if given.has "z" then 0 else 10
          let separator := delimiter.headD 0
          let between := match given.value? "output-delimiter" with
            | some text => Text.toBytes text
            | none => if fields then [separator] else []
          let cut (line : List UInt8) : Option (List UInt8) :=
            if fields then
              let parts := splitBytes separator line
              if parts.length = 1 then (if given.has "s" then none else some line)
              else
                let kept := parts.zipIdx.filterMap fun (part, index) =>
                  if chosen (index + 1) then some part else none
                some (joinBytes between kept)
            else some (chosenBytes chosen (if between.isEmpty then fun _ => false else starts) between line)
          (forInputs job given.inputs (fun job path error => job.failAt name path error)
            (fun job _ _ bytes =>
              let shown := (bareLines ending bytes).flatMap fun line =>
                match cut line with
                | some line => line ++ [ending]
                | none => []
              (job.writeBytes 1 shown, ())) ()).1

/-- The separators that a text names; one of them may stand for nothing. -/
def separatorsOf : List Char → List (List UInt8)
  | [] => []
  | '\\' :: c :: rest =>
    (match c with
      | 'n' => [10]
      | 't' => [9]
      | '0' => []
      | '\\' => [92]
      | 'b' => [8]
      | 'f' => [12]
      | 'r' => [13]
      | 'v' => [11]
      | c => Text.toBytes c.toString) :: separatorsOf rest
  | c :: rest => Text.toBytes c.toString :: separatorsOf rest

/-- Parts with separators between them that are used in turn. -/
def joinInTurn (separators : List (List UInt8)) (parts : List (List UInt8)) : List UInt8 :=
  (parts.zipIdx.flatMap fun (part, index) =>
    if index = 0 then part
    else (separators.getD ((index - 1) % separators.length) []) ++ part)

/-- The lines that each of several readers of the input gets when they take turns. -/
def dealt (readers : Nat) (reader : Nat) (lines : List (List UInt8)) : List (List UInt8) :=
  lines.zipIdx.filterMap fun (line, index) => if index % readers = reader then some line else none

/-- Prints lines of files side by side. -/
def runPaste : Tool :=
  withOptions ["d|delimiters:", "s|serial", "z|zero-terminated"] 1 fun job name given =>
    let ending : UInt8 := if given.has "z" then 0 else 10
    let separators := separatorsOf ((given.value? "d").getD "\t").toList
    let separators := if separators.isEmpty then [[]] else separators
    let paths := given.inputs
    let readers := paths.count "-"
    let (input, job) := if readers = 0 then ([], job) else job.drainInput 0
    let shared := bareLines ending input
    let (job, columns, _) := paths.foldl (fun (job, columns, reader) path =>
      if path = "-" then
        let lines := if given.has "s" then (if reader = 0 then shared else [])
          else dealt readers reader shared
        (job, columns ++ [lines], reader + 1)
      else match (job : Job).tree.read job.directory path with
        | .ok bytes => (job, columns ++ [bareLines ending bytes], reader)
        | .error error => (job.failAt name path error, columns, reader)) (job, [], 0)
    if given.has "s" then
      job.writeBytes 1 (columns.flatMap fun lines => joinInTurn separators lines ++ [ending])
    else if job.status ≠ 0 then job
    else
      let rows := columns.foldl (fun most lines => max most lines.length) 0
      let shown := (List.range rows).flatMap fun row =>
        joinInTurn separators (columns.map fun lines => lines.getD row []) ++ [ending]
      job.writeBytes 1 shown

/-- A part of a written set of bytes. -/
inductive SetPart where
  | bytes (bytes : List UInt8)
  /-- The bytes of a class. -/
  | named (name : String)
  /-- A byte with all that are equivalent to it, which are none. -/
  | equivalent (byte : UInt8)
  /-- A byte that stands there again and again; without a number it fills what is missing. -/
  | again (byte : UInt8) (count : Option Nat)

/-- A byte of a written set, and what follows it; a backslash gives some letters a meaning. -/
def readSetByte (bytes : List UInt8) : Option (UInt8 × Bool × List UInt8) :=
  match bytes with
  | [] => none
  | 92 :: c :: rest =>
    let isOctal (byte : UInt8) : Bool := 48 ≤ byte && byte ≤ 55
    if isOctal c then
      let digits := ((c :: rest).take 3).takeWhile isOctal
      let value := digits.foldl (fun n byte => n * 8 + (byte.toNat - 48)) 0
      let (digits, value) := if 255 < value then (digits.take 2, value / 8) else (digits, value)
      some (.ofNat value, true, (c :: rest).drop digits.length)
    else
      let byte : UInt8 := match c with
        | 97 => 7
        | 98 => 8
        | 102 => 12
        | 110 => 10
        | 114 => 13
        | 116 => 9
        | 118 => 11
        | c => c
      some (byte, true, rest)
  | byte :: rest => some (byte, false, rest)

/-- What stands in front of a sign with a bracket behind it, and what follows both. -/
def splitAtClose (sign : UInt8) : List UInt8 → Option (List UInt8 × List UInt8)
  | [] | [_] => none
  | a :: b :: rest =>
    if a = sign ∧ b = 93 then some ([], rest)
    else (splitAtClose sign (b :: rest)).map fun (name, rest) => (a :: name, rest)

/-- The parts of a written set. -/
def readSetParts : Nat → List UInt8 → Except String (List SetPart)
  | 0, _ => .ok []
  | fuel + 1, bytes =>
    let goOn (part : SetPart) (rest : List UInt8) : Except String (List SetPart) := do
      return part :: (← readSetParts fuel rest)
    let single (bytes : List UInt8) : Except String (List SetPart) :=
      match readSetByte bytes with
      | none => .ok []
      | some (low, _, rest) =>
        match rest with
        | 45 :: behind =>
          match readSetByte behind with
          | none => do return .bytes [low] :: (← readSetParts fuel rest)
          | some (high, _, rest) =>
            if high < low then
              let shown (byte : UInt8) : String := (Char.ofNat byte.toNat).toString
              .error ("range-endpoints of '" ++ shown low ++ "-" ++ shown high ++
                "' are in reverse collating sequence order")
            else do
              let among := (List.range (high.toNat + 1 - low.toNat)).map fun i =>
                UInt8.ofNat (low.toNat + i)
              return .bytes among :: (← readSetParts fuel rest)
        | rest => do return .bytes [low] :: (← readSetParts fuel rest)
    match bytes with
    | 91 :: 58 :: rest =>
      match splitAtClose 58 rest with
      | some ([], _) => .error "missing character class name '[::]'"
      | some (name, rest) =>
        let name := Text.ofBytes name
        if (Text.byteClass? name).isSome then goOn (.named name) rest
        else .error ("invalid character class " ++ Text.cited name)
      | none => single bytes
    | 91 :: 61 :: rest =>
      match splitAtClose 61 rest with
      | some ([], _) => .error "missing equivalence class character '[==]'"
      | some ([byte], rest) => goOn (.equivalent byte) rest
      | some (name, _) =>
        .error (Text.ofBytes name ++ ": equivalence class operand must be a single character")
      | none => single bytes
    | 91 :: behind =>
      match readSetByte behind with
      | some (byte, _, 42 :: rest) =>
        let digits := rest.takeWhile fun byte => 48 ≤ byte && byte ≤ 57
        match rest.drop digits.length with
        | 93 :: rest =>
          let base := if digits.head? = some 48 then 8 else 10
          let count := digits.foldl (fun n byte => n * base + (byte.toNat - 48)) 0
          goOn (.again byte (if count = 0 then none else some count)) rest
        | _ => single bytes
      | _ => single bytes
    | bytes => single bytes

/-- The bytes of ranges. -/
def bytesOfRanges (ranges : List (UInt8 × UInt8)) : List UInt8 :=
  ((List.range 256).map UInt8.ofNat).filter fun byte =>
    ranges.any fun (low, high) => low ≤ byte && byte ≤ high

/-- The bytes of a part of a set; what fills is left out. -/
def SetPart.all : SetPart → List UInt8
  | .bytes all => all
  | .named name => bytesOfRanges ((Text.byteClass? name).getD [])
  | .equivalent byte => [byte]
  | .again byte count => List.replicate (count.getD 0) byte

/-- A set in which the byte that fills stands there as often as a length asks for. -/
def filledParts (length : Nat) (parts : List SetPart) : List SetPart :=
  let fixed := (parts.flatMap SetPart.all).length
  parts.map fun part => match part with
    | .again byte none => .again byte (some (length - fixed))
    | part => part

/-- The bytes of a set in which some byte fills up to a length. -/
def filledSet (length : Nat) (parts : List SetPart) : List UInt8 :=
  (filledParts length parts).flatMap SetPart.all

/-- Whether a part of a set is a class of letters of one case. -/
def SetPart.isCased : SetPart → Bool
  | .named name => name == "upper" || name == "lower"
  | _ => false

/-- For every byte of a set whether it begins a part, and whether that part has letters of one case. -/
def stepsOf (parts : List SetPart) : List (Bool × Bool) := parts.flatMap fun part =>
  part.all.mapIdx fun index _ => (index == 0, part.isCased)

/-- Whether every class of letters of one case stands for another one in the first set. -/
def casesAlign : Nat → List (Bool × Bool) → List (Bool × Bool) → Bool
  | 0, _, _ | _, _, [] => true
  | _ + 1, [], (_, cased) :: _ => !cased
  | fuel + 1, first :: rest, (_, cased) :: others =>
    if cased then
      first == (true, true) && casesAlign fuel (rest.dropWhile (!·.1)) (others.dropWhile (!·.1))
    else casesAlign fuel rest others

/-- Why the second set cannot stand for the first one, of which so many bytes are wanted. -/
def substitutionFault? (complements truncates : Bool) (wanted : Nat) (first second : List SetPart) :
    Option String :=
  let substitutes := filledSet wanted second
  let hasClass (parts : List SetPart) : Bool := parts.any fun part => part matches .named _
  let others := second.any fun part => (part matches .named _) && !part.isCased
  let lacks := substitutes.length < wanted && !truncates
  let endsInClass := match second.getLast? with
    | some (.named _) => true
    | _ => false
  let isOne := substitutes.eraseDups.length == 1 &&
    (substitutes.length == wanted || (substitutes.length < wanted && !truncates))
  if second.any fun part => part matches .equivalent _ then
    some "[=c=] expressions may not appear in string2 when translating"
  else if others then
    some "when translating, the only character classes that may appear in\nstring2 are 'upper' and 'lower'"
  else if !complements && hasClass second &&
      !casesAlign (wanted + substitutes.length + 1) (stepsOf first)
        (stepsOf (filledParts wanted second)) then
    some "misaligned [:upper:] and/or [:lower:] construct"
  else if lacks && substitutes.isEmpty then
    some "when not truncating set1, string2 must be non-empty"
  else if lacks && endsInClass then
    some ("when translating with string1 longer than string2,\nthe latter string must " ++
      "not end with a character class")
  else if complements && hasClass first && !isOne then
    some ("when translating with complemented character classes,\nstring2 must map all " ++
      "characters in the domain to one")
  else none

/-- Why sets cannot be used together, if they cannot. -/
def setsFault? (translates complements truncates : Bool) (wanted : Nat) (first : List SetPart)
    (second : Option (List SetPart)) : Option String :=
  let fills (parts : List SetPart) : Nat := parts.countP fun part => part matches .again _ none
  if 0 < fills first then some "the [c*] repeat construct may not appear in string1"
  else second.bind fun second =>
    if 1 < fills second then some "only one [c*] repeat construct may appear in string2"
    else if translates then substitutionFault? complements truncates wanted first second
    else if 0 < fills second then some "the [c*] construct may appear in string2 only when translating"
    else none

/-- The byte that stands in for another one; the last substitute serves all that have none. -/
def replaceByte (wanted substitutes : List UInt8) (byte : UInt8) : UInt8 :=
  -- Of several entries for a byte the last one counts.
  match (wanted.zipIdx.reverse.find? (·.1 == byte)).map (·.2) with
  | none => byte
  | some index => (substitutes[index]?.or substitutes.getLast?).getD byte

/-- Bytes without repetitions of those in a set. -/
def squeeze (set : List UInt8) : List UInt8 → List UInt8
  | first :: second :: rest =>
    if first = second ∧ set.contains first then squeeze set (second :: rest)
    else first :: squeeze set (second :: rest)
  | bytes => bytes

/-- Replaces or removes bytes of the input. -/
def runTr : Tool := fun job name arguments =>
  -- Options stand in front of the sets.
  match readWords (["c|complement", "C", "d|delete", "s|squeeze-repeats", "t|truncate-set1"].map
      OptionRule.ofText) false none arguments with
  | .error text => job.blameUse 1 name text
  | .ok given =>
    let job := job.ended 0
    let deletes := given.has "d"
    let squeezes := given.has "s"
    let most := if deletes && !squeezes then 1 else 2
    let least := if deletes == squeezes then 2 else 1
    let shown (text : String) : String := Text.cited text
    match given.operands with
    | [] => job.blameUse 1 name "missing operand"
    | operands =>
      if operands.length < least then
        let why := if squeezes then "Two strings must be given when both deleting and squeezing repeats."
          else "Two strings must be given when translating."
        job.blameUse 1 name ("missing operand after " ++ shown (operands.getLast?.getD "") ++ "\n" ++ why)
      else if most < operands.length then
        let why := if operands.length = 2 then
            "\nOnly one string may be given when deleting without squeezing repeats."
          else ""
        job.blameUse 1 name ("extra operand " ++ shown (operands.getD most "") ++ why)
      else match operands.mapM fun text => readSetParts (text.utf8ByteSize + 1) (Text.toBytes text) with
        | .error text => job.blame 1 name text
        | .ok sets => replaceAll job name given (sets.headD []) (sets[1]?)
where
  /-- Does what the options ask for with the bytes of the input. -/
  replaceAll (job : Job) (name : String) (given : Given) (first : List SetPart)
      (second : Option (List SetPart)) : Job :=
    let job := if (operandsEndInBackslash given) then
        job.write 2 (name ++ ": warning: an unescaped backslash at end of string is not portable\n")
      else job
    let all := first.flatMap SetPart.all
    let complements := given.has "c" || given.has "C"
    let wanted := if complements then
        ((List.range 256).map UInt8.ofNat).filter (!all.contains ·)
      else all
    let deletes := given.has "d"
    match setsFault? (!deletes) complements (given.has "t") wanted.length first second with
    | some text => job.blame 1 name text
    | none =>
      let (bytes, rest) := job.drainInput 0
      match deletes, second with
      | true, none => rest.writeBytes 1 (bytes.filter (!wanted.contains ·))
      | true, some parts =>
        let kept := bytes.filter (!wanted.contains ·)
        rest.writeBytes 1 (squeeze (parts.flatMap SetPart.all) kept)
      | false, none => rest.writeBytes 1 (squeeze wanted bytes)
      | false, some parts =>
        let substitutes := filledSet wanted.length parts
        let wanted := if given.has "t" then wanted.take substitutes.length else wanted
        let replaced := bytes.map (replaceByte wanted substitutes)
        rest.writeBytes 1 (if given.has "s" then squeeze substitutes replaced else replaced)
  /-- Whether a set ends in a backslash that protects nothing. -/
  operandsEndInBackslash (given : Given) : Bool :=
    given.operands.any fun text =>
      ((text.toList.reverse.takeWhile (· == '\\')).length) % 2 == 1

end FormatPipeline.Sandbox
