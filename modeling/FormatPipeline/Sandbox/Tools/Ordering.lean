import FormatPipeline.Sandbox.Tools.Showing
import FormatPipeline.Text.Regular.Basic

/-! Programs that put lines in order, or rely on their order. -/

namespace FormatPipeline.Sandbox

/-- Whether a byte separates fields. -/
def isBlankByte (byte : UInt8) : Bool := byte == 32 || byte == 9 || byte == 10

/-- Whether a byte is a digit. -/
def isDigitByte (byte : UInt8) : Bool := 48 ≤ byte && byte ≤ 57

/-- Bytes as they follow one another. -/
def compareBytes : List UInt8 → List UInt8 → Ordering
  | [], [] => .eq
  | [], _ :: _ => .lt
  | _ :: _, [] => .gt
  | a :: as, b :: bs => if a < b then .lt else if b < a then .gt else compareBytes as bs

/-- A decimal number: a mantissa and how many of its digits stand behind the point. -/
structure DecimalKey where
  mantissa : Int
  places : Nat

/-- Decimal numbers in order. -/
def DecimalKey.compare (a b : DecimalKey) : Ordering :=
  Ord.compare (a.mantissa * (Nat.pow 10 b.places : Nat)) (b.mantissa * (Nat.pow 10 a.places : Nat))

/-- The digits at the front of bytes as a number. -/
def digitsValue (bytes : List UInt8) : Nat :=
  bytes.foldl (fun n byte => n * 10 + (byte.toNat - 48)) 0

/-- The number at the front of bytes, behind blanks, and what follows it; without one it is zero. -/
def decimalKey (bytes : List UInt8) : DecimalKey × List UInt8 :=
  let bytes := bytes.dropWhile isBlankByte
  let (negative, bytes) : Bool × List UInt8 := match bytes with
    | 45 :: rest => (true, rest)
    | bytes => (false, bytes)
  let whole := bytes.takeWhile isDigitByte
  let rest := bytes.drop whole.length
  let (fraction, rest) : List UInt8 × List UInt8 := match rest with
    | 46 :: behind =>
      let fraction := behind.takeWhile isDigitByte
      (fraction, behind.drop fraction.length)
    | rest => ([], rest)
  let value : Int := digitsValue (whole ++ fraction)
  (⟨if negative then -value else value, fraction.length⟩, rest)

/-- Whether bytes begin with a number, behind blanks and a sign. -/
def beginsWithNumber (bytes : List UInt8) : Bool :=
  let bare := match bytes.dropWhile isBlankByte with
    | sign :: rest => if sign = 43 ∨ sign = 45 then rest else sign :: rest
    | [] => []
  match bare with
  | 46 :: rest => rest.head?.any isDigitByte
  | bytes => bytes.head?.any isDigitByte

/-- The number at the front of bytes, which may have an exponent. -/
def generalKey (bytes : List UInt8) : DecimalKey :=
  let (key, rest) := decimalKey (match bytes.dropWhile isBlankByte with
    | 43 :: rest => rest
    | bytes => bytes)
  match rest with
  | e :: rest =>
    if e = 101 ∨ e = 69 then
      let (down, digits) : Bool × List UInt8 := match rest with
        | 45 :: rest => (true, rest)
        | 43 :: rest => (false, rest)
        | rest => (false, rest)
      let exponent := digitsValue (digits.takeWhile isDigitByte)
      if down then { key with places := key.places + exponent }
      else { key with mantissa := key.mantissa * (Nat.pow 10 exponent : Nat) }
    else key
  | [] => key

/-- How great the unit behind a number is. -/
def unitRank (bytes : List UInt8) : Nat :=
  match bytes with
  | [] => 0
  | byte :: _ =>
    match "KMGTPEZY".toList.zipIdx.find? fun entry => entry.1.toNat == byte.toNat with
    | some (_, rank) => rank + 1
    | none => if byte = 107 then 1 else 0

/-- The number of the month that bytes begin with; without one it is zero. -/
def monthRank (bytes : List UInt8) : Nat :=
  let name := ((bytes.dropWhile isBlankByte).take 3).map Text.upperByte
  let months := ["JAN", "FEB", "MAR", "APR", "MAY", "JUN", "JUL", "AUG", "SEP", "OCT", "NOV", "DEC"]
  match months.zipIdx.find? fun entry => Text.toBytes entry.1 == name with
  | some (_, index) => index + 1
  | none => 0

/-- How bytes of versions follow one another: a tilde comes first, and letters before other signs. -/
def versionRank (byte : Option UInt8) : Int :=
  match byte with
  | none => -1
  | some byte =>
    if isDigitByte byte then 0
    else if byte = 126 then -2
    else if (65 ≤ byte ∧ byte ≤ 90) ∨ (97 ≤ byte ∧ byte ≤ 122) then byte.toNat
    else byte.toNat + 256

/-- Texts with numbers in order: the numbers count as numbers. -/
def compareNumbered : Nat → List UInt8 → List UInt8 → Ordering
  | 0, _, _ | _, [], [] => .eq
  | fuel + 1, as, bs =>
    let stops (bytes : List UInt8) : Bool := bytes.head?.all isDigitByte
    if stops as && stops bs then
      let first := as.takeWhile isDigitByte
      let second := bs.takeWhile isDigitByte
      (Ord.compare (digitsValue first) (digitsValue second)).then
        (compareNumbered fuel (as.drop first.length) (bs.drop second.length))
    else
      (Ord.compare (versionRank as.head?) (versionRank bs.head?)).then
        (compareNumbered fuel as.tail bs.tail)

/-- Whether bytes can begin the name of a suffix. -/
def isSuffixStart (byte : UInt8) : Bool :=
  (65 ≤ byte && byte ≤ 90) || (97 ≤ byte && byte ≤ 122) || byte == 126

/-- Whether bytes are suffixes of a file, perhaps behind a part of one. -/
def areSuffixes (inside : Bool) : List UInt8 → Bool
  | [] => true
  | [byte] => inside && (isSuffixStart byte || isDigitByte byte)
  | byte :: next :: rest =>
    if inside && (isSuffixStart byte || isDigitByte byte) then areSuffixes true (next :: rest)
    else byte == 46 && isSuffixStart next && areSuffixes true rest

/-- What stands in front of the suffixes of a file; it is not empty. -/
def beforeSuffixes : List UInt8 → List UInt8
  | [] => []
  | byte :: rest => if areSuffixes false rest then [byte] else byte :: beforeSuffixes rest

/-- Where a version stands before the bytes of others are looked at: hidden names come first. -/
def versionClass (bytes : List UInt8) : Nat :=
  match bytes with
  | [] => 0
  | [46] => 1
  | [46, 46] => 2
  | 46 :: _ => 3
  | _ => 4

/-- Versions in order; suffixes count only between those that are equal without them. -/
def compareVersions (as bs : List UInt8) : Ordering :=
  let fuel := as.length + bs.length + 1
  ((Ord.compare (versionClass as) (versionClass bs)).then
    (compareNumbered fuel (beforeSuffixes as) (beforeSuffixes bs))).then (compareNumbered fuel as bs)

/-- How parts of lines are compared. -/
structure SortOrder where
  letters : List Char

/-- Whether an order has a letter. -/
def SortOrder.has (order : SortOrder) (letter : Char) : Bool := order.letters.contains letter

/-- Whether a byte can be seen. -/
def isPrintable (byte : UInt8) : Bool := 32 ≤ byte && byte < 127

/-- Whether a byte counts in a dictionary. -/
def isForDictionary (byte : UInt8) : Bool := (Text.isWordByte byte && byte != 95) || isBlankByte byte

/-- The bytes that count, as they are compared. -/
def SortOrder.counting (order : SortOrder) (bytes : List UInt8) : List UInt8 :=
  let bytes := if order.has 'd' then bytes.filter isForDictionary else bytes
  let bytes := if order.has 'i' then bytes.filter isPrintable else bytes
  if order.has 'f' then bytes.map Text.upperByte else bytes

/-- Compares parts of lines by the bytes that count, without regard to a reversal. -/
def SortOrder.compareCounting (order : SortOrder) (a b : List UInt8) : Ordering :=
  if order.has 'n' then (decimalKey a).1.compare (decimalKey b).1
  else if order.has 'g' then
    -- What is no number comes first.
    match beginsWithNumber a, beginsWithNumber b with
    | true, true => (generalKey a).compare (generalKey b)
    | true, false => .gt
    | false, true => .lt
    | false, false => .eq
  else if order.has 'h' then
    let (first, rest) := decimalKey a
    let (second, behind) := decimalKey b
    let rank (key : DecimalKey) (rest : List UInt8) : Int :=
      if key.mantissa = 0 then 0
      else if key.mantissa < 0 then -(unitRank rest + 1 : Nat) else (unitRank rest + 1 : Nat)
    (Ord.compare (rank first rest) (rank second behind)).then (first.compare second)
  else if order.has 'M' then Ord.compare (monthRank a) (monthRank b)
  else if order.has 'V' then compareVersions a b
  else compareBytes a b

/-- Compares parts of lines, without regard to a reversal. -/
def SortOrder.compare (order : SortOrder) (a b : List UInt8) : Ordering :=
  order.compareCounting (order.counting a) (order.counting b)

/-- A place in a line: a field, counted from zero, and bytes in it. -/
structure FieldPlace where
  field : Nat
  byte : Nat
  skipsBlanks : Bool

/-- A part of a line by which lines are put in order. -/
structure SortKey where
  start : FieldPlace
  stop : Option FieldPlace
  order : SortOrder

/-- What is left of a line behind some fields. -/
def behindFields (separator : Option UInt8) : Nat → List UInt8 → List UInt8
  | 0, line => line
  | count + 1, line =>
    match separator with
    | some byte => behindFields separator count ((line.dropWhile (· != byte)).drop 1)
    | none =>
      behindFields separator count ((line.dropWhile isBlankByte).dropWhile (!isBlankByte ·))

/-- How much of a line is left where a part of it ends. -/
def restAtStop (separator : Option UInt8) (stop : FieldPlace) (line : List UInt8) : Nat :=
  if stop.byte = 0 then
    match separator with
    | some byte =>
      let lead := behindFields separator stop.field line
      (lead.dropWhile (· != byte)).length
    | none => (behindFields separator (stop.field + 1) line).length
  else
    let lead := behindFields separator stop.field line
    let lead := if stop.skipsBlanks then lead.dropWhile isBlankByte else lead
    lead.length - stop.byte

/-- The part of a line that a key means. -/
def SortKey.part (key : SortKey) (separator : Option UInt8) (line : List UInt8) : List UInt8 :=
  let lead := behindFields separator key.start.field line
  let lead := if key.start.skipsBlanks then lead.dropWhile isBlankByte else lead
  let lead := lead.drop key.start.byte
  match key.stop with
  | none => lead
  | some stop => lead.take (lead.length - restAtStop separator stop line)

/-- How lines are put in order. -/
structure Sorting where
  separator : Option UInt8
  keys : List SortKey
  order : SortOrder
  /-- Whether lines that are equal by their keys stay as they are. -/
  stable : Bool

/-- Turns a comparison over. -/
def turnedOver (turns : Bool) (order : Ordering) : Ordering := if turns then order.swap else order

/-- Compares lines by their keys. -/
def Sorting.compareKeys (sorting : Sorting) (a b : List UInt8) : Ordering :=
  if sorting.keys.isEmpty then
    turnedOver (sorting.order.has 'r') (sorting.order.compare
      (if sorting.order.has 'b' then a.dropWhile isBlankByte else a)
      (if sorting.order.has 'b' then b.dropWhile isBlankByte else b))
  else sorting.keys.foldl (fun order key =>
    order.then (turnedOver (key.order.has 'r')
      (key.order.compare (key.part sorting.separator a) (key.part sorting.separator b)))) .eq

/-- Compares lines; those that are equal by their keys are compared as a whole. -/
def Sorting.compare (sorting : Sorting) (a b : List UInt8) : Ordering :=
  (sorting.compareKeys a b).then
    (if sorting.stable then .eq else turnedOver (sorting.order.has 'r') (compareBytes a b))

/-- Reads a place in a line: a field, perhaps a byte in it, and letters. -/
def readFieldPlace (text : List Char) : Option (Nat × Option Nat × List Char) :=
  let digits := text.takeWhile (·.isDigit)
  if digits.isEmpty then none
  else match text.drop digits.length with
    | '.' :: rest =>
      let bytes := rest.takeWhile (·.isDigit)
      if bytes.isEmpty then none
      else some (Shell.ofDigits 10 digits, some (Shell.ofDigits 10 bytes), rest.drop bytes.length)
    | rest => some (Shell.ofDigits 10 digits, none, rest)

/-- The letters that say how lines are compared. -/
def orderLetters : List Char := "bdfghiMnRrV".toList

/-- The letters among those given that cannot stand together, in the order of their names. -/
def clashing (letters : List Char) : Option String :=
  let has := letters.contains
  let dictionary := has 'd'
  let others := has 'V' || has 'R' || has 'i' || dictionary
  let kinds := "nghM".toList.countP has + (if others then 1 else 0)
  if kinds < 2 then none
  else
    -- A dictionary order is all that shows of the bytes that do not count.
    some (.ofList ("dfghiMnRV".toList.filter fun letter => has letter && !(letter == 'i' && dictionary)))

/-- Reads a key; one without letters of its own goes by those of the whole. -/
def readSortKey (whole : List Char) (text : String) : Except String SortKey := do
  let invalid (why : String) : Except String SortKey :=
    .error (why ++ ": invalid field specification " ++ Text.cited text)
  let some (field, byte, rest) := readFieldPlace text.toList
    | .error ("invalid number at field start: invalid count at start of " ++ Text.cited text)
  if field = 0 then invalid "field number is zero"
  else if byte = some 0 then invalid "character offset is zero"
  else
    let letters := rest.takeWhile orderLetters.contains
    let (stop, others, left) ← match rest.drop letters.length with
      | ',' :: behind =>
        match readFieldPlace behind with
        | none =>
          .error ("invalid number after ',': invalid count at start of " ++ Text.cited (.ofList behind))
        | some (last, byte, rest) =>
          let others := rest.takeWhile orderLetters.contains
          let stop : FieldPlace := ⟨last - 1, byte.getD 0, others.contains 'b'⟩
          Except.ok (some stop, others, rest.drop others.length)
      | rest => Except.ok (none, [], rest)
    if !left.isEmpty then invalid "stray character in field spec"
    else
      let own := letters ++ others
      let used := if own.isEmpty then whole else own
      let skips (letters : List Char) : Bool := if own.isEmpty then whole.contains 'b' else letters.contains 'b'
      return {
        start := ⟨field - 1, (byte.getD 1) - 1, skips letters⟩
        stop := stop.map fun place => { place with skipsBlanks := skips others }
        order := ⟨used⟩ }

/-- Lines of which no two neighbours are equal. -/
def withoutRepeats (same : List UInt8 → List UInt8 → Bool) : List (List UInt8) → List (List UInt8)
  | [] => []
  | line :: rest =>
    match withoutRepeats same rest with
    | [] => [line]
    | other :: others => if same line other then line :: others else line :: other :: others

/-- The number and the text of the first line that does not follow the one in front of it. -/
def firstDisorder? (inOrder : List UInt8 → List UInt8 → Bool) :
    Nat → List (List UInt8) → Option (Nat × List UInt8)
  | number, a :: b :: rest =>
    if inOrder a b then firstDisorder? inOrder (number + 1) (b :: rest) else some (number + 1, b)
  | _, _ => none

/-- Prints the lines of files in order. -/
def runSort : Tool :=
  withOptions ["b|ignore-leading-blanks", "c|check?", "C", "d|dictionary-order", "f|ignore-case",
    "g|general-numeric-sort", "h|human-numeric-sort", "i|ignore-nonprinting", "k|key:", "m|merge",
    "M|month-sort", "n|numeric-sort", "o|output:", "r|reverse", "R|random-sort", "s|stable",
    "S|buffer-size:", "t|field-separator:", "T|temporary-directory:", "u|unique", "V|version-sort",
    "z|zero-terminated", "parallel:", "batch-size:"] 2 fun job name given =>
    let letters := orderLetters.filter fun letter => given.has letter.toString
    let keys : Except String (List SortKey) := (given.values "k").mapM (readSortKey letters)
    let separator : Except String (Option UInt8) := (given.values "t").foldlM
      (fun separator text => do
        let byte ← match text, Text.toBytes text with
          | "\\0", _ => .ok 0
          | _, [byte] => .ok byte
          | _, [] => .error "empty tab"
          | _, _ => .error ("multi-character tab " ++ Text.cited text)
        if separator.any (· != byte) then throw "incompatible tabs"
        return some byte) none
    let incompatible (letters : String) : String := "options '-" ++ letters ++ "' are incompatible"
    let clash : Except String Unit :=
      if given.has "c" && given.has "C" then .error (incompatible "cC")
      else if 1 < (given.values "o").eraseDups.length then .error "multiple output files specified"
      else do
        let orders : List (List Char) := match ← keys with
          | [] => [letters]
          | keys => keys.map fun key => key.order.letters
        match orders.findSome? clashing with
        | some letters => .error (incompatible letters)
        | none =>
          if given.has "c" && given.has "o" then .error (incompatible "co")
          else if given.has "C" && given.has "o" then .error (incompatible "Co")
          else .ok ()
    match keys, separator, clash with
    | .error text, _, _ | _, .error text, _ | _, _, .error text => job.blame 2 name text
    | .ok keys, .ok separator, .ok () =>
      let ending : UInt8 := if given.has "z" then 0 else 10
      let sorting : Sorting := ⟨separator, keys, ⟨letters⟩, given.has "s" || given.has "u"⟩
      let checks := given.has "c" || given.has "C"
      match given.operands with
      | _ :: extra :: _ =>
        if checks then job.blame 2 name ("extra operand " ++ Text.cited extra ++ " not allowed with -c")
        else sortAll job name given sorting ending
      | _ =>
        if checks then check job name given sorting ending
        else sortAll job name given sorting ending
where
  /-- Prints the lines of all files in order, unless one of them cannot be read. -/
  sortAll (job : Job) (name : String) (given : Given) (sorting : Sorting) (ending : UInt8) : Job :=
    let (job, read) := forInputs job given.inputs (fun job path error =>
      if error = .isDirectory then job.blame 2 name ("read failed: " ++ Text.namedIfNeeded path ++ ": " ++ reason error)
      else job.blame 2 name ("cannot read: " ++ Text.namedIfNeeded path ++ ": " ++ reason error))
      (fun job files _ bytes => (job, files ++ [bareLines ending bytes])) []
    if job.status ≠ 0 then job
    else
      let inOrder (a b : List UInt8) : Bool := sorting.compare a b != .gt
      let sorted := if given.has "m" then read.foldl (fun merged lines => merged.merge lines inOrder) []
        else read.flatten.mergeSort inOrder
      let sorted := if given.has "u" then
          withoutRepeats (fun a b => sorting.compareKeys a b == .eq) sorted
        else sorted
      let bytes := sorted.flatMap (· ++ [ending])
      match given.value? "o" with
      | none => job.writeBytes 1 bytes
      | some path =>
        match job.writeFile path true bytes with
        | .ok job => job
        | .error error => job.blame 2 name ("open failed: " ++ Text.namedIfNeeded path ++ ": " ++ reason error)
  /-- Tells whether the lines of a file are in order. -/
  check (job : Job) (name : String) (given : Given) (sorting : Sorting) (ending : UInt8) : Job :=
    let path := given.operands.headD "-"
    match job.readOperand path with
    | (.error error, job) => job.blame 2 name ("cannot read: " ++ Text.namedIfNeeded path ++ ": " ++ reason error)
    | (.ok bytes, job) =>
      let inOrder (a b : List UInt8) : Bool :=
        if given.has "u" then sorting.compareKeys a b == .lt else sorting.compare a b != .gt
      match firstDisorder? inOrder 1 (bareLines ending bytes) with
      | none => job
      | some (number, line) =>
        if given.has "C" then job.ended 1
        else job.blame 1 name (path ++ ":" ++ toString number ++ ": disorder: " ++ Text.ofBytes line)

/-- Lines that are equal and stand together. -/
def runsOf (same : List UInt8 → List UInt8 → Bool) (lines : List (List UInt8)) :
    List (List (List UInt8)) :=
  lines.foldr (fun line (runs : List (List (List UInt8))) =>
    match runs with
    | (next :: run) :: others =>
      if same line next then (line :: next :: run) :: others else [line] :: (next :: run) :: others
    | runs => [line] :: runs) []

/-- Prints lines without those that are equal to the one in front of them. -/
def runUniq : Tool :=
  withOptions ["c|count", "d|repeated", "D", "f|skip-fields:", "i|ignore-case", "s|skip-chars:",
    "u|unique", "w|check-chars:", "z|zero-terminated"] 1 fun job name given =>
    let number (key : String) : Option (Option Nat) := (given.value? key).map Shell.decimal?
    match given.operands, number "f", number "s", number "w" with
    | _ :: _ :: extra :: _, _, _, _ => job.blameUse 1 name ("extra operand " ++ Text.cited extra)
    | _, some none, _, _ =>
      job.blame 1 name ((given.value? "f").getD "" ++ ": invalid number of fields to skip")
    | _, _, some none, _ =>
      job.blame 1 name ((given.value? "s").getD "" ++ ": invalid number of bytes to skip")
    | _, _, _, some none =>
      job.blame 1 name ((given.value? "w").getD "" ++ ": invalid number of bytes to compare")
    | operands, fields, skipped, compared =>
      if given.has "D" && given.has "c" then
        job.blameUse 1 name "printing all duplicated lines and repeat counts is meaningless"
      else
      let ending : UInt8 := if given.has "z" then 0 else 10
      let part (line : List UInt8) : List UInt8 :=
        let rest := (behindFields none ((fields.getD none).getD 0) line).drop ((skipped.getD none).getD 0)
        let rest := match compared with
          | some (some count) => rest.take count
          | _ => rest
        if given.has "i" then rest.map Text.upperByte else rest
      match job.readOperand (operands.headD "-") with
      | (.error error, job) => job.failAt name (operands.headD "-") error
      | (.ok bytes, job) =>
        let runs := runsOf (fun a b => part a == part b) (bareLines ending bytes)
        let shown := runs.flatMap fun run =>
          let repeats := 1 < run.length
          if given.has "D" then
            let shown := if given.has "u" then run.dropLast else run
            if repeats then shown.flatMap (· ++ [ending]) else []
          else if (given.has "d" && !repeats) || (given.has "u" && repeats) then []
          else
            let lead := if given.has "c" then leftPad 7 (toString run.length) ++ " " else ""
            Text.toBytes lead ++ run.headD [] ++ [ending]
        match operands with
        | [_, "-"] | [_] | [] => job.writeBytes 1 shown
        | _ :: path :: _ =>
          match job.writeFile path true shown with
          | .ok job => job
          | .error error => job.failAt name path error

/-- Pairs the lines of two files that are in order. -/
def pairLines : Nat → List (List UInt8) → List (List UInt8) → List (Nat × List UInt8)
  | 0, _, _ | _, [], [] => []
  | fuel + 1, a :: as, [] => (1, a) :: pairLines fuel as []
  | fuel + 1, [], b :: bs => (2, b) :: pairLines fuel [] bs
  | fuel + 1, a :: as, b :: bs =>
    match compareBytes a b with
    | .lt => (1, a) :: pairLines fuel as (b :: bs)
    | .gt => (2, b) :: pairLines fuel (a :: as) bs
    | .eq => (3, a) :: pairLines fuel as bs

/--
The files that show to be out of order while their lines are paired.
That is looked for only behind a line without a partner; the lines in front of those to come are given too.
-/
def disorderedFiles : Nat → Bool → Option (List UInt8) → Option (List UInt8) → List (List UInt8) →
    List (List UInt8) → List Nat
  | 0, _, _, _, _, _ | _, _, _, _, [], [] => []
  | fuel + 1, alone, before, beforeOther, as, bs =>
    let order : Ordering := match as, bs with
      | a :: _, b :: _ => compareBytes a b
      | _, [] => .lt
      | [], _ => .gt
    let alone := alone || order != .eq
    let isWrong (before : Option (List UInt8)) (lines : List (List UInt8)) : Bool :=
      alone && match lines with
        | line :: next :: _ => compareBytes line next == .gt
        | [line] => before.any fun before => compareBytes before line == .gt
        | [] => false
    let (steps, stepsOther) := (order != .gt, order != .lt)
    (if steps && isWrong before as then [1] else []) ++
      (if stepsOther && isWrong beforeOther bs then [2] else []) ++
      disorderedFiles fuel alone (if steps then as.head? else before)
        (if stepsOther then bs.head? else beforeOther) (if steps then as.tail else as)
        (if stepsOther then bs.tail else bs)

/-- Prints which lines two files have in common and which they have not. -/
def runComm : Tool :=
  withOptions ["1", "2", "3", "check-order", "nocheck-order", "output-delimiter:", "total",
    "z|zero-terminated"] 1 fun job name given =>
    match given.operands with
    | [] => job.blameUse 1 name "missing operand"
    | [only] => job.blameUse 1 name ("missing operand after " ++ Text.cited only)
    | _ :: _ :: extra :: _ => job.blameUse 1 name ("extra operand " ++ Text.cited extra)
    | [first, second] =>
      match job.readOperand first with
      | (.error error, job) => job.failAt name first error
      | (.ok firstBytes, job) =>
        match job.readOperand second with
        | (.error error, job) => job.failAt name second error
        | (.ok secondBytes, job) =>
          let (as, bs) := (bareLines 10 firstBytes, bareLines 10 secondBytes)
          let tab := (given.value? "output-delimiter").getD "\t"
          let pairs := pairLines (as.length + bs.length) as bs
          let lead (column : Nat) : String :=
            let shift (n : Nat) : String := if given.has (toString n) then "" else tab
            match column with
            | 2 => shift 1
            | 3 => shift 1 ++ shift 2
            | _ => ""
          let shown := pairs.flatMap fun (column, line) =>
            if given.has (toString column) then []
            else Text.toBytes (lead column) ++ line ++ [10]
          let job := job.writeBytes 1 shown
          let wrong := if given.has "nocheck-order" then []
            else (disorderedFiles (as.length + bs.length) false none none as bs).eraseDups
          let job := wrong.foldl (fun job number =>
            (job : Job).blame 1 name ("file " ++ toString number ++ " is not in sorted order")) job
          if wrong.isEmpty then job else job.blame 1 name "input is not in sorted order"

end FormatPipeline.Sandbox
