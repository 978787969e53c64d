import FormatPipeline.Sandbox.Tools.Basic

/-! Programs that show files, or one end of them. -/

namespace FormatPipeline.Sandbox

/-- A byte that cannot be shown, in signs that can. -/
def visible (byte : UInt8) : List UInt8 :=
  let plain (n : UInt8) : List UInt8 :=
    if n < 32 then [94, n + 64] else if n = 127 then [94, 63] else [n]
  if byte < 128 then plain byte else [77, 45] ++ plain (byte - 128)

/-- How files are shown. -/
structure Display where
  numbers : Bool
  /-- Whether blank lines get no numbers. -/
  skipsBlank : Bool
  /-- Whether of several blank lines only one is shown. -/
  squeezes : Bool
  marksEnds : Bool
  marksTabs : Bool
  marksOthers : Bool

/-- How far the files have been shown. -/
structure DisplayState where
  /-- The number of the line that was shown last. -/
  number : Nat
  /-- Whether the last line has no end yet. -/
  inside : Bool
  /-- Whether the last line was blank. -/
  afterBlank : Bool

namespace Display

/-- The bytes of a line as they are shown. -/
def shownByte (display : Display) (byte : UInt8) : List UInt8 :=
  if byte = 9 then if display.marksTabs then [94, 73] else [9]
  else if display.marksOthers then visible byte else [byte]

/-- A line with what is shown in front of it and behind it. -/
def showLine (display : Display) (state : DisplayState) (line : List UInt8) :
    List UInt8 × DisplayState :=
  let ended := line.getLast? = some 10
  let content := withoutEnd 10 line
  let blank := content.isEmpty && !state.inside
  if blank && display.squeezes && state.afterBlank then ([], state)
  else
    let numbered := display.numbers && !state.inside && !(blank && display.skipsBlank)
    let number := if numbered then state.number + 1 else state.number
    let lead := if numbered then Text.toBytes (leftPad 6 (toString number) ++ "\t") else []
    -- A carriage return in front of a marked end is always shown.
    let (content, carriage) : List UInt8 × List UInt8 :=
      if display.marksEnds && ended && content.getLast? = some 13 then (content.dropLast, [94, 77])
      else (content, [])
    let ending := if ended then (if display.marksEnds then [36, 10] else [10]) else []
    (lead ++ content.flatMap display.shownByte ++ carriage ++ ending, ⟨number, !ended, blank && ended⟩)

end Display

/-- Shows files one after another. -/
def runCat : Tool :=
  withOptions ["A|show-all", "b|number-nonblank", "e", "E|show-ends", "n|number", "s|squeeze-blank",
    "t", "T|show-tabs", "u", "v|show-nonprinting"] 1 fun job name given =>
    let has (keys : List String) : Bool := keys.any given.has
    let display : Display := {
      numbers := has ["n", "b"], skipsBlank := has ["b"], squeezes := has ["s"],
      marksEnds := has ["E", "e", "A"], marksTabs := has ["T", "t", "A"],
      marksOthers := has ["v", "e", "t", "A"] }
    let (job, _) := forInputs job given.inputs (fun job path error => job.failAt name path error)
      (fun job state _ bytes =>
        if given.options.isEmpty then (job.writeBytes 1 bytes, state)
        else
          let (shown, state) := (linesOf bytes).foldl (fun (shown, state) line =>
            let (more, state) := display.showLine state line
            (more.reverse ++ shown, state)) ([], state)
          (job.writeBytes 1 shown.reverse, state)) (DisplayState.mk 0 false false)
    job

/-- Shows the lines of files from the last one to the first one. -/
def runTac : Tool :=
  withOptions ["b|before", "r|regex", "s|separator:"] 1 fun job name given =>
    let complain (job : Job) (path : String) (error : ReadError) : Job :=
      if error = .isDirectory then job.blame 1 name (Text.namedIfNeeded path ++ ": read error: Invalid argument")
      else job.blame 1 name ("failed to open " ++ Text.named path ++ " for reading: " ++ reason error)
    (forInputs job given.inputs complain (fun job _ _ bytes =>
      (job.writeBytes 1 (linesOf bytes).reverse.flatten, ())) ()).1

/-- Shows the lines of files from their last character to the first one. -/
def runRev : Tool :=
  withOptions ["0|zero"] 1 fun job name given =>
    let complain (job : Job) (path : String) (error : ReadError) : Job :=
      job.blame 1 name ("cannot open " ++ path ++ ": " ++ reason error)
    (forInputs job given.inputs complain (fun job _ _ bytes =>
      let turned := (linesOf bytes).map fun line =>
        let ending := if line.getLast? = some 10 then [10] else []
        (withoutEnd 10 line).reverse ++ ending
      (job.writeBytes 1 turned.flatten, ())) ()).1

/-- How lines are numbered. -/
structure Numbering where
  /-- Which lines get numbers: all of them, those that are not empty, or none. -/
  style : Char
  layout : String
  width : Nat
  separator : String
  increment : Int

/-- A line with its number in front, and the number of the next one. -/
def Numbering.line (numbering : Numbering) (number : Int) (line : List UInt8) : List UInt8 × Int :=
  let content := withoutEnd 10 line
  let counts := numbering.style == 'a' || (numbering.style == 't' && !content.isEmpty)
  if counts then
    let digits := toString number
    let missing := numbering.width - digits.length
    let field := match numbering.layout with
      | "ln" => digits ++ .ofList (List.replicate missing ' ')
      | "rz" => .ofList (List.replicate missing '0') ++ digits
      | _ => .ofList (List.replicate missing ' ') ++ digits
    (Text.toBytes (field ++ numbering.separator) ++ content ++ [10], number + numbering.increment)
  else
    (List.replicate (numbering.width + numbering.separator.utf8ByteSize) 32 ++ content ++ [10], number)

/-- Shows files with numbers in front of their lines. -/
def runNl : Tool :=
  withOptions ["b|body-numbering:", "d|section-delimiter:", "f|footer-numbering:",
    "h|header-numbering:", "i|line-increment:", "l|join-blank-lines:", "n|number-format:",
    "p|no-renumber", "s|number-separator:", "v|starting-line-number:", "w|number-width:"] 1
    fun job name given =>
    let style := (given.value? "b").getD "t"
    let number (key : String) (usual : Int) : Int := ((given.value? key).bind (·.toInt?)).getD usual
    if ! List.contains ["a", "t", "n"] style then
      job.blameUse 1 name ("invalid body numbering style: " ++ Text.cited style)
    else
      let numbering : Numbering := {
        style := style.toList.headD 't', layout := (given.value? "n").getD "rn",
        width := (number "w" 6).toNat, separator := (given.value? "s").getD "\t",
        increment := number "i" 1 }
      (forInputs job given.inputs (fun job path error => job.failAt name path error)
        (fun job next _ bytes =>
          let (shown, next) := (linesOf bytes).foldl (fun (shown, next) line =>
            let (more, next) := numbering.line next line
            (more.reverse ++ shown, next)) ([], next)
          (job.writeBytes 1 shown.reverse, next)) (number "v" 1)).1

/-- How much of a file is shown: lines or bytes, counted from its other end on demand. -/
structure Portion where
  bytes : Bool
  count : Nat
  /-- Whether the number has the sign that turns its meaning over. -/
  turned : Bool
  ending : UInt8

/-- Reads how much of a file is shown. -/
def readPortion (given : Given) (sign : Char) : Except String Portion :=
  let kind := (given.last? ["n", "c"]).getD "n"
  let ending : UInt8 := if given.has "z" then 0 else 10
  let text := ((given.value? kind).getD "10").toList
  let turned := text.head? = some sign
  let digits := if text.head? = some '-' then text.drop 1 else text
  match readSize digits with
  | .ok count => .ok ⟨kind == "c", count, turned, ending⟩
  | .error why =>
    let unit := if kind == "c" then "bytes" else "lines"
    .error ("invalid number of " ++ unit ++ ": " ++ Text.cited (.ofList digits) ++ why)

/-- The parts that a file is counted in. -/
def Portion.parts (portion : Portion) (bytes : List UInt8) : List (List UInt8) :=
  if portion.bytes then bytes.map ([·]) else linesBy portion.ending bytes

/-- The beginning of a file. -/
def Portion.head (portion : Portion) (bytes : List UInt8) : List UInt8 :=
  let parts := portion.parts bytes
  (parts.take (if portion.turned then parts.length - portion.count else portion.count)).flatten

/-- The end of a file. -/
def Portion.tail (portion : Portion) (bytes : List UInt8) : List UInt8 :=
  let parts := portion.parts bytes
  let skipped := if portion.turned then portion.count - 1 else parts.length - portion.count
  (parts.drop skipped).flatten

/-- The options that letters behind a number of lines stand for. -/
def countLetters (digits : List Char) : List Char → String → String → Except Char (List String)
  | [], kind, unit => .ok [kind, .ofList digits ++ unit]
  | letter :: rest, kind, unit =>
    match letter with
    | 'c' => countLetters digits rest "-c" ""
    | 'l' => countLetters digits rest "-n" unit
    | 'b' | 'k' | 'm' => countLetters digits rest "-c" letter.toString
    | 'q' | 'v' | 'z' => do
      return ("-" ++ letter.toString) :: (← countLetters digits rest kind unit)
    | _ => .error letter

/-- Arguments of which the first one may ask for a number of lines from the beginning. -/
def withHeadCount (arguments : List String) : Except Char (List String) :=
  match arguments.map String.toList with
  | ('-' :: c :: cs) :: _ =>
    let digits := (c :: cs).takeWhile (·.isDigit)
    if digits.isEmpty then .ok arguments
    else do return (← countLetters digits ((c :: cs).drop digits.length) "-n" "") ++ arguments.drop 1
  | _ => .ok arguments

/-- Arguments of which the first one may ask for a number of lines to the end, if no more than one file follows. -/
def withTailCount (arguments : List String) : List String :=
  let alone : Bool := match arguments.drop 1 with
    | [] | ["--"] | ["--", _] => true
    | [path] => path == "-" || path.toList.head? != some '-'
    | _ => false
  match alone, arguments.map String.toList with
  | true, (sign :: c :: cs) :: _ =>
    let digits := (c :: cs).takeWhile (·.isDigit)
    let lead := if sign = '+' then "+" else ""
    let rest := (c :: cs).drop digits.length
    let follows := rest.getLast? = some 'f'
    let kind := if follows then rest.dropLast else rest
    let options : List String := match kind with
      | [] | ['l'] => ["-n", lead ++ .ofList digits]
      | ['c'] => ["-c", lead ++ .ofList digits]
      | ['b'] => ["-c", lead ++ .ofList digits ++ "b"]
      | _ => []
    if (sign ≠ '-' ∧ sign ≠ '+') ∨ digits.isEmpty ∨ options.isEmpty then arguments
    else options ++ (if follows then ["-f"] else []) ++ arguments.drop 1
  | _, _ => arguments

/-- How many bytes are read at a time. -/
def blockSize : Nat := 8192

/-- Shows a part of each of several files, with their names on demand. -/
def showPortions (job : Job) (name : String) (given : Given)
    (show1 : Job → String → List UInt8 → Job) : Job :=
  let paths := given.inputs
  let named := match given.last? ["q", "v"] with
    | some "q" => false
    | some _ => true
    | none => 1 < paths.length
  let title (first : Bool) (path : String) : String :=
    let shown := if path = "-" then "standard input" else path
    if named then (if first then "" else "\n") ++ "==> " ++ shown ++ " <==\n" else ""
  (paths.foldl (fun (job, first) path =>
    let bytes : Except ReadError (List UInt8) :=
      if path = "-" then .ok (job.input 0) else job.tree.read job.directory path
    match bytes with
    | .ok bytes => (show1 (job.write 1 (title first path)) path bytes, false)
    | .error .isDirectory =>
      ((job.write 1 (title first path)).blame 1 name
        ("error reading " ++ Text.named path ++ ": " ++ reason .isDirectory), false)
    | .error error =>
      (job.blame 1 name ("cannot open " ++ Text.named path ++ " for reading: " ++ reason error),
        first)) (job, true)).1

/-- Shows the beginning of files; of the input no more than the blocks for it are taken. -/
def runHead : Tool := fun job name arguments =>
  match withHeadCount arguments with
  | .error letter => job.blameUse 1 name ("invalid trailing option -- " ++ letter.toString)
  | .ok arguments => withOptions ["c|bytes:", "n|lines:", "q|quiet|silent", "v|verbose", "z|zero-terminated"] 1
    (fun job name given =>
      match readPortion given '-' with
      | .error text => job.blame 1 name text
      | .ok portion => showPortions job name given fun job path bytes =>
        let kept := portion.head bytes
        let taken := match job.channel? 0 with
          | some (_, .file ..) => kept.length
          | _ => if portion.bytes then kept.length else (kept.length + blockSize - 1) / blockSize * blockSize
        let job := if path = "-" then job.advance 0 taken else job
        job.writeBytes 1 kept) job name arguments

/-- Shows the end of files. -/
def runTail : Tool := fun job name arguments =>
  let arguments := withTailCount arguments
  let digit : Option Char := match arguments.head?.map String.toList with
    | some ('-' :: c :: _) => if c.isDigit then some c else none
    | _ => none
  match digit with
  | some c => job.blame 1 name ("option used in invalid context -- " ++ c.toString)
  | none => withOptions ["c|bytes:", "f", "follow?", "F", "n|lines:", "q|quiet|silent", "v|verbose",
    "z|zero-terminated"] 1
    (fun job name given =>
      match readPortion given '+' with
      | .error text => job.blame 1 name text
      | .ok portion =>
        let job := showPortions job name given fun job path bytes =>
          let job := if path = "-" then (job.drainInput 0).2 else job
          job.writeBytes 1 (portion.tail bytes)
        let lost := given.inputs.all fun path => path != "-" && (job.find? path).isNone
        if lost && (given.has "f" || given.has "follow") then job.blame 1 name "no files remaining"
        else job) job name arguments

/-- A line with blanks in the place of tabs; on demand only those at its beginning. -/
def expandLine (every : Nat) (onlyLead : Bool) : Nat → Bool → List UInt8 → List UInt8
  | _, _, [] => []
  | column, leading, byte :: rest =>
    if byte = 9 ∧ (leading ∨ ¬ onlyLead) then
      let missing := every - column % every
      List.replicate missing 32 ++ expandLine every onlyLead (column + missing) leading rest
    else
      let next := if byte = 8 then column - 1 else column + 1
      byte :: expandLine every onlyLead next (leading && byte == 32) rest

/-- Shows files with blanks in the place of tabs. -/
def runExpand : Tool :=
  withOptions ["i|initial", "t|tabs:"] 1 fun job name given =>
    let text := (given.value? "t").getD "8"
    match Shell.decimal? text with
    | some 0 => job.blame 1 name "tab size cannot be 0"
    | none => job.blame 1 name ("tab size contains invalid character(s): " ++ Text.cited text)
    | some every =>
      (forInputs job given.inputs (fun job path error => job.failAt name path error)
        (fun job _ _ bytes =>
          let shown := (linesOf bytes).flatMap (expandLine every (given.has "i") 0 true)
          (job.writeBytes 1 shown, ())) ()).1

/-- Where the next column is behind a byte. -/
def columnBehind (countsBytes : Bool) (column : Nat) (byte : UInt8) : Nat :=
  if countsBytes then column + 1
  else match byte with
    | 8 => column - 1
    | 13 => 0
    | 9 => column + 8 - column % 8
    | _ => column + 1

/-- A line cut into pieces of a width: the pieces in reverse order and the last one, reversed as well. -/
def foldLine (width : Nat) (countsBytes atBlanks : Bool) :
    List UInt8 → List UInt8 → Nat → List UInt8
  | [], current, _ => current.reverse
  | byte :: rest, current, column =>
    let next := columnBehind countsBytes column byte
    if width < next ∧ ¬ current.isEmpty then
      let behind := current.takeWhile (· != 32)
      if atBlanks && behind.length < current.length then
        let kept := current.drop behind.length
        let column := behind.reverse.foldl (columnBehind countsBytes) 0
        kept.reverse ++ [10] ++
          foldLine width countsBytes atBlanks rest (byte :: behind) (columnBehind countsBytes column byte)
      else
        current.reverse ++ [10] ++
          foldLine width countsBytes atBlanks rest [byte] (columnBehind countsBytes 0 byte)
    else foldLine width countsBytes atBlanks rest (byte :: current) next

/-- Shows files with their lines cut to a width. -/
def runFold : Tool :=
  withOptions ["b|bytes", "s|spaces", "w|width:"] 1 fun job name given =>
    let text := (given.value? "w").getD "80"
    match Shell.decimal? text with
    | none => job.blame 1 name ("invalid number of columns: " ++ Text.cited text)
    | some 0 =>
      job.blame 1 name ("invalid number of columns: " ++ Text.cited text ++ ": Numerical result out of range")
    | some width =>
      (forInputs job given.inputs (fun job path error => job.failAt name path error)
        (fun job _ _ bytes =>
          let cut := (linesOf bytes).flatMap fun line =>
            let ending := if line.getLast? = some 10 then [10] else []
            foldLine width (given.has "b") (given.has "s") (withoutEnd 10 line) [] 0 ++ ending
          (job.writeBytes 1 cut, ())) ()).1

/-- How many words there are among bytes; the flag tells whether a word is under way. -/
def countWords : Bool → List UInt8 → Nat
  | inside, [] => if inside then 1 else 0
  | inside, byte :: rest =>
    if byte = 32 ∨ (9 ≤ byte ∧ byte ≤ 13) then
      (if inside then 1 else 0) + countWords false rest
    -- A byte that cannot be shown neither makes a word nor ends one.
    else countWords (inside || (32 < byte && byte < 127)) rest

/-- How wide the widest line among bytes is. -/
def widestLine (bytes : List UInt8) : Nat :=
  -- The beginning of a line can be reached by other control codes too.
  (bareLines 10 (bytes.map fun byte => if byte = 12 ∨ byte = 13 then 10 else byte)).foldl (fun widest line =>
    max widest (line.foldl (fun column byte =>
      if byte = 9 then columnBehind false column byte
      else if 32 ≤ byte ∧ byte < 127 then column + 1 else column) 0)) 0

/-- What is counted in files, in the order in which it is shown. -/
def countersOf (bytes : List UInt8) : List (String × Nat) :=
  [("l", bytes.count 10), ("w", countWords false bytes), ("m", bytes.length), ("c", bytes.length),
    ("L", widestLine bytes)]

/-- Counts lines, words and bytes of files. -/
def runWc : Tool :=
  withOptions ["c|bytes", "l|lines", "L|max-line-length", "m|chars", "w|words", "total:"] 1
    fun job name given =>
    let asked := ["l", "w", "m", "c", "L"].filter given.has
    let asked := if asked.isEmpty then ["l", "w", "c"] else asked
    let paths := given.inputs
    -- The numbers are as wide as the sizes of the files ask for.
    let known := paths.filterMap fun path =>
      if path = "-" then
        match job.channel? 0 with
        | some (_, .file place ..) => some (some (job.content place).length)
        | _ => some none
      else match job.find? path with
        | some (.file content _) => some (some content.length)
        | some _ => some none
        | none => none
    let width :=
      if paths.length = 1 ∧ asked.length = 1 then 1
      else
        let total := known.foldl (fun sum size => sum + size.getD 0) 0
        max (toString total).length (if known.any Option.isNone then 7 else 1)
    let line (counts : List Nat) (label : String) : String :=
      Text.joinWith " " (counts.map fun count => leftPad width (toString count)) ++ label ++ "\n"
    let countsOf (bytes : List UInt8) : List Nat :=
      ((countersOf bytes).filter fun counter => asked.contains counter.1).map (·.2)
    let (job, sums) := paths.foldl (fun (job, sums) path =>
      let label := if given.operands.isEmpty then "" else " " ++ path
      match (job : Job).readOperand path with
      | (.ok bytes, job) =>
        let counts := countsOf bytes
        let sums := List.zipWith (fun (key, sum) count =>
          if key == "L" then (key, max sum count) else (key, sum + count)) sums counts
        (job.write 1 (line counts label), sums)
      | (.error .isDirectory, job) =>
        ((job.failAt name path .isDirectory).write 1 (line (asked.map fun _ => 0) label), sums)
      | (.error error, job) => (job.failAt name path error, sums)) (job, asked.map (·, 0))
    if 1 < paths.length then job.write 1 (line (sums.map (·.2)) " total") else job

/-- Opens a file to be written, and clears it on demand. -/
def Job.openOutput (job : Job) (path : String) (clears : Bool) : Except ReadError (Job × Option Place) := do
  let place ← job.tree.locate job.directory true path
  match job.tree.node? place with
  | some .directory => throw .isDirectory
  | some .drain => return (job, none)
  | some (.file content executable) =>
    let content := if clears then [] else content
    return ({ job with tree := job.tree.set place (.file content executable) }, some place)
  | _ => return ({ job with tree := job.tree.set place (.file [] false) }, some place)

/-- Writes bytes to the end of what a path leads to. -/
def Job.writeFile (job : Job) (path : String) (clears : Bool) (bytes : List UInt8) :
    Except ReadError Job := do
  match streamFile? path with
  | some stream => return job.writeBytes stream bytes
  | none =>
    let (job, place) ← job.openOutput path clears
    match place with
    | some place => return job.setContent place (job.content place ++ bytes)
    | none => return job

/-- Shows the input, and writes it to files. -/
def runTee : Tool :=
  withOptions ["a|append", "i|ignore-interrupts", "p", "output-error?"] 1 fun job name given =>
    let (bytes, job) := job.drainInput 0
    given.operands.foldl (fun job path =>
      match job.writeFile path (!given.has "a") bytes with
        | .ok job => job
        | .error error => job.failAt name path error) (job.writeBytes 1 bytes)

/-- How many lines are printed by a program that would never end. -/
def endlessLines : Nat := 131072

/-- Prints a line as often as somebody may want to read it. -/
def runYes : Tool :=
  withOptions [] 1 fun job _ given =>
    let line := Text.toBytes
      ((if given.operands.isEmpty then "y" else Text.joinWith " " given.operands) ++ "\n")
    let count := endlessLines / line.length + 1
    job.writeBytes 1 (List.replicate count line).flatten

end FormatPipeline.Sandbox
