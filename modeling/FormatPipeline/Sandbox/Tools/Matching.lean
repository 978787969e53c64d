import FormatPipeline.Sandbox.Tools.Filing
import FormatPipeline.Shell.Pattern
import FormatPipeline.Text.Regular.Reading

/-! A program that looks for lines by regular expressions. -/

namespace FormatPipeline.Sandbox

/-- What a line has to look like. -/
structure LineTest where
  regulars : List Text.Regular
  ignoresCase : Bool
  /-- Whether a match has to be a word of its own. -/
  words : Bool
  /-- Whether a match has to be the whole line. -/
  whole : Bool
  negated : Bool

namespace LineTest

/-- Whether a match stands between other words. -/
def standsApart (text : Array UInt8) (low high : Nat) : Bool :=
  !(low != 0 && text[low - 1]?.any Text.isWordByte) && !text[high]?.any Text.isWordByte

/-- The end of the longest match of an expression that begins at a place. -/
def endOf? (test : LineTest) (text : Array UInt8) (low : Nat) (regular : Text.Regular) : Option Nat :=
  let ends := (regular.ends regular.refersBack ⟨test.ignoresCase, false⟩ text ⟨low, []⟩).map (·.index)
  let allowed := ends.filter fun high =>
    (!test.whole || (low == 0 && high == text.size)) && (!test.words || standsApart text low high)
  allowed.foldl (fun best high => some (max (best.getD 0) high)) none

/-- The longest match that begins at a place. -/
def matchAt? (test : LineTest) (text : Array UInt8) (low : Nat) : Option Nat :=
  (test.regulars.filterMap (test.endOf? text low)).foldl (fun best high =>
    some (max (best.getD 0) high)) none

/-- The first match that begins at a place or behind it. -/
def searchFrom? (test : LineTest) (text : Array UInt8) : Nat → Nat → Option (Nat × Nat)
  | 0, _ => none
  | count + 1, low =>
    match test.matchAt? text low with
    | some high => some (low, high)
    | none => searchFrom? test text count (low + 1)

/-- Whether a line is meant. -/
def selects (test : LineTest) (line : List UInt8) : Bool :=
  let text := line.toArray
  (test.searchFrom? text (text.size + 1) 0).isSome != test.negated

/-- The matches in a line that are not empty. -/
def matchesFrom (test : LineTest) (text : Array UInt8) : Nat → Nat → List (Nat × List UInt8)
  | 0, _ => []
  | fuel + 1, low =>
    match test.searchFrom? text (text.size + 1 - low) low with
    | none => []
    | some (low, high) =>
      if low = high then matchesFrom test text fuel (high + 1)
      else (low, (text.extract low high).toList) :: matchesFrom test text fuel high

end LineTest

/-- How lines that were found are shown. -/
structure FoundDisplay where
  test : LineTest
  numbers : Bool
  offsets : Bool
  /-- Whether the names of files stand in front of their lines. -/
  named : Bool
  onlyMatches : Bool
  counts : Bool
  /-- Whether only names are shown: those of files with such lines, or of those without. -/
  names : Option Bool
  quiet : Bool
  most : Option Nat
  before : Nat
  after : Nat
  ending : UInt8
  asText : Bool

/-- A line with its number and where it begins. -/
structure NumberedLine where
  number : Nat
  offset : Nat
  text : List UInt8

/-- Lines with their numbers and places. -/
def numberLines (ending : UInt8) (bytes : List UInt8) : List NumberedLine :=
  ((linesBy ending bytes).foldl (fun (lines, number, offset) line =>
    (⟨number, offset, withoutEnd ending line⟩ :: lines, number + 1, offset + line.length))
    (([] : List NumberedLine), 1, 0)).1.reverse

namespace FoundDisplay

/-- What stands in front of a line: a name and numbers, with a sign behind each. -/
def lead (display : FoundDisplay) (label sign : String) (number offset : Nat) : List UInt8 :=
  Text.toBytes ((if display.named then label ++ sign else "") ++
    (if display.numbers then toString number ++ sign else "") ++
    (if display.offsets then toString offset ++ sign else ""))

/-- A line as it is shown. -/
def shownLine (display : FoundDisplay) (label : String) (found : Bool) (line : NumberedLine) :
    List UInt8 :=
  if display.onlyMatches then
    if !found || display.test.negated then []
    else (display.test.matchesFrom line.text.toArray (line.text.length + 1) 0).flatMap fun (low, part) =>
      display.lead label ":" line.number (line.offset + low) ++ part ++ [display.ending]
  else
    display.lead label (if found then ":" else "-") line.number line.offset ++ line.text ++ [display.ending]

/-- The numbers of the lines that are shown around those that were found. -/
def isNear (display : FoundDisplay) (found : List Nat) (number : Nat) : Bool :=
  found.any fun n => n ≤ number + display.before && number ≤ n + display.after

/-- The lines that were found with those around them, and a mark between lines that are apart. -/
def shownLines (display : FoundDisplay) (label : String) (lines : List NumberedLine)
    (found : List Nat) : List UInt8 × Bool :=
  let context := display.before != 0 || display.after != 0
  if !context then
    ((lines.filter fun line => found.contains line.number).flatMap (display.shownLine label true), false)
  else
    let near := lines.filter fun line => display.isNear found line.number
    let (shown, _) := near.foldl (fun ((shown, last) : List UInt8 × Option Nat) line =>
      let apart := last.any (· + 1 < line.number) && !display.onlyMatches
      let mark := if apart then [45, 45, 10] else []
      (shown ++ mark ++ display.shownLine label (found.contains line.number) line, some line.number))
      ([], none)
    (shown, !near.isEmpty)

/-- Shows what was found in a file; the flag tells whether a mark stands in front of further lines. -/
def show1 (display : FoundDisplay) (job : Job) (label : String) (marks : Bool) (bytes : List UInt8) :
    Job × Bool × Bool :=
  let lines := numberLines display.ending bytes
  let found := (lines.filter fun line => display.test.selects line.text).map (·.number)
  let found := match display.most with
    | some most => found.take most
    | none => found
  let selected := !found.isEmpty
  if display.quiet then (job, selected, false)
  else match display.names with
    | some wanted =>
      (if selected = wanted then job.write 1 (label ++ "\n") else job, selected, false)
    | none =>
      if display.counts then
        (job.write 1 ((if display.named then label ++ ":" else "") ++ toString found.length ++ "\n"),
          selected, false)
      else if bytes.contains 0 && !display.asText && display.ending != 0 then
        (if selected then job.write 1 ("grep: " ++ label ++ ": binary file matches\n") else job, selected, false)
      else
        let (shown, around) := display.shownLines label lines found
        let mark := if marks && around && !display.onlyMatches then [45, 45, 10] else []
        (job.writeBytes 1 (mark ++ shown), selected, marks || around)

end FoundDisplay

/-- The files below a place, with their paths. -/
def filesBelow (job : Job) : Nat → String → Place → List String
  | 0, _, _ => []
  | fuel + 1, path, place =>
    match job.tree.node? place with
    | some .directory =>
      (job.tree.names place).flatMap fun name =>
        filesBelow job fuel (if path.isEmpty then name else pathIn path name) (place ++ [name])
    | some (.file ..) => [path]
    | _ => []

/-- How the program is called. -/
def grepUsage (name : String) : String :=
  "Usage: " ++ name ++ " [OPTION]... PATTERNS [FILE]...\nTry '" ++ name ++ " --help' for more information."

/-- Whether a set of characters stands without the brackets that a class needs. -/
def isBareClass (pattern : List UInt8) : Bool :=
  match pattern with
  | 91 :: 58 :: rest => rest.getLast? == some 93 && rest.dropLast.getLast? == some 58
  | _ => false

/-- The expressions that patterns stand for. -/
def readPatterns (style : Option Text.RegularStyle) (patterns : List (List UInt8)) :
    Except String (List Text.Regular) :=
  patterns.mapM fun pattern =>
    match style with
    | none => .ok (pattern.foldr (fun byte rest => .both (.byte byte) rest) .empty)
    | some style =>
      if isBareClass pattern then .error "character class syntax is [[:space:]], not [:space:]"
      else match Text.readRegular style pattern with
        | .ok (regular, _) => .ok regular
        | .error fault => .error fault.message

/-- Arguments in which a number in the place of an option asks for lines around those that are found. -/
def withContext (arguments : List String) : List String :=
  arguments.flatMap fun word =>
    match word.toList with
    | '-' :: c :: cs => if (c :: cs).all (·.isDigit) then ["-C", .ofList (c :: cs)] else [word]
    | _ => [word]

/-- The patterns among options, and the files. -/
def patternsOf (job : Job) (given : Given) : Except String (List (List UInt8) × List String) := do
  let listed ← given.options.filterMapM fun (key, value) =>
    match key, value with
    | "e", some text => Except.ok (some (splitLines (Text.toBytes text)))
    | "f", some path =>
      match (job.readOperand path).1 with
      | .ok bytes => .ok (some (bareLines 10 bytes))
      | .error error => .error (path ++ ": " ++ reason error)
    | _, _ => .ok none
  match listed, given.operands with
  | [], [] => throw ""
  | [], first :: rest => return (splitLines (Text.toBytes first), rest)
  | listed, operands => return (listed.flatten, operands)
where
  /-- The parts of a pattern between line ends. -/
  splitLines (bytes : List UInt8) : List (List UInt8) :=
    match bareLines 10 bytes with
    | [] => [[]]
    | lines => if bytes.getLast? = some 10 then lines ++ [[]] else lines

/-- Looks for lines in a way that a letter chooses. -/
def runGrepAs (kind : String) : Tool := fun job name arguments =>
  match readGiven ["E|extended-regexp", "F|fixed-strings", "G|basic-regexp", "P|perl-regexp",
    "e|regexp:", "f|file:", "i|ignore-case", "y", "no-ignore-case", "v|invert-match", "w|word-regexp",
    "x|line-regexp", "c|count", "l|files-with-matches", "L|files-without-match", "o|only-matching",
    "q|quiet|silent", "s|no-messages", "n|line-number", "b|byte-offset", "H|with-filename",
    "h|no-filename", "m|max-count:", "A|after-context:", "B|before-context:", "C|context:",
    "r|recursive", "R|dereference-recursive", "a|text", "z|null-data", "I", "T|initial-tab", "U",
    "include:", "exclude:", "color?", "colour?", "line-buffered", "d|directories:", "label:"]
    (withContext arguments) with
  | .error text => job.fail 2 (name ++ ": " ++ text ++ "\n" ++ grepUsage name)
  | .ok given =>
    let job := job.ended 0
    let number (key : String) : Except String (Option Nat) :=
      match given.value? key with
      | none => .ok none
      | some text =>
        match Shell.decimal? text with
        | some n => .ok (some n)
        | none => .error (if key = "m" then "invalid max count" else text ++ ": invalid context length argument")
    let extended : Option Text.RegularStyle := match (given.last? ["E", "F", "G", "P"]).getD kind with
      | "F" => none
      | "G" => some ⟨false, true⟩
      | _ => some ⟨true, true⟩
    match patternsOf job given, number "A", number "B", number "C", number "m" with
    | .error "", _, _, _, _ => job.fail 2 (grepUsage name)
    | .error text, _, _, _, _ | _, .error text, _, _, _ | _, _, .error text, _, _
    | _, _, _, .error text, _ | _, _, _, _, .error text => job.blame 2 name text
    | .ok (patterns, paths), .ok after, .ok before, .ok around, .ok most =>
      match readPatterns extended patterns with
      | .error text => job.blame 2 name text
      | .ok regulars =>
        let misplaced := match extended.filter (·.extended) with
          | some style => patterns.flatMap fun (pattern : List UInt8) =>
              Text.misplacedRounds style (pattern.length + 1) true pattern
          | none => []
        let job := misplaced.foldl (fun job sign =>
          job.blame 0 name ("warning: " ++ sign ++ " at start of expression")) job
        let recursive := given.has "r" || given.has "R"
        let named := match given.last? ["H", "h"] with
          | some "H" => true
          | some _ => false
          | none => recursive || 1 < paths.length
        let display : FoundDisplay := {
          test := ⟨regulars, given.has "i" || given.has "y", given.has "w", given.has "x", given.has "v"⟩
          numbers := given.has "n", offsets := given.has "b", named := named
          onlyMatches := given.has "o", counts := given.has "c"
          names := (given.last? ["l", "L"]).map (· == "l")
          quiet := given.has "q", most := most
          before := (before.or around).getD 0, after := (after.or around).getD 0
          ending := if given.has "z" then 0 else 10
          asText := given.has "a" }
        searchAll job name given display recursive paths
where
  /-- Looks for lines in all files. -/
  searchAll (job : Job) (name : String) (given : Given) (display : FoundDisplay) (recursive : Bool)
      (paths : List String) : Job :=
    let depth := job.tree.entries.length + 1
    let isMeant (path : String) : Bool :=
      let likes (pattern : String) : Bool :=
        (Shell.Pattern.ofMarks (pattern.toList.map (⟨·, true⟩))).describes (lastName path)
      ((given.values "include").isEmpty || (given.values "include").any likes) &&
        !(given.values "exclude").any likes
    let files := if recursive then
        let roots := if paths.isEmpty then [""] else paths
        roots.flatMap fun path =>
          match job.tree.inspect job.directory true (if path.isEmpty then "." else path) with
          | .ok (place, .directory) => (filesBelow job depth path place).filter isMeant
          | _ => [path]
      else if paths.isEmpty then ["-"] else paths
    let (later, selected, _) := files.foldl (fun ((job, selected, marks) : Job × Bool × Bool) path =>
      match job.readOperand path with
      | (.ok bytes, job) =>
        let label := if path = "-" then (given.value? "label").getD "(standard input)" else path
        let (job, found, marks) := display.show1 job label marks bytes
        (job, selected || found, marks)
      | (.error error, job) =>
        if error = .isDirectory ∧ given.value? "d" = some "skip" then (job, selected, marks)
        else if given.has "s" then (job.ended 2, selected, marks)
        else (job.blame 2 name (path ++ ": " ++ reason error), selected, marks)) (job, false, false)
    if later.status = 2 ∧ ¬ (display.quiet ∧ selected) then later
    else later.ended (if selected then 0 else 1)

/-- Looks for lines. -/
def runGrep : Tool := runGrepAs "G"

end FormatPipeline.Sandbox
