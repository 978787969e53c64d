import FormatPipeline.Sandbox.Tools.Editing.Script
import FormatPipeline.Sandbox.Tools.Showing

/-! Editing the lines of files as a script says. -/

namespace FormatPipeline.Sandbox.Editing

/-- A line of the input: where it stands, its text, and whether it has an end. -/
structure InputLine where
  file : String
  text : List UInt8
  ended : Bool

/-- What is printed when the line under way is finished. -/
inductive Waiting where
  | text (text : List UInt8)
  | file (path : String)

/-- A text that is written, the last byte first. -/
structure Written where
  reversed : List UInt8
  /-- Whether the line end of the last line is left out until something follows. -/
  lacksEnd : Bool

/-- How lines are edited. -/
structure Setting where
  program : Program
  quiet : Bool
  /-- What ends lines. -/
  ending : UInt8
  /-- How wide lines are listed. -/
  width : Nat
  /-- Whether every file has a last line of its own. -/
  separate : Bool

/-- Lines that are being edited. -/
structure Session where
  space : List UInt8
  /-- Whether the line has an end. -/
  ended : Bool
  held : List UInt8
  /-- Whether the text that is held has an end. -/
  heldEnded : Bool
  number : Nat
  file : String
  rest : List InputLine
  /-- The commands whose lines are being chosen, with the number of the last one if it is known. -/
  ranges : List (Nat × Option Nat)
  /-- The commands that choose no further lines. -/
  finished : List Nat
  replaced : Bool
  waiting : List Waiting
  output : Written
  /-- What is written to files. -/
  files : List (String × Written)
  /-- What has not been read from the files of which single lines are read. -/
  sources : List (String × List (List UInt8))
  /-- The expression that was used last. -/
  finder : Option Finder
  /-- Whether a command has asked for the end. -/
  quitting : Bool
  job : Job

/-- How the commands for a line have ended. -/
inductive Ending where
  /-- The line is finished, and printed unless that is left to the commands. -/
  | finished
  /-- The line is gone. -/
  | dropped
  /-- The commands begin again with what is left of the line. -/
  | again
  /-- No further lines are read. -/
  | quit (prints : Bool) (status : Nat)
  | failed (text : String)

/-- Adds bytes behind a line end that was left out. -/
def Written.add (written : Written) (bytes : List UInt8) : Written :=
  let lead := if written.lacksEnd then 10 :: written.reversed else written.reversed
  ⟨bytes.reverse ++ lead, false⟩

/-- Adds a line, whose end may be left out. -/
def Written.addLine (written : Written) (ending : UInt8) (line : List UInt8) (ended : Bool) : Written :=
  let added := written.add (if ended then line ++ [ending] else line)
  { added with lacksEnd := !ended }

namespace Session

/-- Prints bytes. -/
def print (session : Session) (bytes : List UInt8) : Session :=
  if bytes.isEmpty then session else { session with output := session.output.add bytes }

/-- Prints a line. -/
def printLine (session : Session) (setting : Setting) (line : List UInt8) (ended : Bool) : Session :=
  { session with output := session.output.addLine setting.ending line ended }

/-- Writes a line to a file. -/
def writeLine (session : Session) (setting : Setting) (path : String) (line : List UInt8) (ended : Bool) :
    Session :=
  let before := (session.files.lookup path).getD ⟨[], false⟩
  let after := before.addLine setting.ending line ended
  let keep (session : Session) (written : Written) : Session :=
    { session with files := (path, written) :: session.files.filter (·.1 != path) }
  if path = "/dev/stdout" then
    -- What is written there is printed at once, but a line end that is left out is its own affair.
    let printed := { session.output with reversed := after.reversed ++ session.output.reversed }
    keep { session with output := printed } { after with reversed := [] }
  else keep session after

/-- Whether no line follows in the input, or in the same file. -/
def isLast (session : Session) (setting : Setting) : Bool :=
  match session.rest with
  | [] => true
  | line :: _ => setting.separate && line.file != session.file

/-- Prints what waits for the line to be finished. -/
def settle (session : Session) : Session :=
  let settled := session.waiting.foldl (fun (session : Session) waiting =>
    match waiting with
    | .text text => session.print text
    | .file path =>
      match session.job.readOperand path with
      | (.ok bytes, job) => { session with job := job }.print bytes
      | (.error _, job) => { session with job := job }) session
  { settled with waiting := [] }

/-- Begins again for a file of its own. -/
def restart (session : Session) : Session :=
  { session with
    number := 0
    held := []
    heldEnded := true
    ranges := []
    finished := []
    sources := [] }

/-- Makes the next line the one that is edited; what was there stays in front of it on demand. -/
def advance (session : Session) (setting : Setting) (keeps : Bool) : Option Session :=
  match session.rest with
  | [] => none
  | line :: rest =>
    let settled := session.settle
    let fresh := setting.separate && line.file != session.file
    let settled := if fresh then settled.restart else settled
    some { settled with
      space := if keeps then session.space ++ setting.ending :: line.text else line.text
      ended := line.ended
      number := settled.number + 1
      file := line.file
      rest := rest }

/-- The expression that is meant, which becomes the one that was used last. -/
def meant? (session : Session) (finder : Option Finder) : Option (Finder × Session) :=
  (finder.or session.finder).map fun finder => (finder, { session with finder := some finder })

/-- Whether a line is chosen, unless there is no expression. -/
def chooses (session : Session) (setting : Setting) (choice : LineChoice) : Option (Bool × Session) :=
  match choice with
  | .number number => some (number = session.number, session)
  | .last => some (session.isLast setting, session)
  | .every first step => some (first ≤ session.number && (session.number - first) % step == 0, session)
  | .finder finder =>
    (session.meant? finder).map fun (finder, session) =>
      ((finder.regular.search? finder.mode session.space.toArray 0).isSome, session)

/-- Begins to choose lines for a command. -/
def openRange (session : Session) (index : Nat) (last : Option Nat) : Session :=
  { session with ranges := (index, last) :: session.ranges.filter (·.1 != index) }

/-- Ceases to choose lines for a command. -/
def closeRange (session : Session) (index : Nat) : Session :=
  { session with
    ranges := session.ranges.filter (·.1 != index)
    finished := index :: session.finished.filter (· != index) }

/-- Whether a line is the first one for a command that is for the lines from one to another. -/
def beginsRange (session : Session) (setting : Setting) (index : Nat) (first : LineChoice)
    (last : LastChoice) : Option (Bool × Session) :=
  match first with
  | .number number =>
    -- The line may have been missed, but then another one has to be left; it comes only once.
    let isLate : Bool := match last with
      | .choice (.number final) => final < session.number
      | _ => false
    let isReached := if isLate then number = session.number else number ≤ session.number
    some (isReached && !session.finished.contains index, session)
  | first => session.chooses setting first

/-- Whether the line is among those from one to another. -/
def inRange (session : Session) (setting : Setting) (index : Nat) (first : LineChoice)
    (last : LastChoice) : Option (Bool × Session) := do
  let fromStart := (first matches .number 0) && !session.finished.contains index
  match session.ranges.lookup index, fromStart with
  | some (some final), _ =>
    -- A line that was missed counts as the last one, unless its number was given.
    let counts := session.number ≤ final || !(last matches .choice (.number _))
    return (counts, if final ≤ session.number then session.closeRange index else session)
  | some none, _ | none, true =>
    match last with
    | .choice choice =>
      let (found, session) ← session.chooses setting choice
      return (true, if found then session.closeRange index else session.openRange index none)
    | _ => return (true, session)
  | none, false =>
    let (found, session) ← session.beginsRange setting index first last
    if !found then return (false, session)
    let upTo (final : Nat) : Session :=
      if final ≤ session.number then session.closeRange index else session.openRange index (some final)
    match last with
    | .choice (.number number) => return (true, upTo number)
    | .choice _ => return (true, session.openRange index none)
    | .later count => return (true, upTo (session.number + count))
    | .multiple step =>
      return (true, upTo (if step = 0 then 0 else (session.number / step + 1) * step))

/-- Whether a command is for the line. -/
def selects (session : Session) (setting : Setting) (index : Nat) (selector : Selector) :
    Option (Bool × Session) := do
  let (found, session) ← match selector.first, selector.last with
    | none, _ => some (true, session)
    | some first, none => session.chooses setting first
    | some first, some last => session.inRange setting index first last
  return (found != selector.negated, session)

end Session

/-- Bytes with the case that was asked for: for all of them, and for the next one. -/
def withCase (whole next : Option CaseChange) (bytes : List UInt8) : List UInt8 × Option CaseChange :=
  let changed := match whole with
    | some .upper => bytes.map Text.upperByte
    | some .lower => bytes.map Text.lowerByte
    | _ => bytes
  match changed, next with
  | first :: rest, some .nextUpper => (Text.upperByte first :: rest, none)
  | first :: rest, some .nextLower => (Text.lowerByte first :: rest, none)
  | bytes, next => (bytes, next)

/-- What takes the place of a match. -/
def replacement (found : Text.Match) (text : Array UInt8) (parts : List ReplacementPart) :
    List UInt8 :=
  (parts.foldl (fun (made, whole, next) part =>
    let add (bytes : List UInt8) : List UInt8 × Option CaseChange × Option CaseChange :=
      let (bytes, next) := withCase whole next bytes
      (made ++ bytes, whole, next)
    match part with
    | .bytes bytes => add bytes
    | .group number => add (found.part text number)
    | .change .finish => (made, none, none)
    | .change .nextUpper => (made, whole, some .nextUpper)
    | .change .nextLower => (made, whole, some .nextLower)
    | .change change => (made, some change, next)) (([] : List UInt8), none, none)).1

/-- Replaces matches from some place on; the places at which the last match ended and how many there were count. -/
def replaceFrom (finder : Finder) (s : Substitution) (text : Array UInt8) :
    Nat → Nat → Option Nat → Nat → List UInt8 × Bool
  | 0, start, _, _ => ((text.extract start text.size).toList, false)
  | fuel + 1, start, behind, count =>
    let rest : List UInt8 := (text.extract start text.size).toList
    if text.size < start then ([], false)
    else match finder.regular.search? finder.mode text start with
      | none => (rest, false)
      | some found =>
        let lead := (text.extract start found.low).toList
        let next := (text.extract found.low (found.low + 1)).toList
        -- Nothing directly behind a match is no match.
        if found.low = found.high ∧ behind = some found.low then
          let (others, replaced) := replaceFrom finder s text fuel (found.low + 1) none count
          (lead ++ next ++ others, replaced)
        else
          let counts := count + 1 = s.number ∨ (s.all ∧ s.number ≤ count + 1)
          let made := if counts then replacement found text s.parts
            else (text.extract found.low found.high).toList
          if counts ∧ ¬ s.all then
            (lead ++ made ++ (text.extract found.high text.size).toList, true)
          else
            let empty := found.low = found.high
            let from1 := if empty then found.high + 1 else found.high
            let (others, replaced) := replaceFrom finder s text fuel from1 (some found.high) (count + 1)
            (lead ++ made ++ (if empty then next else []) ++ others, counts || replaced)

/-- A line in signs that can be shown, cut to a width. -/
def listedLine (width : Nat) (line : List UInt8) : List UInt8 :=
  let shown (byte : UInt8) : List UInt8 :=
    let letter? : Option Char := match byte with
      | 7 => some 'a'
      | 8 => some 'b'
      | 9 => some 't'
      | 10 => some 'n'
      | 11 => some 'v'
      | 12 => some 'f'
      | 13 => some 'r'
      | 92 => some '\\'
      | _ => none
    match letter? with
    | some letter => [92, .ofNat letter.toNat]
    | none =>
      if 32 ≤ byte ∧ byte < 127 then [byte]
      else [92, 48 + byte / 64, 48 + byte / 8 % 8, 48 + byte % 8]
  let (made, _) := line.foldl (fun (made, column) byte =>
    let sign := shown byte
    if 1 < width ∧ width - 1 < column + sign.length then
      (sign.reverse ++ [10, 92] ++ made, sign.length)
    else (sign.reverse ++ made, column + sign.length)) (([] : List UInt8), 0)
  made.reverse ++ [36, 10]

/-- The first line of a text. -/
def firstLine (bytes : List UInt8) : List UInt8 := bytes.takeWhile (· != 10)

/-- What is done behind a command: the next command, another one, or nothing more with the line. -/
inductive Then where
  | next
  | goTo (index : Nat)
  | stop (ending : Ending)

/-- Does what a command asks for. -/
def perform (setting : Setting) (index : Nat) (command : Command) (session : Session) : Session × Then :=
  let jump (label : String) : Then :=
    if label.isEmpty then .stop .finished
    else match setting.program.labels.lookup label with
      | some index => .goTo index
      | none => .stop .finished
  let onward (session : Session) : Session × Then := (session, .next)
  match command.edit with
  | .opening _ | .nothing => onward session
  | .append text => onward { session with waiting := session.waiting ++ [.text text] }
  | .insert text => onward (session.print text)
  | .change text =>
    -- For several lines the text is printed once, behind the last one.
    let under := command.selector.last.isSome && !command.selector.negated &&
      (session.ranges.lookup index).isSome
    (if under then session else session.print text, .stop .dropped)
  | .jump label => (session, jump label)
  | .jumpIf wanted label =>
    let session' := { session with replaced := false }
    if session.replaced = wanted then (session', jump label) else onward session'
  | .delete => (session, .stop .dropped)
  | .deleteFirst =>
    if session.space.contains 10 then
      let rest := (session.space.dropWhile (· != 10)).drop 1
      ({ session with space := rest }, .stop .again)
    else (session, .stop .dropped)
  | .print => onward (session.printLine setting session.space session.ended)
  | .printFirst => onward (session.print (firstLine session.space ++ [setting.ending]))
  | .lineNumber => onward (session.print (Text.toBytes (toString session.number ++ "\n")))
  | .fileName => onward (session.print (Text.toBytes (session.file ++ "\n")))
  | .listed width => onward (session.print (listedLine (width.getD setting.width) session.space))
  | .next =>
    if session.rest.isEmpty then (session, .stop (.quit true 0))
    else
      let printed := if setting.quiet then session
        else session.printLine setting session.space session.ended
      match printed.advance setting false with
      | some session => onward session
      | none => (session, .stop (.quit true 0))
  | .nextAppended =>
    match session.advance setting true with
    | some session => onward session
    | none => (session, .stop (.quit true 0))
  | .hold => onward { session with held := session.space, heldEnded := session.ended }
  | .holdAppended =>
    onward { session with held := session.held ++ 10 :: session.space, heldEnded := session.ended }
  | .get => onward { session with space := session.held, ended := session.heldEnded }
  | .getAppended =>
    onward { session with space := session.space ++ 10 :: session.held, ended := session.heldEnded }
  | .exchange => onward { session with
      space := session.held, ended := session.heldEnded, held := session.space, heldEnded := session.ended }
  | .clear => onward { session with space := [] }
  | .quit prints status => (session, .stop (.quit prints status))
  | .readFile path => onward { session with waiting := session.waiting ++ [.file path] }
  | .readLine path =>
    let lines := (session.sources.lookup path).getD
      (bareLines 10 ((session.job.tree.read session.job.directory path).toOption.getD []))
    let session := { session with
      sources := (path, lines.drop 1) :: session.sources.filter (·.1 != path) }
    match lines with
    | [] => onward session
    | line :: _ => onward { session with waiting := session.waiting ++ [.text (line ++ [10])] }
  | .writeFile path => onward (session.writeLine setting path session.space session.ended)
  | .writeFirst path => onward (session.writeLine setting path (firstLine session.space) true)
  | .substitute s =>
    match session.meant? s.finder with
    | none => (session, .stop (.failed "no previous regular expression"))
    | some (finder, session) =>
      let text := session.space.toArray
      match replaceFrom finder s text (text.size + 2) 0 none 0 with
      | (_, false) => onward session
      | (space, true) =>
        let session := { session with space := space, replaced := true }
        let session := if s.prints then session.printLine setting space session.ended else session
        onward (match s.file with
          | some path => session.writeLine setting path space session.ended
          | none => session)
  | .convert table =>
    onward { session with space := session.space.map fun byte => (table.lookup byte).getD byte }

/-- Runs the commands from some place on; the number bounds how many of them. -/
def runFrom (setting : Setting) (commands : Array Command) : Nat → Nat → Session → Session × Ending
  | 0, _, session => (session, .finished)
  | fuel + 1, index, session =>
    match commands[index]? with
    | none => (session, .finished)
    | some command =>
      match session.selects setting index command.selector with
      | none => (session, .failed "no previous regular expression")
      | some (false, session) =>
        let skipped := match command.edit with
          | .opening length => length
          | _ => 0
        runFrom setting commands fuel (index + 1 + skipped) session
      | some (true, session) =>
        match perform setting index command session with
        | (session, .next) => runFrom setting commands fuel (index + 1) session
        | (session, .goTo target) => runFrom setting commands fuel target session
        | (session, .stop ending) => (session, ending)

/-- How many commands may run for a line. -/
def commandLimit : Nat := 10000000

/-- Runs the commands for one line after another; the number bounds how often. -/
def runLines (setting : Setting) (commands : Array Command) : Nat → Session → Session × Nat × Option String
  | 0, session => (session, 0, none)
  | fuel + 1, session =>
    let finish (session : Session) (prints : Bool) : Session :=
      let printed := if prints && !setting.quiet then
          session.printLine setting session.space session.ended
        else session
      printed.settle
    let following (session : Session) : Session × Nat × Option String :=
      match session.advance setting false with
      | none => (session, 0, none)
      | some session => runLines setting commands fuel { session with replaced := false }
    match runFrom setting commands commandLimit 0 session with
    | (session, .finished) => following (finish session true)
    | (session, .dropped) => following (finish session false)
    | (session, .again) => runLines setting commands fuel (finish session false)
    | (session, .quit prints status) => ({ finish session prints with quitting := true }, status, none)
    | (session, .failed text) => (session, 1, some text)

/-- The lines of a file. -/
def inputLines (ending : UInt8) (file : String) (bytes : List UInt8) : List InputLine :=
  (linesBy ending bytes).map fun line =>
    ⟨file, withoutEnd ending line, line.getLast? == some ending⟩

/-- The commands and expressions of a script, from all options that give a part of it. -/
def scriptOf (job : Job) (given : Given) : Except String (List UInt8 × List String) := do
  let parts ← given.options.filterMapM fun (key, value) =>
    match key, value with
    | "e", some text => Except.ok (some (Text.toBytes text))
    | "f", some path =>
      match job.tree.read job.directory path with
      | .ok bytes => .ok (some (withoutEnd 10 bytes))
      | .error error => .error ("couldn't open file " ++ path ++ ": " ++ reason error)
    | _, _ => .ok none
  match parts, given.operands with
  | [], script :: paths => return (Text.toBytes script, paths)
  | [], [] => throw ""
  | first :: others, paths =>
    return (others.foldl (fun script part => script ++ 10 :: part) first, paths)

/-- The files that commands write to. -/
def filesOf (commands : List Command) : List String := (commands.filterMap fun command =>
  match command.edit with
  | .writeFile path | .writeFirst path => some path
  | .substitute s => s.file
  | _ => none).eraseDups

/-- Writes what the commands have written to files. -/
def writeFiles (job : Job) (files : List (String × Written)) : Job :=
  files.foldl (fun job (path, written) =>
    if path = "/dev/stdout" then job
    else match job.writeFile path true written.reversed.reverse with
      | .ok job => job
      | .error _ => job) job

/-- The lines of the files at paths, and complaints about those that cannot be read. -/
def gatherLines (job : Job) (name : String) (ending : UInt8) (paths : List String) :
    Job × List InputLine :=
  forInputs job paths (fun job path error =>
    if error = .isDirectory then
      job.blame 4 name ("read error on " ++ path ++ ": " ++ reason error)
    else (job.blame 2 name ("can't read " ++ path ++ ": " ++ reason error)))
    (fun job lines path bytes => (job, lines ++ inputLines ending path bytes)) []

/-- Lines before any of them is edited. -/
def Session.start (job : Job) (program : Program) (lines : List InputLine) : Session where
  space := []
  ended := true
  held := []
  heldEnded := true
  number := 0
  file := (lines.head?.map (·.file)).getD "-"
  rest := lines
  ranges := []
  finished := []
  replaced := false
  waiting := []
  output := ⟨[], false⟩
  files := (filesOf program.commands).map (·, ⟨[], false⟩)
  sources := []
  finder := none
  quitting := false
  job := job

/-- Edits lines, and returns what is printed with the status. -/
def editLines (setting : Setting) (session : Session) : Session × Nat × Option String :=
  match session.advance setting false with
  | none => (session, 0, none)
  | some first =>
    runLines setting setting.program.commands.toArray (2 * commandLimit) first

/-- Edits files as a script says. -/
def edit (job : Job) (name : String) (given : Given) : Job :=
  let extended := given.has "E"
  match scriptOf job given with
  | .error "" => job.fail 1 ("Usage: " ++ name ++ " [OPTION]... \x7bscript-only-if-no-other-script\x7d [input-file]...")
  | .error text => job.blame 4 name text
  | .ok (script, paths) =>
    match readProgram extended script with
    | .error (place, text) =>
      let index := match place with
        | some left => script.length - left
        | none => 0
      job.blame 1 name ("-e expression #1, char " ++ toString index ++ ": " ++ text)
    | .ok program =>
      match (jumpsOf program.commands).find? fun label => (program.labels.lookup label).isNone with
      | some label => job.blame 4 name ("can't find label for jump to \x60" ++ label ++ "'")
      | none =>
        let inPlace := given.has "i"
        let setting : Setting := {
          program := program
          quiet := given.has "n" || (script.take 3 == [35, 110, 10] || script == [35, 110])
          ending := if given.has "z" then 0 else 10
          width := ((given.value? "l").bind Shell.decimal?).getD 70
          separate := given.has "s" || inPlace }
        if inPlace then editInPlace job name given setting paths
        else
          let (job, lines) := gatherLines job name setting.ending (if paths.isEmpty then ["-"] else paths)
          let before := job.status
          let (session, status, fault) := editLines setting (Session.start job program lines)
          let job := writeFiles (session.job.writeBytes 1 session.output.reversed.reverse) session.files
          match fault with
          | some text => job.blame 1 name (faultText text)
          | none => job.ended (if status = 0 then before else status)
where
  /-- What is said about a fault that shows up while lines are edited. -/
  faultText (text : String) : String := "-e expression #1, char 0: " ++ text
  /-- Edits each file and puts what is printed in its place. -/
  editInPlace (job : Job) (name : String) (given : Given) (setting : Setting) (paths : List String) :
      Job :=
    if paths.isEmpty then job.blame 4 name "no input files"
    else (paths.foldl (fun (session : Session) path =>
      let job := session.job
      if session.quitting then session
      else match job.tree.inspect job.directory true path with
      | .error error =>
        { session with job := job.blame 2 name ("can't read " ++ path ++ ": " ++ reason error) }
      | .ok (place, .file bytes executable) =>
        let before := job.status
        let fresh : Session := { session.restart with
          file := path
          rest := inputLines setting.ending path bytes
          replaced := false
          output := ⟨[], false⟩ }
        let (session, status, fault) := editLines setting fresh
        let job := writeFiles session.job session.files
        let suffix := (given.value? "i").getD ""
        let backup := if suffix.contains '*' then
            .ofList (suffix.toList.flatMap fun c => if c = '*' then path.toList else [c])
          else path ++ suffix
        let kept := if suffix.isEmpty then job.tree
          else match job.tree.locate job.directory true backup with
            | .ok copy => job.tree.set copy (.file bytes executable)
            | .error _ => job.tree
        let edited := kept.set place (.file session.output.reversed.reverse executable)
        match fault with
        | some text => { session with quitting := true, job := job.blame 1 name (faultText text) }
        | none =>
          { session with
            job := { job with tree := edited }.ended (if status = 0 then before else status) }
      | .ok _ =>
        { session with job := job.blame 4 name ("couldn't edit " ++ path ++ ": not a regular file") })
      (Session.start job setting.program [])).job

end FormatPipeline.Sandbox.Editing

namespace FormatPipeline.Sandbox

/-- Edits files as a script says. -/
def runSed : Tool :=
  withOptions ["n|quiet|silent", "e|expression:", "f|file:", "E|r|regexp-extended", "i|in-place?",
    "l|line-length:", "s|separate", "u|unbuffered", "z|null-data|zero-terminated", "posix", "debug",
    "sandbox", "follow-symlinks"] 1 Editing.edit

end FormatPipeline.Sandbox
