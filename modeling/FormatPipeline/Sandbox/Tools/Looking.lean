import FormatPipeline.Sandbox.Condition
import FormatPipeline.Sandbox.Tools.Filing
import FormatPipeline.Sandbox.Wrapping

/-! Programs that look at files and paths, or tell something about the surroundings. -/

namespace FormatPipeline.Sandbox

/-- The sign behind a name that tells what it stands for. -/
def kindSign (given : Given) (node : Option Node) : String :=
  match node with
  | some .directory => if given.has "F" || given.has "p" then "/" else ""
  | some (.link _) => if given.has "F" then "@" else ""
  | some (.file _ true) | some (.tool _) => if given.has "F" then "*" else ""
  | _ => ""

/-- Names as a listing shows them. -/
def listing (given : Given) (names : List String) : String :=
  match given.last? ["1", "m", "C", "x", "l"] with
  | some "m" => if names.isEmpty then "" else Text.joinWith ", " names ++ "\n"
  | some "C" | some "x" => if names.isEmpty then "" else Text.joinWith "  " names ++ "\n"
  | _ => String.join (names.map (· ++ "\n"))

/-- The names in a directory as a listing shows them. -/
def listedNames (job : Job) (given : Given) (place : Place) : List String :=
  let names := job.tree.names place
  let names := if given.has "a" then "." :: ".." :: names
    else if given.has "A" then names else names.filter fun name => name.toList.head? != some '.'
  let names := if given.has "r" then names.reverse else names
  names.map fun name =>
    name ++ kindSign given (if name = "." ∨ name = ".." then some .directory else job.tree.node? (place ++ [name]))

/-- The directories that a listing goes through: the path itself, and those below it on demand. -/
def listedPlaces (job : Job) (given : Given) : Nat → String → Place → List (String × Place)
  | 0, _, _ => []
  | fuel + 1, path, place =>
    let inner := if given.has "R" then
        (job.tree.names place).filter fun name =>
          (given.has "a" || given.has "A" || name.toList.head? != some '.') &&
            job.tree.node? (place ++ [name]) == some .directory
      else []
    (path, place) :: inner.flatMap fun name =>
      listedPlaces job given fuel (pathIn path name) (place ++ [name])

/-- Lists files and what is in directories. -/
def runLs : Tool :=
  withOptions ["a|all", "A|almost-all", "1", "C", "d|directory", "F|classify?", "l", "m", "p", "q",
    "r|reverse", "R|recursive", "x", "t", "S", "i", "n", "h", "s", "U", "f", "L", "H", "w|width:", "color?",
    "b", "B", "N", "v", "X"]
    2 fun job name given =>
    let operands := if given.operands.isEmpty then ["."] else given.operands
    let sorted := operands.mergeSort (· ≤ ·)
    let sorted := if given.has "r" then sorted.reverse else sorted
    let job := operands.foldl (fun (job : Job) path =>
      match job.tree.inspect job.directory (!given.has "d") path with
      | .ok _ => job
      | .error error =>
        if (job.tree.inspect job.directory false path).toOption.isSome then job
        else job.blame 2 name ("cannot access " ++ Text.named path ++ ": " ++ reason error)) job
    let known := sorted.filterMap fun path =>
      let shallow := job.tree.inspect job.directory false path
      -- A link to a directory stands for it, unless links are to be marked.
      let deep := job.tree.inspect job.directory (!given.has "d" && !given.has "F") path
      (deep.toOption.or shallow.toOption).map (path, ·)
    let isListed (entry : String × Place × Node) : Bool :=
      !given.has "d" && entry.2.2 == .directory
    let files := (known.filter (!isListed ·)).map fun (path, _, node) => path ++ kindSign given (some node)
    let places := (known.filter isListed).flatMap fun (path, place, _) =>
      listedPlaces job given (job.tree.entries.length + 1) path place
    let titled := given.has "R" || 1 < operands.length
    let blocks := places.map fun (path, place) =>
      (if titled then path ++ ":\n" else "") ++ listing given (listedNames job given place)
    let blocks := if files.isEmpty then blocks else listing given files :: blocks
    job.write 1 (Text.joinWith "\n" blocks)

/-- The place of the first byte in which two lists differ. -/
def firstDifference : Nat → List UInt8 → List UInt8 → Option Nat
  | index, a :: as, b :: bs => if a = b then firstDifference (index + 1) as bs else some index
  | _, _, _ => none

/-- Tells whether two files are the same. -/
def runCmp : Tool := fun job name arguments =>
  let misused (text : String) : Job := job.fail 2 (name ++ ": " ++ text ++ "\n" ++ name ++ ": Try '" ++
    name ++ " --help' for more information.")
  match readGiven ["b|print-bytes", "i:", "l|verbose", "n|bytes:", "s|quiet|silent"] arguments with
  | .error text => misused text
  | .ok given =>
    let job := job.ended 0
    match given.operands with
    | [] => misused ("missing operand after " ++ Text.cited name)
    | first :: rest =>
      let second := rest.headD "-"
      let limited (bytes : List UInt8) : List UInt8 :=
        match (given.value? "n").bind Shell.decimal? with
        | some count => bytes.take count
        | none => bytes
      match job.readOperand first with
      | (.error error, job) =>
        if given.has "s" then job.ended 2 else job.blame 2 name (first ++ ": " ++ reason error)
      | (.ok firstBytes, job) =>
        match job.readOperand second with
        | (.error error, job) =>
          if given.has "s" then job.ended 2 else job.blame 2 name (second ++ ": " ++ reason error)
        | (.ok secondBytes, job) =>
          let (as, bs) := (limited firstBytes, limited secondBytes)
          match firstDifference 0 as bs with
          | some index =>
            let line := (as.take index).count 10 + 1
            let text := first ++ " " ++ second ++ " differ: char " ++ toString (index + 1) ++ ", line " ++
              toString line ++ "\n"
            (if given.has "s" then job else job.write 1 text).ended 1
          | none =>
            if as.length = bs.length then job
            else
              let (short, path) := if as.length < bs.length then (as, first) else (bs, second)
              let text := if short.isEmpty then " which is empty"
                else " after byte " ++ toString short.length ++
                  (if short.getLast? = some 10 then ", line " ++ toString (short.count 10)
                    else ", in line " ++ toString (short.count 10 + 1))
              if given.has "s" then job.ended 1 else job.blame 1 name ("EOF on " ++ path ++ text)

/-- Prints the last names of paths, without a suffix. -/
def runBasename : Tool := fun job name arguments =>
  let rules := ["a|multiple", "s|suffix:", "z|zero"].map OptionRule.ofText
  match readWords rules false none arguments with
  | .error text => job.blameUse 1 name text
  | .ok given =>
    let several := given.has "a" || given.has "s"
    let ending := if given.has "z" then "\x00" else "\n"
    let bare (path suffix : String) : String :=
      let last := lastName path
      if !suffix.isEmpty && last.endsWith suffix && last != suffix then
        .ofList (last.toList.take (last.length - suffix.length))
      else last
    match given.operands with
    | [] => job.blameUse 1 name "missing operand"
    | paths =>
      if several then
        (job.write 1 (String.join (paths.map fun path =>
          bare path ((given.value? "s").getD "") ++ ending))).ended 0
      else match paths with
        | _ :: _ :: extra :: _ => job.blameUse 1 name ("extra operand " ++ Text.cited extra)
        | paths => (job.write 1 (bare (paths.headD "") (paths.getD 1 "") ++ ending)).ended 0

/-- A path without its last name. -/
def directoryOf (path : String) : String :=
  let trim (cs : List Char) : List Char := cs.dropWhile (· == '/')
  let behind := trim path.toList.reverse
  let lead := trim (behind.dropWhile (· != '/'))
  if lead.isEmpty then (if path.toList.head? = some '/' then "/" else ".") else .ofList lead.reverse

/-- Prints paths without their last names. -/
def runDirname : Tool :=
  withOptions ["z|zero"] 1 fun job name given =>
    let ending := if given.has "z" then "\x00" else "\n"
    if given.operands.isEmpty then job.blameUse 1 name "missing operand"
    else job.write 1 (String.join (given.operands.map fun path => directoryOf path ++ ending))

/-- The path without links to what a path leads to, of which the last name may be missing. -/
def realPath (job : Job) (needed : Bool) (path : String) : Except ReadError String := do
  if path.isEmpty then throw .notFound
  let place ← job.tree.locate job.directory true path
  if needed && (job.tree.node? place).isNone then throw .notFound
  return Place.text place

/-- Prints what links stand for. -/
def runReadlink : Tool :=
  withOptions ["f|canonicalize", "e|canonicalize-existing", "m|canonicalize-missing", "n|no-newline",
    "q|quiet", "s|silent", "v|verbose", "z|zero"] 1 fun job name given =>
    if given.operands.isEmpty then job.blameUse 1 name "missing operand"
    else
      let ending := if given.has "n" then "" else if given.has "z" then "\x00" else "\n"
      given.operands.foldl (fun job path =>
        if given.has "f" || given.has "e" || given.has "m" then
          match realPath job (given.has "e") path with
          | .ok path => job.write 1 (path ++ ending)
          | .error error =>
            if given.has "m" then
              job.write 1 (Place.text (beginning job.directory path ++ namesIn path) ++ ending)
            else if given.has "v" then job.failAt name path error else job.ended 1
        else match job.tree.inspect job.directory false path with
          | .ok (_, .link target) => job.write 1 (target ++ ending)
          | .ok _ => if given.has "v" then job.blame 1 name (path ++ ": Invalid argument") else job.ended 1
          | .error error => if given.has "v" then job.failAt name path error else job.ended 1) job

/-- The way from one place to another one. -/
def wayBetween (source target : Place) : String :=
  let shared := (List.zip source target).takeWhile fun pair => pair.1 == pair.2
  let up := (source.drop shared.length).map fun _ => ".."
  let names := up ++ target.drop shared.length
  if names.isEmpty then "." else Text.joinWith "/" names

/-- Prints the paths without links to files. -/
def runRealpath : Tool :=
  withOptions ["e|canonicalize-existing", "m|canonicalize-missing", "q|quiet", "s|strip|no-symlinks",
    "z|zero", "relative-to:", "relative-base:", "L", "P"] 1 fun job name given =>
    if given.operands.isEmpty then job.blameUse 1 name "missing operand"
    else
      let ending := if given.has "z" then "\x00" else "\n"
      let bare (path : String) : String := Place.text (beginning job.directory path ++ namesIn path)
      given.operands.foldl (fun job path =>
        let found := if given.has "s" then .ok (bare path) else realPath job (given.has "e") path
        match if given.has "m" then .ok (found.toOption.getD (bare path)) else found with
        | .ok real =>
          let shown := match (given.value? "relative-to").map (realPath job false) with
            | some (.ok base) => wayBetween (namesIn base) (namesIn real)
            | _ => real
          job.write 1 (shown ++ ending)
        | .error error => if given.has "q" then job.ended 1 else job.failAt name path error) job

/-- Prints which files commands stand for. -/
def runWhich : Tool := fun job name arguments =>
  match readGiven ["a", "s"] arguments with
  | .error _ =>
    let letters := arguments.flatMap fun word => match word.toList with
      | '-' :: letters => letters
      | _ => []
    let unknown := (letters.find? fun c => c != 'a' && c != 's').getD '-'
    (job.write 1 ("Usage: /usr/bin/" ++ name ++ " [-as] args\n")).fail 2
      ("Illegal option -" ++ unknown.toString)
  | .ok given =>
    let job := job.ended 0
    if given.operands.isEmpty then job.ended 1
    else given.operands.foldl (fun job command =>
      let candidates := if command.toList.contains '/' then [command]
        else job.searchPath.map fun directory =>
          (if directory.isEmpty then "." else directory) ++ "/" ++ command
      let found := candidates.filter fun path => Tree.isRunnable (job.find? path)
      let found := if given.has "a" then found else found.take 1
      if found.isEmpty then job.ended 1
      else if given.has "s" then job else job.write 1 (String.join (found.map (· ++ "\n")))) job

/-- Prints the values of variables. -/
def runPrintenv : Tool :=
  withOptions ["0|null"] 2 fun job _ given =>
    let ending := if given.has "0" then "\x00" else "\n"
    if given.operands.isEmpty then
      job.write 1 (String.join (job.exports.reverse.map fun (name, value) => name ++ "=" ++ value ++ ending))
    else given.operands.foldl (fun job name =>
      match job.exports.lookup name with
      | some value => job.write 1 (value ++ ending)
      | none => job.ended 1) job

/-- Does nothing for a while. -/
def runSleep : Tool :=
  withOptions [] 1 fun job name given =>
    let spans := given.operands.filterMap timeSpan?
    match (given.operands.filter fun word => (timeSpan? word).isNone).reverse with
    | last :: others =>
      let complain (job : Job) (word : String) : Job :=
        job.blame 1 name ("invalid time interval " ++ Text.cited word)
      (others.reverse.foldl complain job).blameUse 1 name ("invalid time interval " ++ Text.cited last)
    | [] =>
      if spans.isEmpty then job.blameUse 1 name "missing operand"
      else job.waitUntil (job.clock + spans.foldl (· + ·) 0)

/-- Tells that the input is no terminal. -/
def runTty : Tool :=
  withOptions ["s|silent|quiet"] 2 fun job _ given =>
    (if given.has "s" then job else job.write 1 "not a tty\n").ended 1

/-- Prints the path of the directory. -/
def runPwdTool : Tool :=
  withOptions ["L|logical", "P|physical"] 1 fun job _ given =>
    let route := (job.value? "PWD").filter fun path =>
      given.last? ["L", "P"] == some "L" && (job.tree.locate [] true path).toOption == some job.directory
    job.write 1 (route.getD (Place.text job.directory) ++ "\n")

/-- A program that prints a text and knows no arguments. -/
def saying (text : String) : Tool :=
  withOptions [] 1 fun job name given =>
    match given.operands with
    | extra :: _ => job.blameUse 1 name ("extra operand " ++ Text.cited extra)
    | [] => job.write 1 (text ++ "\n")

/-- Prints who runs the program: always the first user. -/
def runId : Tool :=
  withOptions ["u|user", "g|group", "G|groups", "n|name", "r|real", "z|zero"] 1 fun job name given =>
    let kinds := ["u", "g", "G"].filter given.has
    let short := !kinds.isEmpty
    let stranger := given.operands.find? fun user => user != "root" && user != "0"
    if 1 < kinds.length then job.blame 1 name "cannot print \"only\" of more than one choice"
    else if !short && (given.has "n" || given.has "r") then
      job.blame 1 name "cannot print only names or real IDs in default format"
    else if !short && given.has "z" then
      job.blame 1 name "option --zero not permitted in default format"
    else match stranger with
    | some user => job.blame 1 name (Text.cited user ++ ": no such user")
    | none => job.write 1 (if short then (if given.has "n" then "root\n" else "0\n")
      else "uid=0(root) gid=0(root) groups=0(root)\n")

/-- Prints the name of the system. -/
def runUname : Tool :=
  withOptions ["a|all", "s|kernel-name", "m|machine", "o|operating-system", "p", "i", "n", "r", "v"] 1
    fun job name given =>
    match given.operands with
    | extra :: _ => job.blameUse 1 name ("extra operand " ++ Text.cited extra)
    | [] =>
    let parts := (if given.has "s" || given.options.isEmpty then ["Linux"] else []) ++
      (["m", "p", "i"].filter given.has).map (fun _ => "x86_64") ++ (if given.has "o" then ["GNU/Linux"] else [])
    job.write 1 (Text.joinWith " " parts ++ "\n")

/-- The bytes that a text with all kinds of escapes stands for, and whether nothing may follow. -/
def richEscapes : Nat → List Char → List UInt8 × Bool
  | 0, _ | _, [] => ([], false)
  | _ + 1, '\\' :: 'c' :: _ => ([], true)
  | fuel + 1, '\\' :: 'x' :: rest =>
    let digits := (rest.take 2).takeWhile (Shell.isDigitOf 16)
    let lead := if digits.isEmpty then Text.toBytes "\\x" else [.ofNat (Shell.ofDigits 16 digits)]
    let (others, stops) := richEscapes fuel (rest.drop digits.length)
    (lead ++ others, stops)
  | fuel + 1, '\\' :: '0' :: rest =>
    let digits := octalDigits rest
    let (others, stops) := richEscapes fuel (rest.drop digits.length)
    (.ofNat (Shell.ofDigits 8 digits) :: others, stops)
  | fuel + 1, '\\' :: c :: rest =>
    let lead := match escapeLetter? c with
      | some byte => [byte]
      | none => 92 :: Text.toBytes c.toString
    let (others, stops) := richEscapes fuel rest
    (lead ++ others, stops)
  | fuel + 1, c :: rest =>
    let (others, stops) := richEscapes fuel rest
    (Text.toBytes c.toString ++ others, stops)

/-- The letters of the options at the front of words, and the words behind them. -/
def echoOptions : List String → List Char × List String
  | [] => ([], [])
  | word :: rest =>
    match word.toList with
    | '-' :: c :: cs =>
      if (c :: cs).all "neE".toList.contains then
        let (letters, others) := echoOptions rest
        (c :: cs ++ letters, others)
      else ([], word :: rest)
    | _ => ([], word :: rest)

/-- Prints its arguments. -/
def runEchoTool : Tool := fun job _ arguments =>
  let (letters, words) := echoOptions arguments
  let text := Text.joinWith " " words
  let escapes := (letters.filter fun c => c == 'e' || c == 'E').getLast? == some 'e'
  let (bytes, stops) := if escapes then richEscapes (text.length + 1) text.toList
    else (Text.toBytes text, false)
  (job.writeBytes 1 (bytes ++ if stops || letters.contains 'n' then [] else [10])).ended 0

/-- Tests a condition. -/
def runTestTool (bracket : Bool) : Tool := fun job name arguments =>
  let ends := arguments.getLast? = some "]"
  if bracket && !ends then job.blame 2 name "missing ']'"
  else
    let words := (if bracket then arguments.dropLast else arguments).map fun word =>
      if word = "==" then "=" else word
    match condition job words with
    | .ok holds => job.ended (if holds then 0 else 1)
    | .error fault => job.blame 2 name (fault.toolMessage words)

end FormatPipeline.Sandbox
