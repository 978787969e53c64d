import FormatPipeline.Sandbox.Builtins.Basic
import FormatPipeline.Sandbox.Expansion

/-! The commands that a shell carries out by itself: variables, arguments and options. -/

namespace FormatPipeline.Sandbox

/-- A word as a name and the value behind an equals sign. -/
def splitAssignment (word : String) : String × Option String :=
  let name := word.toList.takeWhile (· != '=')
  match word.toList.drop name.length with
  | [] => (.ofList name, none)
  | _ :: value => (.ofList name, some (.ofList value))

/-- Whether a text can be the name of a variable. -/
def isVariableName (name : String) : Bool := Shell.isName name.toList

/-- Entries in the order of their names. -/
def inNameOrder {α : Type} (entries : List (String × α)) : List (String × α) :=
  entries.mergeSort fun a b => a.1 ≤ b.1

/-- Gives variables values and properties that a command stands for. -/
def declare (command : String) (change : Variable → Variable) (job : Job) : List String → Outcome
  | [] => job.done 0
  | word :: rest =>
    let (name, value) := splitAssignment word
    if !isVariableName name then job.abort command (name ++ ": bad variable name")
    else match value.bind (job.refusal? name) with
    | some text => job.abort command text
    | none =>
      let assigned := match value with
        | some value => job.assign name value
        | none => job
      let before := (assigned.binding? name).getD ⟨none, false, false⟩
      let later := assigned.setVariable name (change before)
      declare command change { later with tracked := assigned.tracked } rest

/-- The lines that would bring back the variables with a property. -/
def declarations (job : Job) (command : String) (isMeant : Variable → Bool) : String :=
  String.join ((inNameOrder (job.bindings.filter fun entry => isMeant entry.2)).map fun entry =>
    command ++ " " ++ entry.1 ++ (match entry.2.value with
      | some value => "=" ++ singleQuoted value
      | none => "") ++ "\n")

/-- Declares variables, or shows those that are declared. -/
def runDeclaration (job : Job) (command : String) (isMeant : Variable → Bool)
    (change : Variable → Variable) (arguments : List String) : Outcome :=
  match leadingOptions arguments with
  | (options, rest) =>
    match unknownOption? "p" options with
    | some option => job.abort command (illegalOption option)
    | none =>
      if options.contains 'p' || rest.isEmpty then
        job.report command (declarations job command isMeant)
      else declare command change job rest

/-- Lets variables belong to the function under way. -/
def runLocal (job : Job) : List String → Outcome
  | [] => job.done 0
  | word :: rest =>
    let (name, value) := splitAssignment word
    match job.scopes with
    | [] => job.abort "local" "not in a function"
    | scope :: scopes =>
      if !isVariableName name then job.abort "local" (name ++ ": bad variable name")
      else match value.bind (job.refusal? name) with
      | some text => job.abort "local" text
      | none =>
        let kept := (name, job.binding? name) :: scope
        let job := { job with scopes := kept :: scopes }
        match value with
        | some value => runLocal (job.assign name value) rest
        | none =>
          let before := (job.binding? name).getD ⟨none, false, false⟩
          runLocal (job.setVariable name before) rest

/-- Forgets variables or functions. -/
def forgetAll (functions : Bool) (job : Job) : List String → Outcome
  | [] => job.done 0
  | name :: rest =>
    if functions then
      forgetAll functions { job with functions := job.functions.filter (·.1 != name) } rest
    else if !isVariableName name then job.abort "unset" (name ++ ": bad variable name")
    else match job.refusal? name "" with
    | some text => job.abort "unset" text
    | none =>
    if name = "PATH" then
      -- Without it nothing is found any longer.
      forgetAll functions (job.setVariable name ⟨none, false, false⟩) rest
    else forgetAll functions (job.forget name) rest

/-- Forgets what the arguments name. -/
def runUnset (job : Job) (arguments : List String) : Outcome :=
  match leadingOptions arguments with
  | (options, names) =>
    match unknownOption? "fv" options with
    | some option => job.abort "unset" (illegalOption option)
    | none => forgetAll (options.getLast? == some 'f') job names

/-- Drops arguments at the front. -/
def runShift (job : Job) (arguments : List String) : Outcome :=
  match arguments with
  | [] => drop 1
  | word :: _ =>
    match Shell.count? word with
    | some count => drop count
    | none => job.abort "shift" (illegalNumber word)
where
  /-- Drops a number of arguments, if there are so many. -/
  drop (count : Nat) : Outcome :=
    if job.arguments.length < count then job.abort "shift" "can't shift that many"
    else { job.seekOptions 1 with arguments := job.arguments.drop count }.done 0

/-- The options of the shell with their letters. -/
def optionNames : List (String × Char) := [
  ("errexit", 'e'), ("noglob", 'f'), ("ignoreeof", 'I'), ("interactive", 'i'), ("monitor", 'm'),
  ("noexec", 'n'), ("stdin", 's'), ("xtrace", 'x'), ("verbose", 'v'), ("vi", 'V'), ("emacs", 'E'),
  ("noclobber", 'C'), ("allexport", 'a'), ("notify", 'b'), ("nounset", 'u'), ("privileged", 'p'),
  ("nolog", 'L'), ("debug", 'D')]

/-- Options that are on, in the order in which they are shown, with one that is switched. -/
def switchOption (options : List Char) (letter : Char) (on : Bool) : List Char :=
  ((optionNames.map (·.2)).reverse).filter fun known =>
    if known == letter then on else options.contains known

/-- Options that have been read from words, and the words behind them. -/
structure OptionWords where
  options : List Char
  /-- The words that take the place of the arguments, if there are any. -/
  arguments : Option (List String)
  /-- Whether the options are to be shown, and whether as commands. -/
  shows : Option Bool
  /-- Whether the first of the other words is a command. -/
  takesCommand : Bool

/-- Reads the letters of a word of options; a shell that starts may be given a command. -/
def readLetters (starting : Bool) (sign : Char) :
    List Char → OptionWords → Except String OptionWords
  | [], read => .ok read
  | letter :: rest, read =>
    if starting ∧ letter = 'c' then readLetters starting sign rest { read with takesCommand := true }
    else if letter = 'o' ∨ (starting ∧ letter = 'l') then readLetters starting sign rest read
    else if optionNames.any (·.2 == letter) then
      readLetters starting sign rest
        { read with options := switchOption read.options letter (sign == '-') }
    else .error ("Illegal option " ++ sign.toString ++ letter.toString)

/-- Reads options from words; a word that is no option begins the arguments. -/
def readOptions (starting : Bool) (read : OptionWords) : List String → Except String OptionWords
  | [] => .ok read
  | "--" :: rest => .ok { read with arguments := some rest }
  | "-" :: rest =>
    let options := if starting then read.options
      else read.options.filter fun option => option != 'x' && option != 'v'
    .ok { read with options := options, arguments := if rest.isEmpty then none else some rest }
  | word :: rest =>
    match word.toList with
    | [] => .ok { read with arguments := some (word :: rest) }
    | sign :: letters =>
      if sign ≠ '-' ∧ sign ≠ '+' then .ok { read with arguments := some (word :: rest) }
      else match readLetters starting sign letters read with
        | .error text => .error text
        | .ok read =>
          match letters.contains 'o', rest with
          | false, rest => readOptions starting read rest
          | true, [] => .ok { read with shows := some (sign == '+') }
          | true, name :: rest =>
            match optionNames.lookup name with
            | some letter =>
              let options := switchOption read.options letter (sign == '-')
              readOptions starting { read with options := options } rest
            | none => .error ("Illegal option " ++ sign.toString ++ "o " ++ name)

/-- The options of the shell with their state, in a list or as commands. -/
def optionStates (job : Job) (asCommands : Bool) : String :=
  let line (name : String) (letter : Char) : String :=
    if asCommands then "set " ++ (if job.has letter then "-" else "+") ++ "o " ++ name ++ "\n"
    else .ofList (name.toList.rightpad 16 ' ') ++ (if job.has letter then "on" else "off") ++ "\n"
  (if asCommands then "" else "Current option settings\n") ++
    String.join (optionNames.map fun (name, letter) => line name letter)

/-- The values of all variables. -/
def allValues (job : Job) : String :=
  String.join ((inNameOrder job.bindings).filterMap fun (name, known) =>
    known.value.map fun value => name ++ "=" ++ singleQuoted value ++ "\n")

/-- Switches options and puts arguments in place. -/
def runSet (job : Job) (arguments : List String) : Outcome :=
  if arguments.isEmpty then job.report "set" (allValues job)
  else match readOptions false ⟨job.options, none, none, false⟩ arguments with
    | .error text => job.abort "set" text
    | .ok read =>
      let job := { job with options := read.options }
      let job := match read.arguments with
        | some arguments => { job.seekOptions 1 with arguments := arguments }
        | none => job
      match read.shows with
      | some asCommands => job.report "set" (optionStates job asCommands)
      | none => job.done 0

/-- A character of a line that is read, and whether a backslash protects it. -/
abbrev Read := Char × Bool

/-- The characters of a line, in which a backslash may protect the next one, and the rest behind it. -/
def readLine (raw : Bool) : List Char → List Read × Bool × List Char
  | [] => ([], false, [])
  | '\n' :: rest => ([], true, rest)
  | '\\' :: '\n' :: rest =>
    if raw then ([('\\', false)], true, rest) else readLine raw rest
  | '\\' :: c :: rest =>
    if raw then
      let (line, complete, rest) := readLine raw (c :: rest)
      (('\\', false) :: line, complete, rest)
    else
      let (line, complete, rest) := readLine raw rest
      ((c, true) :: line, complete, rest)
  | c :: rest =>
    let (line, complete, rest) := readLine raw rest
    ((c, false) :: line, complete, rest)

/-- The words that a line is cut into: one for each name, the last one with all that is left. -/
def cutLine (separators : List Char) : Nat → List Read → List (List Read)
  | 0, _ => []
  | count + 1, line =>
    let isSeparator (r : Read) : Bool := !r.2 && separators.contains r.1
    let isBlank (r : Read) : Bool := isSeparator r && isFieldBlank r.1
    let trimEnd (line : List Read) : List Read := (line.reverse.dropWhile isBlank).reverse
    let line := line.dropWhile isBlank
    let word := line.takeWhile (!isSeparator ·)
    let behind := (line.drop word.length).dropWhile isBlank
    let behind := match behind with
      | r :: rest => if isSeparator r then rest.dropWhile isBlank else r :: rest
      | [] => []
    if count = 0 then [if behind.isEmpty then word else trimEnd line]
    else word :: cutLine separators count behind

/-- Gives names values up to one that refuses it, with the reason. -/
def assignAll (job : Job) : List (String × String) → Job × Option String
  | [] => (job, none)
  | (name, value) :: rest =>
    if !isVariableName name then (job, some (name ++ ": bad variable name"))
    else match job.refusal? name value with
      | some text => (job, some text)
      | none => assignAll (job.assign name value) rest

/-- Reads a line of the input into variables. -/
def runRead (job : Job) (arguments : List String) : Outcome :=
  let (options, names) := leadingOptions arguments
  let names := if options.contains 'p' then names.tail else names
  match unknownOption? "rp" options with
  | some option => job.refuse "read" (illegalOption option)
  | none =>
    if names.isEmpty then job.refuse "read" "arg count"
    else
      let bytes := job.input 0
      let text := (Text.ofBytes bytes).toList
      let (line, complete, rest) := readLine (options.contains 'r') text
      let taken := bytes.length - (Text.toBytes (.ofList rest)).length
      -- Bytes that are no text cannot be counted from the end.
      let taken := if text.contains Text.replacementChar then
          (bytes.takeWhile (· != 10)).length + (if complete then 1 else 0)
        else taken
      let words := cutLine job.separators names.length line
      let values := words.map fun word => String.ofList ((word.map (·.1)).filter (· != '\x00'))
      let values := values ++ List.replicate (names.length - values.length) ""
      match assignAll (job.advance 0 taken) (names.zip values) with
      | (job, some text) => job.refuse "read" text
      | (job, none) => job.done (if complete then 0 else 1)

/-- Whether an option takes a value, if it is among those that are known. -/
def takesValue? (letter : Char) : List Char → Option Bool
  | [] => none
  | c :: ':' :: rest => if c = letter then some true else takesValue? letter rest
  | c :: rest => if c = letter then some false else takesValue? letter rest

/-- What is found where options are looked for; in front of each word they are looked for next. -/
inductive FoundOption where
  /-- There are no more options. -/
  | none (next : Nat)
  /-- An option, or a sign of what is wrong with it, with a value and what is to be said. -/
  | some (sign : Char) (value : Option String) (complaint : String) (next : Nat) (offset : Option Nat)
  deriving DecidableEq, Repr

/-- Finds an option in what follows a dash or another option, when the next word is known. -/
def readOption (known : List Char) (words : List String) (word : List Char) (next : Nat)
    (letter : Char) (rest : List Char) : FoundOption :=
  let quiet := known.head? == some ':'
  let behind := some (word.length - rest.length)
  let wrong (sign : Char) (complaint : String) (offset : Option Nat) : FoundOption :=
    if quiet then .some sign (some letter.toString) "" next offset
    else .some '?' none (complaint ++ "\n") next offset
  match takesValue? letter known, rest, words[next - 1]? with
  | none, _, _ => wrong '?' (illegalOption letter) behind
  | some false, _, _ => .some letter (some "") "" next behind
  | some true, [], none => wrong ':' ("No arg for -" ++ letter.toString ++ " option") none
  | some true, [], some value => .some letter (some value) "" (next + 1) none
  | some true, value, _ => .some letter (some (.ofList value)) "" next none

/-- Finds the next option among words, from one of them on, or in the one before it. -/
def findOption (known : List Char) (words : List String) (next : Nat) (offset : Option Nat) :
    FoundOption :=
  let word := (words.getD (next - 2) "").toList
  match if next ≤ 1 then [] else (offset.map word.drop).getD [] with
  | letter :: rest => readOption known words word next letter rest
  | [] =>
    let word := (words.getD (next - 1) "").toList
    match word with
    | ['-', '-'] => .none (next + 1)
    | '-' :: letter :: rest => readOption known words word (next + 1) letter rest
    | _ => .none next

/-- Finds the next option among the arguments. -/
def runGetopts (job : Job) (arguments : List String) : Outcome :=
  match arguments with
  | known :: name :: given =>
    let words := if given.isEmpty then job.arguments else given
    -- Behind all words the search begins again.
    let started := if words.length + 1 < job.optionWord then job.seekOptions 1 else job
    let settle (job : Job) (entries : List (String × String)) (next : Nat) (offset : Option Nat)
        (sign : Char) (status : Nat) : Outcome :=
      let entries := entries ++ [("OPTIND", toString next), (name, sign.toString)]
      match assignAll job entries with
      | (job, none) => { job with optionWord := next, optionOffset := offset }.done status
      | (job, some text) => (job.seekOptions 1).refuse "getopts" text
    match findOption known.toList words started.optionWord started.optionOffset with
    | .none next => settle job [] next none '?' 1
    | .some sign (some value) _ next offset => settle job [("OPTARG", value)] next offset sign 0
    | .some sign none complaint next offset =>
      let told := job.write 2 complaint
      match told.refusal? "OPTARG" "" with
      | some text => (told.seekOptions 1).refuse "getopts" text
      | none => settle (told.forget "OPTARG") [] next offset sign 0
  | _ => job.refuse "getopts" "Usage: getopts optstring var [arg...]"

/-- Shows what texts stand for, or lets them stand for other texts. -/
def runAlias (job : Job) : List String → Outcome
  | [] =>
    job.report "alias" (String.join ((inTableOrder nameRows job.aliases).map fun (name, text) =>
      name ++ "=" ++ singleQuoted text ++ "\n"))
  | words => words.foldl (fun (outcome : Outcome) word =>
      let job := outcome.1
      match splitAssignment word with
      | (name, some text) =>
        ({ job with aliases := (name, text) :: job.aliases.filter (·.1 != name) }, .proceed)
      | (name, none) =>
        match job.aliases.lookup name with
        | some text => (job.write 1 (name ++ "=" ++ singleQuoted text ++ "\n"), .proceed)
        | none => (job.fail 1 ("alias: " ++ name ++ " not found"), .proceed)) (job.ended 0, .proceed)

/-- Lets texts stand for themselves again. -/
def runUnalias (job : Job) (arguments : List String) : Outcome :=
  let (options, names) := leadingOptions arguments
  match unknownOption? "a" options with
  | some option => job.refuse "unalias" (illegalOption option)
  | none =>
  if !options.isEmpty then { job with aliases := [] }.done 0
  else names.foldl (fun (outcome : Outcome) name =>
    let job := outcome.1
    if (job.aliases.lookup name).isSome then
      ({ job with aliases := job.aliases.filter (·.1 != name) }, .proceed)
    else (job.fail 1 ("unalias: " ++ name ++ " not found"), .proceed)) (job.ended 0, .proceed)

/-- Chooses what is done at signals. -/
def chooseActions (job : Job) (action : Option String) : List String → Outcome
  | [] => job.done 0
  | word :: rest =>
    match signal? 0 word with
    | none => (job.fail 1 ("trap: " ++ word ++ ": bad trap"), .proceed)
    | some number =>
      let others := job.actions.filter (·.1 != number)
      let actions := match action with
        | some text => (number, text) :: others
        | none => others
      chooseActions { job with actions := actions } action rest

/-- Chooses what is done at signals, or shows what is done. -/
def runTrap (job : Job) (arguments : List String) : Outcome :=
  match leadingOptions arguments with
  | (option :: _, _) => job.abort "trap" (illegalOption option)
  | ([], []) =>
    let actions := job.actions.mergeSort fun a b => a.1 ≤ b.1
    job.report "trap" (String.join (actions.map fun (number, text) =>
      "trap -- " ++ singleQuoted text ++ " " ++ signalName number ++ "\n"))
  | ([], first :: rest) =>
    if rest.isEmpty || (Shell.decimal? first).isSome then chooseActions job none (first :: rest)
    else if first = "-" then chooseActions job none rest
    else chooseActions job (some first) rest

/-- A path without dots, from the root. -/
def plainRoute (route : String) : List String :=
  (namesIn route).foldl (fun names name =>
    if name = "." then names else if name = ".." then names.dropLast else names ++ [name]) []

/-- Goes to another directory. -/
def goTo (job : Job) (shown : String) (target : String) (physical tells : Bool) : Outcome :=
  let route := if target.toList.head? = some '/' then target else job.route ++ "/" ++ target
  let names := plainRoute route
  let path := if physical then target else Place.text names
  match job.tree.inspect job.directory true path with
  | .ok (place, .directory) =>
    let route := Place.text (if physical then place else names)
    let before := job.route
    let job := { job with directory := place, route := route }
    let share (job : Job) (name value : String) : Job := job.setVariable name ⟨some value, true, false⟩
    let job := share (share job "OLDPWD" before) "PWD" route
    if tells then job.report "cd" (route ++ "\n") else job.done 0
  | _ => job.refuse "cd" ("can't cd to " ++ shown)

/-- Goes to the directory that the arguments name. -/
def runCd (job : Job) (arguments : List String) : Outcome :=
  let (options, rest) := leadingOptions arguments
  match unknownOption? "LP" options with
  | some option => job.refuse "cd" (illegalOption option)
  | none =>
    let physical := options.getLast? = some 'P'
    match rest with
    | [] => match job.value? "HOME" with
      | some home => goTo job home home physical false
      | none => job.done 0
    | "-" :: _ => goTo job "-" ((job.value? "OLDPWD").getD job.route) physical true
    | "" :: _ => job.done 0
    | target :: _ => goTo job target target physical false

/-- Prints the path of the directory. -/
def runPwd (job : Job) (arguments : List String) : Outcome :=
  let (options, _) := leadingOptions arguments
  match unknownOption? "LP" options with
  | some option => job.refuse "pwd" (illegalOption option)
  | none =>
    let path := if options.getLast? = some 'P' then Place.text job.directory else job.route
    job.report "pwd" (path ++ "\n")

end FormatPipeline.Sandbox
