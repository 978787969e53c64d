import FormatPipeline.Sandbox.Builtins.Variables
import FormatPipeline.Shell.Parsing
import FormatPipeline.Shell.Reading

/-! How a shell begins, what it tells, and the commands that it carries out by itself, by their names. -/

namespace FormatPipeline.Sandbox

open Shell (Piece)

/-- The commands that the shell carries out by itself, apart from those that it is made of. -/
def ordinaryCommands : List String :=
  ["[", "alias", "bg", "cd", "chdir", "command", "echo", "false", "fg", "getopts", "hash", "jobs",
    "kill", "printf", "pwd", "read", "test", "true", "type", "ulimit", "umask", "unalias", "wait"]

/-- Whether the shell cannot do without a command, so that its failure ends the shell. -/
def isSpecialCommand (name : String) : Bool :=
  Shell.specialCommands.contains name || name == "local"

/-- Whether the shell carries out a command by itself. -/
def isOwnCommand (name : String) : Bool :=
  isSpecialCommand name || ordinaryCommands.contains name

/-- The commands whose arguments are assignments. -/
def declaresVariables (name : String) : Bool :=
  ["alias", "export", "local", "readonly"].contains name

/-- How much time has passed; in a sandbox it is none. -/
def timesText : String := "0m0.000000s 0m0.000000s\n0m0.000000s 0m0.000000s\n"

/-- Looks for programs without running them, or shows those that were found. -/
def runHash (job : Job) (arguments : List String) : Outcome :=
  let (options, names) := leadingOptions arguments
  match unknownOption? "r" options, names with
  | some option, _ => job.refuse "hash" (illegalOption option)
  | none, [] =>
    if options.isEmpty then
      job.report "hash" (String.join ((inTableOrder programRows job.tracked).map fun entry =>
        entry.2 ++ "\n"))
    else { job with tracked := [] }.done 0
  | none, names =>
    if !options.isEmpty then { job with tracked := [] }.done 0
    else names.foldl (fun (outcome : Outcome) name =>
      let job := outcome.1
      if isOwnCommand name ∨ (job.functions.lookup name).isSome then (job, .proceed)
      else match job.executable? name with
        | .ok _ => (job.track name, .proceed)
        | .error why => (job.complain 1 ("hash: " ++ name ++ ": " ++ why), .proceed)) (job.ended 0, .proceed)

/-- What a name stands for where a command begins. -/
inductive CommandKind where
  | keyword
  | alias (text : String)
  | function
  | own
  | program (path : String)
  | nothing

/-- What a name stands for where a command begins. -/
def Job.kindOf (job : Job) (name : String) : CommandKind :=
  if Shell.reservedWords.contains name then .keyword
  else match job.aliases.lookup name with
    | some text => .alias text
    | none =>
      if isSpecialCommand name then .own
      else if (job.functions.lookup name).isSome then .function
      else if isOwnCommand name then .own
      else match job.tracked.lookup name, job.executable? name with
        -- What was found once is believed to be there still.
        | some path, _ | none, .ok (path, _) => .program path
        | none, .error _ => .nothing

/-- Tells in words what a name stands for. -/
def describeCommand (job : Job) (name : String) : Job :=
  match job.kindOf name with
  | .keyword => job.write 1 (name ++ " is a shell keyword\n")
  | .alias text => job.write 1 (name ++ " is an alias for " ++ text ++ "\n")
  | .function => job.write 1 (name ++ " is a shell function\n")
  | .own =>
    let special := if isSpecialCommand name then "special " else ""
    job.write 1 (name ++ " is a " ++ special ++ "shell builtin\n")
  | .program path =>
    let before := if (job.tracked.lookup name).isSome then "a tracked alias for " else ""
    (job.track name).write 1 (name ++ " is " ++ before ++ path ++ "\n")
  | .nothing => (job.write 1 (name ++ ": not found\n")).ended 127

/-- Tells what a name stands for in a way that can be used as a command. -/
def nameCommand (job : Job) (name : String) : Job :=
  match job.kindOf name with
  | .keyword | .function | .own => job.write 1 (name ++ "\n")
  | .alias text => job.write 1 ("alias " ++ name ++ "=" ++ singleQuoted text ++ "\n")
  | .program path => (job.track name).write 1 (path ++ "\n")
  | .nothing => job.ended 127

/-- Shows how much of something the programs get, which is never limited. -/
def runUlimit (job : Job) (arguments : List String) : Outcome :=
  let (options, rest) := leadingOptions arguments
  match unknownOption? "HSatfdsmcnplvwr" options, rest with
  | some option, _ => job.refuse "ulimit" (illegalOption option)
  | none, [] => job.report "ulimit" "unlimited\n"
  | none, [word] =>
    if word = "unlimited" || word.toList.all (·.isDigit) then job.done 0
    else job.refuse "ulimit" "bad number"
  | none, _ => job.refuse "ulimit" "too many arguments"

/-- Carries out a command, if the shell knows it by itself and no other commands are part of it. -/
def runOwn? (job : Job) (name : String) (arguments : List String) : Option Outcome :=
  match name with
  | ":" | "true" => some (job.done 0)
  | "false" => some (job.done 1)
  | "echo" => some (job.publish name (echo arguments) 0)
  | "printf" => some (runPrintf job arguments)
  | "test" => some (runTest job name arguments)
  | "[" =>
    if arguments.getLast? = some "]" then some (runTest job name arguments.dropLast)
    else some (job.refuse "[" "missing ]")
  | "exit" => some (runLeaving job name .leave arguments)
  | "return" => some (runLeaving job name .back arguments)
  | "break" => some (runUnwinding job name false arguments)
  | "continue" => some (runUnwinding job name true arguments)
  | "kill" => some (runKill job arguments)
  | "wait" => some (runWait job arguments)
  | "umask" => some (runUmask job arguments)
  | "cd" | "chdir" => some (runCd job arguments)
  | "pwd" => some (runPwd job arguments)
  | "read" => some (runRead job arguments)
  | "export" => some (runDeclaration job name (·.exported) ({ · with exported := true }) arguments)
  | "readonly" => some (runDeclaration job name (·.fixed) ({ · with fixed := true }) arguments)
  | "local" => some (runLocal job arguments)
  | "unset" => some (runUnset job arguments)
  | "shift" => some (runShift job arguments)
  | "set" => some (runSet job arguments)
  | "getopts" => some (runGetopts job arguments)
  | "alias" => some (runAlias job arguments)
  | "unalias" => some (runUnalias job arguments)
  | "trap" => some (runTrap job arguments)
  | "hash" => some (runHash job arguments)
  | "type" => some (arguments.foldl describeCommand (job.ended 0), .proceed)
  | "times" => some (job.report name timesText)
  | "ulimit" => some (runUlimit job arguments)
  | "jobs" => some (runJobs job arguments)
  | "fg" | "bg" => some (runRevival job name arguments)
  | _ => none

/-- A variable that the programs of the shell do not get to see. -/
def Job.keep (job : Job) (name value : String) : Job := job.setVariable name ⟨some value, false, false⟩

/-- The directories in which a shell looks for commands if nobody says where. -/
def shellPath : String := "/usr/local/sbin:/usr/local/bin:/usr/sbin:/usr/bin:/sbin:/bin"

/-- A shell with the variables that it has from the beginning. -/
def startShell (job : Job) : Job :=
  let started := ((job.keep "IFS" " \t\n").keep "OPTIND" "1").keep "PPID" (toString (job.number - 1))
  let usual := [("PATH", shellPath), ("PS1", "# "), ("PS2", "> "), ("PS4", "+ ")]
  let started := usual.foldl (fun job (name, value) =>
    if (job.binding? name).isSome then job else job.keep name value) started
  -- The path to the directory is believed only if it leads there.
  let route := match (job.value? "PWD").filter fun path => path.toList.head? = some '/' with
    | some path =>
      match job.tree.locate [] true path with
      | .ok place => if place = job.directory then path else Place.text job.directory
      | .error _ => Place.text job.directory
    | none => Place.text job.directory
  { started.setVariable "PWD" ⟨some route, true, false⟩ with route := route }

/-- The words that a shell was started with. -/
structure ShellWords where
  options : List Char
  /-- Whether the first operand is a command. -/
  takesCommand : Bool
  operands : List String

/-- Reads the words that a shell is started with. -/
def readShellWords (arguments : List String) : Except String ShellWords := do
  let read ← readOptions true ⟨[], none, none, false⟩ arguments
  return ⟨read.options, read.takesCommand, read.arguments.getD []⟩

/-- What stands in front of a command that is told. -/
def traceLead (job : Job) : String :=
  String.join ((Shell.readTemplate (job.valueOr "PS4").toList).map fun piece => match piece with
    | .plain c | .quoted c => c.toString
    | .parameter name .value _ _ _ => (job.parameter? (.ofList name)).getD ""
    | _ => "")

/-- Tells the words of a command, if the shell is to tell what it does. -/
def trace (endpoints : List (Nat × Endpoint)) (job : Job) (words : List String) : Job :=
  if job.has 'x' then
    -- It is told where the errors went before the command led its streams elsewhere.
    let told := { job with endpoints := endpoints }.write 2
      (traceLead job ++ Text.joinWith " " words ++ "\n")
    { told with endpoints := job.endpoints }
  else job

end FormatPipeline.Sandbox
