import FormatPipeline.Sandbox.Tools.Calculating

/-! Programs that run another program in other surroundings, none of which a sandbox can tell apart. -/

namespace FormatPipeline.Sandbox

/-- What the arguments of a program ask for that runs another program. -/
inductive Wrapped where
  /-- The words of the other program. -/
  | command (words : List String)
  /-- The words of the other program, which a signal ends when some time has passed. -/
  | limited (span : Nat) (signal : Nat) (given : Given) (words : List String)
  | told (text : String)
  /-- The arguments are wrong; the flag tells whether help is offered. -/
  | refused (text : String) (offersHelp : Bool)

/-- A program that runs another program. -/
structure Wrapper where
  name : String
  options : List String
  /-- The status for arguments that are wrong. -/
  misuse : Nat
  /-- Reads options and operands. -/
  read : Given → Wrapped
  /-- How a program is told that cannot be run. -/
  failure : String → String

/-- A time that never comes: a million days in millionths of a second. -/
def never : Nat := 1000000 * 86400 * 1000000

/-- The millionths of a second in a span of time: a number that is not negative, and perhaps a unit. -/
def timeSpan? (text : String) : Option Nat :=
  let cs := text.toList
  let (cs, seconds) := match cs.getLast? with
    | some 's' => (cs.dropLast, 1)
    | some 'm' => (cs.dropLast, 60)
    | some 'h' => (cs.dropLast, 3600)
    | some 'd' => (cs.dropLast, 86400)
    | _ => (cs, 1)
  if text.toLower = "infinity" ∨ text.toLower = "inf" then some never
  else
    ((Fixed.read? (.ofList cs)).filter (0 ≤ ·.units)).map fun number =>
      min never (number.units.toNat * seconds * 1000000 / Nat.pow 10 number.places)

/-- The operands as a command of which there must be a word. -/
def commandOf (missing : String) (given : Given) : Wrapped :=
  if given.operands.isEmpty then .refused missing true else .command given.operands

/-- The operands as a command with a niceness, which is shown if there is none. -/
def readNice (given : Given) : Wrapped :=
  match (given.value? "n").filter fun text => (Shell.leadingInteger? text.toList).isNone with
  | some text => .refused ("invalid adjustment " ++ Text.cited text) false
  | none => if given.operands.isEmpty then .told "0\n" else .command given.operands

/-- The signal that a program can be told to send, in the spelling of a number or a name. -/
def namedSignal? (text : String) : Option Nat :=
  let name := text.toUpper
  signal? 0 (if name.startsWith "SIG" then .ofList (name.toList.drop 3) else name)

/-- The operands as a span of time and a command that may take it. -/
def readTimeout (given : Given) : Wrapped :=
  let refuseSpan (text : String) : Wrapped := .refused ("invalid time interval " ++ Text.cited text) true
  let name := (given.value? "s").getD "TERM"
  match (given.value? "k").filter fun text => (timeSpan? text).isNone, namedSignal? name with
  | some text, _ => refuseSpan text
  | none, none => .refused (Text.cited name ++ ": invalid signal") true
  | none, some signal =>
    match given.operands with
    | span :: word :: rest =>
      match timeSpan? span with
      | none => refuseSpan span
      | some 0 => .command (word :: rest)
      | some time => .limited time signal given (word :: rest)
    | _ => .refused "" true

/-- The programs that run another program and can be told apart by their arguments only. -/
def wrappers : List Wrapper := [
  ⟨"nice", ["n|adjustment:"], 125, readNice, Text.cited⟩,
  ⟨"nohup", [], 125, commandOf "missing operand",
    ("failed to run command " ++ Text.named ·)⟩,
  ⟨"setsid", ["c|ctty", "f|fork", "w|wait"], 1, commandOf "no command specified",
    ("failed to execute " ++ ·)⟩,
  ⟨"stdbuf", ["i|input:", "o|output:", "e|error:"], 125, commandOf "missing operand",
    ("failed to run command " ++ Text.cited ·)⟩,
  ⟨"timeout", ["k|kill-after:", "s|signal:", "foreground", "preserve-status", "v|verbose"], 125,
    readTimeout, ("failed to run command " ++ Text.cited ·)⟩]

/-- What the arguments of a program that runs another program ask for. -/
def Wrapper.wrapped (wrapper : Wrapper) (arguments : List String) : Wrapped :=
  match readWords (wrapper.options.map OptionRule.ofText) false none arguments with
  | .error text => .refused text true
  | .ok given => wrapper.read given

/-- Says what is wrong with the arguments of a program, and perhaps where help is. -/
def Job.blameWrapping (job : Job) (status : Nat) (name text : String) (offersHelp : Bool) : Job :=
  if text.isEmpty then job.fail status ("Try '" ++ name ++ " --help' for more information.")
  else if offersHelp then job.blameUse status name text
  else job.blame status name text

end FormatPipeline.Sandbox
