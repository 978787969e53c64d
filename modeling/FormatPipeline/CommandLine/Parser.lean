import FormatPipeline.CommandLine.Similarity
import FormatPipeline.CommandLine.Usage
import FormatPipeline.LogLevel
import FormatPipeline.Text.Terminal

/-! Reading the command line. -/

namespace FormatPipeline.CommandLine

/-- Why a command line asks for nothing that can be done, or for an explanation only. -/
inductive Refusal where
  | help (topic : Topic)
  | version
  /-- There is no such command; some are like it. -/
  | unknownCommand (topic : Topic) (word : String) (similar : List String)
  /-- There is no such argument; an option may be like it. -/
  | unknownArgument (topic : Topic) (word : String) (similar : Option Flag) (used : List Flag)
  /-- A command stands behind a double dash. -/
  | hiddenCommand (topic : Topic) (word : String)
  | valueMissing (topic : Topic) (flag : Flag)
  | repeated (topic : Topic) (flag : Flag)
  | unneededValue (topic : Topic) (flag : Flag) (value : String) (used : List Flag)
  | commandMissing
  deriving DecidableEq, Repr

/-- An error with the tips, the usage and the hint that go with it. -/
def errorText (topic : Topic) (message : String) (tips : List String) (usage : Option (List Flag)) :
    String :=
  let tips := tips.map fun tip => "\n  tip: " ++ tip
  "error: " ++ message ++ (if tips.isEmpty then "" else "\n" ++ String.join tips) ++
    (match usage with
      | some used => "\n\n" ++ topic.usage used
      | none => "") ++ topic.hint

/-- A word between single quotes. -/
def quoted (word : String) : String := "'" ++ word ++ "'"

/-- A word of the command line between single quotes, as a terminal shows it. -/
def quotedWord (word : String) : String := quoted (Text.shown word)

/-- What is proposed instead of a command. -/
def commandTips (similar : List String) : List String :=
  match similar with
  | [] => []
  | [command] => ["a similar subcommand exists: " ++ quoted command]
  | commands => ["some similar subcommands exist: " ++ Text.joinWith ", " (commands.map quoted)]

/-- The text of a refusal. -/
def Refusal.message : Refusal → String
  | .help topic => topic.helpText
  | .version => versionText
  | .unknownCommand topic word similar =>
    errorText topic ("unrecognized subcommand " ++ quotedWord word) (commandTips similar) (some [])
  | .unknownArgument topic word similar used =>
    errorText topic ("unexpected argument " ++ quotedWord word ++ " found")
      (match similar with
        | some flag => ["a similar argument exists: " ++ quoted ("--" ++ flag.long)]
        | none => []) (some used)
  | .hiddenCommand topic word =>
    errorText topic ("unexpected argument " ++ quotedWord word ++ " found")
      ["subcommand " ++ quoted word ++ " exists; to use it, remove the '--' before it"] (some [])
  | .valueMissing topic flag =>
    errorText topic ("a value is required for " ++ quoted flag.display ++ " but none was supplied")
      [] none
  | .repeated topic flag =>
    errorText topic ("the argument " ++ quoted flag.display ++ " cannot be used multiple times")
      [] (some [])
  | .unneededValue topic flag value used =>
    errorText topic ("unexpected value " ++ quotedWord value ++ " for " ++ quoted flag.display ++
      " found; no more were expected") [] (some used)
  | .commandMissing =>
    errorText .program (quoted programName ++ " requires a subcommand but one was not provided\n" ++
      "  [subcommands: " ++ Text.joinWith ", " Topic.program.commands ++ "]") [] (some [])

/-- What has been read of one command. -/
structure Progress where
  /-- The options that were given, in order. -/
  given : List Flag
  config : Option String
  /-- The configuration option that is not taken over yet, with its value once that is there. -/
  pending : Option (Option String)
  /-- Whether a double dash was there. -/
  trailing : Bool
  deriving DecidableEq, Repr

namespace Progress

/-- Nothing has been read. -/
def initial : Progress := ⟨[], none, none, false⟩

/-- Whether the next argument is the value of an option. -/
def awaitsValue (p : Progress) : Bool := p.pending = some none

/-- Takes over the value of the configuration option, which must be the only one. -/
def storeConfig (topic : Topic) (p : Progress) (value : String) : Except Refusal Progress :=
  if .config ∈ p.given then .error (.repeated topic .config)
  else .ok { p with given := p.given ++ [.config], config := some value }

/-- Takes over a pending option. -/
def resolve (topic : Topic) (p : Progress) : Except Refusal Progress :=
  match p.pending with
  | none => .ok p
  | some none => .error (.valueMissing topic .config)
  | some (some value) => storeConfig topic { p with pending := none } value

/-- The options to be shown as used when something else is wrong. -/
def shownAsUsed (topic : Topic) (p : Progress) : List Flag :=
  -- An option that is given twice is no longer counted.
  match p.resolve topic with
  | .ok p => p.given
  | .error _ => if p.pending.any (·.isSome) then p.given.erase .config else p.given

/-- Takes over an option without a value. -/
def storeSwitch (topic : Topic) (p : Progress) (flag : Flag) : Except Refusal Progress := do
  let p ← p.resolve topic
  match flag with
  | .help => throw (.help topic)
  | .version => throw .version
  | flag =>
    if flag ∈ p.given then throw (.repeated topic flag)
    return { p with given := p.given ++ [flag] }

/-- Takes over the configuration option with the value attached to it, or waits for one. -/
def storeOption (topic : Topic) (p : Progress) (attached : Option String) : Except Refusal Progress := do
  let p ← p.resolve topic
  match attached with
  | some value => p.storeConfig topic value
  | none => return { p with pending := some none }

/-- Reads an option that begins with two dashes. -/
def readLong (topic : Topic) (p : Progress) (body : List Char) : Except Refusal Progress :=
  let name := String.ofList (body.takeWhile (· != '='))
  let attached := match body.dropWhile (· != '=') with
    | [] => none
    | _ :: value => some (String.ofList value)
  match topic.flags.find? (·.long == name) with
  | some flag =>
    if flag.takesValue then p.storeOption topic attached
    else match attached with
      | some value => .error (.unneededValue topic flag value (p.given ++ [flag]))
      | none => p.storeSwitch topic flag
  | none =>
    let similar := (similarWords name (topic.flags.map (·.long))).getLast?.bind fun word =>
      topic.flags.find? (·.long == word)
    .error (.unknownArgument topic ("--" ++ name) similar (p.shownAsUsed topic ++ similar.toList))

/-- Reads an option that begins with one dash, which is followed by the letter and the rest. -/
def readShort (topic : Topic) (p : Progress) (letter : Char) (rest : List Char) :
    Except Refusal Progress :=
  if letter = 'c' then
    p.storeOption topic (match rest with
      | [] => none
      | '=' :: value => some (String.ofList value)
      | value => some (String.ofList value))
  else if letter = 'h' then p.storeSwitch topic .help
  else if letter = 'V' ∧ .version ∈ topic.flags then p.storeSwitch topic .version
  else .error (.unknownArgument topic ("-" ++ letter.toString) none [])

/-- Refuses a word that is neither an option nor a command. -/
def refuse (topic : Topic) (p : Progress) (word : String) : Refusal :=
  if p.trailing ∧ word ∈ topic.commands then .hiddenCommand topic word
  else if topic.commands.isEmpty then .unknownArgument topic word none []
  else .unknownCommand topic word (similarWords word topic.commands)

end Progress

/-- What the words behind the help command ask for. -/
def explain (topic : Topic) : List String → Refusal
  | [] => .help topic
  | word :: rest =>
    if word ∈ topic.commands then explain (if word = serviceCommand then .service else .help) rest
    else .unknownCommand topic word []

/-- The options that were given for one command and the commands inside it. -/
structure Given where
  verbose : Bool
  config : Option String

/-- The options of one command alone. -/
def Progress.toGiven (p : Progress) : Given := ⟨.verbose ∈ p.given, p.config⟩

/-- Reads the words behind the program's name, or behind a command. -/
def readWords (topic : Topic) (p : Progress) : List String → Except Refusal Given
  | [] => do
    let p ← p.resolve topic
    if topic = .program then throw .commandMissing
    return p.toGiven
  | word :: rest =>
    if p.trailing then .error (p.refuse topic word)
    else if ¬ p.awaitsValue ∧ word ∈ topic.commands then
      if word = serviceCommand then do
        let inner ← readWords .service .initial rest
        let outer := (← p.resolve topic).toGiven
        -- What is given behind the command counts more.
        return ⟨outer.verbose || inner.verbose, inner.config.or outer.config⟩
      else .error (explain topic rest)
    else match word.toList with
      | ['-', '-'] => readWords topic { p with trailing := true } rest
      | '-' :: '-' :: body => do readWords topic (← p.readLong topic body) rest
      | '-' :: letter :: others => do readWords topic (← p.readShort topic letter others) rest
      | _ =>
        if p.awaitsValue then readWords topic { p with pending := some (some word) } rest
        else .error (p.refuse topic word)

/-- What the program is asked to do. -/
inductive Task where
  | service
  | version
  | help
  deriving DecidableEq, Repr

/-- A command line that was understood. -/
structure Request where
  task : Task
  verbose : Bool
  config : Option String
  deriving DecidableEq, Repr

/-- How much is logged. -/
def Request.logLevel (request : Request) : LogLevel := if request.verbose then .debug else .info

/-- Reads a command line, whose first word is the name of the program. -/
def parse (words : List String) : Except Refusal Request :=
  match words with
  | [_] | [_, "help"] | [_, "--help"] | [_, "-h"] => .ok ⟨.help, false, none⟩
  | [_, "-v"] | [_, "-V"] | [_, "--version"] => .ok ⟨.version, false, none⟩
  | words => (readWords .program .initial words.tail).map fun given =>
      ⟨.service, given.verbose, given.config⟩

end FormatPipeline.CommandLine
