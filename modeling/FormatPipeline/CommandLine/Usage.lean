import FormatPipeline.Text.Pieces

/-! What the program says about how it is called. -/

namespace FormatPipeline.CommandLine

/-- The name by which the program speaks of itself. -/
def programName : String := "fmtchain"

/-- The version of the program. -/
def programVersion : String := "0.1.0"

/-- The command that starts the service. -/
def serviceCommand : String := "editor-service"

/-- The options. -/
inductive Flag where
  | config | verbose | help | version
  deriving DecidableEq, Repr

namespace Flag

/-- The long name. -/
def long : Flag → String
  | config => "config"
  | verbose => "verbose"
  | help => "help"
  | version => "version"

/-- The option as it is shown, with a placeholder for its value. -/
def display : Flag → String
  | config => "--config <file>"
  | flag => "--" ++ flag.long

/-- Whether the option takes a value. -/
def takesValue (flag : Flag) : Bool := flag == config

end Flag

/-- What a text about usage is about. -/
inductive Topic where
  /-- The program itself. -/
  | program
  /-- The command that starts the service. -/
  | service
  /-- The command that explains the others. -/
  | help
  deriving DecidableEq, Repr

namespace Topic

/-- The options that are known. -/
def flags : Topic → List Flag
  | program => [.config, .verbose, .help, .version]
  | service => [.config, .verbose, .help]
  | help => []

/-- The commands that are known. -/
def commands : Topic → List String
  | program => [serviceCommand, "help"]
  | _ => []

/-- How to call the program; options that were used stand for all of them. -/
def usage (topic : Topic) (used : List Flag) : String :=
  let options := if used.isEmpty then " [OPTIONS]"
    else String.join (used.eraseDups.map fun flag => " " ++ flag.display)
  "Usage: " ++ programName ++ match topic with
    | program => options ++ " <COMMAND>"
    | service => " " ++ serviceCommand ++ options
    | help => " help [COMMAND]..."

/-- What the command does. -/
def summary : Topic → String
  | program => "Runs external code formatters for an editor, one after another, on demand or on save."
  | service =>
    "Starts a process that talks to an editor over newline delimited JSON on stdin and stdout."
  | help => "Print this message or the help of the given subcommand(s)"

/-- The lines about the options. -/
def optionLines (topic : Topic) : List String :=
  let lines := topic.flags.map fun flag => match topic, flag with
    | _, .config => "  -c, --config <file>  Path to a JSON settings file applied over the defaults."
    | _, .verbose => "      --verbose        Prints additional diagnostic information to stderr."
    | _, .help => "  -h, --help           Print help"
    | _, .version => "  -V, --version        Print version"
  "Options:" :: lines

/-- The lines of the explanation below the usage. -/
def details : Topic → List String
  | program => [
      "Commands:",
      "  editor-service  " ++ summary service,
      "  help            " ++ summary help,
      ""] ++ optionLines program
  | service => optionLines service
  | help => ["Arguments:", "  [COMMAND]...  Print help for the subcommand(s)"]

/-- The whole explanation. -/
def helpText (topic : Topic) : String :=
  Text.joinWith "\n" ([topic.summary, "", topic.usage [], ""] ++ topic.details) ++ "\n"

/-- Where to find more, if the command can explain itself. -/
def hint : Topic → String
  | help => "\n"
  | _ => "\n\nFor more information, try '--help'.\n"

end Topic

/-- The line about the version. -/
def versionText : String := programName ++ " " ++ programVersion ++ "\n"

end FormatPipeline.CommandLine
