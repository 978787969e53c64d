import FormatPipeline.Shell.Word

/-! Commands as a shell understands them, and why a text has none. -/

namespace FormatPipeline.Shell

/-- What happens to a stream of a command. -/
inductive RedirectionKind where
  /-- It is read from a file. -/
  | input
  /-- It is written to a file, whose content is given up. -/
  | output
  /-- The same, even if files are to be kept. -/
  | replace
  /-- It is written to the end of a file. -/
  | append
  /-- It is read from a file and written to it. -/
  | update
  /-- It goes where another stream goes. -/
  | copy
  /-- It is read from a text in the script. -/
  | document
  deriving DecidableEq, Repr

/-- A stream that goes elsewhere. -/
structure Redirection where
  stream : Nat
  kind : RedirectionKind
  /-- The file or the stream, or the text itself. -/
  target : Word

/-- A command, or several that belong together; the lines are those on which they begin. -/
inductive Script where
  | nothing
  | simple (line : Nat) (assignments words : List Word) (redirections : List Redirection)
  /-- The output of each command is the input of the next one. -/
  | pipe (commands : List Script)
  /-- The status is turned over. -/
  | negation (command : Script)
  /-- The second command runs if the first one succeeds. -/
  | both (first second : Script)
  /-- The second command runs if the first one fails. -/
  | either (first second : Script)
  | sequence (commands : List Script)
  /-- The command is not waited for. -/
  | background (command : Script)
  | branch (condition yes no : Script)
  /-- The body runs again and again while the condition has the given outcome. -/
  | loop (outcome : Bool) (condition body : Script)
  /-- The body runs once for each word. -/
  | forEach (line : Nat) (name : List Char) (words : List Word) (body : Script)
  /-- The first body runs that has a pattern for the word. -/
  | choice (line : Nat) (word : Word) (cases : List (List Word × Script))
  /-- What the body does to variables does not last. -/
  | subshell (body : Script)
  | redirected (line : Nat) (body : Script) (redirections : List Redirection)
  /-- A name for the body, which can be called from then on. -/
  | definition (line : Nat) (name : List Char) (body : Script)

/-- Why a text has no commands. -/
inductive SyntaxError where
  /-- What cannot stand on the line, and perhaps what must stand there. -/
  | unexpected (found : String) (expected : Option String)
  /-- The variable of a loop over words is no name. -/
  | badVariable
  /-- No command can have the name. -/
  | badFunctionName
  /-- A redirection names no stream. -/
  | badStream
  /-- The text ends inside of something. -/
  | broken (reason : Break)
  deriving DecidableEq, Repr

/-- How a text that breaks off is told. -/
def Break.message : Break → String
  | quotes => "Unterminated quoted string"
  | braces => "Missing '\x7d'"
  | backquotes => "EOF in backquote substitution"
  | arithmetic => "Missing '))'"

/-- What is said about a text without commands. -/
def SyntaxError.message (error : SyntaxError) : String :=
  "Syntax error: " ++ match error with
    | .unexpected found none => found ++ " unexpected"
    | .unexpected found (some expected) => found ++ " unexpected (expecting " ++ expected ++ ")"
    | .badVariable => "Bad for loop variable"
    | .badFunctionName => "Bad function name"
    | .badStream => "Bad fd number"
    | .broken reason => reason.message

end FormatPipeline.Shell
