import FormatPipeline.Path.Basic
import FormatPipeline.Text.Blank

/-! Writing paths into a shell command line. -/

namespace FormatPipeline.Shell

/-- The characters that stay special between double quotes. -/
def isSpecialInQuotes (c : Char) : Bool :=
  c == '"' || c == '$' || c == '\x60' || c == '\\'

/-- A character between double quotes, with a backslash when it needs one. -/
def escapeChar (c : Char) : List Char :=
  if isSpecialInQuotes c then ['\\', c] else [c]

/-- The text between double quotes, so that the shell reads it as one word. -/
def quoteChars (cs : List Char) : List Char :=
  '"' :: (cs.flatMap escapeChar ++ ['"'])

/-- The path between double quotes. -/
def quote (path : Path) : String := .ofList (quoteChars path.text.toList)

/-- The characters on whose account a path is quoted. -/
def needsQuotes (c : Char) : Bool :=
  Text.isBlank c || c == '"' || c == '\'' || c == '$' || c == '\x60' || c == '&' || c == ';' ||
    c == '|' || c == '(' || c == ')' || c == '<' || c == '>'

/-- The path, between double quotes when one of its characters asks for them. -/
def quoteIfNeeded (path : Path) : String :=
  if path.text.toList.any needsQuotes then quote path else path.text

/-- The line that runs the binary with the arguments, which are written as they are. -/
def commandLine (binary : Path) (arguments : List String) : String :=
  Text.joinWith " " (quoteIfNeeded binary :: arguments)

end FormatPipeline.Shell
