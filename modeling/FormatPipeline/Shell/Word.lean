/-! The words and operators of a shell's command line, with quotes and expansions told apart. -/

namespace FormatPipeline.Shell

/-- What is made of the value of a parameter. -/
inductive Form where
  /-- The value itself. -/
  | value
  /-- The number of its bytes. -/
  | length
  /-- A word takes the place of a missing value. -/
  | substitute
  /-- A word becomes the value if there is none. -/
  | assign
  /-- A word takes the place of a value that is there. -/
  | alternative
  /-- A missing value is an error, of which a word tells more. -/
  | demand
  /-- What matches a pattern at one end is cut off. -/
  | trim (atEnd longest : Bool)
  /-- There is no such form. -/
  | unknown
  deriving DecidableEq, Repr

/-- What a text breaks off in. -/
inductive Break where
  | quotes | braces | backquotes | arithmetic
  deriving DecidableEq, Repr

mutual

/-- A part of a word. -/
inductive Piece where
  /-- A character without quotes. -/
  | plain (c : Char)
  /-- A character that stands for itself on account of quotes or a backslash. -/
  | quoted (c : Char)
  /-- The beginning of a quoted part, which is part of the word even if it is empty. -/
  | quotes
  /-- A form of a parameter; an empty value may count as missing. -/
  | parameter (name : List Char) (form : Form) (emptyIsMissing : Bool) (word : List Piece)
      (inQuotes : Bool)
  /-- The output of commands, given by their tokens with lines. -/
  | substitution (tokens : List (Token × Nat)) (inQuotes : Bool)
  /-- The output of commands between backquotes. -/
  | backquoted (source : List Char) (inQuotes : Bool)
  /-- The value of an arithmetic expression. -/
  | arithmetic (expression : List Piece) (inQuotes : Bool)
  /-- The end of the text where the word still goes on. -/
  | broken (reason : Break)

/-- What a command line is made of. -/
inductive Token where
  | word (pieces : List Piece)
  /-- The number of a stream, directly in front of a redirection. -/
  | stream (digit : Char)
  | operator (text : List Char)
  | newline
  /-- The text that follows as the input of a command. -/
  | document (pieces : List Piece)
  /-- The end of the text. -/
  | finish

end

/-- A word before anything in it is expanded. -/
abbrev Word := List Piece

/-- Tokens with the lines on which they end. -/
abbrev Tokens := List (Token × Nat)

namespace Word

/-- The characters of a word in which there are no quotes and no expansions. -/
def bare? : Word → Option (List Char)
  | [] => some []
  | .plain c :: rest => (bare? rest).map (c :: ·)
  | _ :: _ => none

/-- The characters of a word in which nothing is expanded, without its quotes. -/
def literal : Word → List Char
  | [] => []
  | .plain c :: rest | .quoted c :: rest => c :: literal rest
  | _ :: rest => literal rest

/-- Whether nothing in the word is quoted. -/
def isUnquoted (word : Word) : Bool := word.all fun piece => match piece with
  | .quoted _ | .quotes => false
  | _ => true

end Word

/-- The characters that names begin with. -/
def isNameStart (c : Char) : Bool := c.isAlpha || c == '_'

/-- The characters inside names. -/
def isNameChar (c : Char) : Bool := c.isAlphanum || c == '_'

/-- Whether a text can be the name of a variable. -/
def isName (cs : List Char) : Bool := cs.head?.any isNameStart && cs.all isNameChar

/-- The parameters that are named by a sign. -/
def isSpecial (c : Char) : Bool := c.isDigit || "@*#?$!-".toList.contains c

/-- The name and the value in an assignment. -/
def assignment? (word : Word) : Option (String × Word) :=
  let lead := word.takeWhile fun piece => match piece with
    | .plain c => isNameChar c
    | _ => false
  match (Word.bare? lead).filter isName, word.drop lead.length with
  | some name, .plain '=' :: value => some (.ofList name, value)
  | _, _ => none

end FormatPipeline.Shell
