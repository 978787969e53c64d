import FormatPipeline.Shell.Reading
import FormatPipeline.Shell.Script

/-! The way from tokens to commands, one complete command at a time. -/

namespace FormatPipeline.Shell

/-- The words that have a meaning of their own where a command begins. -/
def reservedWords : List String :=
  ["!", "\x7b", "\x7d", "case", "do", "done", "elif", "else", "esac", "fi", "for", "if", "in", "then",
    "until", "while"]

/-- The words that end the commands in front of them. -/
def closingWords : List String := ["\x7d", "do", "done", "elif", "else", "esac", "fi", "then"]

/-- A text between double quotes. -/
def inDoubleQuotes (text : String) : String := "\"" ++ text ++ "\""

/-- A token as it is shown when it is out of place. -/
def Token.shown : Token → String
  | .word pieces =>
    match (Word.bare? pieces).map String.ofList with
    | some text => if reservedWords.contains text then inDoubleQuotes text else "word"
    | none => "word"
  | .stream _ => "redirection"
  | .operator text =>
    if text.head? = some '<' ∨ text.head? = some '>' then "redirection"
    else inDoubleQuotes (.ofList text)
  | .document .. => "word"
  | .newline => "newline"
  | .finish => "end of file"

/-- What was understood, or why nothing was and on which line. -/
abbrev Parsed := Except (Nat × SyntaxError)

/-- The first token; behind the last one there is nothing but the end. -/
def Tokens.next (tokens : Tokens) : Token := (tokens.head?.map (·.1)).getD .finish

/-- The line of the first token. -/
def Tokens.line (tokens : Tokens) : Nat := (tokens.head?.map (·.2)).getD 1

/-- The first token is out of place. -/
def unexpected {α : Type} (tokens : Tokens) (expected : Option String) : Parsed α :=
  .error (tokens.line, .unexpected tokens.next.shown expected)

/-- The tokens without line ends at the front. -/
def skipNewlines : Tokens → Tokens
  | (.newline, _) :: rest => skipNewlines rest
  | tokens => tokens

/-- The reserved word at the front. -/
def reserved? (tokens : Tokens) : Option String :=
  match tokens.next with
  | .word pieces =>
    (Word.bare? pieces).bind fun cs =>
      if reservedWords.contains (.ofList cs) then some (.ofList cs) else none
  | _ => none

/-- Whether no further command can begin here. -/
def isClosed (tokens : Tokens) : Bool :=
  match tokens.next with
  | .finish | .operator [')'] | .operator [';', ';'] => true
  | _ => (reserved? tokens).any closingWords.contains

/-- Passes over a reserved word that has to be there. -/
def expect (word : String) (tokens : Tokens) : Parsed Tokens :=
  if reserved? tokens = some word then .ok tokens.tail
  else unexpected tokens (some (inDoubleQuotes word))

/-- Passes over a closing parenthesis that has to be there. -/
def expectParenthesis (tokens : Tokens) : Parsed Tokens :=
  match tokens with
  | (.operator [')'], _) :: rest => .ok rest
  | tokens => unexpected tokens (some (inDoubleQuotes ")"))

/-- The kind of a redirection and the stream that it is usually meant for. -/
def redirectionKind? (text : List Char) : Option (RedirectionKind × Nat) :=
  match text with
  | ['<'] => some (.input, 0)
  | ['>'] => some (.output, 1)
  | ['>', '|'] => some (.replace, 1)
  | ['>', '>'] => some (.append, 1)
  | ['<', '>'] => some (.update, 0)
  | ['<', '&'] => some (.copy, 0)
  | ['>', '&'] => some (.copy, 1)
  | ['<', '<'] | ['<', '<', '-'] => some (.document, 0)
  | _ => none

/-- The commands that the shell itself is made of; no function can have their names. -/
def specialCommands : List String :=
  [".", ":", "break", "continue", "eval", "exec", "exit", "export", "readonly", "return", "set",
    "shift", "times", "trap", "unset"]

/-- All arguments, each on its own. -/
def everyArgument : Word := [.parameter ['@'] .value false [] true]

/-- Commands one after another as one command. -/
def together (reversed : List Script) : Script :=
  match reversed with
  | [] => .nothing
  | [command] => command
  | commands => .sequence commands.reverse

mutual

/-- Refuses a word that breaks off, or in which there are substitutions without commands. -/
def checkWord : Nat → Nat → Word → Parsed Unit
  | 0, _, _ => .ok ()
  | fuel + 1, line, word => word.forM fun piece =>
    match piece with
    | .broken reason => .error (line, .broken reason)
    | .parameter _ _ _ inner _ | .arithmetic inner _ => checkWord fuel line inner
    | .substitution tokens _ => do
      let (_, rest) ← parseList fuel false tokens
      let _ ← expectParenthesis rest
    | .backquoted source _ => do
      -- What follows the commands between backquotes does not matter.
      let _ ← parseList fuel false (readTokens source)
    | _ => .ok ()

/-- Refuses a word at the front as `checkWord` does, before its place is looked at. -/
def checkNext : Nat → Tokens → Parsed Unit
  | 0, _ => .ok ()
  | fuel + 1, tokens =>
    match tokens with
    | (.word pieces, line) :: _ => checkWord fuel line pieces
    | _ => .ok ()

/-- The commands up to where no further one can begin; on demand there must be one. -/
def parseList : Nat → Bool → Tokens → Parsed (Script × Tokens)
  | 0, _, tokens => unexpected tokens none
  | fuel + 1, needed, tokens =>
    let tokens := skipNewlines tokens
    match tokens.next with
    | .finish => .ok (.nothing, tokens)
    | _ => if !needed && isClosed tokens then .ok (.nothing, tokens) else parseSome fuel [] tokens

/-- The commands behind those that are in reverse order, of which one has to be there. -/
def parseSome : Nat → List Script → Tokens → Parsed (Script × Tokens)
  | 0, _, tokens => unexpected tokens none
  | fuel + 1, reversed, tokens => do
    let (command, rest) ← parseAndOr fuel tokens
    let goOn (command : Script) (rest : Tokens) : Parsed (Script × Tokens) :=
      let rest := skipNewlines rest
      if isClosed rest then .ok (together (command :: reversed), rest)
      else parseSome fuel (command :: reversed) rest
    match rest with
    | (.operator ['&'], _) :: rest => goOn (.background command) rest
    | (.operator [';'], _) :: rest | (.newline, _) :: rest => goOn command rest
    | rest => return (together (command :: reversed), rest)

/-- Pipelines that depend on the outcome of those in front of them. -/
def parseAndOr : Nat → Tokens → Parsed (Script × Tokens)
  | 0, tokens => unexpected tokens none
  | fuel + 1, tokens => do
    let (first, rest) ← parsePipeline fuel tokens
    parseAndOrRest fuel first rest

/-- Further pipelines behind the first ones. -/
def parseAndOrRest : Nat → Script → Tokens → Parsed (Script × Tokens)
  | 0, _, tokens => unexpected tokens none
  | fuel + 1, first, tokens =>
    match tokens with
    | (.operator ['&', '&'], _) :: rest => do
      let (second, rest) ← parsePipeline fuel (skipNewlines rest)
      parseAndOrRest fuel (.both first second) rest
    | (.operator ['|', '|'], _) :: rest => do
      let (second, rest) ← parsePipeline fuel (skipNewlines rest)
      parseAndOrRest fuel (.either first second) rest
    | tokens => .ok (first, tokens)

/-- Commands joined to a pipeline, whose outcome may be turned over. -/
def parsePipeline : Nat → Tokens → Parsed (Script × Tokens)
  | 0, tokens => unexpected tokens none
  | fuel + 1, tokens =>
    if reserved? tokens = some "!" then do
      let (command, rest) ← parsePipes fuel [] tokens.tail
      return (.negation command, rest)
    else parsePipes fuel [] tokens

/-- Commands joined to a pipeline behind those that are in reverse order. -/
def parsePipes : Nat → List Script → Tokens → Parsed (Script × Tokens)
  | 0, _, tokens => unexpected tokens none
  | fuel + 1, reversed, tokens => do
    let (command, rest) ← parseCommand fuel tokens
    match rest, reversed with
    | (.operator ['|'], _) :: rest, _ => parsePipes fuel (command :: reversed) (skipNewlines rest)
    | rest, [] => return (command, rest)
    | rest, reversed => return (.pipe (command :: reversed).reverse, rest)

/-- One command with its redirections. -/
def parseCommand : Nat → Tokens → Parsed (Script × Tokens)
  | 0, tokens => unexpected tokens none
  | fuel + 1, tokens =>
    let line := tokens.line
    match tokens.next, reserved? tokens with
    | .operator ['('], _ => do
      let (body, rest) ← parseList fuel true tokens.tail
      parseRedirected fuel line (.subshell body) (← expectParenthesis rest)
    | _, some "\x7b" => do
      let (body, rest) ← parseList fuel true tokens.tail
      parseRedirected fuel line body (← expect "\x7d" rest)
    | _, some "if" => do
      let (command, rest) ← parseBranch fuel tokens.tail
      parseRedirected fuel line command rest
    | _, some "while" => parseLoop fuel line true tokens.tail
    | _, some "until" => parseLoop fuel line false tokens.tail
    | _, some "for" => parseFor fuel line tokens.tail
    | _, some "case" => parseChoice fuel line tokens.tail
    -- Any other reserved word is out of place where a command begins.
    | _, some _ => unexpected tokens none
    | .word _, _ | .stream _, _ => parseSimple fuel line [] [] [] tokens
    | .operator text, _ =>
      if (redirectionKind? text).isSome then parseSimple fuel line [] [] [] tokens
      else unexpected tokens none
    | _, _ => unexpected tokens none

/-- The words and redirections of a simple command behind those that are in reverse order. -/
def parseSimple : Nat → Nat → List Word → List Word → List Redirection → Tokens →
    Parsed (Script × Tokens)
  | 0, _, _, _, _, tokens => unexpected tokens none
  | fuel + 1, line, assignments, words, redirections, tokens =>
    match tokens with
    | (.word pieces, last) :: rest => do
      checkWord fuel last pieces
      -- Assignments only stand in front of the first word.
      if words.isEmpty && (assignment? pieces).isSome then
        parseSimple fuel line (pieces :: assignments) words redirections rest
      else parseSimple fuel line assignments (pieces :: words) redirections rest
    | (.operator ['('], _) :: rest =>
      -- A single word in front of a parenthesis is meant to name a function.
      match assignments, words, redirections with
      | [], [name], [] => parseDefinition fuel name rest
      | _, _, _ => unexpected tokens none
    | tokens => do
      match ← parseRedirection? fuel tokens with
      | some (redirection, rest) =>
        parseSimple fuel line assignments words (redirection :: redirections) rest
      | none =>
        return (.simple line assignments.reverse words.reverse redirections.reverse, tokens)

/-- The body of a command that is named, behind an opening parenthesis. -/
def parseDefinition : Nat → Word → Tokens → Parsed (Script × Tokens)
  | 0, _, tokens => unexpected tokens none
  | fuel + 1, name, tokens => do
    checkNext fuel tokens
    let rest ← expectParenthesis tokens
    let named := (Word.bare? name).filter fun cs =>
      isName cs && !specialCommands.contains (.ofList cs)
    match named with
    | none => throw (tokens.line, .badFunctionName)
    | some name =>
      let (body, rest) ← parseCommand fuel (skipNewlines rest)
      return (.definition tokens.line name body, rest)

/-- The redirection at the front, if there is one. -/
def parseRedirection? : Nat → Tokens → Parsed (Option (Redirection × Tokens))
  | 0, tokens => unexpected tokens none
  | fuel + 1, tokens =>
    let (stream, tokens) : Option Nat × Tokens := match tokens with
      | (.stream digit, _) :: rest => (some (digit.toNat - '0'.toNat), rest)
      | tokens => (none, tokens)
    match tokens with
    | (.operator text, _) :: rest =>
      match redirectionKind? text, rest with
      | none, _ => .ok none
      | some (kind, usual), (.word target, line) :: rest
      | some (kind, usual), (.document target, line) :: rest => do
        checkWord fuel line target
        return some (⟨stream.getD usual, kind, target⟩, rest)
      | some _, rest => unexpected rest none
    | tokens => do
      checkNext fuel tokens
      return none

/-- The redirections behind a compound command. -/
def parseRedirections : Nat → Tokens → Parsed (List Redirection × Tokens)
  | 0, tokens => unexpected tokens none
  | fuel + 1, tokens => do
    match ← parseRedirection? fuel tokens with
    | none => return ([], tokens)
    | some (redirection, rest) =>
      let (others, rest) ← parseRedirections fuel rest
      return (redirection :: others, rest)

/-- Adds the redirections behind a compound command. -/
def parseRedirected : Nat → Nat → Script → Tokens → Parsed (Script × Tokens)
  | 0, _, _, tokens => unexpected tokens none
  | fuel + 1, line, command, tokens => do
    let (redirections, rest) ← parseRedirections fuel tokens
    if redirections.isEmpty then return (command, rest)
    return (.redirected line command redirections, rest)

/-- The condition and the branches of a choice between two. -/
def parseBranch : Nat → Tokens → Parsed (Script × Tokens)
  | 0, tokens => unexpected tokens none
  | fuel + 1, tokens => do
    let (condition, rest) ← parseList fuel true tokens
    let (yes, rest) ← parseList fuel true (← expect "then" rest)
    match reserved? rest with
    | some "elif" =>
      let (no, rest) ← parseBranch fuel rest.tail
      return (.branch condition yes no, rest)
    | some "else" =>
      let (no, rest) ← parseList fuel true rest.tail
      return (.branch condition yes no, ← expect "fi" rest)
    | _ => return (.branch condition yes .nothing, ← expect "fi" rest)

/-- The condition and the body of a loop. -/
def parseLoop : Nat → Nat → Bool → Tokens → Parsed (Script × Tokens)
  | 0, _, _, tokens => unexpected tokens none
  | fuel + 1, line, outcome, tokens => do
    let (condition, rest) ← parseList fuel true tokens
    let (body, rest) ← parseBody fuel rest
    parseRedirected fuel line (.loop outcome condition body) rest

/-- The variable, the words and the body of a loop over words. -/
def parseFor : Nat → Nat → Tokens → Parsed (Script × Tokens)
  | 0, _, tokens => unexpected tokens none
  | fuel + 1, line, tokens =>
    match tokens with
    | (.word pieces, last) :: rest => do
      checkWord fuel last pieces
      let some name := (Word.bare? pieces).filter isName | throw (last, .badVariable)
      let behind := skipNewlines rest
      checkNext fuel behind
      let (words, rest) ← if reserved? behind = some "in" then do
          let (words, rest) ← parseWords fuel behind.tail
          match rest with
          | (.operator [';'], _) :: rest | (.newline, _) :: rest => pure (words, rest)
          | rest => unexpected rest none
        else match behind with
          | (.operator [';'], _) :: rest => pure ([everyArgument], rest)
          | rest => pure ([everyArgument], rest)
      let (body, rest) ← parseBody fuel (skipNewlines rest)
      parseRedirected fuel line (.forEach line name words body) rest
    | tokens => throw (tokens.line, .badVariable)

/-- The words at the front. -/
def parseWords : Nat → Tokens → Parsed (List Word × Tokens)
  | 0, tokens => unexpected tokens none
  | fuel + 1, tokens =>
    match tokens with
    | (.word pieces, line) :: rest => do
      checkWord fuel line pieces
      let (words, rest) ← parseWords fuel rest
      return (pieces :: words, rest)
    | tokens => .ok ([], tokens)

/-- The body of a loop. -/
def parseBody : Nat → Tokens → Parsed (Script × Tokens)
  | 0, tokens => unexpected tokens none
  | fuel + 1, tokens => do
    let (body, rest) ← parseList fuel true (← expect "do" tokens)
    return (body, ← expect "done" rest)

/-- The word and the cases of a choice between patterns. -/
def parseChoice : Nat → Nat → Tokens → Parsed (Script × Tokens)
  | 0, _, tokens => unexpected tokens none
  | fuel + 1, line, tokens =>
    match tokens with
    | (.word word, last) :: rest => do
      checkWord fuel last word
      checkNext fuel (skipNewlines rest)
      let rest ← expect "in" (skipNewlines rest)
      let (cases, rest) ← parseCases fuel (skipNewlines rest)
      parseRedirected fuel line (.choice line word cases) rest
    | tokens => unexpected tokens (some "word")

/-- The cases up to the word that closes them. -/
def parseCases : Nat → Tokens → Parsed (List (List Word × Script) × Tokens)
  | 0, tokens => unexpected tokens none
  | fuel + 1, tokens =>
    if reserved? tokens = some "esac" then .ok ([], tokens.tail)
    else do
      let opened := match tokens with
        | (.operator ['('], _) :: rest => rest
        | tokens => tokens
      let (patterns, rest) ← parsePatterns fuel opened
      let (body, rest) ← parseList fuel false rest
      let rest := skipNewlines rest
      match rest with
      | (.operator [';', ';'], _) :: rest =>
        let (cases, rest) ← parseCases fuel (skipNewlines rest)
        return ((patterns, body) :: cases, rest)
      | rest =>
        if reserved? rest = some "esac" then return ([(patterns, body)], rest.tail)
        else unexpected rest (some (inDoubleQuotes ";;"))

/-- The patterns of a case up to a closing parenthesis. -/
def parsePatterns : Nat → Tokens → Parsed (List Word × Tokens)
  | 0, tokens => unexpected tokens none
  | fuel + 1, tokens =>
    -- Whatever stands in the place of a pattern is only looked at together with what follows it.
    let (pattern, line, rest) : Word × Nat × Tokens := match tokens with
      | (.word pieces, line) :: rest => (pieces, line, rest)
      | [(.finish, line)] => ([], line, [(.finish, line)])
      | tokens => ([], tokens.line, tokens.tail)
    do
      checkWord fuel line pattern
      match rest with
      | (.operator ['|'], _) :: rest =>
        let (patterns, rest) ← parsePatterns fuel rest
        return (pattern :: patterns, rest)
      | rest => do
        checkNext fuel rest
        return ([pattern], ← expectParenthesis rest)

end

/-- What comes next in a text. -/
inductive Chunk where
  /-- The text is over. -/
  | finish
  | command (command : Script)

/-- The commands up to the end of a line behind those that are in reverse order. -/
def parseLineRest (fuel : Nat) : Nat → List Script → Tokens → Parsed (Script × Tokens)
  | 0, _, tokens => unexpected tokens none
  | count + 1, reversed, tokens =>
    match tokens.next with
    | .newline => .ok (together reversed, tokens.tail)
    | .finish => .ok (together reversed, tokens)
    | _ => do
      let (command, rest) ← parseAndOr fuel tokens
      match rest with
      | (.operator ['&'], _) :: rest => parseLineRest fuel count (.background command :: reversed) rest
      | (.operator [';'], _) :: rest => parseLineRest fuel count (command :: reversed) rest
      | (.newline, _) :: rest => return (together (command :: reversed), rest)
      | [(.finish, line)] => return (together (command :: reversed), [(.finish, line)])
      | rest => unexpected rest none

/-- How many calls the parser needs at most: every token and every character causes a few. -/
def fuelFor (size : Nat) : Nat := 16 * size + 64

/-- The tokens of the commands between backquotes, without what follows the commands. -/
def readBackquoted (source : List Char) : Tokens :=
  let tokens := readTokens source
  match parseList (fuelFor source.length) false tokens with
  | .ok (_, rest) => tokens.take (tokens.length - rest.length) ++ [(.finish, rest.line)]
  | .error _ => tokens

/-- The commands on the next line, with those that they go on in. -/
def parseLine (fuel : Nat) (tokens : Tokens) : Parsed (Chunk × Tokens) :=
  match tokens.next with
  | .finish => .ok (.finish, tokens)
  | _ => do
    let (command, rest) ← parseLineRest fuel fuel [] tokens
    return (.command command, rest)

end FormatPipeline.Shell
