import FormatPipeline.Shell.Word

/-! Reading a command line character by character by the rules of a POSIX shell. -/

namespace FormatPipeline.Shell

/-- What still has to be closed among the commands of a substitution. -/
inductive Opening where
  | parenthesis | choice
  deriving DecidableEq, Repr

/-- A text that follows as the input of a command. -/
structure Awaited where
  /-- The line that ends it. -/
  delimiter : List Char
  stripsTabs : Bool
  /-- Whether nothing in it is expanded. -/
  literal : Bool
  deriving DecidableEq, Repr

/-- What the word under way stands inside of; the outer parts are in reverse order. -/
inductive Enclosure where
  | double
  /-- The word of a parameter's form, between braces. -/
  | braces (outer : Word) (name : List Char) (form : Form) (emptyIsMissing inQuotes : Bool)
  | arithmetic (outer : Word) (depth : Nat) (inQuotes : Bool)
  /-- The commands of a substitution, and what was awaited in front of them. -/
  | commands (outer : Word) (tokens : Tokens) (openings : List Opening) (pending : List Awaited)
      (inQuotes : Bool)
  /-- A text without words, which a line may end. -/
  | document (awaited : Option Awaited)

/-- How far a parameter between braces has been read; names are in reverse order. -/
inductive Braced where
  | start
  | hash
  /-- Behind a hash sign and another sign. -/
  | hashThen (sign : Char)
  | name (reversed : List Char) (length : Bool)
  | form (name : List Char)
  | colon (name : List Char)
  /-- Behind the first of perhaps two signs that ask for a trim. -/
  | trim (name : List Char) (sign : Char)
  deriving DecidableEq, Repr

/-- What the next character is read as. -/
inductive Mode where
  | text
  | comment
  | single
  /-- Behind the beginning of an operator that may go on. -/
  | operator (beginning : List Char)
  | dollar
  /-- Behind a dollar sign and a parenthesis. -/
  | parenthesis
  | name (reversed : List Char)
  | braced (braced : Braced)
  /-- Behind one of the two parentheses that close an arithmetic expression. -/
  | closing
  | backquotes (reversed : List Char)
  /-- In a line that may end a text; what was read of it, in reverse order, is held back. -/
  | margin (single : Bool) (held : List Char)
  deriving DecidableEq, Repr

/-- What has been read of a command line, the last token and the last piece first. -/
structure Reader where
  tokens : Tokens
  word : Option Word
  inside : List Enclosure
  mode : Mode
  line : Nat
  /-- Whether the last character was a backslash that goes with the next one. -/
  escaping : Bool
  /-- The texts that begin behind the end of the line. -/
  pending : List Awaited

namespace Reader

/-- Nothing has been read. -/
def initial : Reader := ⟨[], none, [], .text, 1, false, []⟩

/-- Adds a piece to the word under way, or begins a word with it. -/
def add (r : Reader) (piece : Piece) : Reader := { r with word := some (piece :: r.word.getD []) }

/-- Changes how the next character is read. -/
def enter (r : Reader) (mode : Mode) : Reader := { r with mode := mode }

/-- Whether what is read stands inside quotes. -/
def inQuotes (r : Reader) : Bool :=
  match r.inside with
  | .double :: _ | .arithmetic .. :: _ | .document _ :: _ => true
  | .braces _ _ form _ inQuotes :: _ =>
    -- A pattern between braces begins without quotes again.
    inQuotes && match form with
      | .trim .. => false
      | _ => true
  | .commands .. :: _ | [] => false

/-- The words behind which a command begins. -/
def leadingWords : List String :=
  ["!", "\x7b", "do", "elif", "else", "if", "in", "then", "until", "while"]

/-- Whether a command can begin behind the tokens. -/
def beginsCommand (tokens : Tokens) : Bool :=
  match tokens with
  | [] => true
  | (.word pieces, _) :: _ => (Word.bare? pieces).any fun cs => leadingWords.contains (.ofList cs)
  | (.operator text, _) :: _ => text.head? != some '<' && text.head? != some '>'
  | (.newline, _) :: _ => true
  | _ => false

/-- What is left to be closed behind a token. -/
def reopen (tokens : Tokens) (openings : List Opening) : Token → List Opening
  | .operator ['('] => .parenthesis :: openings
  | .operator [')'] =>
    match openings with
    | .parenthesis :: rest => rest
    | openings => openings
  | .word pieces =>
    match (Word.bare? pieces).map String.ofList, openings with
    | some "case", openings => if beginsCommand tokens then .choice :: openings else openings
    | some "esac", .choice :: rest => if beginsCommand tokens then rest else .choice :: rest
    | _, openings => openings
  | _ => openings

/-- Adds a token; the end of a line belongs to the next one. -/
def push (r : Reader) (token : Token) : Reader :=
  let inside := match r.inside with
    | .commands outer tokens openings pending inQuotes :: rest =>
      .commands outer tokens (reopen r.tokens openings token) pending inQuotes :: rest
    | inside => inside
  let line := match token with
    | .newline => r.line + 1
    | _ => r.line
  { r with tokens := (token, line) :: r.tokens, inside := inside }

/-- Ends the word under way; behind two angle brackets it announces a text. -/
def close (r : Reader) : Reader :=
  match r.word with
  | none => r
  | some reversed =>
    let pieces := reversed.reverse
    let r := { r with word := none }
    let announce (stripsTabs : Bool) : Reader :=
      let literal := !Word.isUnquoted pieces
      { r.push (.document []) with
        pending := r.pending ++ [⟨Word.literal pieces, stripsTabs, literal⟩] }
    match r.tokens, pieces.any (· matches .broken .quotes) with
    | (.operator ['<', '<'], _) :: _, false => announce false
    | (.operator ['<', '<', '-'], _) :: _, false => announce true
    | _, _ => r.push (.word pieces)

/-- Ends the word under way in front of a redirection, whose stream it may be. -/
def closeStream (r : Reader) : Reader :=
  match r.word with
  | some [.plain c] => if c.isDigit then { r with word := none }.push (.stream c) else r.close
  | _ => r.close

/-- Begins the text that was announced first, if there is one. -/
def beginDocument (r : Reader) : Reader :=
  match r.pending with
  | [] => r.enter .text
  | awaited :: rest =>
    { r with
      word := some []
      inside := .document (some awaited) :: r.inside
      mode := .margin false []
      pending := rest }

/-- Puts a text, and the line behind it, where it was announced; the waiting places are the last
ones of their kind. -/
def fill (later : Nat) (pieces : Word) (last : Nat) : Tokens → Tokens
  | [] => []
  | (.document empty, line) :: rest =>
    match later with
    | 0 => (.document pieces, last) :: rest
    | later + 1 => (.document empty, line) :: fill later pieces last rest
  | token :: rest => token :: fill later pieces last rest

/-- Takes the word under way for a text in front of a line. -/
def fillDocument (r : Reader) (line : Nat) : Reader :=
  { r with
    tokens := fill r.pending.length (r.word.getD []).reverse line r.tokens
    word := none }

/-- Begins something inside of which a word of its own is read. -/
def descend (r : Reader) (enclosure : Enclosure) : Reader :=
  { r with word := some [], inside := enclosure :: r.inside, mode := .text }

/-- Begins the commands of a substitution. -/
def beginCommands (r : Reader) : Reader :=
  { r with
    tokens := []
    word := none
    inside := .commands (r.word.getD []) r.tokens [] r.pending r.inQuotes :: r.inside
    mode := .text
    pending := [] }

/-- Ends the commands of a substitution; nothing follows any more as the input of one of them. -/
def endCommands (r : Reader) (outer : Word) (tokens : Tokens) (pending : List Awaited)
    (inQuotes : Bool) (inside : List Enclosure) : Reader :=
  { r with
    tokens := tokens
    word := some (.substitution r.tokens.reverse inQuotes :: outer)
    inside := inside
    mode := .text
    pending := pending }

/-- Whether what is read belongs to a text without words, where quotes have no meaning. -/
def isInDocument : List Enclosure → Bool
  | [] | .commands .. :: _ => false
  | .document _ :: _ => true
  | _ :: rest => isInDocument rest

/-- The text that the next line may end. -/
def document? : List Enclosure → Option Awaited
  | [] | .commands .. :: _ => none
  | .document awaited :: _ => awaited
  | _ :: rest => document? rest

/-- Marks where the text breaks off inside of something. -/
def breakOff (r : Reader) (inside : List Enclosure) : Reader :=
  match r.mode, inside with
  | .backquotes _, _ => r.add (.broken .backquotes)
  | .single, inside | _, inside@(.double :: _) =>
    r.add (.broken (if isInDocument inside then .braces else .quotes))
  | _, .arithmetic .. :: _ => r.add (.broken .arithmetic)
  | _, inside@(.braces .. :: _) =>
    r.add (.broken (if r.inQuotes && !isInDocument inside then .quotes else .braces))
  | .braced _, _ => r.add (.broken .braces)
  | _, _ => r

/-- Leaves everything that the text breaks off in. -/
def unwind (r : Reader) : List Enclosure → Reader
  | [] => r
  | .double :: rest | .document none :: rest => r.unwind rest
  | .document (some _) :: rest => (r.fillDocument r.line).unwind rest
  | .braces outer name _ _ inQuotes :: rest =>
    let piece := .parameter name .unknown false (r.word.getD []).reverse inQuotes
    ({ r with word := some (piece :: outer) } : Reader).unwind rest
  | .arithmetic outer _ inQuotes :: rest =>
    let piece := .arithmetic (r.word.getD []).reverse inQuotes
    ({ r with word := some (piece :: outer) } : Reader).unwind rest
  | .commands outer tokens _ pending inQuotes :: rest =>
    let r := { r with inside := [] }.close.push .finish
    (r.endCommands outer tokens pending inQuotes rest).unwind rest

/-- Ends a text without words, and everything that is still open in it, with the line that was
awaited. -/
def endDocument (r : Reader) : Reader :=
  let parts := r.inside.takeWhile fun part => !(part matches .document _)
  let r := ((r.breakOff r.inside).unwind parts).fillDocument (r.line + 1)
  { r with inside := r.inside.drop (parts.length + 1) }.beginDocument

/-- Whether the word under way tells how a text ends, in which nothing is ever expanded. -/
def namesDelimiter (r : Reader) : Bool :=
  match r.tokens with
  | (.operator ['<', '<'], _) :: _ | (.operator ['<', '<', '-'], _) :: _ => true
  | _ => false

/-- Reads a sign with which an expansion begins. -/
def beginExpansion (r : Reader) (sign : Char) (mode : Mode) : Reader :=
  if r.namesDelimiter then r.add (if r.inQuotes then .quoted sign else .plain sign) else r.enter mode

/-- Reads a closing parenthesis outside quotes. -/
def closeParenthesis (r : Reader) : Reader :=
  let r := r.close
  match r.inside with
  | .commands outer tokens [] pending inQuotes :: inside =>
    (r.push (.operator [')'])).endCommands outer tokens pending inQuotes inside
  | _ => r.push (.operator [')'])

/-- Reads a character outside quotes, where blanks and operators end words. -/
def stepBare (r : Reader) (c : Char) : Reader :=
  match c with
  | '\'' => (r.add .quotes).enter .single
  | '"' => { r.add .quotes with inside := .double :: r.inside }
  | '$' => r.beginExpansion c .dollar
  | '\x60' => r.beginExpansion c (.backquotes [])
  | '\n' => (r.close.push .newline).beginDocument
  | ' ' | '\t' => r.close
  | '(' => r.close.push (.operator ['('])
  | ')' => r.closeParenthesis
  | '&' | '|' | ';' => r.close.enter (.operator [c])
  | '<' | '>' => r.closeStream.enter (.operator [c])
  | '#' => if r.word.isNone then r.enter .comment else r.add (.plain c)
  | c => r.add (.plain c)

/-- A word without the quotes that stand around all arguments and nothing else. -/
def dropQuotes : Word → Word
  | .parameter ['@'] .value false [] true :: .quotes :: rest =>
    .parameter ['@'] .value false [] true :: rest
  | reversed => reversed

/-- Reads a character between double quotes. -/
def stepDouble (r : Reader) (c : Char) : Reader :=
  match c with
  | '"' => { r with word := r.word.map dropQuotes, inside := r.inside.tail }
  | '$' => r.beginExpansion c .dollar
  | '\x60' => r.beginExpansion c (.backquotes [])
  | c => r.add (.quoted c)

/-- Ends the word of a parameter's form. -/
def closeBraces (r : Reader) (outer : Word) (name : List Char) (form : Form)
    (emptyIsMissing inQuotes : Bool) : Reader :=
  let piece := .parameter name form emptyIsMissing (r.word.getD []).reverse inQuotes
  { r with word := some (piece :: outer), inside := r.inside.tail }

/-- Reads a character of the word of a parameter's form. -/
def stepBraces (r : Reader) (c : Char) : Reader :=
  match c with
  | '"' => { r.add .quotes with inside := .double :: r.inside }
  | '$' => r.enter .dollar
  | '\x60' => r.enter (.backquotes [])
  | '\'' => if r.inQuotes then r.add (.quoted c) else (r.add .quotes).enter .single
  | c => r.add (if r.inQuotes then .quoted c else .plain c)

/-- Reads a character of an arithmetic expression. -/
def stepArithmetic (r : Reader) (outer : Word) (depth : Nat) (inQuotes : Bool) (c : Char) : Reader :=
  let deepen (depth : Nat) : Reader :=
    { r.add (.plain c) with inside := .arithmetic outer depth inQuotes :: r.inside.tail }
  match c, depth with
  | '$', _ => r.enter .dollar
  | '\x60', _ => r.enter (.backquotes [])
  | '(', depth => deepen (depth + 1)
  | ')', depth + 1 => deepen depth
  | ')', 0 => r.enter .closing
  | c, _ => r.add (.plain c)

/-- Reads a character of a text without words. -/
def stepDocument (r : Reader) (awaited : Option Awaited) (c : Char) : Reader :=
  if awaited.any (·.literal) then r.add (.quoted c)
  else match c with
  | '$' => r.enter .dollar
  | '\x60' => r.enter (.backquotes [])
  | c => r.add (.quoted c)

/-- Reads a character by what it stands inside of. -/
def stepText (r : Reader) (c : Char) : Reader :=
  match r.inside with
  | [] | .commands .. :: _ => r.stepBare c
  | .double :: _ => r.stepDouble c
  | .braces outer name form emptyIsMissing inQuotes :: _ =>
    if c = '\x7d' then r.closeBraces outer name form emptyIsMissing inQuotes else r.stepBraces c
  | .arithmetic outer depth inQuotes :: _ => r.stepArithmetic outer depth inQuotes c
  | .document awaited :: _ => r.stepDocument awaited c

/-- Ends an expansion that its word has not begun yet. -/
def addParameter (r : Reader) (name : List Char) (form : Form) : Reader :=
  (r.add (.parameter name form false [] r.inQuotes)).enter .text

/-- Begins the word of a parameter's form. -/
def beginBraces (r : Reader) (name : List Char) (form : Form) (emptyIsMissing : Bool) : Reader :=
  r.descend (.braces (r.word.getD []) name form emptyIsMissing r.inQuotes)

/-- The form that a sign behind a parameter asks for. -/
def formOf? : Char → Option Form
  | '-' => some .substitute
  | '=' => some .assign
  | '+' => some .alternative
  | '?' => some .demand
  | _ => none

/-- Reads the sign behind the name of a parameter between braces. -/
def stepForm (r : Reader) (name : List Char) (c : Char) : Reader :=
  match c with
  | '\x7d' => r.addParameter name .value
  | ':' => r.enter (.braced (.colon name))
  | '%' | '#' => r.enter (.braced (.trim name c))
  | c => r.beginBraces name ((formOf? c).getD .unknown) false

/-- Reads the character behind a hash sign and another one at the beginning of a parameter. -/
def stepHashThen (r : Reader) (sign c : Char) : Reader :=
  if c = '\x7d' then
    if isSpecial sign then r.addParameter [sign] .length else r.addParameter [] .unknown
  -- The hash sign is the parameter, and the other sign is its form.
  else (r.enter .text).stepForm ['#'] sign |> fun r =>
    match r.mode with
    | .braced (.colon name) => r.beginBraces name ((formOf? c).getD .unknown) true
    | .braced (.trim name sign) =>
      let form := .trim (sign == '%') (c == sign)
      let r := r.beginBraces name form false
      if c = sign then r else r.stepText c
    | _ => r.stepText c

/-- Reads a character of a parameter between braces. -/
def stepBraced (r : Reader) (braced : Braced) (c : Char) : Reader :=
  match braced with
  | .start =>
    if isNameStart c ∨ c.isDigit then r.enter (.braced (.name [c] false))
    else if c = '#' then r.enter (.braced .hash)
    else if isSpecial c then r.enter (.braced (.form [c]))
    else if c = '\x7d' then r.addParameter [] .unknown
    else r.beginBraces [] .unknown false
  | .hash =>
    if isNameChar c then r.enter (.braced (.name [c] true))
    else if c = '\x7d' then r.addParameter ['#'] .value
    else r.enter (.braced (.hashThen c))
  | .hashThen sign => r.stepHashThen sign c
  | .name reversed length =>
    -- A parameter that begins with a digit is a number.
    let goesOn := if reversed.getLast?.any (·.isDigit) then c.isDigit else isNameChar c
    if goesOn then r.enter (.braced (.name (c :: reversed) length))
    else if !length then r.stepForm reversed.reverse c
    else if c = '\x7d' then r.addParameter reversed.reverse .length
    else (r.beginBraces reversed.reverse .unknown false).stepText c
  | .form name => r.stepForm name c
  | .colon name => r.beginBraces name ((formOf? c).getD .unknown) true
  | .trim name sign =>
    if c = sign then r.beginBraces name (.trim (sign == '%') true) false
    else (r.beginBraces name (.trim (sign == '%') false) false).stepText c

/-- Reads the character behind a dollar sign. -/
def stepDollar (r : Reader) (c : Char) : Reader :=
  if c = '(' then r.enter .parenthesis
  else if c = '\x7b' then r.enter (.braced .start)
  else if isNameStart c then r.enter (.name [c])
  else if isSpecial c then r.addParameter [c] .value
  -- Before anything else the dollar sign stands for itself.
  else ((r.add (if r.inQuotes then .quoted '$' else .plain '$')).enter .text).stepText c

/-- Whether an operator goes on with a character. -/
def extends? (beginning : List Char) (c : Char) : Bool :=
  match beginning with
  | ['<'] => c == '<' || c == '&' || c == '>'
  | ['>'] => c == '>' || c == '&' || c == '|'
  | ['<', '<'] => c == '-'
  | [first] => c == first
  | _ => false

/-- Reads a character behind the beginning of an operator. -/
def stepOperator (r : Reader) (beginning : List Char) (c : Char) : Reader :=
  let whole := beginning ++ [c]
  if extends? beginning c then
    if whole = ['<', '<'] then r.enter (.operator whole) else (r.push (.operator whole)).enter .text
  else ((r.push (.operator beginning)).enter .text).stepText c

/-- Reads the character behind one of the parentheses that close an arithmetic expression. -/
def stepClosing (r : Reader) (c : Char) : Reader :=
  match r.inside with
  | .arithmetic outer _ inQuotes :: inside =>
    if c = ')' then
      { r with
        word := some (.arithmetic (r.word.getD []).reverse inQuotes :: outer)
        inside := inside
        mode := .text }
    else ((r.add (.plain ')')).enter .text).stepText c
  | _ => (r.enter .text).stepText c

/-- Reads a character that is no escaped one. -/
def stepChar (r : Reader) (c : Char) : Reader :=
  match r.mode with
  | .text => r.stepText c
  | .comment => if c = '\n' then (r.enter .text).stepText c else r
  | .single => if c = '\'' then r.enter .text else r.add (.quoted c)
  | .operator beginning => r.stepOperator beginning c
  | .dollar => r.stepDollar c
  | .parenthesis =>
    if c = '(' then r.descend (.arithmetic (r.word.getD []) 0 r.inQuotes)
    else r.beginCommands.stepText c
  | .name reversed =>
    if isNameChar c then r.enter (.name (c :: reversed))
    else (r.addParameter reversed.reverse .value).stepText c
  | .braced braced => r.stepBraced braced c
  | .closing => r.stepClosing c
  | .backquotes reversed =>
    if c = '\x60' then (r.add (.backquoted reversed.reverse r.inQuotes)).enter .text
    else r.enter (.backquotes (c :: reversed))
  -- What is held back is given up before anything else is read.
  | .margin .. => r

/-- What has been read when nothing more belongs to an operator or a name. -/
def settle (r : Reader) : Reader :=
  match r.mode with
  | .operator beginning => (r.push (.operator beginning)).enter .text
  | .dollar => (r.add (if r.inQuotes then .quoted '$' else .plain '$')).enter .text
  | .parenthesis => r.beginCommands
  | .name reversed => r.addParameter reversed.reverse .value
  | .closing => (r.add (.plain ')')).enter .text
  | _ => r

/-- Whether a backslash between quotes takes away the meaning of a character. -/
def escapesInQuotes (r : Reader) (c : Char) : Bool :=
  c == '$' || c == '\x60' || c == '\\' || match r.inside with
    | .document _ :: _ => false
    | .braces .. :: _ => c == '"' || c == '\x7d'
    | _ => c == '"'

/-- Reads an escaped character by what it stands inside of. -/
def stepEscapedText (r : Reader) (c : Char) : Reader :=
  if r.inQuotes ∧ ¬ r.escapesInQuotes c then
    -- In front of any other character the backslash stands for itself.
    (r.add (.quoted '\\')).add (.quoted c)
  else r.add (.quoted c)

/-- Reads a character behind a backslash that goes with it. -/
def stepEscaped (r : Reader) (c : Char) : Reader :=
  match r.mode with
  | .braced _ => (r.stepChar '\\').stepChar c
  | .backquotes reversed =>
    let bare := c == '$' || c == '\x60' || c == '\\' || (c == '"' && r.inQuotes)
    r.enter (.backquotes (if bare then c :: reversed else c :: '\\' :: reversed))
  | _ => r.settle.stepEscapedText c

/-- Whether a backslash goes with the next character. -/
def takesEscapes (r : Reader) : Bool :=
  match r.mode, r.inside with
  | .comment, _ | .single, _ => false
  | _, .document (some awaited) :: _ => !awaited.literal
  | _, _ => true

/-- Reads a character without counting lines. -/
def advance (r : Reader) (c : Char) : Reader :=
  if r.escaping then
    let r := { r with escaping := false }
    -- Together with the end of its line a backslash disappears.
    if c = '\n' then r else r.stepEscaped c
  else if c = '\\' ∧ r.takesEscapes then { r with escaping := true }
  else r.stepChar c

/-- Whether the end of a line is one where the next character stands, and not the sign behind the
name of a parameter. -/
def endsLine (r : Reader) : Bool :=
  match r.mode with
  | .braced (.hashThen _) | .braced (.trim ..) | .braced (.name _ true) => true
  | .braced _ => r.escaping
  | _ => true

/-- Reads a character of the text itself; behind the end of a line there may be the line that was
awaited. -/
def read (r : Reader) (c : Char) : Reader :=
  let later := r.advance c
  if c = '\n' ∧ r.endsLine ∧ !r.escaping ∧ (document? later.inside).isSome then
    match later.mode with
    | .text => later.enter (.margin false [])
    | .single => later.enter (.margin true [])
    | _ => later
  else later

/-- Goes on with a text in the characters that were held back. -/
def release (r : Reader) (single : Bool) (held : List Char) : Reader :=
  held.reverse.foldl advance (r.enter (if single then .single else .text))

/-- Reads a character of a line that may be the one that was awaited. -/
def stepMargin (r : Reader) (single : Bool) (held : List Char) (c : Char) : Reader :=
  match document? r.inside with
  | none => (r.release single held).read c
  | some awaited =>
    -- A backslash at the beginning of the line takes away the end of it.
    if r.escaping ∧ c = '\n' then { r with escaping := false }
    else if r.escaping then (r.release single []).read c
    else if c = '\\' ∧ held = [] ∧ (r.release single []).takesEscapes then { r with escaping := true }
    else if c = '\t' ∧ held = [] ∧ awaited.stripsTabs then r
    else if c = '\n' ∧ held.reverse = awaited.delimiter then (r.release single []).endDocument
    else if c ≠ '\n' ∧ (c :: held).reverse.isPrefixOf awaited.delimiter then
      r.enter (.margin single (c :: held))
    else (r.release single held).read c

/-- Reads a character. -/
def step (r : Reader) (c : Char) : Reader :=
  let later := match r.mode with
    | .margin single held => r.stepMargin single held c
    | _ => r.read c
  if c = '\n' ∧ r.endsLine then { later with line := later.line + 1 } else later

/-- What has been read when a line that may be the one that was awaited is complete. -/
def settleMargin (r : Reader) : Reader :=
  match r.mode with
  | .margin single held =>
    if (document? r.inside).any (·.delimiter == held.reverse) then (r.release single []).endDocument
    else r.release single held
  | _ => r

/-- What has been read when the text ends. -/
def conclude (r : Reader) : Reader :=
  let r := r.settleMargin
  let r := if r.escaping then { r with escaping := false }.stepEscaped '\\' else r
  let r := r.settle
  (r.breakOff r.inside).unwind r.inside

/-- The tokens, the last of which is the end of the text. -/
def finish (r : Reader) : Tokens :=
  ({ r.conclude with inside := [] }.close.push .finish).tokens.reverse

end Reader

/-- The tokens of a command line, the last of which is its end. -/
def readTokens (line : List Char) : Tokens := (line.foldl Reader.step .initial).finish

/-- What is expanded in a text without words. -/
def readTemplate (text : List Char) : Word :=
  let start := { Reader.initial with inside := [.document none] }
  ((text.foldl Reader.step start).conclude.word.getD []).reverse

end FormatPipeline.Shell
