import FormatPipeline.Sandbox.Job
import FormatPipeline.Shell.Number
import FormatPipeline.Text.Named

/-! The conditions that a shell's command for tests knows. -/

namespace FormatPipeline.Sandbox

/-- What a word of a condition can be. -/
inductive ConditionWord where
  | operand
  /-- An operator in front of a text. -/
  | unary
  /-- An operator between two texts. -/
  | binary
  | not | and | or | opening | closing
  deriving DecidableEq, Repr

/-- What a word is as long as nothing around it is known. -/
def ConditionWord.of (word : String) : ConditionWord :=
  if ["-r", "-w", "-x", "-e", "-f", "-d", "-c", "-b", "-p", "-u", "-g", "-k", "-s", "-t", "-z", "-n",
      "-h", "-O", "-G", "-L", "-S"].contains word then .unary
  else if ["=", "!=", "<", ">", "-eq", "-ne", "-ge", "-gt", "-le", "-lt", "-nt", "-ot",
      "-ef"].contains word then .binary
  else match word with
    | "!" => .not
    | "-a" => .and
    | "-o" => .or
    | "(" => .opening
    | ")" => .closing
    | _ => .operand

/-- What the first word is in front of the others; nothing if there is none. -/
def ConditionWord.first? : List String → Option ConditionWord
  | [] => none
  | [word] =>
    match of word with
    | .unary | .opening => some .operand
    | kind => some kind
  | [word, _] => some (of word)
  | word :: next :: _ :: _ =>
    -- In front of an operator between texts an operator is a text.
    if of word = .unary ∧ of next = .binary then some .operand else some (of word)

/-- Why a condition makes no sense. -/
inductive ConditionFault where
  | unexpectedOperator (word : String)
  | argumentExpected (operator : String)
  | parenthesisExpected
  | badNumber (text : String)
  deriving DecidableEq, Repr

/-- What is said about a condition that makes no sense. -/
def ConditionFault.message : ConditionFault → String
  | unexpectedOperator "" => "unexpected operator"
  | unexpectedOperator word => word ++ ": unexpected operator"
  | argumentExpected operator => operator ++ ": argument expected"
  | parenthesisExpected => "closing paren expected"
  | badNumber text => "Illegal number: " ++ text

/-- What the program of the same name says about a condition that makes no sense, from all its words. -/
def ConditionFault.toolMessage (words : List String) : ConditionFault → String
  | badNumber text => "invalid integer " ++ Text.cited text
  | argumentExpected operator => "missing argument after " ++ Text.cited operator
  | parenthesisExpected => "')' expected"
  | unexpectedOperator word =>
    match words with
    | [first, second] =>
      if first.startsWith "-" ∧ first.length = 2 then Text.cited first ++ ": unary operator expected"
      else "missing argument after " ++ Text.cited second
    | [_, operator, _] => Text.cited operator ++ ": binary operator expected"
    | _ => "extra argument " ++ Text.cited word

/-- Whether a stream is what a queue is read from or written to. -/
def isQueue (job : Job) (stream : Nat) : Bool :=
  match job.channel? stream with
  | some (_, .queue _) => true
  | _ => false

/-- Whether a condition about one text holds. -/
def unaryHolds (job : Job) (operator text : String) : Bool :=
  let found := job.find? text
  let isOpen := (streamFile? text).any fun stream => (job.endpoint? stream).isSome
  match operator with
  | "-n" => !text.isEmpty
  | "-z" => text.isEmpty
  | "-e" | "-r" | "-w" | "-O" | "-G" => found.isSome || isOpen
  | "-f" => match found with
    | some (.file ..) | some (.tool _) => true
    | _ => false
  | "-d" => found == some .directory
  | "-c" => found == some .drain
  | "-p" => (streamFile? text).any (isQueue job ·)
  | "-x" => Tree.isRunnable found || found == some .directory
  | "-s" => match found with
    | some (.file content _) => !content.isEmpty
    | some .drain => false
    | found => found.isSome
  | "-h" | "-L" => match job.tree.find? job.directory false text with
    | some (.link _) => true
    | _ => (streamFile? text).isSome
  | _ => false

/-- The number that a text consists of, with blanks around it. -/
def conditionNumber (text : String) : Except ConditionFault Int :=
  let isBlank (c : Char) : Bool := c == ' ' || (9 ≤ c.toNat && c.toNat ≤ 13)
  let cs := text.toList.dropWhile isBlank
  let (sign, cs) : Int × List Char := match cs with
    | '-' :: rest => (-1, rest)
    | '+' :: rest => (1, rest)
    | cs => (1, cs)
  let digits := cs.takeWhile (·.isDigit)
  let value := sign * (Shell.ofDigits 10 digits : Int)
  if digits.isEmpty ∨ ¬ (cs.drop digits.length).all isBlank ∨ Shell.saturate value ≠ value then
    .error (.badNumber text)
  else .ok value

/-- Whether a comparison of two texts holds. -/
def binaryHolds (job : Job) (first operator second : String) : Except ConditionFault Bool := do
  let compare (holds : Int → Int → Bool) : Except ConditionFault Bool := do
    let a ← conditionNumber first
    return holds a (← conditionNumber second)
  let place? (text : String) : Option Place :=
    (job.tree.inspect job.directory true text).toOption.map (·.1)
  match operator with
  | "=" => return first == second
  | "!=" => return first != second
  | "<" => return first < second
  | ">" => return second < first
  | "-eq" => compare fun a b => a == b
  | "-ne" => compare fun a b => a != b
  | "-lt" => compare fun a b => a < b
  | "-le" => compare fun a b => a ≤ b
  | "-gt" => compare fun a b => b < a
  | "-ge" => compare fun a b => b ≤ a
  | "-ef" => return (place? first).isSome && place? first == place? second
  | _ => return false

/-- The truth of a part of a condition, the last word of it, and the words behind it. -/
abbrev Judged := Except ConditionFault (Bool × Option String × List String)

mutual

/-- Conditions of which one has to hold; the first word may be known to be a text. -/
def judgeAny : Nat → Job → Bool → List String → Judged
  | 0, _, _, words => .ok (false, none, words)
  | fuel + 1, job, isText, words => do
    let (holds, last, rest) ← judgeAll fuel job isText words
    match ConditionWord.first? rest with
    | some .or =>
      let (others, last, rest) ← judgeAny fuel job false rest.tail
      return (holds || others, last, rest)
    | _ => return (holds, last, rest)

/-- Conditions all of which have to hold. -/
def judgeAll : Nat → Job → Bool → List String → Judged
  | 0, _, _, words => .ok (false, none, words)
  | fuel + 1, job, isText, words => do
    let (holds, last, rest) ← judgeNot fuel job isText words
    match ConditionWord.first? rest with
    | some .and =>
      let (others, last, rest) ← judgeAll fuel job false rest.tail
      return (holds && others, last, rest)
    | _ => return (holds, last, rest)

/-- A condition that may be turned over. -/
def judgeNot : Nat → Job → Bool → List String → Judged
  | 0, _, _, words => .ok (false, none, words)
  | fuel + 1, job, isText, words =>
    if !isText && ConditionWord.first? words == some .not then
      if words.tail.isEmpty then .ok (true, words.head?, [])
      else do
        let (holds, last, rest) ← judgeNot fuel job false words.tail
        return (!holds, last, rest)
    else judgeOne fuel job isText words

/-- A single condition. -/
def judgeOne : Nat → Job → Bool → List String → Judged
  | 0, _, _, words => .ok (false, none, words)
  | fuel + 1, job, isText, words =>
    match words, if isText then some .operand else ConditionWord.first? words with
    | [], _ | _, none => .ok (false, none, [])
    | _ :: rest, some .opening =>
      if ConditionWord.first? rest = some .closing then .ok (false, rest.head?, rest.tail)
      else do
        let (holds, _, rest) ← judgeAny fuel job false rest
        match rest with
        | ")" :: rest => return (holds, some ")", rest)
        | _ => throw .parenthesisExpected
    | operator :: rest, some .unary =>
      match rest with
      | [] => .error (.argumentExpected operator)
      | text :: rest =>
        if operator = "-t" then do
          let _ ← conditionNumber text
          return (false, some text, rest)
        else .ok (unaryHolds job operator text, some text, rest)
    | first :: rest, _ =>
      match ConditionWord.first? rest, rest with
      | some .binary, operator :: second :: rest => do
        return (← binaryHolds job first operator second, some second, rest)
      | some .binary, operator :: _ => .error (.argumentExpected operator)
      | _, rest => .ok (!first.isEmpty, some first, rest)

end

/-- Whether a condition holds that is read from its first word on. -/
def judge (job : Job) (isText : Bool) (words : List String) : Except ConditionFault Bool := do
  let (holds, last, rest) ← judgeAny (6 * words.length + 6) job isText words
  match last, rest with
  | some word, _ :: _ => throw (.unexpectedOperator word)
  | _, _ => return holds

/-- Whether a condition holds; short ones are read by their length. -/
def condition (job : Job) (words : List String) : Except ConditionFault Bool :=
  match words with
  | [] => .ok false
  | [first, operator, second] =>
    if ConditionWord.of operator = .binary then judge job true words
    else if first = "(" ∧ second = ")" then judge job false [operator]
    else if first = "!" then (condition job [operator, second]).map (!·)
    else judge job false words
  | [first, second, third, fourth] =>
    if first = "(" ∧ fourth = ")" then judge job false [second, third]
    else if first = "!" then (condition job [second, third, fourth]).map (!·)
    else judge job false words
  | words => judge job false words

end FormatPipeline.Sandbox
