import FormatPipeline.Shell.Number
import FormatPipeline.Shell.Word

/-! Arithmetic expressions of a shell over whole numbers of sixty-four bits. -/

namespace FormatPipeline.Shell.Arithmetic

/-- Operators with two operands. -/
inductive Operator where
  | mul | div | rem | add | sub | shiftLeft | shiftRight
  | lt | le | gt | ge | eq | ne | bitAnd | bitXor | bitOr
  deriving DecidableEq, Repr

/-- What an expression is made of. -/
inductive Symbol where
  | number (value : Int)
  | name (name : String)
  | operator (operator : Operator)
  /-- An assignment, perhaps of the outcome of an operator. -/
  | assign (operator : Option Operator)
  | and | or | not | complement | question | colon | opening | closing
  /-- Nothing that could be part of an expression. -/
  | unknown
  deriving DecidableEq, Repr

/-- Why an expression has no value. -/
inductive Fault where
  | expectingPrimary | expectingParenthesis | expectingColon | expectingEnd | divisionByZero
  /-- The value of a variable is no number. -/
  | badNumber (text : String)
  deriving DecidableEq, Repr

/-- What is said about an expression without a value. -/
def Fault.message (expression : String) : Fault → String
  | badNumber text => "Illegal number: " ++ text
  | fault =>
    "arithmetic expression: " ++ (match fault with
      | expectingPrimary => "expecting primary"
      | expectingParenthesis => "expecting ')'"
      | expectingColon => "expecting ':'"
      | expectingEnd => "expecting EOF"
      | _ => "division by zero") ++ ": \"" ++ expression ++ "\""

/-- The symbols that are written with one or two signs, without an equals sign behind them. -/
def sign? : List Char → Option (Symbol × List Char)
  | '<' :: '<' :: rest => some (.operator .shiftLeft, rest)
  | '>' :: '>' :: rest => some (.operator .shiftRight, rest)
  | '<' :: '=' :: rest => some (.operator .le, rest)
  | '>' :: '=' :: rest => some (.operator .ge, rest)
  | '=' :: '=' :: rest => some (.operator .eq, rest)
  | '!' :: '=' :: rest => some (.operator .ne, rest)
  | '&' :: '&' :: rest => some (.and, rest)
  | '|' :: '|' :: rest => some (.or, rest)
  | '*' :: rest => some (.operator .mul, rest)
  | '/' :: rest => some (.operator .div, rest)
  | '%' :: rest => some (.operator .rem, rest)
  | '+' :: rest => some (.operator .add, rest)
  | '-' :: rest => some (.operator .sub, rest)
  | '<' :: rest => some (.operator .lt, rest)
  | '>' :: rest => some (.operator .gt, rest)
  | '&' :: rest => some (.operator .bitAnd, rest)
  | '^' :: rest => some (.operator .bitXor, rest)
  | '|' :: rest => some (.operator .bitOr, rest)
  | '=' :: rest => some (.assign none, rest)
  | '!' :: rest => some (.not, rest)
  | '~' :: rest => some (.complement, rest)
  | '?' :: rest => some (.question, rest)
  | ':' :: rest => some (.colon, rest)
  | '(' :: rest => some (.opening, rest)
  | ')' :: rest => some (.closing, rest)
  | _ => none

/-- Whether an operator can be part of an assignment. -/
def Operator.assigns : Operator → Bool
  | lt | le | gt | ge | eq | ne => false
  | _ => true

/-- The symbols of an expression; the number bounds how many there are. -/
def symbols : Nat → List Char → List Symbol
  | 0, _ | _, [] => []
  | fuel + 1, c :: rest =>
    if c = ' ' ∨ c = '\t' ∨ c = '\n' then symbols fuel rest
    else if c.isDigit then
      let (base, digits, rest) := leadingDigits (c :: rest)
      .number (saturate (ofDigits base digits)) :: symbols fuel rest
    else if isNameStart c then
      let name := c :: rest.takeWhile isNameChar
      .name (.ofList name) :: symbols fuel ((c :: rest).drop name.length)
    else match sign? (c :: rest) with
      | none => [.unknown]
      | some (.operator operator, '=' :: rest) =>
        if operator.assigns then .assign (some operator) :: symbols fuel rest
        else .operator operator :: symbols fuel ('=' :: rest)
      | some (symbol, rest) => symbol :: symbols fuel rest

/-- How loosely an operator holds its operands together. -/
def Operator.looseness : Operator → Nat
  | mul | div | rem => 0
  | add | sub => 1
  | shiftLeft | shiftRight => 2
  | lt | le | gt | ge => 3
  | eq | ne => 4
  | bitAnd => 5
  | bitXor => 6
  | bitOr => 7

/-- A truth value as a number. -/
def truth (holds : Bool) : Int := if holds then 1 else 0

/-- A number as a word of sixty-four bits. -/
def word (n : Int) : UInt64 := .ofNat (n.emod 18446744073709551616).toNat

/-- A word of sixty-four bits as a number. -/
def ofWord (w : UInt64) : Int := wrap w.toNat

/-- The outcome of an operator. -/
def Operator.apply (operator : Operator) (a b : Int) : Except Fault Int :=
  match operator with
  | mul => .ok (wrap (a * b))
  | div => if b = 0 then .error .divisionByZero else .ok (wrap (a.tdiv b))
  | rem => if b = 0 then .error .divisionByZero else .ok (a.tmod b)
  | add => .ok (wrap (a + b))
  | sub => .ok (wrap (a - b))
  | shiftLeft => .ok (ofWord (word a <<< word b))
  | shiftRight => .ok (a >>> (b.emod 64).toNat)
  | lt => .ok (truth (a < b))
  | le => .ok (truth (a ≤ b))
  | gt => .ok (truth (b < a))
  | ge => .ok (truth (b ≤ a))
  | eq => .ok (truth (a == b))
  | ne => .ok (truth (a != b))
  | bitAnd => .ok (ofWord (word a &&& word b))
  | bitXor => .ok (ofWord (word a ^^^ word b))
  | bitOr => .ok (ofWord (word a ||| word b))

/-- What is left to be read, and the values of the variables. -/
structure State where
  rest : List Symbol
  lookUp : String → String
  /-- The values that were assigned, the last one first. -/
  assigned : List (String × Int)

/-- A step through an expression. -/
abbrev Step := StateT State (Except Fault)

/-- The next symbol, which stays where it is. -/
def peek : Step (Option Symbol) := return (← get).rest.head?

/-- Goes past the next symbol. -/
def skip : Step Unit := modify fun state => { state with rest := state.rest.tail }

/-- The value of a variable as a number; a blank one is zero. -/
def valueOf (name : String) : Step Int := do
  let state ← get
  match state.assigned.lookup name with
  | some value => return value
  | none =>
    let text := state.lookUp name
    match leadingInteger? text.toList with
    | some (value, rest) =>
      if rest.all isAroundNumber ∧ saturate value = value then return value
      else throw (.badNumber text)
    | none => if text.toList.all isAroundNumber then return 0 else throw (.badNumber text)

/-- Gives a variable a value. -/
def assign (name : String) (value : Int) : Step Int := do
  modify fun state => { state with assigned := (name, value) :: state.assigned }
  return value

mutual

/-- An expression in which assignments are made; nothing is done for one that does not count. -/
def readAssignment : Nat → Bool → Step Int
  | 0, _ => throw .expectingPrimary
  | fuel + 1, counts => do
    match (← get).rest with
    | .name name :: .assign operator :: rest =>
      modify fun state => { state with rest := rest }
      let value ← readAssignment fuel counts
      if !counts then return value
      match operator with
      | none => assign name value
      | some operator => assign name (← operator.apply (← valueOf name) value)
    | _ => readChoice fuel counts

/-- A choice between two values. -/
def readChoice : Nat → Bool → Step Int
  | 0, _ => throw .expectingPrimary
  | fuel + 1, counts => do
    let condition ← readOr fuel counts
    if (← peek) ≠ some .question then return condition
    skip
    let yes ← readAssignment fuel (counts && condition != 0)
    if (← peek) ≠ some .colon then throw .expectingColon
    skip
    let no ← readChoice fuel (counts && condition == 0)
    return if condition ≠ 0 then yes else no

/-- Values of which one has to be true. -/
def readOr : Nat → Bool → Step Int
  | 0, _ => throw .expectingPrimary
  | fuel + 1, counts => do
    let first ← readAnd fuel counts
    if (← peek) ≠ some .or then return first
    skip
    let second ← readOr fuel (counts && first == 0)
    return truth (first != 0 || second != 0)

/-- Values all of which have to be true. -/
def readAnd : Nat → Bool → Step Int
  | 0, _ => throw .expectingPrimary
  | fuel + 1, counts => do
    let first ← readPrimary fuel counts
    let first ← readOperators fuel counts 8 first
    if (← peek) ≠ some .and then return first
    skip
    let second ← readAnd fuel (counts && first != 0)
    return truth (first != 0 && second != 0)

/-- Operators that hold their operands more closely than some looseness, behind the first operand. -/
def readOperators : Nat → Bool → Nat → Int → Step Int
  | 0, _, _, _ => throw .expectingPrimary
  | fuel + 1, counts, looseness, first => do
    match ← peek with
    | some (.operator operator) =>
      if looseness ≤ operator.looseness then return first
      skip
      let second ← readPrimary fuel counts
      let second ← readOperators fuel counts operator.looseness second
      let value ← if counts then operator.apply first second else pure second
      readOperators fuel counts looseness value
    | _ => return first

/-- A value without an operator behind it. -/
def readPrimary : Nat → Bool → Step Int
  | 0, _ => throw .expectingPrimary
  | fuel + 1, counts => do
    let symbol ← peek
    skip
    match symbol with
    | some .opening =>
      let value ← readAssignment fuel counts
      if (← peek) ≠ some .closing then throw .expectingParenthesis
      skip
      return value
    | some (.number value) => return value
    | some (.name name) => if counts then valueOf name else return 0
    | some (.operator .add) => readPrimary fuel counts
    | some (.operator .sub) => return wrap (-(← readPrimary fuel counts))
    | some .not => return truth ((← readPrimary fuel counts) == 0)
    | some .complement => return -(← readPrimary fuel counts) - 1
    | _ => throw .expectingPrimary

end

/-- The value of an expression, and the values that it gives to variables, the last one first. -/
def evaluate (lookUp : String → String) (expression : String) :
    Except Fault (Int × List (String × Int)) := do
  let all := symbols (expression.length + 1) expression.toList
  let step : Step Int := do
    let value ← readAssignment (8 * all.length + 8) true
    if (← peek).isSome then throw .expectingEnd
    return value
  let (value, state) ← step.run ⟨all, lookUp, []⟩
  return (value, state.assigned)

end FormatPipeline.Shell.Arithmetic
