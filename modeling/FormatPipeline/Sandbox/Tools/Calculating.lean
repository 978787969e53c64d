import FormatPipeline.Sandbox.Tools.Formatting
import FormatPipeline.Text.Regular.Reading

/-! Programs that calculate: expressions and rows of numbers. -/

namespace FormatPipeline.Sandbox

/-- Why an expression has no value. -/
inductive ExpressionFault where
  | missingOperand
  | unexpected (word : String)
  | unexpectedParenthesis
  | missingBehind (word : String)
  | unclosedBehind (word : String)
  | unclosedAt (word : String)
  | noInteger
  | divisionByZero
  | regular (fault : Text.RegularFault)

/-- What is said about an expression without a value. -/
def ExpressionFault.message : ExpressionFault → String
  | missingOperand => "missing operand"
  | unexpected word => "syntax error: unexpected argument " ++ Text.cited word
  | unexpectedParenthesis => "syntax error: unexpected ')'"
  | missingBehind word => "syntax error: missing argument after " ++ Text.cited word
  | unclosedBehind word => "syntax error: expecting ')' after " ++ Text.cited word
  | unclosedAt word => "syntax error: expecting ')' instead of " ++ Text.cited word
  | noInteger => "non-integer argument"
  | divisionByZero => "division by zero"
  | regular fault => fault.message

/-- The whole number that a text is. -/
def wholeNumber? (text : String) : Option Int :=
  match text.toList with
  | '-' :: digits => (Shell.decimal? (.ofList digits)).map fun n => -(n : Int)
  | _ => (Shell.decimal? text).map fun n => (n : Int)

/-- Whether a value counts as nothing: an empty text, or zeros. -/
def isNothing (value : String) : Bool := value.isEmpty || wholeNumber? value == some 0

/-- The outcome of a comparison as a value. -/
def truthText (holds : Bool) : String := if holds then "1" else "0"

/-- Matches a text against a basic regular expression from its beginning. -/
def matchText (text pattern : String) : Except ExpressionFault String := do
  match Text.readRegular ⟨false, false⟩ (Text.toBytes pattern) with
  | .error fault => throw (.regular fault)
  | .ok (regular, groups) =>
    let bytes := (Text.toBytes text).toArray
    match regular.longestAt? ⟨false, false⟩ bytes 0 with
    | none => return if groups = 0 then "0" else ""
    | some state =>
      if groups = 0 then return toString state.index
      else return Text.ofBytes ((Text.Match.mk 0 state.index state.groups).part bytes 1)

/-- Texts in order: numbers by their values, others by their bytes. -/
def compareTexts (a b : String) : Ordering :=
  match wholeNumber? a, wholeNumber? b with
  | some m, some n => compare m n
  | _, _ => if a < b then .lt else if a = b then .eq else .gt

/-- The value of two values between which an operator stands. -/
def applyOperator (operator a b : String) : Except ExpressionFault String := do
  let numbers : Except ExpressionFault (Int × Int) :=
    match wholeNumber? a, wholeNumber? b with
    | some m, some n => .ok (m, n)
    | _, _ => .error .noInteger
  let quotient (f : Int → Int → Int) : Except ExpressionFault String := do
    let (m, n) ← numbers
    if n = 0 then throw .divisionByZero else return toString (f m n)
  match operator with
  | "|" => return if !isNothing a then a else if !isNothing b then b else "0"
  | "&" => return if !isNothing a && !isNothing b then a else "0"
  | "=" | "==" => return truthText (compareTexts a b == .eq)
  | "!=" => return truthText (compareTexts a b != .eq)
  | "<" => return truthText (compareTexts a b == .lt)
  | "<=" => return truthText (compareTexts a b != .gt)
  | ">" => return truthText (compareTexts a b == .gt)
  | ">=" => return truthText (compareTexts a b != .lt)
  | "+" => do
    let (m, n) ← numbers
    return toString (m + n)
  | "-" => do
    let (m, n) ← numbers
    return toString (m - n)
  | "*" => do
    let (m, n) ← numbers
    return toString (m * n)
  | "/" => quotient Int.tdiv
  | "%" => quotient Int.tmod
  | _ => matchText a b

/-- The operators, those that bind least first. -/
def operatorLevels : List (List String) :=
  [["|"], ["&"], ["<", "<=", "=", "==", "!=", ">=", ">"], ["+", "-"], ["*", "/", "%"], [":"]]

/-- The value at the front of words, the word that was read last, and the words that follow. -/
abbrev Valued := Except ExpressionFault (String × String × List String)

mutual

/-- The value of operators of some levels and what stands between them. -/
def evaluateLevel : Nat → List (List String) → String → List String → Valued
  | 0, _, last, _ => .error (.missingBehind last)
  | fuel + 1, [], last, words => evaluateOperand fuel last words
  | fuel + 1, operators :: levels, last, words => do
    let (value, last, rest) ← evaluateLevel fuel levels last words
    evaluateRest fuel operators levels value last rest

/-- The value of further operators behind a value. -/
def evaluateRest : Nat → List String → List (List String) → String → String → List String → Valued
  | 0, _, _, _, last, _ => .error (.missingBehind last)
  | fuel + 1, operators, levels, value, last, words =>
    match words with
    | word :: rest =>
      if operators.contains word then do
        let (other, last, rest) ← evaluateLevel fuel levels word rest
        evaluateRest fuel operators levels (← applyOperator word value other) last rest
      else .ok (value, last, words)
    | [] => .ok (value, last, [])

/-- The value of a word, of a parenthesis, or of a command for texts. -/
def evaluateOperand : Nat → String → List String → Valued
  | 0, last, _ | _, last, [] => .error (if last.isEmpty then .missingOperand else .missingBehind last)
  | fuel + 1, _, word :: rest =>
    match word with
    | "(" => do
      let (value, last, rest) ← evaluateLevel fuel operatorLevels word rest
      match rest with
      | ")" :: rest => return (value, ")", rest)
      | [] => throw (.unclosedBehind last)
      | other :: _ => throw (.unclosedAt other)
    | ")" => .error .unexpectedParenthesis
    | "+" =>
      match rest with
      | [] => .error (.missingBehind "+")
      | word :: rest => .ok (word, word, rest)
    | "length" => do
      let (text, last, rest) ← evaluateOperand fuel word rest
      return (toString text.utf8ByteSize, last, rest)
    | "match" => do
      let (text, last, rest) ← evaluateOperand fuel word rest
      let (pattern, last, rest) ← evaluateOperand fuel last rest
      return (← matchText text pattern, last, rest)
    | "index" => do
      let (text, last, rest) ← evaluateOperand fuel word rest
      let (signs, last, rest) ← evaluateOperand fuel last rest
      let found := (Text.toBytes text).findIdx? (Text.toBytes signs).contains
      return (toString ((found.map (· + 1)).getD 0), last, rest)
    | "substr" => do
      let (text, last, rest) ← evaluateOperand fuel word rest
      let (start, last, rest) ← evaluateOperand fuel last rest
      let (length, last, rest) ← evaluateOperand fuel last rest
      match wholeNumber? start, wholeNumber? length with
      | some start, some length =>
        if start ≤ 0 ∨ length ≤ 0 then return ("", last, rest)
        else
          let bytes := ((Text.toBytes text).drop (start.toNat - 1)).take length.toNat
          return (Text.ofBytes bytes, last, rest)
      | _, _ => return ("", last, rest)
    | word => .ok (word, word, rest)

end

/-- Prints the value of an expression. -/
def runExpr : Tool := fun job name arguments =>
  let words := if arguments.head? = some "--" then arguments.tail else arguments
  let fail (fault : ExpressionFault) : Job :=
    match fault with
    | .missingOperand => job.blameUse 2 name fault.message
    | fault => job.blame 2 name fault.message
  match evaluateLevel (16 * words.length + 16) operatorLevels "" words with
  | .error fault => fail fault
  | .ok (value, _, []) => (job.write 1 (value ++ "\n")).ended (if isNothing value then 1 else 0)
  | .ok (_, _, ")" :: _) => fail .unexpectedParenthesis
  | .ok (_, _, word :: _) => fail (.unexpected word)

/-- A decimal number as a whole number of its smallest units. -/
structure Fixed where
  units : Int
  places : Nat

/-- The decimal number that a text is. -/
def Fixed.read? (text : String) : Option Fixed :=
  let (negative, cs) := Shell.splitSign text.toList
  let signed (n : Nat) : Int := if negative then -(n : Int) else n
  match cs with
  | '0' :: 'x' :: digits =>
    if digits.isEmpty ∨ ¬ digits.all (Shell.isDigitOf 16) then none
    else some ⟨signed (Shell.ofDigits 16 digits), 0⟩
  | cs =>
    let whole := cs.takeWhile (·.isDigit)
    let rest := cs.drop whole.length
    let fraction := match rest with
      | '.' :: behind => behind.takeWhile (·.isDigit)
      | _ => []
    let rest := match rest with
      | '.' :: behind => behind.drop fraction.length
      | rest => rest
    if whole.isEmpty ∧ fraction.isEmpty then none
    else
      let units := signed (Shell.ofDigits 10 (whole ++ fraction))
      match rest with
      | [] => some ⟨units, fraction.length⟩
      | e :: rest =>
        if e ≠ 'e' ∧ e ≠ 'E' then none
        else
          let (down, digits) : Bool × List Char := match rest with
            | '-' :: rest => (true, rest)
            | '+' :: rest => (false, rest)
            | rest => (false, rest)
          if digits.isEmpty ∨ ¬ digits.all (·.isDigit) then none
          else
            let exponent := Shell.ofDigits 10 digits
            if down then some ⟨units, fraction.length + exponent⟩
            else if exponent ≤ fraction.length then some ⟨units, fraction.length - exponent⟩
            else some ⟨units * (Nat.pow 10 (exponent - fraction.length) : Nat), 0⟩

/-- The number in units of which there are more. -/
def Fixed.unitsAt (number : Fixed) (places : Nat) : Int :=
  number.units * (Nat.pow 10 (places - number.places) : Nat)

/-- A number of units with a point in front of its last digits. -/
def fixedText (units : Int) (places : Nat) : String :=
  let digits := (toString units.natAbs).toList
  let digits := List.replicate (places + 1 - digits.length) '0' ++ digits
  let whole := digits.take (digits.length - places)
  let sign := if units < 0 then "-" else ""
  sign ++ .ofList whole ++ (if places = 0 then "" else "." ++ .ofList (digits.drop whole.length))

/-- The numbers from one to another, in steps of some size; the number bounds how many they are. -/
def stepsBetween (step last : Int) : Nat → Int → List Int
  | 0, _ => []
  | fuel + 1, n =>
    if (0 < step ∧ last < n) ∨ (step < 0 ∧ n < last) then []
    else n :: stepsBetween step last fuel (n + step)

/-- How many numbers are printed at most. -/
def numberLimit : Nat := 200000

/-- A text with zeros behind its sign, up to a width. -/
def zeroPadded (width : Nat) (text : String) : String :=
  let zeros := List.replicate (width - text.length) '0'
  match text.toList with
  | '-' :: digits => .ofList ('-' :: zeros ++ digits)
  | digits => .ofList (zeros ++ digits)

/-- Arguments with a mark in front of the first negative number, which is no option. -/
def markNegative : List String → List String
  | [] => []
  | word :: rest =>
    match word.toList with
    | '-' :: c :: _ => if c.isDigit || c == '.' then "--" :: word :: rest else
        if word = "-s" ∨ word = "-f" then word :: (match rest with
          | value :: rest => value :: markNegative rest
          | [] => [])
        else word :: markNegative rest
    | _ => word :: rest

/-- What is wrong with a format for numbers: it must have one conversion, of a quantity. -/
def formatFault? (format : String) : Option String :=
  let shown := Text.cited format
  let rec conversions : List Char → List Char
    | '%' :: '%' :: rest => conversions rest
    | '%' :: rest =>
      ((rest.dropWhile fun c => c.isDigit || "-+ #0'.".toList.contains c).headD '\x00') :: conversions rest
    | _ :: rest => conversions rest
    | [] => []
  match conversions format.toList with
  | [] => some (shown ++ " has no % directive")
  | c :: others =>
    if c = '\x00' then some (shown ++ " ends in %")
    else if !"aAeEfFgG".toList.contains c then some (shown ++ " has unknown %" ++ c.toString ++ " directive")
    else if others.isEmpty then none else some (shown ++ " has too many % directives")

/-- Prints numbers one below another. -/
def runSeq : Tool := fun job name arguments =>
  let rules := ["f|format:", "s|separator:", "w|equal-width"].map OptionRule.ofText
  match readWords rules false none (markNegative arguments) with
  | .error text => job.blameUse 1 name text
  | .ok given =>
    match given.operands with
    | [] => job.blameUse 1 name "missing operand"
    | _ :: _ :: _ :: extra :: _ => job.blameUse 1 name ("extra operand " ++ Text.cited extra)
    | operands =>
      match operands.find? fun word => (Fixed.read? word).isNone with
      | some word => job.blameUse 1 name ("invalid floating point argument: " ++ Text.cited word)
      | none =>
        let one : Fixed := ⟨1, 0⟩
        let (first, step, last) : Fixed × Fixed × Fixed := match operands.filterMap Fixed.read? with
          | [last] => (one, one, last)
          | [first, last] => (first, one, last)
          | [first, step, last] => (first, step, last)
          | _ => (one, one, one)
        match (given.value? "f").bind formatFault? with
        | some text => job.blame 1 name ("format " ++ text)
        | none =>
        if step.units = 0 then
          job.blameUse 1 name ("invalid Zero increment value: " ++ Text.cited (operands.getD 1 ""))
        else
          let shown := max first.places step.places
          let places := max shown last.places
          let numbers := stepsBetween (step.unitsAt places) (last.unitsAt places) numberLimit
            (first.unitsAt places)
          -- The last number has no more places than the first one and the step.
          let texts := numbers.map fun n =>
            fixedText (Int.tdiv n (Nat.pow 10 (places - shown) : Nat)) shown
          let width := texts.foldl (fun width text => max width text.length) 0
          let texts := if given.has "w" then texts.map (zeroPadded width) else texts
          let texts := match given.value? "f" with
            | some format => texts.map fun text =>
                Text.ofBytes (printRichOnce (format.length + 1) format.toList (.ofArguments [text])).bytes
            | none => texts
          let between := (given.value? "s").getD "\n"
          if texts.isEmpty then job.ended 0
          else (job.write 1 (Text.joinWith between texts ++ "\n")).ended 0

end FormatPipeline.Sandbox
