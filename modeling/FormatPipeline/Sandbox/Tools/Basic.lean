import FormatPipeline.Sandbox.Job
import FormatPipeline.Shell.Number
import FormatPipeline.Text.Named

/-! What the programs of a sandbox have in common: options, operands and complaints. -/

namespace FormatPipeline.Sandbox

/-- What a program does when it is called by a name with arguments. -/
abbrev Tool := Job → String → List String → Job

/-- A reason as programs give it, without the number of the error. -/
def reason (error : ReadError) : String :=
  -- The number stands between parentheses behind a space.
  .ofList ((error.message.toList.takeWhile (· != '(')).dropLast)

namespace Job

/-- Says under a name what went wrong. -/
def blame (job : Job) (status : Nat) (name text : String) : Job := job.fail status (name ++ ": " ++ text)

/-- Says what is wrong with the arguments of a program. -/
def blameUse (job : Job) (status : Nat) (name text : String) : Job :=
  job.blame status name (text ++ "\nTry '" ++ name ++ " --help' for more information.")

/-- Gives up with a reason about a path. -/
def failAt (job : Job) (name path : String) (error : ReadError) : Job :=
  job.blame 1 name (Text.namedIfNeeded path ++ ": " ++ reason error)

/-- The bytes of a file, or of the input stream if that is meant. -/
def readOperand (job : Job) (path : String) : Except ReadError (List UInt8) × Job :=
  if path = "-" ∨ streamFile? path = some 0 then
    let (bytes, job) := job.drainInput 0
    (.ok bytes, job)
  else (job.tree.read job.directory path, job)

end Job

/-- Whether an option stands with an argument. -/
inductive ArgumentRule where
  | none | required | optional
  deriving DecidableEq, Repr

/-- An option with the names that it has. -/
structure OptionRule where
  names : List String
  argument : ArgumentRule

/-- The name under which an option is known. -/
def OptionRule.key (rule : OptionRule) : String := rule.names.headD ""

/-- An option from its names with bars between them; a colon asks for an argument, a question mark allows one. -/
def OptionRule.ofText (text : String) : OptionRule :=
  let split (text : List Char) : List String := (Text.pieces '|' text).map String.ofList
  match text.toList.getLast? with
  | some ':' => ⟨split text.toList.dropLast, .required⟩
  | some '?' => ⟨split text.toList.dropLast, .optional⟩
  | _ => ⟨split text.toList, .none⟩

/-- The options and the operands among arguments. -/
structure Given where
  options : List (String × Option String)
  operands : List String

namespace Given

/-- Whether an option is there. -/
def has (given : Given) (key : String) : Bool := given.options.any (·.1 == key)

/-- The arguments of an option. -/
def values (given : Given) (key : String) : List String :=
  given.options.filterMap fun option => if option.1 == key then option.2 else none

/-- The argument of an option that counts: the last one. -/
def value? (given : Given) (key : String) : Option String := (given.values key).getLast?

/-- The last of several options that is there. -/
def last? (given : Given) (keys : List String) : Option String :=
  ((given.options.filter fun option => keys.contains option.1).getLast?).map (·.1)

/-- The operands, or the input if there are none. -/
def inputs (given : Given) : List String :=
  if given.operands.isEmpty then ["-"] else given.operands

end Given

/-- An option that still waits for its argument, and what is said if there is none. -/
abbrev Waiting := String × String

/-- Reads the letters of a word of options; the last one may wait for its argument. -/
def readOptionLetters (rules : List OptionRule) :
    List Char → Except String (List (String × Option String) × Option Waiting)
  | [] => .ok ([], none)
  | letter :: rest =>
    match rules.find? (·.names.contains letter.toString) with
    | none => .error ("invalid option -- '" ++ letter.toString ++ "'")
    | some rule =>
      match rule.argument, rest with
      | .none, rest => do
        let (others, waiting) ← readOptionLetters rules rest
        return ((rule.key, none) :: others, waiting)
      | .required, [] =>
        .ok ([], some (rule.key, "option requires an argument -- '" ++ letter.toString ++ "'"))
      | .optional, [] => .ok ([(rule.key, none)], none)
      | _, rest => .ok ([(rule.key, some (.ofList rest))], none)

/-- Reads the long name of an option, which may be cut short. -/
def readLongOption (rules : List OptionRule) (word : List Char) :
    Except String ((String × Option String) ⊕ Waiting) :=
  let name := word.takeWhile (· != '=')
  let value : Option String := match word.drop name.length with
    | [] => none
    | _ :: value => some (.ofList value)
  let named : List (String × OptionRule) := rules.flatMap fun rule =>
    (rule.names.filter fun long => 1 < long.length).map (·, rule)
  let full := named.filter fun entry => entry.1 == String.ofList name
  let found := if full.isEmpty then named.filter fun entry => name.isPrefixOf entry.1.toList else full
  let shown := String.ofList name
  match found with
  | [] => .error ("unrecognized option '--" ++ shown ++ "'")
  | (long, rule) :: others =>
    if others.any fun entry => entry.2.key != rule.key then
      let possible := found.map fun entry => " '--" ++ entry.1 ++ "'"
      .error ("option '--" ++ shown ++ "' is ambiguous; possibilities:" ++ String.join possible)
    else match rule.argument, value with
      | .none, some _ => .error ("option '--" ++ long ++ "' doesn't allow an argument")
      | .required, none =>
        .ok (.inr (rule.key, "option '--" ++ long ++ "' requires an argument"))
      | _, value => .ok (.inl (rule.key, value))

/-- Reads options and operands; on demand the first operand ends the options. -/
def readWords (rules : List OptionRule) (mixed : Bool) :
    Option Waiting → List String → Except String Given
  | some (_, complaint), [] => .error complaint
  | none, [] => .ok ⟨[], []⟩
  | some (key, _), value :: rest => do
    let given ← readWords rules mixed none rest
    return { given with options := (key, some value) :: given.options }
  | none, word :: rest =>
    match word.toList with
    | ['-', '-'] => .ok ⟨[], rest⟩
    | '-' :: '-' :: long => do
      match ← readLongOption rules long with
      | .inl option =>
        let given ← readWords rules mixed none rest
        return { given with options := option :: given.options }
      | .inr waiting => readWords rules mixed (some waiting) rest
    | '-' :: letter :: letters => do
      let (options, waiting) ← readOptionLetters rules (letter :: letters)
      let given ← readWords rules mixed waiting rest
      return { given with options := options ++ given.options }
    | _ =>
      if mixed then do
        let given ← readWords rules mixed none rest
        return { given with operands := word :: given.operands }
      else .ok ⟨[], word :: rest⟩

/-- Reads options, which may stand behind operands, and the operands. -/
def readGiven (rules : List String) (arguments : List String) : Except String Given :=
  readWords (rules.map OptionRule.ofText) true none arguments

/-- A program that reads its options first, with the status for options that it does not know. -/
def withOptions (rules : List String) (status : Nat) (act : Job → String → Given → Job) : Tool :=
  fun job name arguments =>
    match readGiven rules arguments with
    | .ok given => act (job.ended 0) name given
    | .error text => job.blameUse status name text

/-- Does something for each of several paths that can be read, and complains about the others. -/
def forInputs {σ : Type} (job : Job) (paths : List String)
    (complain : Job → String → ReadError → Job) (act : Job → σ → String → List UInt8 → Job × σ)
    (state : σ) : Job × σ :=
  paths.foldl (fun (job, state) path =>
    match job.readOperand path with
    | (.ok bytes, job) => act job state path bytes
    | (.error error, job) => (complain job path error, state)) (job, state)

/-- The lines among bytes that end with some byte, each with its end if it has one. -/
def linesBy (ending : UInt8) (bytes : List UInt8) : List (List UInt8) :=
  let (lines, last) := bytes.foldr (fun byte (state : List (List UInt8) × Option (List UInt8)) =>
    let (lines, current) := state
    if byte = ending then
      ((match current with
        | some line => line :: lines
        | none => lines), some [byte])
    else (lines, some (byte :: current.getD []))) ([], none)
  match last with
  | some line => line :: lines
  | none => lines

/-- The lines among bytes, each with its line end if it has one. -/
def linesOf (bytes : List UInt8) : List (List UInt8) := linesBy 10 bytes

/-- A line without its end. -/
def withoutEnd (ending : UInt8) (line : List UInt8) : List UInt8 :=
  if line.getLast? = some ending then line.dropLast else line

/-- The lines among bytes without their ends. -/
def bareLines (ending : UInt8) (bytes : List UInt8) : List (List UInt8) :=
  (linesBy ending bytes).map (withoutEnd ending)

/-- A text at the right end of a field. -/
def leftPad (width : Nat) (text : String) : String := .ofList (text.toList.leftpad width ' ')

/-- The units in which sizes are given behind a number. -/
def unit? (text : List Char) : Option Nat :=
  let powers (letter : Char) : Option Nat := match letter with
    | 'K' | 'k' => some 1
    | 'M' | 'm' => some 2
    | 'G' => some 3
    | 'T' => some 4
    | 'P' => some 5
    | 'E' => some 6
    | 'Z' => some 7
    | 'Y' => some 8
    | _ => none
  match text with
  | [] => some 1
  | ['b'] => some 512
  | [letter] | [letter, 'i', 'B'] => (powers letter).map (Nat.pow 1024)
  | [letter, 'B'] => (powers letter).map (Nat.pow 1000)
  | _ => none

/-- The first number that is too great for a size. -/
def sizeLimit : Nat := Nat.pow 2 64

/-- A size: a number and perhaps a unit, of which one may be missing; or why there is none. -/
def readSize (text : List Char) : Except String Nat :=
  let signed := text.dropWhile fun c => c == ' ' || (9 ≤ c.toNat && c.toNat ≤ 13)
  let bare := if signed.head? = some '+' then signed.drop 1 else signed
  let digits := bare.takeWhile (·.isDigit)
  match unit? (bare.drop digits.length) with
  | none => .error ""
  | some unit =>
    if digits.isEmpty then
      if unit = 1 ∨ bare.length < signed.length then .error "" else .ok unit
    else
      let size := Shell.ofDigits 10 digits * unit
      if sizeLimit ≤ size then .error ": Value too large for defined data type" else .ok size

end FormatPipeline.Sandbox
