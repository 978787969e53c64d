import FormatPipeline.Sandbox.Tools.Basic
import FormatPipeline.Text.Regular.Reading

/-! Scripts that say how the lines of a file are edited. -/

namespace FormatPipeline.Sandbox.Editing

/-- A regular expression with the way in which it is matched. -/
structure Finder where
  regular : Text.Regular
  groups : Nat
  mode : Text.MatchMode

/-- What chooses a line; an empty expression is the one that was used last. -/
inductive LineChoice where
  | number (number : Nat)
  | last
  | finder (finder : Option Finder)
  /-- Every line at a distance, from some line on. -/
  | every (first step : Nat)

/-- Where lines cease to be chosen. -/
inductive LastChoice where
  | choice (choice : LineChoice)
  /-- Some lines later. -/
  | later (count : Nat)
  /-- At the next multiple. -/
  | multiple (step : Nat)

/-- Which lines a command is for. -/
structure Selector where
  first : Option LineChoice
  last : Option LastChoice
  negated : Bool

/-- A change of the case of letters. -/
inductive CaseChange where
  | upper | lower | nextUpper | nextLower | finish
  deriving DecidableEq, Repr

/-- A part of what takes the place of a match. -/
inductive ReplacementPart where
  | bytes (bytes : List UInt8)
  | group (number : Nat)
  | change (change : CaseChange)

/-- How matches are replaced. -/
structure Substitution where
  finder : Option Finder
  parts : List ReplacementPart
  /-- The first match that is replaced. -/
  number : Nat
  /-- Whether the matches behind it are replaced as well. -/
  all : Bool
  prints : Bool
  file : Option String

/-- What is done with a line. -/
inductive Edit where
  /-- The commands of a block begin, of which there are so many. -/
  | opening (length : Nat)
  | nothing
  | append (text : List UInt8)
  | insert (text : List UInt8)
  | change (text : List UInt8)
  | jump (label : String)
  /-- A jump that depends on whether something was replaced. -/
  | jumpIf (replaced : Bool) (label : String)
  | delete
  | deleteFirst
  | print
  | printFirst
  | lineNumber
  | fileName
  | listed (width : Option Nat)
  | next
  | nextAppended
  | hold
  | holdAppended
  | get
  | getAppended
  | exchange
  | clear
  | quit (prints : Bool) (status : Nat)
  | readFile (path : String)
  | readLine (path : String)
  | writeFile (path : String)
  | writeFirst (path : String)
  | substitute (substitution : Substitution)
  | convert (table : List (UInt8 × UInt8))

/-- A command: which lines it is for, and what is done with them. -/
structure Command where
  selector : Selector
  edit : Edit

/-- The commands of a script, and where its labels stand. -/
structure Program where
  commands : List Command
  labels : List (String × Nat)

/-- What is left of a script where it makes no sense, and what is said about it. -/
abbrev Fault := Option Nat × String

/-- What was read from a script, unless there is no sense in it. -/
abbrev Checked := Except Fault

/-- There is no sense in a script from some place on. -/
def failAt {α : Type} (rest : List UInt8) (text : String) : Checked α := .error (some rest.length, text)

/-- Bytes without blanks at the front. -/
def skipBlanks (bytes : List UInt8) : List UInt8 := bytes.dropWhile fun byte => byte == 32 || byte == 9

/-- Bytes without blanks, line ends and semicolons at the front. -/
def skipBetween (bytes : List UInt8) : List UInt8 :=
  bytes.dropWhile fun byte => byte == 32 || (9 ≤ byte && byte ≤ 13) || byte == 59

/-- Whether a byte is a decimal digit. -/
def isDigit (byte : UInt8) : Bool := 48 ≤ byte && byte ≤ 57

/-- The number at the front of bytes, and what follows it. -/
def readNumber? (bytes : List UInt8) : Option (Nat × List UInt8) :=
  let digits := bytes.takeWhile isDigit
  if digits.isEmpty then none
  else some (digits.foldl (fun n byte => n * 10 + (byte.toNat - 48)) 0, bytes.drop digits.length)

/-- The byte that digits to a base stand for. -/
def digitsByte (base : Nat) (digits : List UInt8) : UInt8 :=
  .ofNat (Shell.ofDigits base (digits.map fun byte => Char.ofNat byte.toNat))

/-- The byte that a letter behind a backslash produces, and what follows it. -/
def producedByte? (bytes : List UInt8) : Option (UInt8 × List UInt8) :=
  let numbered (base count : Nat) (rest : List UInt8) : Option (UInt8 × List UInt8) :=
    let digits := (rest.take count).takeWhile fun byte => Shell.isDigitOf base (Char.ofNat byte.toNat)
    if digits.isEmpty then none else some (digitsByte base digits, rest.drop digits.length)
  match bytes with
  | 97 :: rest => some (7, rest)
  | 102 :: rest => some (12, rest)
  | 110 :: rest => some (10, rest)
  | 114 :: rest => some (13, rest)
  | 116 :: rest => some (9, rest)
  | 118 :: rest => some (11, rest)
  | 100 :: rest => numbered 10 3 rest
  | 111 :: rest => numbered 8 3 rest
  | 120 :: rest => numbered 16 2 rest
  | 99 :: c :: rest => some (Text.upperByte c ^^^ 64, rest)
  | _ => none

/-- The bytes with a special meaning in regular expressions. -/
def isSpecialByte (byte : UInt8) : Bool := ("\\^$.[]*+?()\x7b\x7d|/&".toList.map fun c => UInt8.ofNat c.toNat).contains byte

/-- A regular expression in which the letters that produce bytes are replaced by these. -/
def producedRegular : Nat → Bool → List UInt8 → List UInt8
  | 0, _, bytes => bytes
  | _, _, [] => []
  | fuel + 1, inSet, 92 :: rest =>
    match producedByte? rest with
    | some (byte, behind) =>
      let special := isSpecialByte byte && !inSet
      (if special then [92, byte] else [byte]) ++ producedRegular fuel inSet behind
    | none =>
      match rest, inSet with
      | byte :: behind, false => 92 :: byte :: producedRegular fuel inSet behind
      | rest, _ => 92 :: producedRegular fuel inSet rest
  | fuel + 1, false, 91 :: rest =>
    -- A bracket directly behind the opening one belongs to the set.
    let lead : List UInt8 := match rest with
      | 94 :: 93 :: _ => [94, 93]
      | 94 :: _ => [94]
      | 93 :: _ => [93]
      | _ => []
    91 :: lead ++ producedRegular fuel true (rest.drop lead.length)
  | fuel + 1, true, 93 :: rest => 93 :: producedRegular fuel false rest
  | fuel + 1, inSet, byte :: rest => byte :: producedRegular fuel inSet rest

/-- Reads up to a delimiter that is not protected; in a regular expression sets protect it as well. -/
def readDelimited (delimiter : UInt8) (isRegular : Bool) :
    Nat → Bool → List UInt8 → Option (List UInt8 × List UInt8)
  | 0, _, _ | _, _, [] => none
  | fuel + 1, inSet, byte :: rest =>
    let further (lead : List UInt8) (inSet : Bool) (rest : List UInt8) :
        Option (List UInt8 × List UInt8) :=
      (readDelimited delimiter isRegular fuel inSet rest).map fun (text, rest) => (lead ++ text, rest)
    if byte = delimiter ∧ ¬ inSet then some ([], rest)
    else if byte = 92 then
      match rest with
      | [] => none
      | c :: behind =>
        if inSet then further [92] true rest
        else if c = delimiter then
          -- A protected delimiter stands for itself, unless it has a meaning of its own.
          further (if !isRegular && c == 38 then [92, c] else [c]) false behind
        else if c = 10 ∧ isRegular then further [10] false behind
        else further [92, c] false behind
    else if byte = 10 ∧ isRegular ∧ ¬ inSet then none
    else if isRegular ∧ byte = 91 ∧ ¬ inSet then
      let lead : List UInt8 := match rest with
        | 94 :: 93 :: _ => [94, 93]
        | 94 :: _ => [94]
        | 93 :: _ => [93]
        | _ => []
      -- A bracket that is not closed protects nothing.
      let closed := (rest.drop lead.length).contains 93
      further (91 :: if closed then lead else []) closed (if closed then rest.drop lead.length else rest)
    else if inSet ∧ byte = 91 then
      match rest with
      | 58 :: behind =>
        let name := behind.takeWhile (· != 58)
        match behind.drop name.length with
        | 58 :: 93 :: others => further (91 :: 58 :: name ++ [58, 93]) true others
        | _ => further [91] true rest
      | rest => further [91] true rest
    else if inSet ∧ byte = 93 then further [93] false rest
    else further [byte] inSet rest

/-- The expression that bytes stand for; without any bytes it is the one that was used last. -/
def readFinder (extended : Bool) (mode : Text.MatchMode) (source rest : List UInt8) :
    Checked (Option Finder) :=
  if source.isEmpty then .ok none
  else match Text.readRegular ⟨extended, false⟩ (producedRegular (source.length + 1) false source) with
    | .ok (regular, groups) => .ok (some ⟨regular, groups, mode⟩)
    | .error fault => failAt rest fault.message

/-- The letters behind an expression that chooses lines. -/
def readFlags : Text.MatchMode → List UInt8 → Text.MatchMode × List UInt8
  | mode, 73 :: rest => readFlags { mode with ignoresCase := true } rest
  | mode, 77 :: rest => readFlags { mode with manyLines := true } rest
  | mode, rest => (mode, rest)

/-- What chooses lines at the front of bytes, if there is anything. -/
def readChoice (extended : Bool) (bytes : List UInt8) : Checked (Option LineChoice × List UInt8) :=
  let matching (delimiter : UInt8) (rest : List UInt8) : Checked (Option LineChoice × List UInt8) :=
    match readDelimited delimiter true (rest.length + 1) false rest with
    | none => failAt [] "unterminated address regex"
    | some (source, rest) => do
      let (mode, rest) := readFlags ⟨false, false⟩ rest
      return (some (.finder (← readFinder extended mode source rest)), rest)
  match bytes with
  | 36 :: rest => .ok (some .last, rest)
  | 47 :: rest => matching 47 rest
  | 92 :: delimiter :: rest => matching delimiter rest
  | bytes =>
    match readNumber? bytes with
    | none => .ok (none, bytes)
    | some (first, rest) =>
      match skipBlanks rest with
      | 126 :: behind =>
        match readNumber? (skipBlanks behind) with
        | some (step, rest) => .ok (some (if step = 0 then .number first else .every first step), rest)
        | none => .ok (some (.number first), behind)
      | _ => .ok (some (.number first), rest)

/-- Where lines cease to be chosen, behind a comma. -/
def readLastChoice (extended : Bool) (bytes : List UInt8) : Checked (LastChoice × List UInt8) := do
  match bytes with
  | 43 :: rest =>
    let (count, rest) := (readNumber? rest).getD (0, rest)
    return (.later count, rest)
  | 126 :: rest =>
    let (step, rest) := (readNumber? rest).getD (0, rest)
    return (.multiple step, rest)
  | bytes =>
    match ← readChoice extended bytes with
    | (some choice, rest) => return (.choice choice, rest)
    | (none, rest) => failAt rest.tail "unexpected \x60,'"

/-- Which lines the command behind it is for. -/
def readSelector (extended : Bool) (bytes : List UInt8) : Checked (Selector × List UInt8) := do
  let (first, rest) ← readChoice extended bytes
  let (last, rest) ← match first, skipBlanks rest with
    | some _, 44 :: behind =>
      match readLastChoice extended (skipBlanks behind) with
      | .ok (last, rest) => Except.ok (some last, rest)
      | .error (place, text) => .error (place, text)
    | _, rest => Except.ok (none, rest)
  match first, last with
  | some (.number 0), some (.choice (.finder _)) => pure ()
  | some (.number 0), _ => failAt (skipBlanks rest).tail "invalid usage of line address 0"
  | _, _ => pure ()
  match skipBlanks rest with
  | 33 :: behind =>
    match skipBlanks behind with
    | 33 :: others => failAt others "multiple \x60!'s"
    | behind => return (⟨first, last, true⟩, behind)
  | rest =>
    match first, rest with
    | none, 43 :: others | none, 126 :: others =>
      failAt others.tail "invalid usage of +N or ~N as first address"
    | _, rest => return (⟨first, last, false⟩, rest)

/-- Passes over what may follow a command. -/
def endCommand (bytes : List UInt8) : Checked (List UInt8) :=
  match skipBlanks bytes with
  | [] => .ok []
  | 59 :: rest | 10 :: rest => .ok rest
  | 125 :: rest => .ok (125 :: rest)
  | 35 :: rest => .ok (35 :: rest)
  | _ :: rest => failAt rest "extra characters after command"

/-- A text up to the end of a line that is not protected, without the backslashes in it. -/
def readText : Nat → List UInt8 → List UInt8 × List UInt8
  | 0, bytes => ([], bytes)
  | _, [] => ([10], [])
  | _ + 1, 10 :: rest => ([10], rest)
  | _ + 1, [92] => ([10], [])
  | fuel + 1, 92 :: c :: rest =>
    let (lead, behind) : List UInt8 × List UInt8 := match producedByte? (c :: rest) with
      | some (byte, behind) => ([byte], behind)
      | none => ([c], rest)
    let (text, rest) := readText fuel behind
    (lead ++ text, rest)
  | fuel + 1, byte :: rest =>
    let (text, rest) := readText fuel rest
    (byte :: text, rest)

/-- The text of a command that adds lines. -/
def readAdded (bytes : List UInt8) : Checked (List UInt8 × List UInt8) :=
  let text (bytes : List UInt8) : Checked (List UInt8 × List UInt8) := .ok (readText (bytes.length + 1) bytes)
  match skipBlanks bytes with
  | [] => failAt [] "expected \\ after \x60a', \x60c' or \x60i'"
  | 92 :: rest =>
    match skipBlanks rest with
    | [] => .ok ([], [])
    | 10 :: behind => text behind
    | _ => text (if (skipBlanks rest).length = rest.length then skipBlanks rest else rest)
  | rest => text rest

/-- The rest of a line: the name of a file. -/
def readFileName (bytes : List UInt8) : Checked (String × List UInt8) :=
  let name := (skipBlanks bytes).takeWhile (· != 10)
  if name.isEmpty then failAt (skipBlanks bytes) "missing filename in r/R/w/W commands"
  else .ok (Text.ofBytes name, ((skipBlanks bytes).drop name.length).drop 1)

/-- A label: up to a blank, a semicolon or a brace. -/
def readLabel (bytes : List UInt8) : String × List UInt8 :=
  let bytes := skipBlanks bytes
  let label := bytes.takeWhile fun byte =>
    byte != 32 && !(9 ≤ byte && byte ≤ 13) && byte != 59 && byte != 125
  (Text.ofBytes label, bytes.drop label.length)

/-- Adds bytes to the parts of a replacement. -/
def addBytes (bytes : List UInt8) (parts : List ReplacementPart) : List ReplacementPart :=
  match parts with
  | .bytes others :: rest => .bytes (bytes ++ others) :: rest
  | parts => .bytes bytes :: parts

/-- The parts of a replacement. -/
def readReplacement : Nat → List UInt8 → List ReplacementPart
  | 0, _ | _, [] => []
  | fuel + 1, 38 :: rest => .group 0 :: readReplacement fuel rest
  | fuel + 1, 92 :: rest =>
    match producedByte? rest with
    | some (byte, behind) => addBytes [byte] (readReplacement fuel behind)
    | none =>
      match rest with
      | [] => [.bytes [92]]
      | 85 :: rest => .change .upper :: readReplacement fuel rest
      | 76 :: rest => .change .lower :: readReplacement fuel rest
      | 117 :: rest => .change .nextUpper :: readReplacement fuel rest
      | 108 :: rest => .change .nextLower :: readReplacement fuel rest
      | 69 :: rest => .change .finish :: readReplacement fuel rest
      | c :: rest =>
        if isDigit c then .group (c.toNat - 48) :: readReplacement fuel rest
        else addBytes [c] (readReplacement fuel rest)
  | fuel + 1, byte :: rest => addBytes [byte] (readReplacement fuel rest)

/-- The letters behind a substitution. -/
def readSubstitutionFlags : Nat → Substitution → Text.MatchMode → List UInt8 →
    Checked ((Substitution × Text.MatchMode) × List UInt8)
  | 0, s, mode, bytes => .ok ((s, mode), bytes)
  | fuel + 1, s, mode, bytes =>
    match bytes with
    | 103 :: rest =>
      if s.all then failAt rest "multiple \x60g' options to \x60s' command"
      else readSubstitutionFlags fuel { s with all := true } mode rest
    | 112 :: rest =>
      if s.prints then failAt rest "multiple \x60p' options to \x60s' command"
      else readSubstitutionFlags fuel { s with prints := true } mode rest
    | 105 :: rest | 73 :: rest => readSubstitutionFlags fuel s { mode with ignoresCase := true } rest
    | 109 :: rest | 77 :: rest => readSubstitutionFlags fuel s { mode with manyLines := true } rest
    | 119 :: rest => do
      let (path, rest) ← readFileName rest
      return (({ s with file := some path }, mode), rest)
    | [] => .ok ((s, mode), [])
    | byte :: rest =>
      if isDigit byte then
        match readNumber? (byte :: rest) with
        | some (0, rest) => failAt rest "number option to \x60s' command may not be zero"
        | some (number, rest) => readSubstitutionFlags fuel { s with number := number } mode rest
        | none => .ok ((s, mode), rest)
      else if byte = 125 ∨ byte = 35 then .ok ((s, mode), byte :: rest)
      else if byte = 59 ∨ byte = 10 then .ok ((s, mode), rest)
      else if byte = 32 ∨ byte = 9 then readSubstitutionFlags fuel s mode rest
      else failAt rest "unknown option to \x60s'"

/-- The greatest number of a group that a replacement refers to. -/
def greatestGroup (parts : List ReplacementPart) : Nat :=
  parts.foldl (fun greatest part => match part with
    | .group number => max greatest number
    | _ => greatest) 0

/-- A substitution behind its letter. -/
def readSubstitution (extended : Bool) (bytes : List UInt8) : Checked (Edit × List UInt8) := do
  let unterminated : Checked (Edit × List UInt8) := failAt [] "unterminated \x60s' command"
  match bytes with
  | [] => unterminated
  | delimiter :: rest =>
    match readDelimited delimiter true (rest.length + 1) false rest with
    | none => unterminated
    | some (source, rest) =>
      match readDelimited delimiter false (rest.length + 1) false rest with
      | none => unterminated
      | some (replacement, rest) =>
        let parts := readReplacement (replacement.length + 1) replacement
        let ((s, mode), rest) ← readSubstitutionFlags (rest.length + 1)
          ⟨none, parts, 1, false, false, none⟩ ⟨false, false⟩ rest
        let finder ← readFinder extended mode source rest
        match finder with
        | some finder =>
          if finder.groups < greatestGroup parts then
            failAt rest ("invalid reference \\" ++ toString (greatestGroup parts) ++
              " on \x60s' command's RHS")
          else return (.substitute { s with finder := some finder }, rest)
        | none => return (.substitute s, rest)

/-- The bytes of one side of a conversion. -/
def convertedBytes : Nat → List UInt8 → List UInt8
  | 0, _ | _, [] => []
  | fuel + 1, 92 :: rest =>
    match producedByte? rest with
    | some (byte, behind) => byte :: convertedBytes fuel behind
    | none =>
      match rest with
      | 92 :: rest => 92 :: convertedBytes fuel rest
      | rest => 92 :: convertedBytes fuel rest
  | fuel + 1, byte :: rest => byte :: convertedBytes fuel rest

/-- A conversion of bytes behind its letter. -/
def readTranslation (bytes : List UInt8) : Checked (Edit × List UInt8) := do
  let unterminated : Checked (Edit × List UInt8) := failAt [] "unterminated \x60y' command"
  match bytes with
  | [] => unterminated
  | delimiter :: rest =>
    match readDelimited delimiter false (rest.length + 1) false rest with
    | none => unterminated
    | some (source, rest) =>
      match readDelimited delimiter false (rest.length + 1) false rest with
      | none => unterminated
      | some (target, rest) =>
        let wanted := convertedBytes (source.length + 1) source
        let given := convertedBytes (target.length + 1) target
        if wanted.length ≠ given.length then
          failAt rest "strings for \x60y' command are different lengths"
        else return (.convert (List.zip wanted given), ← endCommand rest)

/-- A command that stands for itself. -/
def plainEdit? (letter : UInt8) : Option Edit :=
  match Char.ofNat letter.toNat with
  | 'd' => some .delete
  | 'D' => some .deleteFirst
  | 'p' => some .print
  | 'P' => some .printFirst
  | '=' => some .lineNumber
  | 'F' => some .fileName
  | 'n' => some .next
  | 'N' => some .nextAppended
  | 'h' => some .hold
  | 'H' => some .holdAppended
  | 'g' => some .get
  | 'G' => some .getAppended
  | 'x' => some .exchange
  | 'z' => some .clear
  | _ => none

/-- The command at the front of bytes. -/
def readEdit (extended : Bool) (selector : Selector) (letter : UInt8) (rest : List UInt8) :
    Checked (Edit × List UInt8) := do
  let numbered (make : Option Nat → Edit) : Checked (Edit × List UInt8) := do
    match readNumber? (skipBlanks rest) with
    | some (number, rest) => return (make (some number), ← endCommand rest)
    | none => return (make none, ← endCommand rest)
  match plainEdit? letter with
  | some edit => return (edit, ← endCommand rest)
  | none =>
    match Char.ofNat letter.toNat with
    | 'a' =>
      let (text, rest) ← readAdded rest
      return (.append text, rest)
    | 'i' =>
      let (text, rest) ← readAdded rest
      return (.insert text, rest)
    | 'c' =>
      let (text, rest) ← readAdded rest
      return (.change text, rest)
    | 'b' =>
      let (label, rest) := readLabel rest
      return (.jump label, rest)
    | 't' =>
      let (label, rest) := readLabel rest
      return (.jumpIf true label, rest)
    | 'T' =>
      let (label, rest) := readLabel rest
      return (.jumpIf false label, rest)
    | 'v' =>
      let (_, rest) := readLabel rest
      return (.nothing, rest)
    | 'l' => numbered .listed
    | 'q' =>
      if selector.last.isSome then failAt rest "command only uses one address"
      else numbered fun status => .quit true (status.getD 0)
    | 'Q' =>
      if selector.last.isSome then failAt rest "command only uses one address"
      else numbered fun status => .quit false (status.getD 0)
    | 'r' =>
      let (path, rest) ← readFileName rest
      return (.readFile path, rest)
    | 'R' =>
      let (path, rest) ← readFileName rest
      return (.readLine path, rest)
    | 'w' =>
      let (path, rest) ← readFileName rest
      return (.writeFile path, rest)
    | 'W' =>
      let (path, rest) ← readFileName rest
      return (.writeFirst path, rest)
    | 's' => readSubstitution extended rest
    | 'y' => readTranslation rest
    | _ => failAt rest ("unknown command: \x60" ++ Text.ofBytes [letter] ++ "'")

/-- A script whose commands are read; the blocks under way have their places. -/
structure ScriptReading where
  /-- The commands, the last one first. -/
  commands : List Command
  labels : List (String × Nat)
  /-- Where the blocks under way begin, the innermost first. -/
  blocks : List Nat

/-- Puts the length of a block where it begins. -/
def closeBlock (commands : List Command) (start : Nat) : List Command :=
  let index := commands.length - 1 - start
  match commands[index]? with
  | some command => commands.set index { command with edit := .opening (commands.length - 1 - start) }
  | none => commands

/-- Reads the commands of a script. -/
def readCommands (extended : Bool) : Nat → ScriptReading → List UInt8 → Checked ScriptReading
  | 0, reading, _ => .ok reading
  | fuel + 1, reading, bytes =>
    match skipBetween bytes with
    | [] => .ok reading
    | bytes => do
      let (selector, rest) ← readSelector extended bytes
      let isAddressed := selector.first.isSome
      match skipBlanks rest with
      | [] | 10 :: _ => failAt (skipBlanks rest) "missing command"
      | 35 :: rest =>
        if isAddressed then failAt rest "comments don't accept any addresses"
        else readCommands extended fuel reading (rest.dropWhile (· != 10))
      | 58 :: rest =>
        if isAddressed then failAt rest ": doesn't want any addresses"
        else
          let (label, behind) := readLabel rest
          if label.isEmpty then failAt rest "\":\" lacks a label"
          else
            readCommands extended fuel
              { reading with labels := (label, reading.commands.length) :: reading.labels } behind
      | 123 :: rest =>
        readCommands extended fuel
          { reading with
            commands := ⟨selector, .opening 0⟩ :: reading.commands
            blocks := reading.commands.length :: reading.blocks } rest
      | 125 :: rest =>
        match reading.blocks with
        | [] => failAt rest "unexpected \x60\x7d'"
        | start :: blocks =>
          if isAddressed then failAt rest "\x7d doesn't want any addresses"
          else
            let rest ← endCommand rest
            readCommands extended fuel
              { reading with commands := closeBlock reading.commands start, blocks := blocks } rest
      | letter :: rest =>
        let (edit, rest) ← readEdit extended selector letter rest
        readCommands extended fuel
          { reading with commands := ⟨selector, edit⟩ :: reading.commands } rest

/-- The labels that commands jump to. -/
def jumpsOf (commands : List Command) : List String := commands.filterMap fun command =>
  match command.edit with
  | .jump label | .jumpIf _ label => if label.isEmpty then none else some label
  | _ => none

/-- The program that a script stands for, or where there is no sense in it. -/
def readProgram (extended : Bool) (bytes : List UInt8) : Checked Program := do
  let reading ← readCommands extended (bytes.length + 1) ⟨[], [], []⟩ bytes
  if !reading.blocks.isEmpty then throw (none, "unmatched \x60\x7b'")
  return ⟨reading.commands.reverse, reading.labels⟩

end FormatPipeline.Sandbox.Editing
