import FormatPipeline.World.Basic
import FormatPipeline.Text.Pieces

/-! A world given by tables: which files there are, what they hold, and how processes behave. -/

namespace FormatPipeline.Scripted

/-- What a file allows. -/
structure Access where
  readable : Bool
  executable : Bool
  deriving DecidableEq, Repr

/-- How the processes behave whose command line holds a text. -/
structure Rule where
  contains : String
  /-- How many more processes the rule serves; nothing means any number. -/
  remaining : Option Nat
  delay : Nat
  /-- The reasons why the process does not start. -/
  failure : Option (List String)
  stdout : Option String
  replace : Option (String × String)
  append : String
  stderr : String
  exitCode : Option Int
  deriving Repr

/-- The behaviour of a process that no rule speaks of: its output is its input. -/
def Rule.echo : Rule := ⟨"", none, 1, none, none, none, "", "", some 0⟩

/-- What a process does under a rule. -/
def Rule.launch (rule : Rule) (stdin : Option String) : Launch :=
  let base := rule.stdout.getD (stdin.getD "")
  let edited := match rule.replace with
    | some (wanted, substitute) => Text.replaceAll base wanted substitute
    | none => base
  match rule.failure with
  | some reasons => ⟨rule.delay, .error reasons, false⟩
  | none => ⟨rule.delay, .ok ⟨edited ++ rule.append, rule.stderr, rule.exitCode⟩, false⟩

/-- The tables of a world. -/
structure Tables where
  home : Option Path
  /-- The files with what they allow, one entry for each set of equal paths. -/
  entries : List (Path × Access)
  texts : List (Path × String)
  commands : List (String × Path)
  rules : List Rule

/-- Puts a value under a path, in place of the one under an equal path. -/
def put {α : Type} (path : Path) (value : α) (table : List (Path × α)) : List (Path × α) :=
  -- Equal paths count as one key, whatever their spelling.
  if table.any (·.1.same path) then
    table.map fun entry => if entry.1.same path then (entry.1, value) else entry
  else table ++ [(path, value)]

/-- The value under an equal path. -/
def find? {α : Type} (path : Path) (table : List (Path × α)) : Option α :=
  (table.find? (·.1.same path)).map (·.2)

/-- One change to the tables. -/
inductive Change where
  | file (path : Path) (access : Access)
  | text (path : Path) (content : String)
  | command (name : String) (path : Path)
  | remove (path : Path)
  | processes (rules : List Rule)

/-- The access of files that can be read and not run. -/
def plain : Access := ⟨true, false⟩

/-- The access of files that can be read and run. -/
def runnable : Access := ⟨true, true⟩

namespace Tables

/-- Applies a change. -/
def apply (tables : Tables) : Change → Tables
  | .file path access => { tables with entries := put path access tables.entries }
  | .text path content =>
    { tables with entries := put path plain tables.entries, texts := put path content tables.texts }
  | .command name path =>
    { tables with
      entries := put path runnable tables.entries
      commands := (name, path) :: tables.commands }
  | .remove path => { tables with entries := tables.entries.filter (!·.1.same path) }
  | .processes rules => { tables with rules := rules }

/-- A path under which there are other files is a directory. -/
def isDirectory (tables : Tables) (path : Path) : Bool :=
  tables.entries.any fun entry => !entry.1.same path && entry.1.startsWith path

/-- What the tables say about files. -/
def files (tables : Tables) : FileSystem where
  pathExists path := (find? path tables.entries).isSome || tables.isDirectory path
  isReadable path :=
    match find? path tables.entries with
    | some access => access.readable
    | none => tables.isDirectory path
  isExecutable path := ((find? path tables.entries).map (·.executable)).getD false
  home := tables.home
  which name := (tables.commands.find? (·.1 == name)).map (·.2)

/-- Chooses the first rule that fits and is not used up, and counts the use. -/
def choose (line : String) : List Rule → Rule × List Rule
  | [] => (.echo, [])
  | rule :: rest =>
    if rule.remaining ≠ some 0 ∧ Text.occursIn rule.contains.toList line.toList then
      (rule, { rule with remaining := rule.remaining.map (· - 1) } :: rest)
    else
      let (chosen, rest) := choose line rest
      (chosen, rule :: rest)

end Tables

/-- The world of the tables. -/
instance : World Tables where
  files := Tables.files
  readFile tables path :=
    match find? path tables.texts with
    | some text => .ok text
    | none => .error (.other ("no file " ++ path.text))
  launch tables line stdin :=
    -- The rule is chosen when the process starts, and not when it ends.
    let (rule, rules) := Tables.choose line tables.rules
    (rule.launch stdin, { tables with rules := rules })

end FormatPipeline.Scripted
