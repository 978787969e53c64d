import FormatPipeline.Sandbox.Job
import FormatPipeline.Shell.Number
import FormatPipeline.Shell.Pattern

/-! From the pieces of a word to the fields that a command gets to see. -/

namespace FormatPipeline.Sandbox

open Shell (Mark Pattern)

/-- What becomes of a word that is expanded. -/
inductive Purpose where
  /-- It stays one text. -/
  | text
  /-- It falls apart in its values. -/
  | fields
  /-- It falls apart in its values and between them. -/
  | pieces
  deriving DecidableEq, Repr

/-- A part of a word whose expansions are known. -/
inductive Glyph where
  /-- A character, which may have a special meaning in patterns and may be where fields end. -/
  | char (mark : Mark) (splits : Bool)
  /-- Something that makes a field, however empty. -/
  | quotes
  /-- The end of one of several values. -/
  | boundary
  deriving DecidableEq, Repr

/-- The glyphs of a text that stays together. -/
def keptGlyphs (text : List Char) : List Glyph := text.map fun c => .char ⟨c, false⟩ false

/-- The glyphs of a value, which stays together inside quotes. -/
def valueGlyphs (inQuotes : Bool) (text : List Char) : List Glyph :=
  text.map fun c => .char ⟨c, !inQuotes⟩ (!inQuotes)

/-- Glyphs with something between each two groups of them. -/
def glue {α : Type} (between : List α) : List (List α) → List α
  | [] => []
  | [group] => group
  | group :: rest => group ++ between ++ glue between rest

/-- The marks in glyphs. -/
def marksOf (glyphs : List Glyph) : List Mark := glyphs.filterMap fun glyph => match glyph with
  | .char mark _ => some mark
  | _ => none

/-- The text of glyphs that stay together, with something between each two values. -/
def textOf (between : List Char) (glyphs : List Glyph) : String :=
  .ofList (glyphs.flatMap fun glyph => match glyph with
    | .char mark _ => [mark.char]
    | .quotes => []
    | .boundary => between)

/-- Whether a character between fields counts only together with others like it. -/
def isFieldBlank (c : Char) : Bool := c == ' ' || c == '\t' || c == '\n'

/--
The fields among glyphs, whose ends are the separators.
One field may be under way in reverse order; behind a blank another separator belongs to the same end.
-/
def fieldsOf (separators : List Char) : Option (List Mark) → Bool → List Glyph → List (List Mark)
  | current, _, [] => current.toList.map List.reverse
  | current, _, .quotes :: rest => fieldsOf separators (some (current.getD [])) false rest
  | current, _, .boundary :: rest =>
    current.toList.map List.reverse ++ fieldsOf separators none false rest
  | current, behindBlank, .char mark splits :: rest =>
    if splits && separators.contains mark.char then
      match current with
      | some field => field.reverse :: fieldsOf separators none (isFieldBlank mark.char) rest
      | none =>
        if isFieldBlank mark.char then fieldsOf separators none behindBlank rest
        else if behindBlank then fieldsOf separators none false rest
        else [] :: fieldsOf separators none false rest
    else fieldsOf separators (some (mark :: current.getD [])) false rest

/-- The characters at which values fall apart. -/
def Job.separators (job : Job) : List Char := ((job.value? "IFS").getD " \t\n").toList

/-- A pathname pattern cut at the slashes: each part with the number of slashes behind it. -/
def pathParts : List Mark → List (List Mark × Nat)
  | [] => []
  | mark :: rest =>
    match mark.char == '/', pathParts rest with
    | true, ([], slashes) :: parts => ([], slashes + 1) :: parts
    | true, parts => ([], 1) :: parts
    | false, [] => [([mark], 0)]
    | false, ([], slashes) :: parts => ([mark], slashes) :: parts
    | false, (part, slashes) :: parts => (mark :: part, slashes) :: parts

/-- The names in a directory that a part of a path stands for. -/
def namesLike (job : Job) (lead : String) (part : List Mark) : List String :=
  let pattern := Pattern.ofMarks part
  match job.tree.inspect job.directory true (if lead.isEmpty then "." else lead) with
  | .ok (place, .directory) =>
    -- Hidden names are found only by a pattern that begins with a dot.
    let hidden := (part.head?.map (·.char)) == some '.'
    let names := if hidden then "." :: ".." :: job.tree.names place else job.tree.names place
    names.filter fun name =>
      (hidden || name.toList.head? != some '.') && pattern.describes name
  | _ => []

/-- The paths that begin with a text and go on like a pattern. -/
def pathsLike (job : Job) (lead : String) : List (List Mark × Nat) → List String
  | [] => if (job.tree.find? job.directory false lead).isSome then [lead] else []
  | (part, slashes) :: rest =>
    let behind := String.ofList (List.replicate slashes '/')
    if (Pattern.ofMarks part).isOpen then
      (namesLike job lead part).flatMap fun name =>
        let path := lead ++ name ++ behind
        let goesOn := slashes = 0 ∨ job.find? (lead ++ name) == some .directory
        if goesOn then pathsLike job path rest else []
    else
      let name := Shell.ofByteChars ((Pattern.ofMarks part).filterMap fun item => match item with
        | .char c => some c
        | _ => none)
      pathsLike job (lead ++ name ++ behind) rest

/-- The paths that a field stands for; without any it stands for itself. -/
def pathsOf (job : Job) (field : List Mark) : List String :=
  let itself := String.ofList (field.map (·.char))
  if job.has 'f' || !field.any (fun mark => mark.special && "*?[".toList.contains mark.char) then
    [itself]
  else match pathsLike job "" (pathParts field) with
    | [] => [itself]
    | paths => paths.mergeSort (· ≤ ·)

namespace Job

/-- The value of a parameter, if it has one. -/
def parameter? (job : Job) (name : String) : Option String :=
  match name with
  | "#" => some (toString job.arguments.length)
  | "?" => some (toString job.status)
  | "$" => some (toString job.number)
  | "-" => some (.ofList job.options)
  | "!" => job.lastChild.map toString
  | "0" => some job.name
  | name =>
    match Shell.decimal? name with
    | some position => if position = 0 then some job.name else job.arguments[position - 1]?
    | none => job.value? name

/-- Whether a parameter stands for all arguments. -/
def isEvery (name : String) : Bool := name == "@" || name == "*"

/-- Whether the arguments stay apart where a parameter stands for all of them. -/
def keepsApart (name : String) (inQuotes : Bool) : Bool := name == "@" || !inQuotes

/-- The glyphs of all arguments, or of what is left of them. -/
def everyGlyphs (job : Job) (name : String) (inQuotes : Bool) (arguments : List String) :
    List Glyph :=
  let groups := arguments.map fun argument => valueGlyphs inQuotes argument.toList
  if name = "@" ∧ inQuotes then glue [.boundary] (groups.map fun group => .quotes :: group)
  else if inQuotes then
    -- The first separator stands between the arguments.
    glue (keptGlyphs ((job.separators.take 1))) groups
  else glue [.boundary] groups

/-- The length of a text in bytes. -/
def lengthText (text : String) : String := toString text.utf8ByteSize

end Job

/-- The home directory that a name stands for; without a name it is that of the user. -/
def homeOf? (job : Job) (user : List Char) : Option String :=
  match String.ofList user with
  | "" => job.value? "HOME"
  | "root" => some "/root"
  | _ => none

/-- The unquoted name behind a tilde, up to a slash or a colon, and what follows it. -/
def tildeName? : Shell.Word → Option (List Char × Shell.Word)
  | [] => some ([], [])
  | .plain c :: rest =>
    if c = '/' ∨ c = ':' then some ([], .plain c :: rest)
    else (tildeName? rest).map fun (name, rest) => (c :: name, rest)
  | _ => none

/-- A tilde at the beginning of a word with the directory that it stands for, and what follows. -/
def homeTilde? (job : Job) : Shell.Word → Option (String × Shell.Word)
  | .plain '~' :: rest => do
    let (name, rest) ← tildeName? rest
    return (← homeOf? job name, rest)
  | _ => none

end FormatPipeline.Sandbox
