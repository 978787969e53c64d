import FormatPipeline.Lookup.Memo
import FormatPipeline.Lookup.Upward
import FormatPipeline.Path.Basic
import FormatPipeline.Problem

/-! Finding the binary to run for a file: inside its repository, or else where the user says. -/

namespace FormatPipeline

/-- Which settings a resolution comes from. -/
inductive Scope where
  /-- Found in the repository of the file. -/
  | inRepository
  /-- Configured by the user. -/
  | anywhere
  deriving DecidableEq, Repr

/-- The results of searches by the components of the file they were made for. -/
abbrev SearchMemo := Memo (List Path.Component) (Option Path)

/-- Remembers what a search finds, and searches only for files that are not remembered. -/
def SearchMemo.findOr (memo : SearchMemo) (file : Path) (search : Probed (Option Path)) :
    Probed (Option Path × SearchMemo) :=
  match memo.find? file.components with
  | some known => pure (known, memo)
  | none => do
    let found ← search
    return (found, memo.remember file.components found)

/-- Where the binary of a formatter is looked for. -/
structure BinaryFinder where
  formatter : String
  localBins : List String
  globalBin : Option Path
  memo : SearchMemo

namespace BinaryFinder

/-- Nothing is configured yet. -/
def ofFormatter (formatter : String) : BinaryFinder := ⟨formatter, [], none, .empty⟩

/-- Sets the names to search for in the repository; a list with an invalid name becomes empty. -/
def setLocalBins (finder : BinaryFinder) (names : List String) :
    BinaryFinder × Option ConfigurationError :=
  if names = finder.localBins then (finder, none)
  -- Both a new list and a rejected one make earlier findings worthless.
  else match names.find? (!isValidFileName ·) with
    | some entry =>
      ({ finder with localBins := [], memo := .empty },
        some (.invalidLocalBinName finder.formatter entry))
    | none => ({ finder with localBins := names, memo := .empty }, none)

/-- Whether the value can be the name of a command, and not the spelling of a path. -/
def isCommandName (value : String) : Bool :=
  value.toList.head? != some '~' && !value.toList.any fun c => c == '/' || c == '\\'

/-- Sets the binary of the user; a blank value clears it, and so does one that cannot be run. -/
def setGlobalBin (finder : BinaryFinder) (files : FileSystem) (value : String) :
    Probed (BinaryFinder × Option ConfigurationError) :=
  let value := Text.trim value
  if value.isEmpty then pure ({ finder with globalBin := none }, none)
  else
    let path := Path.expandHome files.home value
    -- The binary in use is not asked for again.
    if finder.globalBin.any (·.same path) then pure (finder, none)
    else do
      if ← Probed.ask (files.isExecutable path) then
        return ({ finder with globalBin := some path }, none)
      -- A bare name may still stand for a command.
      match if isCommandName value then files.which value else none with
      | some binary => return ({ finder with globalBin := some binary }, none)
      | none =>
        return ({ finder with globalBin := none }, some (.invalidGlobalBinPath finder.formatter path))

/-- The binary for a file: one from its repository is preferred over the one of the user. -/
def resolve (finder : BinaryFinder) (files : FileSystem) (file : Path) :
    Probed (Option (Path × Scope) × BinaryFinder) := do
  let (found, memo) ← finder.memo.findOr file (Lookup.firstAround files file finder.localBins)
  let finder := { finder with memo := memo }
  match found with
  | some path => return (some (path, .inRepository), finder)
  -- The binary of the user was looked at when it was set.
  | none => return (finder.globalBin.map (·, .anywhere), finder)

end BinaryFinder

end FormatPipeline
