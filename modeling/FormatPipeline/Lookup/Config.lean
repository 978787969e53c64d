import FormatPipeline.Lookup.Binary

/-! Finding the configuration file to pass to a formatter. -/

namespace FormatPipeline

/-- Where the configuration file of a formatter is looked for: paths, and names to search for. -/
structure ConfigFinder where
  formatter : String
  candidates : List String
  memo : SearchMemo

namespace ConfigFinder

/-- Nothing is configured yet. -/
def ofFormatter (formatter : String) : ConfigFinder := ⟨formatter, [], .empty⟩

/-- The first entry that is neither a readable path nor a valid name. -/
def firstInvalid (formatter : String) (files : FileSystem) :
    List String → Probed (Option ConfigurationError)
  | [] => pure none
  | entry :: rest => do
    if isPathEntry entry then
      -- A path has to be readable now, and a name only has to be one.
      let path := Path.expandHome files.home entry
      if ← Probed.ask (files.isReadable path) then firstInvalid formatter files rest
      else return some (.invalidConfigPath formatter path)
    else if isValidFileName entry then firstInvalid formatter files rest
    else return some (.invalidConfigName formatter entry)

/-- Sets the candidates; a list with an invalid entry becomes empty. -/
def setCandidates (finder : ConfigFinder) (files : FileSystem) (candidates : List String) :
    Probed (ConfigFinder × Option ConfigurationError) :=
  if candidates = finder.candidates then pure (finder, none)
  else do
    match ← firstInvalid finder.formatter files candidates with
    | some error => return ({ finder with candidates := [], memo := .empty }, some error)
    | none => return ({ finder with candidates := candidates, memo := .empty }, none)

/-- The path of the first candidate that is a path or a name found around the file. -/
def search (files : FileSystem) (file : Path) : List String → Probed (Option Path)
  | [] => pure none
  | entry :: rest => do
    -- A path stands for itself, without a search.
    if isPathEntry entry then return some (Path.expandHome files.home entry)
    match ← Lookup.firstAround files file [entry] with
    | some found => return some found
    | none => search files file rest

/-- The configuration file for a file; there need not be one. -/
def resolve (finder : ConfigFinder) (files : FileSystem) (file : Path) :
    Probed (Option Path × ConfigFinder) := do
  let (found, memo) ← finder.memo.findOr file (search files file finder.candidates)
  return (found, { finder with memo := memo })

end ConfigFinder

end FormatPipeline
