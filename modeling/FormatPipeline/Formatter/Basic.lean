import FormatPipeline.Formatter.Arguments
import FormatPipeline.Lookup.Config

/-! A formatter with its settings and everything it remembers. -/

namespace FormatPipeline

/-- What to run for a file. -/
structure Invocation where
  binary : Path
  scope : Scope
  arguments : List String
  deriving DecidableEq, Repr

/-- One formatter. -/
structure Formatter where
  profile : Profile
  binaries : BinaryFinder
  localConfigs : ConfigFinder
  globalConfigs : ConfigFinder
  localArguments : List String
  globalArguments : List String
  arguments : ArgumentMemo

namespace Formatter

/-- A formatter without any settings. -/
def ofProfile (profile : Profile) : Formatter where
  profile := profile
  binaries := .ofFormatter profile.name
  localConfigs := .ofFormatter profile.name
  globalConfigs := .ofFormatter profile.name
  localArguments := []
  globalArguments := []
  arguments := .empty

/-- The name by which the formatter is registered. -/
def name (formatter : Formatter) : String := formatter.profile.name

/-- The configuration file that goes with a binary of the scope. -/
def resolveConfig (formatter : Formatter) (files : FileSystem) (file : Path) :
    Scope → Probed (Option Path × Formatter)
  | .inRepository => do
    let (config, finder) ← formatter.localConfigs.resolve files file
    return (config, { formatter with localConfigs := finder })
  | .anywhere => do
    let (config, finder) ← formatter.globalConfigs.resolve files file
    return (config, { formatter with globalConfigs := finder })

/-- The arguments of the user that go with a binary of the scope. -/
def ownArguments (formatter : Formatter) : Scope → List String
  | .inRepository => formatter.localArguments
  | .anywhere => formatter.globalArguments

/-- What to run for a file and the configuration file that it uses, if there is a binary. -/
def resolve (formatter : Formatter) (files : FileSystem) (file : Path) (mode : Mode) :
    Probed (Option (Invocation × Option Path) × Formatter) := do
  let (binary, binaries) ← formatter.binaries.resolve files file
  let formatter := { formatter with binaries := binaries }
  match binary with
  | none => return (none, formatter)
  | some (path, scope) =>
    -- Where the binary was found decides which configuration files are searched for.
    let (config, formatter) ← formatter.resolveConfig files file scope
    let (arguments, memo) := formatter.arguments.build formatter.profile file config mode
    return (some (⟨path, scope, formatter.ownArguments scope ++ arguments⟩, config),
      { formatter with arguments := memo })

end Formatter

end FormatPipeline
