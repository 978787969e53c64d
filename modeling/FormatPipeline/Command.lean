import FormatPipeline.Profile

/-! The commands by which an editor asks for formatting. -/

namespace FormatPipeline.Command

/-- What the names of all commands begin with. -/
def family : String := "fmtchain"

/-- The command that runs the formatters in their order. -/
def format : String := family ++ ":format"

/-- The command that turns formatting on save on or off. -/
def toggleOnSave : String := family ++ ":toggle-format-on-save"

/-- The command that runs one formatter. -/
def run (formatter : String) : String := family ++ ":" ++ formatter

/-- The names without those that came before, in order. -/
def addNew (names : List String) (name : String) : List String :=
  if name ∈ names then names else names ++ [name]

/-- The commands for formatters of these names. -/
def namesFor (formatters : List String) : List String :=
  (formatters.map run).foldl addNew [format, toggleOnSave]

/-- The commands for the formatters of these profiles. -/
def namesOf (profiles : List Profile) : List String := namesFor (profiles.map (·.name))

end FormatPipeline.Command
