import FormatPipeline.Lookup.Memo
import FormatPipeline.Profile
import FormatPipeline.Shell.Quoting

/-! The arguments that a formatter is run with. -/

namespace FormatPipeline

/-- The argument that makes a formatter read its input and write its output. -/
def stdinMarker : String := "-"

/-- The usual arguments, then the configuration file, then what is to be formatted. -/
def Profile.argumentsFor (profile : Profile) (file : Path) (config : Option Path) (mode : Mode) :
    List String :=
  let configured := match config with
    -- An empty path is as good as none.
    | some path => if path.text.isEmpty then [] else [profile.configFlag, Shell.quoteIfNeeded path]
    | none => []
  let target := match mode with
    | .buffer => stdinMarker
    | .file => Shell.quote file
  profile.arguments mode ++ configured ++ [target]

/-- What arguments are remembered by: the file, the configuration file and the mode. -/
abbrev ArgumentKey := List Path.Component × Option (List Path.Component) × Mode

/-- Arguments that were written before. -/
abbrev ArgumentMemo := Memo ArgumentKey (List String)

/-- The arguments as they were written the first time for equal paths. -/
def ArgumentMemo.build (memo : ArgumentMemo) (profile : Profile) (file : Path) (config : Option Path)
    (mode : Mode) : List String × ArgumentMemo :=
  -- Neither spelling nor settings are part of the key.
  let key := (file.components, config.map (·.components), mode)
  match memo.find? key with
  | some known => (known, memo)
  | none =>
    let written := profile.argumentsFor file config mode
    (written, memo.remember key written)

end FormatPipeline
