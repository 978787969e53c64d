/-! What is known about each formatter: its flags and where it is usually found. -/

namespace FormatPipeline

/-- How a formatter reads a document and where it writes the result. -/
inductive Mode where
  /-- The text goes through the process, from its input to its output. -/
  | buffer
  /-- The process changes the file on disk. -/
  | file
  deriving DecidableEq, Repr, Inhabited

/-- How a formatter is invoked. -/
structure Profile where
  name : String
  bufferArguments : List String
  fileArguments : List String
  /-- The flag in front of the path of a configuration file. -/
  configFlag : String
  /-- The configuration files to search for unless the settings name others. -/
  localConfigs : List String
  deriving DecidableEq, Repr, Inhabited

namespace Profile

/-- The arguments that are always passed in a mode. -/
def arguments (profile : Profile) : Mode → List String
  | .buffer => profile.bufferArguments
  | .file => profile.fileArguments

/-- The places inside a repository where the binary is searched for unless the settings name others. -/
def localBins (profile : Profile) : List String :=
  ["venv/bin/" ++ profile.name, ".venv/bin/" ++ profile.name]

/-- The formatters that are known without any configuration. -/
def builtin : List Profile := [
  ⟨"autoflake", [], ["--in-place"], "--config", ["pyproject.toml", "setup.cfg"]⟩,
  ⟨"autopep8", [], ["--in-place"], "--global-config", ["setup.cfg", "tox.ini", ".pep8"]⟩,
  ⟨"black", ["-q"], ["-q"], "--config", ["pyproject.toml"]⟩,
  ⟨"isort", ["-q"], ["-q"], "--settings-path", [".isort.cfg", "pyproject.toml"]⟩,
  ⟨"yapf", [], ["--in-place"], "--style", [".style.yapf", "setup.cfg"]⟩]

end Profile

end FormatPipeline
