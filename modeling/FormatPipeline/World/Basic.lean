import FormatPipeline.Path.Basic

/-! The outside world: files that can be probed and read, and processes that can be started. -/

namespace FormatPipeline

/-- What can be found out about files and commands without changing anything. -/
structure FileSystem where
  pathExists : Path → Bool
  isReadable : Path → Bool
  isExecutable : Path → Bool
  home : Option Path
  /-- The binary that a command name stands for. -/
  which : String → Option Path

/-- Why a file cannot be read. -/
inductive ReadError where
  | notFound
  | notDirectory
  | isDirectory
  | notUtf8
  /-- So many links lead to each other that they may go round in circles. -/
  | tooManyLinks
  | nameTooLong
  /-- There is a null character in the path. -/
  | hasNull
  | other (message : String)
  deriving DecidableEq, Repr

/-- The wording of a read error. -/
def ReadError.message : ReadError → String
  | .notFound => "No such file or directory (os error 2)"
  | .notDirectory => "Not a directory (os error 20)"
  | .isDirectory => "Is a directory (os error 21)"
  | .notUtf8 => "stream did not contain valid UTF-8"
  | .tooManyLinks => "Too many levels of symbolic links (os error 40)"
  | .nameTooLong => "File name too long (os error 36)"
  | .hasNull => "file name contained an unexpected NUL byte"
  | .other message => message

/-- What a process left behind when it ended; one that was killed has no exit code. -/
structure ProcessOutput where
  stdout : String
  stderr : String
  exitCode : Option Int
  deriving DecidableEq, Repr

/-- A command line handed to the shell: how long it takes, and its output or why it failed to start. -/
structure Launch where
  /-- Milliseconds until the result is there; without a delay the caller does not wait at all. -/
  delay : Nat
  /-- The reasons for a failure go from the outermost to the innermost. -/
  result : Except (List String) ProcessOutput
  /-- Whether the process ended while there was input left that it could have been given. -/
  leavesInput : Bool

/-- A state of the world, in which starting a process is the only thing that changes it. -/
class World (ω : Type) where
  files : ω → FileSystem
  readFile : ω → Path → Except ReadError String
  /-- Hands a command line and the text for its standard input to the shell. -/
  launch : ω → String → Option String → Launch × ω

end FormatPipeline
