import FormatPipeline.Workspace.Basic

/-! Running a binary on a document through the shell. -/

namespace FormatPipeline

/-- A process that has been started for a document. -/
structure InFlight where
  document : Handle
  commandLine : String
  /-- Where the cursor was when the process was started. -/
  cursor : Position
  mode : Mode
  result : Except (List String) ProcessOutput
  /-- Whether the process ended without taking all of its input. -/
  leavesInput : Bool

/-- What is logged about a process that ended without taking all of its input. -/
def inputLeft (commandLine : String) : String :=
  "Failed writing stdin of '" ++ commandLine ++ "': Broken pipe (os error 32)"

namespace Workspace

variable {ω : Type} [World ω]

/-- Starts a binary for a document, whose text is its input in buffer mode, and gives its delay. -/
def startProcess (w : Workspace ω) (handle : Handle) (document : Document) (binary : Path)
    (arguments : List String) (mode : Mode) : Workspace ω × Nat × InFlight :=
  let line := Shell.commandLine binary arguments
  -- The input is the text at the start; what the document has later is not read.
  let stdin := match mode with
    | .buffer => some document.text
    | .file => none
  let w := w.debug ("Running: " ++ line)
  let (launch, world) := World.launch w.world line stdin
  ({ w with world := world, outlet := w.outlet.record (.spawn line stdin) },
    launch.delay, ⟨handle, line, document.cursor, mode, launch.result, launch.leavesInput⟩)

omit [World ω] in
/-- Logs the exit code of a process. -/
def logExit (w : Workspace ω) (commandLine : String) : Option Int → Workspace ω
  | some code => w.debug ("Exited with code " ++ toString code ++ ": " ++ commandLine)
  | none => w.debug ("Exited without a code: " ++ commandLine)

omit [World ω] in
/-- Takes over what a process did: its error text is reported, its output replaces a buffer. -/
def finishProcess (w : Workspace ω) (flight : InFlight) : Workspace ω × RunResult :=
  match flight.result with
  | .error reasons =>
    (w.report (.spawnFailed flight.commandLine (Text.joinWith ": " reasons)), .spawnFailed)
  | .ok output =>
    let w := if flight.leavesInput then w.debug (inputLeft flight.commandLine) else w
    let w := w.logExit flight.commandLine output.exitCode
    let w := if Text.allBlank output.stderr then w
      else w.report (.stderr flight.commandLine (Text.trimEnd output.stderr))
    -- The exit code does not matter: a buffer takes the output in any case.
    let w := match flight.mode with
      | .buffer => (w.setText flight.document output.stdout).setCursor flight.document flight.cursor
      | .file => w
    (w, .exited output.exitCode)

end Workspace

end FormatPipeline
