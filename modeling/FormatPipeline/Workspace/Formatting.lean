import FormatPipeline.Workspace.Process

/-! Settings of formatters taking effect, and one formatter running on one document. -/

namespace FormatPipeline.Workspace

open Settings (Slot)

variable {ω : Type} [World ω]

omit [World ω] in
/-- Logs and reports what came of a new setting. -/
def noteApplied (w : Workspace ω) (what formatter : String) :
    Option ConfigurationError → Workspace ω
  | none => w.debug ("Applied " ++ what ++ " for " ++ formatter ++ ".")
  | some error =>
    (w.debug ("Reset " ++ what ++ " for " ++ formatter ++ ".")).report (.configuration error)

/-- Sets where the binary is searched for in repositories. -/
def setLocalBins (w : Workspace ω) (formatter : Formatter) (names : List String) : Workspace ω :=
  let (binaries, error) := formatter.binaries.setLocalBins names
  (w.putFormatter { formatter with binaries := binaries }).noteApplied "local binaries" formatter.name error

/-- Sets the binary of the user. -/
def setGlobalBin (w : Workspace ω) (formatter : Formatter) (value : String) : Workspace ω :=
  let (w, binaries, error) := w.counting (formatter.binaries.setGlobalBin (World.files w.world) value)
  (w.putFormatter { formatter with binaries := binaries }).noteApplied
    "global binary path" formatter.name error

/-- Sets the configuration files that go with binaries in repositories. -/
def setLocalConfigs (w : Workspace ω) (formatter : Formatter) (candidates : List String) : Workspace ω :=
  let (w, configs, error) :=
    w.counting (formatter.localConfigs.setCandidates (World.files w.world) candidates)
  (w.putFormatter { formatter with localConfigs := configs }).noteApplied
    "local configs" formatter.name error

/-- Sets the configuration files that go with the binary of the user. -/
def setGlobalConfigs (w : Workspace ω) (formatter : Formatter) (candidates : List String) : Workspace ω :=
  let (w, configs, error) :=
    w.counting (formatter.globalConfigs.setCandidates (World.files w.world) candidates)
  (w.putFormatter { formatter with globalConfigs := configs }).noteApplied
    "global configs" formatter.name error

/-- Lets the value of one of its settings take effect on a formatter. -/
def applySlot (w : Workspace ω) (formatter : Formatter) (slot : Slot) (value : Json.Value) :
    Workspace ω :=
  match slot with
  | .localBins => w.setLocalBins formatter (Settings.stringList value)
  | .localArguments => w.putFormatter { formatter with localArguments := Settings.stringList value }
  | .localConfigs => w.setLocalConfigs formatter (Settings.stringList value)
  | .globalBinPath => w.setGlobalBin formatter (Settings.text value)
  | .globalArguments => w.putFormatter { formatter with globalArguments := Settings.stringList value }
  | .globalConfigs => w.setGlobalConfigs formatter (Settings.stringList value)

/-- What is logged about a resolution. -/
def resolvedText (formatter : String) (file : Path) (invocation : Invocation) (config : Option Path) :
    String :=
  "Resolved " ++ formatter ++ " for " ++ file.text ++ ": binary " ++ invocation.binary.text ++
    ", config " ++ (config.map (·.text)).getD "<none>"

/-- What to run for a file, if the formatter has a binary for it. -/
def resolve (w : Workspace ω) (formatter : Formatter) (file : Path) (mode : Mode) :
    Workspace ω × Option Invocation :=
  let (w, found, formatter) := w.counting (formatter.resolve (World.files w.world) file mode)
  -- What the formatter remembers now is kept, even if it found nothing.
  let w := w.putFormatter formatter
  match found with
  | none => (w, none)
  | some (invocation, config) =>
    (w.debug (resolvedText formatter.name file invocation config), some invocation)

/-- What comes of starting a formatter: an outcome, or a process to wait for. -/
inductive Begun where
  | done (outcome : Outcome)
  | running (delay : Nat) (scope : Scope) (flight : InFlight)

/-- Starts a formatter on a document; a process without a delay is complete at once. -/
def beginFormat (w : Workspace ω) (formatter : Formatter) (handle : Handle) (document : Document)
    (mode : Mode) : Workspace ω × Begun :=
  match w.resolve formatter document.path mode with
  | (w, none) => (w.report (.binaryNotFound formatter.name), .done .binaryNotFound)
  | (w, some invocation) =>
    let (w, delay, flight) :=
      w.startProcess handle document invocation.binary invocation.arguments mode
    -- Nobody else has a turn in between.
    if delay = 0 then
      let (w, result) := w.finishProcess flight
      (w, .done (.ran invocation.scope result))
    else (w, .running delay invocation.scope flight)

end FormatPipeline.Workspace
