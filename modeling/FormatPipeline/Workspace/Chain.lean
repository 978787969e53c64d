import FormatPipeline.Label
import FormatPipeline.Schedule.Timeline
import FormatPipeline.Workspace.Formatting

/-! Formatters running on a document one after another. -/

namespace FormatPipeline

/-- A chain of formatters under way on a document. -/
structure ChainRun where
  number : Nat
  document : Handle
  displayPath : String
  mode : Mode
  /-- The steps that are complete, the latest first. -/
  steps : List ChainStep

/-- A chain or a single formatter while its process runs. -/
inductive Sleeper where
  | chain (run : ChainRun) (name : String) (rest : List String) (scope : Scope) (flight : InFlight)
  | single (number : Nat) (scope : Scope) (flight : InFlight)

/-- How many more processes there can be. -/
def Sleeper.weight : Sleeper → Nat
  | chain _ _ rest _ _ => rest.length + 1
  | single .. => 1

/-- Work that was asked for and has not begun. -/
inductive Errand where
  /-- The format order on the document that is active when the errand begins. -/
  | formatActive (number : Nat)
  /-- One formatter on the document that is active when the errand begins. -/
  | runOnActive (number : Nat) (formatter : String)
  /-- The save order on a document that was saved. -/
  | formatSaved (number : Nat) (document : Handle)
  | chain (number : Nat) (document : Handle) (names : List String) (mode : Mode)
  | single (number : Nat) (formatter : String) (document : Handle) (mode : Mode)

namespace ChainRun

/-- The label of the whole chain. -/
def label (run : ChainRun) : String := Label.chain run.displayPath

/-- The label of one of its formatters. -/
def stepLabel (run : ChainRun) (name : String) : String := Label.step name run.displayPath

/-- The chain with one more complete step. -/
def record (run : ChainRun) (name : String) (outcome : Option Outcome) : ChainRun :=
  -- The steps are turned around when the chain is complete.
  { run with steps := ⟨name, outcome⟩ :: run.steps }

end ChainRun

namespace Workspace

variable {ω : Type} [World ω]

/-- Runs the formatters in order until one has to be waited for or none is left. -/
def runChain (now : Nat) (run : ChainRun) :
    List String → Workspace ω → Workspace ω × Option (Nat × Sleeper)
  -- The chain's own label goes last, after those of its formatters.
  | [], w => ((w.endBusyLogged now run.label).finish run.number (.chain run.steps.reverse), none)
  | name :: rest, w =>
    match w.formatter? name, w.document? run.document with
    | some formatter, some document =>
      -- A formatter is shown from its start until its outcome is known.
      let w := w.beginBusy now (run.stepLabel name)
      match w.beginFormat formatter run.document document run.mode with
      | (w, .running delay scope flight) => (w, some (delay, .chain run name rest scope flight))
      | (w, .done outcome) =>
        runChain now (run.record name (some outcome)) rest (w.endBusyLogged now (run.stepLabel name))
    -- An unknown name does not stop the chain.
    | _, _ => runChain now (run.record name none) rest (w.report (.unknownFormatter name))

/-- Starts a chain; one without formatters is over at once and clears its label. -/
def startChain (now : Nat) (number : Nat) (handle : Handle) (names : List String) (mode : Mode)
    (w : Workspace ω) : Workspace ω × Option (Nat × Sleeper) :=
  let displayPath := ((w.document? handle).map (·.displayPath)).getD ""
  -- The label was never put up here, but another chain may have the same one.
  if names.isEmpty then
    (((w.endBusy now (Label.chain displayPath)).1).finish number (.chain []), none)
  else runChain now ⟨number, handle, displayPath, mode, []⟩ names (w.beginBusy now (Label.chain displayPath))

omit [World ω] in
/-- There is nothing to format. -/
def finishWithoutDocument (w : Workspace ω) (number : Nat) : Workspace ω :=
  (w.debug "No active document to format.").finish number (.chain [])

/-- Begins an errand. -/
def startErrand (now : Nat) (errand : Errand) (w : Workspace ω) :
    Workspace ω × Option (Nat × Sleeper) :=
  match errand with
  | .formatActive number =>
    match w.documents.active? with
    -- The active document is looked up now, and not when the errand was asked for.
    | none => (w.finishWithoutDocument number, none)
    | some handle =>
      if w.coordination.formatOrder.isEmpty then
        ((w.report (.configuration (.orderNotDefined .format))).finish number (.chain []), none)
      else startChain now number handle w.coordination.formatOrder .buffer w
  | .runOnActive number formatter =>
    match w.documents.active? with
    | none => (w.finishWithoutDocument number, none)
    | some handle => startChain now number handle [formatter] .buffer w
  | .formatSaved number handle =>
    if w.coordination.saveOrder.isEmpty then
      ((w.report (.configuration (.orderNotDefined .save))).finish number (.chain []), none)
    else startChain now number handle w.coordination.saveOrder .file w
  | .chain number handle names mode => startChain now number handle names mode w
  | .single number name handle mode =>
    match w.formatter? name, w.document? handle with
    | some formatter, some document =>
      match w.beginFormat formatter handle document mode with
      | (w, .running delay scope flight) => (w, some (delay, .single number scope flight))
      | (w, .done outcome) => (w.finish number (.single outcome), none)
    | _, _ => (w.finish number (.single .binaryNotFound), none)

/-- Goes on when a process has ended. -/
def wakeSleeper (now : Nat) (sleeper : Sleeper) (w : Workspace ω) :
    Workspace ω × Option (Nat × Sleeper) :=
  match sleeper with
  | .single number scope flight =>
    let (w, result) := w.finishProcess flight
    (w.finish number (.single (.ran scope result)), none)
  | .chain run name rest scope flight =>
    let (w, result) := w.finishProcess flight
    runChain now (run.record name (some (.ran scope result))) rest
      (w.endBusyLogged now (run.stepLabel name))

/-- A chain that waits has fewer formatters before it than it had to run. -/
theorem weight_runChain {now : Nat} {run : ChainRun} {names : List String} {w : Workspace ω}
    {delay : Nat} {sleeper : Sleeper} (waits : (runChain now run names w).2 = some (delay, sleeper)) :
    sleeper.weight ≤ names.length := by
  -- The waiting formatter is one of the names, and the rest follow it.
  induction names generalizing run w with
  | nil => simp [runChain] at waits
  | cons name rest ih =>
    simp only [runChain] at waits
    split at waits
    · split at waits
      · cases waits
        simp [Sleeper.weight]
      · exact Nat.le_succ_of_le (ih waits)
    · exact Nat.le_succ_of_le (ih waits)

/-- Chains and single formatters as work of a timeline. -/
def chainMachine : Schedule.Machine Errand Sleeper (Workspace ω) where
  start := startErrand
  wake := wakeSleeper
  weight := Sleeper.weight
  weight_wake := by
    -- A chain goes on with the formatters behind the one that it waited for.
    intro now sleeper w delay next woken
    cases sleeper with
    | single number scope flight => simp [wakeSleeper] at woken
    | chain run name rest scope flight =>
      exact Nat.lt_succ_of_le (weight_runChain woken)

end Workspace

end FormatPipeline
