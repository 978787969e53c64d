import FormatPipeline.Proofs.Schedule.Translation
import FormatPipeline.Proofs.World.Scripted
import FormatPipeline.Workspace.Chain
import FormatPipeline.Workspace.Coordination
import Mathlib.Tactic.Simps.Basic

/-! A workspace without exit codes and log texts, in which everything happens as it does with them. -/

namespace FormatPipeline

open Schedule (translated)
open Settings (OrderKind Slot)

/-! ## What there is without exit codes -/

/-- How a process ended, without its exit code. -/
def RunResult.uncoded : RunResult → RunResult
  | exited _ => exited none
  | spawnFailed => spawnFailed

/-- What came of a formatter, without an exit code. -/
def Outcome.uncoded : Outcome → Outcome
  | ran scope result => ran scope result.uncoded
  | binaryNotFound => binaryNotFound

/-- A formatter of a chain and what came of it, without an exit code. -/
def ChainStep.uncoded (step : ChainStep) : ChainStep := { step with outcome := step.outcome.map .uncoded }

/-- What a piece of work gives, without exit codes. -/
def Result.uncoded : Result → Result
  | chain steps => chain (steps.map .uncoded)
  | single outcome => single outcome.uncoded

/-- A process under way, without the exit code that it will have. -/
def InFlight.uncoded (flight : InFlight) : InFlight :=
  { flight with result := flight.result.map ProcessOutput.uncoded }

/-- A chain under way, without exit codes. -/
def ChainRun.uncoded (run : ChainRun) : ChainRun := { run with steps := run.steps.map .uncoded }

/-- What waits for a process, without exit codes. -/
def Sleeper.uncoded : Sleeper → Sleeper
  | chain run name rest scope flight => chain run.uncoded name rest scope flight.uncoded
  | single number scope flight => single number scope flight.uncoded

/-- What comes of starting a formatter, without an exit code. -/
def Workspace.Begun.uncoded : Workspace.Begun → Workspace.Begun
  | done outcome => done outcome.uncoded
  | running delay scope flight => running delay scope flight.uncoded

/-- Whether an event is a log text. -/
def Event.isLog : Event → Bool
  | log _ => true
  | spawn .. | sent _ => false

namespace Outlet

/-- The way out without the log. -/
def hushed (outlet : Outlet) : Outlet :=
  { outlet with level := .silent, events := outlet.events.filter (!·.isLog) }

/-- Log texts are not heard. -/
@[simp] theorem hushed_log (outlet : Outlet) (importance : LogLevel) (text : String) :
    (outlet.log importance text).hushed = outlet.hushed := by
  unfold log
  split
  · simp [hushed, record, Event.isLog]
  · rfl

/-- Nothing is logged when the log is turned off. -/
@[simp] theorem log_hushed (outlet : Outlet) {importance : LogLevel} (meant : importance ≠ .silent)
    (text : String) : outlet.hushed.log importance text = outlet.hushed := by
  unfold log hushed
  cases importance <;> first | rfl | exact absurd rfl meant

/-- Processes that start are not a matter of the log. -/
@[simp] theorem hushed_spawn (outlet : Outlet) (line : String) (stdin : Option String) :
    (outlet.record (.spawn line stdin)).hushed = outlet.hushed.record (.spawn line stdin) := rfl

/-- Messages are sent, or not, as they are with the log. -/
theorem trySend_hushed (outlet : Outlet) (message : Outgoing) :
    outlet.hushed.trySend message =
      ((outlet.trySend message).1.hushed, (outlet.trySend message).2) := by
  obtain ⟨level, events, writes, flushes⟩ := outlet
  -- The log texts that are left out play no part in what is written and flushed.
  by_cases written : writes = some 0
  · simp [trySend, hushed, written]
  · by_cases flushed : flushes = some 0 <;>
      simp [trySend, hushed, record, written, flushed, Event.isLog]

/-- A message that cannot be sent is only logged. -/
@[simp] theorem hushed_send (outlet : Outlet) (message : Outgoing) :
    (outlet.send message).hushed = outlet.hushed.send message := by
  unfold send
  rw [trySend_hushed]
  obtain ⟨later, none | error⟩ := outlet.trySend message
  · rfl
  · simp

/-- Several messages are sent as they are with the log. -/
@[simp] theorem hushed_sendAll (outlet : Outlet) (messages : List Outgoing) :
    (outlet.sendAll messages).hushed = outlet.hushed.sendAll messages := by
  unfold sendAll
  induction messages generalizing outlet with
  | nil => rfl
  | cons message rest ih => rw [List.foldl_cons, List.foldl_cons, ih, hushed_send]

end Outlet

namespace Workspace

variable {ω : Type} [World ω]

/-- The workspace without exit codes and log texts, in what there is to its world without them. -/
@[simps] def uncoded (w : Workspace ω) : Workspace Behaviour where
  world := World.behaviour w.world
  outlet := w.outlet.hushed
  handling := w.handling
  busy := w.busy
  documents := w.documents
  formatters := w.formatters
  store := w.store
  subscriptions := w.subscriptions
  debouncer := w.debouncer
  coordination := w.coordination
  numbered := w.numbered
  finished := w.finished.map fun entry => (entry.1, entry.2.uncoded)
  probes := w.probes

variable (w : Workspace ω)

@[simp] theorem document?_uncoded (handle : Handle) : w.uncoded.document? handle = w.document? handle := rfl

@[simp] theorem formatter?_uncoded (name : String) : w.uncoded.formatter? name = w.formatter? name := rfl

/-! ## What is said -/

/-- What helps to find mistakes is only logged. -/
@[simp] theorem uncoded_debug (text : String) : (w.debug text).uncoded = w.uncoded := by
  simp [uncoded, debug]

/-- Without the log nothing is said that helps to find mistakes. -/
@[simp] theorem debug_uncoded (text : String) : w.uncoded.debug text = w.uncoded := by
  simp [uncoded, debug]

/-- Warnings are only logged. -/
@[simp] theorem uncoded_warn (text : String) : (w.warn text).uncoded = w.uncoded := by
  simp [uncoded, warn, Outlet.warn]

/-- Without the log nobody is warned. -/
@[simp] theorem warn_uncoded (text : String) : w.uncoded.warn text = w.uncoded := by
  simp [uncoded, warn, Outlet.warn]

@[simp] theorem uncoded_send (message : Outgoing) : (w.send message).uncoded = w.uncoded.send message := by
  simp [uncoded, send]

/-- Problems are shown as they are with the log. -/
@[simp] theorem uncoded_report (problem : Problem) :
    (w.report problem).uncoded = w.uncoded.report problem := by
  unfold report
  simp only [debug_uncoded, uncoded_handling]
  have handling : ∀ text, (w.debug text).handling = w.handling := fun _ => rfl
  rw [handling]
  cases w.handling <;> simp

/-- The beginning of a piece of work is shown as it is. -/
@[simp] theorem uncoded_beginBusy (now : Nat) (label : String) :
    (w.beginBusy now label).uncoded = w.uncoded.beginBusy now label := by
  simp [uncoded, beginBusy]

/-- The end of a piece of work is shown as it is. -/
theorem endBusy_uncoded (now : Nat) (label : String) :
    w.uncoded.endBusy now label = ((w.endBusy now label).1.uncoded, (w.endBusy now label).2) := by
  simp [uncoded, endBusy]

/-- How long a piece of work took is only logged. -/
@[simp] theorem uncoded_endBusyLogged (now : Nat) (label : String) :
    (w.endBusyLogged now label).uncoded = w.uncoded.endBusyLogged now label := by
  unfold endBusyLogged
  rw [endBusy_uncoded]
  obtain ⟨later, none | duration⟩ := w.endBusy now label <;> simp

/-- The busy signal is turned on and off as it is. -/
@[simp] theorem uncoded_setBusyEnabled (enabled : Bool) :
    (w.setBusyEnabled enabled).uncoded = w.uncoded.setBusyEnabled enabled := by
  simp [uncoded, setBusyEnabled]

/-! ## Documents, formatters and results -/

/-- A text is put into a document as it is. -/
@[simp] theorem uncoded_setText (handle : Handle) (text : String) :
    (w.setText handle text).uncoded = w.uncoded.setText handle text := by
  unfold setText
  rw [document?_uncoded]
  cases w.document? handle with
  | none => rfl
  | some document => simp [uncoded, send]

/-- A cursor is put into a document as it is. -/
@[simp] theorem uncoded_setCursor (handle : Handle) (position : Position) :
    (w.setCursor handle position).uncoded = w.uncoded.setCursor handle position := by
  unfold setCursor
  rw [document?_uncoded]
  cases w.document? handle with
  | none => rfl
  | some document => simp [uncoded, send]

@[simp] theorem uncoded_putFormatter (formatter : Formatter) :
    (w.putFormatter formatter).uncoded = w.uncoded.putFormatter formatter := rfl

@[simp] theorem uncoded_finish (number : Nat) (result : Result) :
    (w.finish number result).uncoded = w.uncoded.finish number result.uncoded := rfl

/-- A piece of work is complete with exit codes when it is without them. -/
theorem isSome_result?_uncoded (number : Nat) :
    (w.uncoded.result? number).isSome = (w.result? number).isSome := by
  unfold result?
  rw [uncoded_finished]
  -- The results of both are listed under the same numbers.
  induction w.finished with
  | nil => rfl
  | cons entry rest ih =>
    rw [List.map_cons, List.lookup_cons, List.lookup_cons]
    cases number == entry.1 with
    | true => rfl
    | false => exact ih

/-! ## Processes -/

/-- A process is started as it is, and will end without an exit code. -/
theorem startProcess_uncoded (handle : Handle) (document : Document) (binary : Path)
    (arguments : List String) (mode : Mode) :
    w.uncoded.startProcess handle document binary arguments mode =
      let (later, delay, flight) := w.startProcess handle document binary arguments mode
      (later.uncoded, delay, flight.uncoded) := by
  simp [startProcess, uncoded, debug, InFlight.uncoded, Launch.uncoded]

/-- An exit code is only logged. -/
@[simp] theorem uncoded_logExit (commandLine : String) (code : Option Int) :
    (w.logExit commandLine code).uncoded = w.uncoded := by
  cases code <;> simp [logExit]

/-- Without the log no exit code is mentioned. -/
@[simp] theorem logExit_uncoded (commandLine : String) (code : Option Int) :
    w.uncoded.logExit commandLine code = w.uncoded := by
  cases code <;> simp [logExit]

/-- What a process did is taken over whatever its exit code is. -/
theorem finishProcess_uncoded (flight : InFlight) :
    w.uncoded.finishProcess flight.uncoded =
      ((w.finishProcess flight).1.uncoded, (w.finishProcess flight).2.uncoded) := by
  obtain ⟨document, commandLine, cursor, mode, result, leavesInput⟩ := flight
  cases result with
  | error reasons => simp [finishProcess, InFlight.uncoded, Except.map, RunResult.uncoded]
  | ok output =>
    -- Whether anything is logged makes no difference, and the rest does not depend on the exit code.
    cases mode <;>
      simp [finishProcess, InFlight.uncoded, Except.map, ProcessOutput.uncoded, RunResult.uncoded,
        apply_ite Workspace.uncoded]

/-! ## Formatters -/

/-- Looks at files are counted as they are. -/
theorem counting_uncoded {α : Type} (probed : Probed α) :
    w.uncoded.counting probed = ((w.counting probed).1.uncoded, (w.counting probed).2) := rfl

/-- How a setting of a formatter was taken is reported or logged as it is. -/
@[simp] theorem uncoded_noteApplied (what formatter : String) (error : Option ConfigurationError) :
    (w.noteApplied what formatter error).uncoded = w.uncoded.noteApplied what formatter error := by
  cases error <;> simp [noteApplied]

/-- The settings of formatters take effect as they do. -/
@[simp] theorem uncoded_applySlot (formatter : Formatter) (slot : Slot) (value : Json.Value) :
    (w.applySlot formatter slot value).uncoded = w.uncoded.applySlot formatter slot value := by
  cases slot <;>
    simp [applySlot, setLocalBins, setGlobalBin, setLocalConfigs, setGlobalConfigs, counting_uncoded]

/-- What to run for a file does not depend on exit codes. -/
theorem resolve_uncoded (formatter : Formatter) (file : Path) (mode : Mode) :
    w.uncoded.resolve formatter file mode =
      ((w.resolve formatter file mode).1.uncoded, (w.resolve formatter file mode).2) := by
  simp only [resolve, uncoded_world, World.files_behaviour, counting_uncoded]
  obtain ⟨later, found, new⟩ := w.counting (formatter.resolve (World.files w.world) file mode)
  rw [← uncoded_putFormatter]
  cases found <;> simp only [debug_uncoded, uncoded_debug]

/-- A formatter is started as it is, and is done or waits alike. -/
theorem beginFormat_uncoded (formatter : Formatter) (handle : Handle) (document : Document) (mode : Mode) :
    w.uncoded.beginFormat formatter handle document mode =
      ((w.beginFormat formatter handle document mode).1.uncoded,
        (w.beginFormat formatter handle document mode).2.uncoded) := by
  unfold beginFormat
  rw [resolve_uncoded]
  -- Without a binary nothing is started, and otherwise the same process is.
  obtain ⟨found, none | invocation⟩ := w.resolve formatter document.path mode
  · simp [Begun.uncoded, Outcome.uncoded]
  · simp only [startProcess_uncoded]
    obtain ⟨later, delay, flight⟩ :=
      found.startProcess handle document invocation.binary invocation.arguments mode
    dsimp only
    -- The process may have ended already, and then it is finished in the same way.
    split
    · rw [finishProcess_uncoded]
      rfl
    · rfl

/-! ## Chains -/

/-- A chain goes the same way without exit codes. -/
theorem runChain_uncoded (now : Nat) (run : ChainRun) (names : List String) (w : Workspace ω) :
    runChain now run.uncoded names w.uncoded =
      translated Sleeper.uncoded uncoded (runChain now run names w) := by
  -- The induction is on the names; both chains have the same formatters and the same document.
  induction names generalizing run w with
  | nil =>
    simp [runChain, translated, ChainRun.uncoded, ChainRun.label, Result.uncoded]
  | cons name rest ih =>
    simp only [runChain, formatter?_uncoded, document?_uncoded]
    have same : run.uncoded.document = run.document := rfl
    rw [same]
    split
    next formatter document _ _ =>
      have label : run.uncoded.stepLabel name = run.stepLabel name := rfl
      have mode : run.uncoded.mode = run.mode := rfl
      rw [label, mode, ← uncoded_beginBusy, beginFormat_uncoded]
      -- A formatter that is done hands over to the rest, and one that is waited for stops the chain.
      obtain ⟨later, outcome | ⟨delay, scope, flight⟩⟩ :=
        (w.beginBusy now (run.stepLabel name)).beginFormat formatter run.document document run.mode
      · simp only [Begun.uncoded, ← uncoded_endBusyLogged]
        exact ih (run.record name (some outcome)) _
      · rfl
    next =>
      rw [← uncoded_report]
      exact ih (run.record name none) _

/-- A chain is started as it is. -/
theorem startChain_uncoded (now number : Nat) (handle : Handle) (names : List String) (mode : Mode)
    (w : Workspace ω) : startChain now number handle names mode w.uncoded =
      translated Sleeper.uncoded uncoded (startChain now number handle names mode w) := by
  simp only [startChain, document?_uncoded]
  -- Without names the chain is over at once.
  split
  · rw [endBusy_uncoded]
    rfl
  · rw [← uncoded_beginBusy w]
    exact runChain_uncoded now ⟨number, handle, _, mode, []⟩ names _

/-- An errand begins as it does. -/
theorem startErrand_uncoded (now : Nat) (errand : Errand) (w : Workspace ω) :
    startErrand now errand w.uncoded = translated Sleeper.uncoded uncoded (startErrand now errand w) := by
  -- What an errand starts depends on documents and orders, and neither holds an exit code.
  cases errand with
  | formatActive number =>
    simp only [startErrand, uncoded_documents, uncoded_coordination]
    cases w.documents.active? with
    | none => simp [finishWithoutDocument, translated, Result.uncoded]
    | some handle =>
      dsimp only
      split
      · simp [translated, Result.uncoded]
      · exact startChain_uncoded ..
  | runOnActive number formatter =>
    simp only [startErrand, uncoded_documents]
    cases w.documents.active? with
    | none => simp [finishWithoutDocument, translated, Result.uncoded]
    | some handle => exact startChain_uncoded ..
  | formatSaved number handle =>
    simp only [startErrand, uncoded_coordination]
    split
    · simp [translated, Result.uncoded]
    · exact startChain_uncoded ..
  | chain number handle names mode => exact startChain_uncoded ..
  | single number name handle mode =>
    simp only [startErrand, formatter?_uncoded, document?_uncoded]
    split
    next formatter document _ _ =>
      rw [beginFormat_uncoded]
      -- The outcome is kept, or the process is waited for; both forget the code in the same way.
      obtain ⟨later, outcome | ⟨delay, scope, flight⟩⟩ := w.beginFormat formatter handle document mode
      · rfl
      · rfl
    next => rfl

/-- Work goes on as it does when a process has ended. -/
theorem wakeSleeper_uncoded (now : Nat) (sleeper : Sleeper) (w : Workspace ω) :
    wakeSleeper now sleeper.uncoded w.uncoded =
      translated Sleeper.uncoded uncoded (wakeSleeper now sleeper w) := by
  -- The process ends alike, and the rest of a chain is translated as a whole.
  cases sleeper with
  | single number scope flight =>
    simp only [Sleeper.uncoded, wakeSleeper, finishProcess_uncoded]
    rfl
  | chain run name rest scope flight =>
    simp only [Sleeper.uncoded, wakeSleeper, finishProcess_uncoded]
    have label : run.uncoded.stepLabel name = run.stepLabel name := rfl
    rw [label, ← uncoded_endBusyLogged (w.finishProcess flight).1]
    exact runChain_uncoded now (run.record name (some (.ran scope (w.finishProcess flight).2))) rest _

/-- Chains and single formatters go the same way without exit codes. -/
theorem chainMachine_uncoded :
    (chainMachine : Schedule.Machine Errand Sleeper (Workspace ω)).Translates chainMachine
      Sleeper.uncoded uncoded where
  start := startErrand_uncoded
  wake := wakeSleeper_uncoded
  weight sleeper := by cases sleeper <;> rfl

/-! ## Orders, the status tile and documents -/

/-- The status tile is drawn as it is. -/
@[simp] theorem uncoded_renderStatus : w.renderStatus.uncoded = w.uncoded.renderStatus := by
  have drawn : w.uncoded.snapshot = w.snapshot := rfl
  unfold renderStatus
  rw [uncoded_coordination, drawn]
  split
  · exact uncoded_send w _
  · rfl

/-- The status tile is turned on and off as it is. -/
@[simp] theorem uncoded_setStatusBar (enabled : Bool) :
    (w.setStatusBar enabled).uncoded = w.uncoded.setStatusBar enabled := by
  -- Whether the tile is shown depends on settings alone.
  have before : w.uncoded.coordination.statusBar = w.coordination.statusBar := rfl
  unfold setStatusBar
  dsimp only
  rw [before]
  split
  · exact uncoded_renderStatus _
  · split
    · exact uncoded_send _ _
    · rfl

/-- An order is taken or rejected as it is. -/
@[simp] theorem uncoded_setOrder (kind : OrderKind) (names : List String) :
    (w.setOrder kind names).uncoded = w.uncoded.setOrder kind names := by
  -- An order that is taken is logged, stored and drawn.
  have taken : ∀ (later : Workspace ω) (names : List String) (text : String),
      { later.uncoded.debug text with
        coordination := (later.uncoded.debug text).coordination.withOrder names kind }.renderStatus =
      { later.debug text with
        coordination := (later.debug text).coordination.withOrder names kind }.renderStatus.uncoded := by
    intro later names text
    rw [debug_uncoded]
    refine Eq.trans ?_ (uncoded_renderStatus _).symm
    rw [← uncoded_debug later text]
    rfl
  unfold setOrder
  simp only [uncoded_coordination, formatter?_uncoded]
  split
  · rfl
  · cases names.find? fun name => (w.formatter? name).isNone with
    | none => exact (taken w names _).symm
    | some name =>
      dsimp only
      rw [← uncoded_report]
      exact (taken _ [] _).symm

/-- Every setting takes effect as it does. -/
theorem applyTarget_uncoded (target : Target) (value : Json.Value) (w : Workspace ω) :
    w.uncoded.applyTarget target value = (w.applyTarget target value).uncoded := by
  -- Each target has its own part of the workspace, and none of them is an exit code.
  cases target with
  | errorHandling => rfl
  | busySignal => exact (uncoded_setBusyEnabled w _).symm
  | statusBar => exact (uncoded_setStatusBar w _).symm
  | onSaveEnabled =>
    exact (uncoded_renderStatus { w with coordination :=
      { w.coordination with onSaveEnabled := Settings.isTrue value } }).symm
  | order kind => exact (uncoded_setOrder w kind _).symm
  | slot name slot =>
    simp only [applyTarget, formatter?_uncoded]
    cases w.formatter? name with
    | none => rfl
    | some formatter => exact (uncoded_applySlot w formatter slot value).symm

/-- Another active document is taken over as it is. -/
@[simp] theorem uncoded_activeChanged (handle : Option Handle) :
    (w.activeChanged handle).uncoded = w.uncoded.activeChanged handle := uncoded_renderStatus _

/-- That a document was opened has the same consequences. -/
@[simp] theorem uncoded_documentOpened (document : Document) :
    (w.documentOpened document).uncoded = w.uncoded.documentOpened document := rfl

/-- That the formatters apply to a document, or not any more, has the same consequences. -/
@[simp] theorem uncoded_scopeChanged (document : Document) :
    (w.scopeChanged document).uncoded = w.uncoded.scopeChanged document := by
  -- The document is watched, and perhaps active, on both sides or on none.
  have watched : (w.watchSaves document).uncoded = w.uncoded.watchSaves document := rfl
  have active : (w.uncoded.watchSaves document).isActive document.id =
    (w.watchSaves document).isActive document.id := rfl
  unfold scopeChanged
  dsimp only
  rw [active]
  split
  · rw [uncoded_renderStatus, watched]
  · exact watched

/-- That a document was closed has the same consequences. -/
@[simp] theorem uncoded_documentClosed (id : Nat) :
    (w.documentClosed id).uncoded = w.uncoded.documentClosed id := by
  -- The tile is drawn again only if the document was active.
  have active : w.uncoded.isActive id = w.isActive id := rfl
  unfold documentClosed
  dsimp only
  rw [active]
  split
  · exact uncoded_renderStatus _
  · rfl

end Workspace

end FormatPipeline
