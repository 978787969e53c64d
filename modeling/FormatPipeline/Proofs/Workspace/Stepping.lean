import FormatPipeline.Proofs.Workspace.Answers
import FormatPipeline.Proofs.Workspace.Begun

/-! One step of a chain: how its formatter starts, and what the step comes to before it has to be waited for. -/

namespace FormatPipeline

/-- The text of a document, and its cursor. -/
structure Buffer where
  text : String
  cursor : Position
  deriving DecidableEq, Repr

/-- The text of the document, and its cursor. -/
def Document.buffer (document : Document) : Buffer := ⟨document.text, document.cursor⟩

/-- How the formatter of a step starts: nobody has its name, it has no binary, or its process is launched
in a world. -/
inductive StepStart (ω : Type) where
  | unknown
  | missing
  | launched (world : ω) (line : String) (scope : Scope)

/-- The formatter of a step, and how it has started. -/
structure StartedStep (ω : Type) where
  name : String
  start : StepStart ω

/-- What a step comes to at once: it is over, or its process is waited for. -/
inductive StepBegun where
  | over (outcome : Option Outcome)
  | waits (delay : Nat) (scope : Scope) (flight : InFlight)

namespace Buffer

/-- What a process reads that is launched for the buffer. -/
def input? (buffer : Buffer) : Mode → Option String
  | .buffer => some buffer.text
  | .file => none

/-- The process that is launched for the buffer in a world. -/
def flight {ω : Type} [World ω] (buffer : Buffer) (handle : Handle) (mode : Mode) (world : ω)
    (line : String) : InFlight :=
  let launch := (World.launch world line (buffer.input? mode)).1
  ⟨handle, line, buffer.cursor, mode, launch.result, launch.leavesInput⟩

end Buffer

namespace StepStart

variable {ω : Type} [World ω]

/-- What the process of a step gives for its input, if it runs. -/
def output? (stdin : Option String) : StepStart ω → Option ProcessOutput
  | .launched world line _ => (World.launch world line stdin).1.result.toOption
  | .unknown | .missing => none

/-- The outcome of a step, whose process has an input if there is one. -/
def outcome? (stdin : Option String) : StepStart ω → Option Outcome
  | .unknown => none
  | .missing => some .binaryNotFound
  | .launched world line scope => some (.ran scope (.ofProcess (World.launch world line stdin).1.result))

end StepStart

namespace Workspace

variable {ω : Type} [World ω]

/-- How the formatter of a step starts when its turn comes. -/
def startOf (w : Workspace ω) (run : ChainRun) (name : String) : StepStart ω :=
  -- The formatter is looked for before the document, and the binary last.
  match w.formatter? name, w.document? run.document with
  | some _, some document =>
    match w.answer name document.path run.mode with
    | none => .missing
    | some invocation =>
      .launched w.world (Shell.commandLine invocation.binary invocation.arguments) invocation.scope
  | _, _ => .unknown

/-- Takes one step of a chain until it is over or has to be waited for. -/
def beginStep (now : Nat) (run : ChainRun) (name : String) (w : Workspace ω) : Workspace ω × StepBegun :=
  match w.formatter? name, w.document? run.document with
  | some formatter, some document =>
    let label := run.stepLabel name
    match (w.beginBusy now label).beginFormat formatter run.document document run.mode with
    | (later, .done outcome) => (later.endBusyLogged now label, .over (some outcome))
    | (later, .running delay scope flight) => (later, .waits delay scope flight)
  | _, _ => (w.report (.unknownFormatter name), .over none)

/-- A chain takes its steps one by one. -/
theorem runChain_cons (now : Nat) (run : ChainRun) (name : String) (rest : List String) (w : Workspace ω) :
    runChain now run (name :: rest) w =
      match w.beginStep now run name with
      | (later, .over outcome) => runChain now (run.record name outcome) rest later
      | (later, .waits delay scope flight) => (later, some (delay, .chain run name rest scope flight)) := by
  -- The tests of a step come in the same order on both sides: the formatter, its document, its binary.
  cases present : w.formatter? name with
  | none => simp [runChain, beginStep, present]
  | some formatter =>
    cases opened : w.document? run.document with
    | none => simp [runChain, beginStep, present, opened]
    | some document =>
      simp only [runChain, beginStep, present, opened]
      generalize (w.beginBusy now (run.stepLabel name)).beginFormat formatter run.document document
        run.mode = begun
      obtain ⟨later, outcome | ⟨delay, scope, flight⟩⟩ := begun <;> rfl

/-- The steps of a chain that start before one has to be waited for, and how each of them starts. -/
def chainStarts (now : Nat) (run : ChainRun) : List String → Workspace ω → List (StartedStep ω)
  | [], _ => []
  | name :: rest, w =>
    ⟨name, w.startOf run name⟩ ::
      -- Steps that are over at once are followed by the next one in the same turn.
      match w.beginStep now run name with
      | (later, .over outcome) => chainStarts now (run.record name outcome) rest later
      | (_, .waits ..) => []

/-- The steps of a chain that start when an errand begins. -/
def errandStarts (now : Nat) (errand : Errand) (w : Workspace ω) : List (StartedStep ω) :=
  match w.chainOf? errand with
  | some (handle, names, mode) =>
    let run := w.chainRun errand.number handle mode
    chainStarts now run names (w.beginBusy now run.label)
  | none => []

/-- The steps of a chain that start when a process has ended. -/
def wakeStarts (now : Nat) (sleeper : Sleeper) (w : Workspace ω) : List (StartedStep ω) :=
  match sleeper with
  | .single .. => []
  | .chain run name rest scope flight =>
    let (later, result) := w.finishProcess flight
    chainStarts now (run.record name (some (.ran scope result))) rest
      (later.endBusyLogged now (run.stepLabel name))

/-- What stays, stays, and some events are shown. -/
structure Works (w : Workspace ω) (events : List Event) (later : Workspace ω) : Prop where
  abides : w.Abides later
  shows : w.outlet.Shows events later.outlet

omit [World ω] in
/-- What works after other work shows its events behind the others. -/
theorem Works.trans {w mid later : Workspace ω} {first second : List Event} (before : w.Works first mid)
    (after : mid.Works second later) : w.Works (first ++ second) later :=
  ⟨before.abides.trans after.abides, before.shows.trans after.shows⟩

/-- How a step starts, what is done in it, and what it comes to at once. -/
inductive StepBegins (now : Nat) (run : ChainRun) (name : String) (w : Workspace ω) :
    StepStart ω → List Deed → Workspace ω × StepBegun → Prop
  | unknown :
      StepBegins now run name w .unknown [.settled run.steps.length]
        (w.report (.unknownFormatter name), .over none)
  | missing {mid : Workspace ω} (documents : mid.documents = w.documents)
      (works : (w.beginBusy now (run.stepLabel name)).Works
        (noticeEvents w.handling (.binaryNotFound name)) mid) :
      StepBegins now run name w .missing [.settled run.steps.length]
        (mid.endBusyLogged now (run.stepLabel name), .over (some .binaryNotFound))
  | ended {mid : Workspace ω} {document : Document} {line : String} {scope : Scope} {flight : InFlight}
      (opened : w.document? run.document = some document)
      (launched : flight = document.buffer.flight run.document run.mode w.world line)
      (documents : mid.documents = w.landed flight)
      (works : (w.beginBusy now (run.stepLabel name)).Works
        (.spawn line (document.buffer.input? run.mode) :: w.flightEvents flight) mid) :
      StepBegins now run name w (.launched w.world line scope)
        (.spawned run.steps.length line (document.buffer.input? run.mode) ::
          (w.flightDeeds flight ++ [.settled run.steps.length]))
        (mid.endBusyLogged now (run.stepLabel name), .over (some (.ran scope flight.gives)))
  | waits {mid : Workspace ω} {document : Document} {line : String} {scope : Scope} {delay : Nat}
      {flight : InFlight} (opened : w.document? run.document = some document)
      (launched : flight = document.buffer.flight run.document run.mode w.world line)
      (documents : mid.documents = w.documents)
      (works : (w.beginBusy now (run.stepLabel name)).Works
        [.spawn line (document.buffer.input? run.mode)] mid) :
      StepBegins now run name w (.launched w.world line scope)
        [.spawned run.steps.length line (document.buffer.input? run.mode)] (mid, .waits delay scope flight)

/-- Every step starts in one of these ways, and what it does comes before what later steps do. -/
theorem begins_beginStep (now : Nat) (run : ChainRun) (name : String) (w : Workspace ω) :
    ∃ deeds, w.StepBegins now run name (w.startOf run name) deeds (w.beginStep now run name) ∧
      ∀ rest, chainDeeds now run (name :: rest) w = deeds ++
        match w.beginStep now run name with
        | (later, .over outcome) => chainDeeds now (run.record name outcome) rest later
        | (_, .waits ..) => [] := by
  unfold startOf beginStep
  cases present : w.formatter? name with
  | none => exact ⟨_, .unknown, fun rest => by simp [chainDeeds, present]⟩
  | some formatter =>
    cases opened : w.document? run.document with
    | none => exact ⟨_, .unknown, fun rest => by simp [chainDeeds, present, opened]⟩
    | some document =>
      obtain rfl := name_of_formatter? present
      have abides := abides_beginFormat (w := w.beginBusy now (run.stepLabel formatter.name)) present
        run.document document run.mode
      obtain ⟨events, deeds, begins, shows, done⟩ := begins_beginFormat
        (w.beginBusy now (run.stepLabel formatter.name)) formatter run.document document run.mode
      -- The label makes no difference to what is resolved and to what a process leaves behind.
      have answered : w.answer formatter.name document.path run.mode =
          ((w.beginBusy now (run.stepLabel formatter.name)).resolve formatter document.path run.mode).2 := by
        unfold answer
        rw [present, Option.bind_some, resolve_snd, resolve_snd]
        rfl
      have leaves : ∀ flight, (w.beginBusy now (run.stepLabel formatter.name)).flightEvents flight =
        w.flightEvents flight := flightEvents_of_same rfl rfl
      simp only [chainDeeds, present, opened, answered, done]
      generalize (w.beginBusy now (run.stepLabel formatter.name)).beginFormat formatter run.document
        document run.mode = begun at abides begins shows ⊢
      -- The step is over without a binary or with a failed start, or it waits for its process.
      cases begins with
      | missing unresolved documents =>
        rw [unresolved]
        exact ⟨_, .missing documents ⟨abides, shows⟩, fun _ => rfl⟩
      | ended resolved launched documents =>
        rw [leaves, launched] at shows
        rw [resolved, launched]
        refine ⟨_, .ended opened rfl (launched ▸ documents) ⟨abides, shows⟩, fun rest => ?_⟩
        simp only [List.cons_append, List.append_assoc, List.nil_append]
        rfl
      | waits resolved launched documents =>
        rw [launched] at shows
        rw [resolved, launched]
        exact ⟨_, .waits opened rfl documents ⟨abides, shows⟩, fun _ => rfl⟩

end Workspace

end FormatPipeline
