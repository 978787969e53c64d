import FormatPipeline.Proofs.Workspace.Shown
import FormatPipeline.Proofs.Workspace.Steps

/-! Starting a formatter: it has no binary, or its process has ended already, or it has to be waited for. -/

namespace FormatPipeline

/-- How a process ended, or that it could not be started. -/
def RunResult.ofProcess : Except (List String) ProcessOutput → RunResult
  | .error _ => .spawnFailed
  | .ok output => .exited output.exitCode

/-- What a process gives when it has ended. -/
def InFlight.gives (flight : InFlight) : RunResult := .ofProcess flight.result

namespace Workspace

variable {ω : Type}

/-- What a process gives does not depend on the workspace in which it has ended. -/
theorem finishProcess_gives (w : Workspace ω) (flight : InFlight) :
    (w.finishProcess flight).2 = flight.gives := by
  unfold finishProcess InFlight.gives RunResult.ofProcess
  cases flight.result <;> rfl

/-! ## What stays while a formatter runs -/

/-- What is set stays, and so do the busy signal, the results, and the documents but for their texts. -/
structure Abides (w later : Workspace ω) : Prop where
  settled : later.settled = w.settled
  documents : later.documents.blank = w.documents.blank
  unshown : w.Unshown later

namespace Abides

/-- Doing nothing changes nothing. -/
theorem refl (w : Workspace ω) : w.Abides w := ⟨rfl, rfl, rfl, rfl⟩

/-- What stays goes on to stay. -/
theorem trans {w mid later : Workspace ω} (first : w.Abides mid) (second : mid.Abides later) :
    w.Abides later :=
  ⟨second.settled.trans first.settled, second.documents.trans first.documents,
    first.unshown.trans second.unshown⟩

/-- The same formatters stay registered, and no document goes. -/
theorem retains {w later : Workspace ω} (abides : w.Abides later) : w.Retains later :=
  .of_same abides.settled abides.documents

/-- Problems go on to be shown in the same way. -/
theorem handling {w later : Workspace ω} (abides : w.Abides later) : later.handling = w.handling :=
  congrArg Settled.handling abides.settled

end Abides

/-- A problem that is shown changes nothing. -/
theorem abides_report (w : Workspace ω) (problem : Problem) : w.Abides (w.report problem) :=
  ⟨(Effect.of_onlySays (onlySays_report w problem)).settled, (unseen_report w problem).documents,
    .of_onlySays (onlySays_report w problem)⟩

/-- A process that has ended changes texts of documents only. -/
theorem abides_finishProcess (w : Workspace ω) (flight : InFlight) :
    w.Abides (w.finishProcess flight).1 :=
  ⟨(effect_finishProcess w flight).settled, (unseen_finishProcess w flight).documents,
    unshown_finishProcess w flight⟩

variable [World ω]

/-- A formatter that starts changes texts of documents only. -/
theorem abides_beginFormat {w : Workspace ω} {name : String} {formatter : Formatter}
    (present : w.formatter? name = some formatter) (handle : Handle) (document : Document) (mode : Mode) :
    w.Abides (w.beginFormat formatter handle document mode).1 :=
  ⟨(effect_beginFormat present 0 handle document mode).settled,
    (unseen_beginFormat w formatter handle document mode).documents,
    (progress_formatDeeds w 0 formatter handle document mode).1⟩

/-! ## What comes of a formatter -/

/-- The process that is started for a document with what was resolved. -/
def flightOf (w : Workspace ω) (handle : Handle) (document : Document) (mode : Mode)
    (invocation : Invocation) : InFlight :=
  (w.startProcess handle document invocation.binary invocation.arguments mode).2.2

/-- What comes of starting a formatter, with what is shown, what is done, and the documents then. -/
inductive Begins (w : Workspace ω) (formatter : Formatter) (handle : Handle) (document : Document)
    (mode : Mode) : List Event → (Nat → List Deed) → Workspace ω × Begun → Prop
  | missing {later : Workspace ω} (unresolved : (w.resolve formatter document.path mode).2 = none)
      (documents : later.documents = w.documents) :
      Begins w formatter handle document mode (noticeEvents w.handling (.binaryNotFound formatter.name))
        (fun _ => []) (later, .done .binaryNotFound)
  | ended {later : Workspace ω} {invocation : Invocation} {flight : InFlight}
      (resolved : (w.resolve formatter document.path mode).2 = some invocation)
      (launched : flight = w.flightOf handle document mode invocation)
      (documents : later.documents = w.landed flight) :
      Begins w formatter handle document mode
        (.spawn flight.commandLine (document.input? mode) :: w.flightEvents flight)
        (.spawned · flight.commandLine (document.input? mode) :: w.flightDeeds flight)
        (later, .done (.ran invocation.scope flight.gives))
  | waits {later : Workspace ω} {invocation : Invocation} {flight : InFlight} {delay : Nat}
      (resolved : (w.resolve formatter document.path mode).2 = some invocation)
      (launched : flight = w.flightOf handle document mode invocation)
      (documents : later.documents = w.documents) :
      Begins w formatter handle document mode [.spawn flight.commandLine (document.input? mode)]
        ([.spawned · flight.commandLine (document.input? mode)])
        (later, .running delay invocation.scope flight)

omit [World ω] in
/-- What a process leaves behind is shown in the same way wherever the documents are the same. -/
theorem flightEvents_of_same {w later : Workspace ω} (handling : later.handling = w.handling)
    (documents : later.documents = w.documents) (flight : InFlight) :
    later.flightEvents flight = w.flightEvents flight := by
  simp only [flightEvents, handling, document?, documents]

/-- A formatter that starts has no binary, or its process has ended, or it has to be waited for. -/
theorem begins_beginFormat (w : Workspace ω) (formatter : Formatter) (handle : Handle)
    (document : Document) (mode : Mode) :
    ∃ events deeds, w.Begins formatter handle document mode events deeds
        (w.beginFormat formatter handle document mode) ∧
      w.outlet.Shows events (w.beginFormat formatter handle document mode).1.outlet ∧
      ∀ position, w.formatDeeds position formatter handle document mode = deeds position := by
  have shown := shows_resolve w formatter document.path mode
  -- Resolving changes neither the world nor the documents nor how problems are shown.
  have same : (w.resolve formatter document.path mode).1.world = w.world ∧
      (w.resolve formatter document.path mode).1.handling = w.handling ∧
      (w.resolve formatter document.path mode).1.documents = w.documents := by
    obtain ⟨probes, outlet, -, same⟩ := replaces_resolve w formatter document.path mode
    rw [same]
    exact ⟨rfl, rfl, rfl⟩
  unfold beginFormat formatDeeds
  generalize resolution : w.resolve formatter document.path mode = result at shown same ⊢
  obtain ⟨mid, found⟩ := result
  obtain ⟨world, handling, documents⟩ : mid.world = w.world ∧ mid.handling = w.handling ∧
    mid.documents = w.documents := same
  cases found with
  | none =>
    -- Without a binary only that is said.
    have reported := shown.trans (shows_report mid (.binaryNotFound formatter.name))
    rw [handling] at reported
    obtain ⟨outlet, -, spoken⟩ := onlySays_report mid (.binaryNotFound formatter.name)
    have kept : (mid.report (.binaryNotFound formatter.name)).documents = w.documents := by
      rw [spoken]
      exact documents
    exact ⟨_, _, .missing (congrArg Prod.snd resolution) kept, reported, fun _ => rfl⟩
  | some invocation =>
    have resolved := congrArg Prod.snd resolution
    -- The process is the same in both workspaces, since they have one world.
    have launched : (mid.startProcess handle document invocation.binary invocation.arguments mode).2.2 =
        w.flightOf handle document mode invocation := by
      unfold flightOf startProcess
      simp only [debug, world]
    have started := shown.trans
      (shows_startProcess mid handle document invocation.binary invocation.arguments mode)
    have kept : (mid.startProcess handle document invocation.binary invocation.arguments mode).1.handling =
          w.handling ∧
        (mid.startProcess handle document invocation.binary invocation.arguments mode).1.documents =
          w.documents := ⟨handling, documents⟩
    have line : (mid.startProcess handle document invocation.binary invocation.arguments mode).2.2.commandLine =
      Shell.commandLine invocation.binary invocation.arguments := rfl
    dsimp only at started ⊢
    generalize mid.startProcess handle document invocation.binary invocation.arguments mode = outcome
      at launched started kept line ⊢
    obtain ⟨later, delay, flight⟩ := outcome
    obtain ⟨handling, documents⟩ := kept
    dsimp only at launched started line handling documents ⊢
    rw [List.nil_append, ← line] at started
    have landing : later.landed flight = w.landed flight := by simp only [landed, documents]
    have deeds : later.flightDeeds flight = w.flightDeeds flight := by
      simp only [flightDeeds, textDeeds, document?, documents]
    -- A process that takes no time has ended before anything else is done.
    by_cases instant : delay = 0
    · obtain ⟨ended, put⟩ := shows_finishProcess later flight
      rw [flightEvents_of_same handling documents] at ended
      simp only [instant, if_true, deeds, finishProcess_gives]
      exact ⟨_, _, .ended resolved launched (put.trans landing), started.trans ended, fun _ => rfl⟩
    · simp only [instant, if_false]
      exact ⟨_, _, .waits resolved launched documents, started, fun _ => rfl⟩

end Workspace

end FormatPipeline
