import FormatPipeline.Proofs.Service.Envelope
import FormatPipeline.Proofs.Session.Uncoded

/-! Exit codes make no difference to what a service sends and starts, nor to its documents. -/

namespace FormatPipeline

open Schedule (DebouncedTimeline Timeline)
open World (DifferInCodes)

variable {ω υ : Type}

/-- What is seen of a workspace: what it has sent and started so far, and its documents. -/
def Workspace.visible (w : Workspace ω) : List Event × DocumentTable :=
  (w.outlet.events.filter (!·.isLog), w.documents)

/-- The session in another world. -/
def Session.inWorld (s : Session ω) (world : υ) : Session υ :=
  DebouncedTimeline.translate id (fun w => { w with world := world }) s

variable [World ω] [World υ]

/-- Without exit codes and log texts as much is seen. -/
@[simp] theorem Workspace.visible_uncoded (w : Workspace ω) : w.uncoded.visible = w.visible := by
  simp [visible, Outlet.hushed]

/-- In a world that differs only in exit codes a session is the same without them. -/
theorem Session.uncoded_inWorld {s : Session ω} {world : υ} (alike : DifferInCodes s.state.world world) :
    (s.inWorld world).uncoded = s.uncoded := by
  have state : Workspace.uncoded { s.state with world := world } = s.state.uncoded := by
    simp only [Workspace.uncoded, alike.behaviour]
  refine DebouncedTimeline.ext_held ?_ rfl
  simp only [uncoded, inWorld, DebouncedTimeline.translate, DebouncedTimeline.held, Timeline.translate,
    Schedule.Work.translate_id, List.map_id', state]

namespace Service

/-- The service without exit codes and log texts. -/
def uncoded (service : Service ω) : Service Behaviour := ⟨service.session.uncoded, service.chains⟩

variable (service : Service ω)

@[simp] theorem uncoded_session : service.uncoded.session = service.session.uncoded := rfl

@[simp] theorem uncoded_chains : service.uncoded.chains = service.chains := rfl

/-- What changes the session as it does without exit codes changes the service so. -/
theorem modify_uncoded {f : Session ω → Session ω} {g : Session Behaviour → Session Behaviour}
    (same : ∀ s, g s.uncoded = (f s).uncoded) (service : Service ω) :
    service.uncoded.modify g = (service.modify f).uncoded :=
  congrArg (fun s => { service.uncoded with session := s }) (same service.session)

/-! ## Messages -/

/-- Without the log nobody is warned. -/
theorem warn_uncoded (text : String) : service.uncoded.warn text = (service.warn text).uncoded :=
  modify_uncoded (fun s => Session.modify_uncoded (fun w => by simp) s) service

/-- A document is looked up as it is. -/
theorem lookUp_uncoded (id : Nat) :
    service.uncoded.lookUp id = ((service.lookUp id).1.uncoded, (service.lookUp id).2) := by
  simp only [lookUp, uncoded_session, Session.uncoded_state, Workspace.uncoded_documents]
  cases service.session.state.documents.handle? id with
  | none => exact congrArg (·, none) (service.warn_uncoded _)
  | some handle => rfl

/-- A setting is set as it is. -/
theorem setSetting_uncoded (key : String) (value : Json.Value) :
    service.uncoded.setSetting key value = (service.setSetting key value).uncoded := by
  refine modify_uncoded (fun s => ?_) service
  simp only [Session.uncoded_state, Workspace.uncoded_store]
  -- An unknown key is only warned of.
  split
  · exact s.set_uncoded key value
  · rw [Session.modify_uncoded (f := (·.debug ("Unknown setting: " ++ key))) fun w => by simp]
    exact Session.set_uncoded _ key value

/-- A command is run as it is. -/
theorem runCommand_uncoded (name : String) :
    service.uncoded.runCommand name = (service.runCommand name).uncoded := by
  simp only [runCommand, uncoded_session, Session.command_uncoded]
  obtain ⟨s, number | - | -⟩ := service.session.command name
  · rfl
  · rfl
  · exact warn_uncoded { service with session := s } _

/-- A message is handled as it is. -/
theorem handle_uncoded (message : Incoming) :
    service.uncoded.handle message =
      ((service.handle message).1.uncoded, (service.handle message).2) := by
  -- The document is looked up alike for each message that is about one.
  cases message with
  | openDocument | shutdown => rfl
  | closeDocument id => exact congrArg (·, true) (modify_uncoded (fun s => s.closeDocument_uncoded id) service)
  | setting key value => exact congrArg (·, true) (service.setSetting_uncoded key value)
  | command name => exact congrArg (·, true) (service.runCommand_uncoded name)
  | updateDocument id text cursor =>
    simp only [handle, lookUp_uncoded]
    obtain ⟨later, _ | handle⟩ := service.lookUp id <;> rfl
  -- Changing the scope may draw the tile again, which shows no exit codes.
  | scopeChanged id inScope =>
    simp only [handle, lookUp_uncoded]
    obtain ⟨later, _ | handle⟩ := service.lookUp id
    · rfl
    · exact congrArg (·, true) (modify_uncoded (fun s => s.changeScope_uncoded handle inScope) later)
  -- The document may be refused, and then only a warning is logged.
  | activeDocumentChanged id =>
    simp only [handle, uncoded_session, Session.activateDocument_uncoded]
    obtain ⟨s, _ | _⟩ := service.session.activateDocument id
    · exact congrArg (·, true) (service.warn_uncoded _)
    · rfl
  | saved id =>
    simp only [handle, lookUp_uncoded]
    obtain ⟨later, _ | handle⟩ := service.lookUp id
    · rfl
    · simp only [uncoded_session, Session.documentSaved_uncoded]
      obtain ⟨s, _ | number⟩ := later.session.documentSaved handle <;> rfl

/-- The chains that are complete are forgotten as they are. -/
theorem retainRunning_uncoded : service.uncoded.retainRunning = service.retainRunning.uncoded := by
  -- Whether a chain has a result is seen without the exit codes in it.
  have running : service.uncoded.isRunning = service.isRunning := by
    funext number
    have complete := service.session.state.isSome_result?_uncoded number
    simp only [isRunning, uncoded_session, Session.uncoded_state]
    rw [← Option.not_isSome, ← Option.not_isSome, complete]
  simp only [retainRunning, running]
  rfl

/-! ## The input -/

/-- A line is handled as it is. -/
theorem handleLine_uncoded (line : String) :
    service.uncoded.handleLine line =
      ((service.handleLine line).1.uncoded, (service.handleLine line).2) := by
  unfold handleLine
  -- A blank line is passed over, and any other one is decoded from the same text.
  split
  · rfl
  · cases Incoming.decode line with
    | error error => exact congrArg (·, none) (service.warn_uncoded _)
    | ok message =>
      simp only [handle_uncoded]
      obtain ⟨later, _ | _⟩ := service.handle message
      · rfl
      · exact congrArg (·, none) later.retainRunning_uncoded

/-- The bytes of a line are handled as they are. -/
theorem handleBytes_uncoded (reversed : List UInt8) :
    service.uncoded.handleBytes reversed =
      ((service.handleBytes reversed).1.uncoded, (service.handleBytes reversed).2) := by
  unfold handleBytes
  dsimp only
  -- A line with a fault ends the service whatever the exit codes are.
  cases Text.utf8Fault? (withoutLineEnd reversed).reverse with
  | some fault => rfl
  | none => exact service.handleLine_uncoded _

/-- Bytes are taken as they are. -/
theorem takeBytes_uncoded (bytes reversed : List UInt8) (service : Service ω) :
    service.uncoded.takeBytes reversed bytes =
      ((service.takeBytes reversed bytes).1.uncoded, (service.takeBytes reversed bytes).2) := by
  -- The induction is on the bytes, and the line so far is carried along.
  induction bytes generalizing service reversed with
  | nil => rfl
  | cons byte rest ih =>
    simp only [takeBytes, handleBytes_uncoded]
    split
    · obtain ⟨later, _ | ending⟩ := service.handleBytes (byte :: reversed)
      · exact ih [] later
      · rfl
    · exact ih (byte :: reversed) service

/-- The input is taken as it is. -/
theorem takeFeed_uncoded (input : List Feed) (reversed : List UInt8) (service : Service ω) :
    service.uncoded.takeFeed reversed input =
      ((service.takeFeed reversed input).1.uncoded, (service.takeFeed reversed input).2) := by
  -- The induction is on the input; time passes alike, and bytes are taken alike.
  induction input generalizing service reversed with
  | nil =>
    unfold takeFeed
    split
    · rfl
    · exact service.handleBytes_uncoded reversed
  | cons feed rest ih =>
    cases feed with
    | pause milliseconds =>
      unfold takeFeed
      rw [modify_uncoded fun s => s.wait_uncoded milliseconds]
      exact ih reversed _
    | bytes bytes =>
      simp only [takeFeed, takeBytes_uncoded]
      obtain ⟨later, left, _ | ending⟩ := service.takeBytes reversed bytes
      · exact ih left later
      · rfl

/-! ## Whole runs -/

/-- The service finishes as it does. -/
theorem finish_uncoded : service.uncoded.finish = service.finish.uncoded := by
  simp only [finish, modify, uncoded_session, uncoded_chains, Session.awaitAll_uncoded,
    Session.stop_uncoded]
  rfl

/-- The names of the commands are sent as they are. -/
theorem announce_uncoded (profiles : List Profile) (s : Session ω) :
    announce profiles s.uncoded = ((announce profiles s).1.uncoded, (announce profiles s).2) := by
  have sent := s.state.outlet.trySend_hushed (.commands (Command.namesOf profiles))
  simp only [announce, Session.uncoded_state, Workspace.uncoded_outlet, sent]
  rfl

/-- The service opens as it does. -/
theorem opened_uncoded (profiles : List Profile) (delay : Nat) (s : Session ω) :
    opened profiles delay s.uncoded = (opened profiles delay s).uncoded := by
  simp only [opened, announce_uncoded, Session.start_uncoded]
  rfl

/-- The service runs as it does. -/
theorem run_uncoded (profiles : List Profile) (delay : Nat) (input : List Feed) (s : Session ω) :
    run profiles delay input s.uncoded =
      ((run profiles delay input s).1.uncoded, (run profiles delay input s).2) := by
  simp only [run, announce_uncoded]
  -- A greeting that cannot be sent ends the service before it has begun.
  obtain ⟨greeted, _ | error⟩ := announce profiles s
  · have begun : (⟨(greeted.start profiles delay).uncoded, []⟩ : Service Behaviour) =
        uncoded ⟨greeted.start profiles delay, []⟩ := rfl
    simp only [Session.start_uncoded, begun, takeFeed_uncoded, finish_uncoded]
    rfl
  · rfl

/-- The session at a point of a run: after some of the input, and some steps up to a time if one is given. -/
def point (profiles : List Profile) (delay : Nat) (input : List Feed) (limit : Option Nat) (steps : Nat)
    (first : Session ω) : Session ω :=
  -- A pause of the input gives its steps a time, and the wait for the chains in the end gives them none.
  DebouncedTimeline.runFor Session.machine limit (fun _ => true) steps
    ((opened profiles delay first).takeFeed [] input).1.session

/-- Every point of a run is reached as it is. -/
theorem point_uncoded (profiles : List Profile) (delay : Nat) (input : List Feed) (limit : Option Nat)
    (steps : Nat) (s : Session ω) :
    point profiles delay input limit steps s.uncoded = (point profiles delay input limit steps s).uncoded := by
  unfold point
  rw [opened_uncoded, takeFeed_uncoded]
  exact Session.runFor_uncoded _ limit steps

/-- In a world that differs only in exit codes, as much is seen at every point of a run and in its end. -/
theorem exitCodes_run {first : Session ω} {other : υ} (alike : DifferInCodes first.state.world other)
    (profiles : List Profile) (delay : Nat) (input : List Feed) :
    (∀ limit steps,
        let one := point profiles delay input limit steps first
        let another := point profiles delay input limit steps (first.inWorld other)
        another.clock = one.clock ∧ another.state.visible = one.state.visible) ∧
      (run profiles delay input (first.inWorld other)).1.state.visible =
        (run profiles delay input first).1.state.visible ∧
      (run profiles delay input (first.inWorld other)).2 = (run profiles delay input first).2 := by
  have same := Session.uncoded_inWorld alike
  refine ⟨fun limit steps => ?_, ?_⟩
  -- Up to their exit codes both sessions are one, and so is what can be seen of them.
  · have reached : (point profiles delay input limit steps (first.inWorld other)).uncoded =
        (point profiles delay input limit steps first).uncoded := by
      rw [← point_uncoded, ← point_uncoded, same]
    have seen := congrArg (fun s => s.state.visible) reached
    simp only [Session.uncoded_state, Workspace.visible_uncoded] at seen
    exact ⟨congrArg (·.clock) reached, seen⟩
  -- The end is compared as every point in between.
  · have ran := run_uncoded profiles delay input (first.inWorld other)
    rw [same, run_uncoded] at ran
    have seen := congrArg (fun s => s.1.state.visible) ran
    simp only [Session.uncoded_state, Workspace.visible_uncoded] at seen
    exact ⟨seen.symm, (congrArg Prod.snd ran).symm⟩

/-- The sample with a formatter that writes another text and ends with a code, or with none. -/
def sampleCoded (code : Option Int) : Scripted.Tables :=
  Scripted.sample [⟨"black", none, 1, none, some "new", none, "", "", code⟩]

/-- A session in such a world in which a document is active, and in which all is logged that can be. -/
def sampleFailing (code : Option Int) : Session Scripted.Tables :=
  let first : Session Scripted.Tables :=
    .initial (sampleCoded code) .debug (.ofDefaults [("black.global.binPath", .string "black")])
  ((first.openDocument (.opened 1 ⟨"/repo/main.py"⟩ none "old" ⟨0, 0⟩ true)).activateDocument (some 1)).1

/-- The line of a message that asks for a formatter. -/
def sampleLine : List Feed :=
  [.bytes ((Json.Value.object [("type", .string "command"), ("name", .string "fmtchain:black")]).compact ++
    "\n").toUTF8.toList]

/-- What has become of such a session when the editor has asked for its formatter. -/
def sampleEnded (code : Option Int) : Session Scripted.Tables :=
  (run [Scripted.sampleProfile] 0 sampleLine (sampleFailing code)).1

/-- In the sample the exit code is logged, and the text is taken over whatever it is. -/
theorem exitCodes_sample :
    (sampleEnded (some 0)).state.outlet.events ≠ (sampleEnded (some 3)).state.outlet.events ∧
      (sampleEnded (some 0)).state.documents.contents = [(1, "new")] ∧
      (sampleEnded (some 3)).state.visible = (sampleEnded (some 0)).state.visible := by
  -- The two worlds have the same processes but for the codes with which they end.
  have alike : DifferInCodes (sampleFailing (some 0)).state.world (sampleCoded (some 3)) :=
    Scripted.Tables.differInCodes rfl
  obtain ⟨-, seen, -⟩ := exitCodes_run alike [Scripted.sampleProfile] 0 sampleLine
  -- The session in the other world is the sample with the other code.
  have same : (sampleFailing (some 0)).inWorld (sampleCoded (some 3)) = sampleFailing (some 3) := rfl
  rw [same, ← sampleEnded, ← sampleEnded] at seen
  obtain ⟨logged, taken⟩ :
      (sampleEnded (some 0)).state.outlet.events ≠ (sampleEnded (some 3)).state.outlet.events ∧
        (sampleEnded (some 0)).state.documents.contents = [(1, "new")] := by
    decide +kernel
  exact ⟨logged, taken, seen⟩

end Service

end FormatPipeline
