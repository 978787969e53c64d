import FormatPipeline.Proofs.Document.Cursor
import FormatPipeline.Proofs.Service.Coherence
import FormatPipeline.Proofs.Session.Chains
import FormatPipeline.Proofs.Session.Tile

/-! What a service makes of messages: calls of its session, and at most one errand each. -/

namespace FormatPipeline

open Schedule (DebouncedTimeline Turn Work)

/-- What is noted in a run makes no difference to where it leads. -/
theorem Run.noting {σ μ ν κ : Type} {moves : σ → μ → σ → Prop} {notes : σ → μ → List ν}
    {first history : List ν} {start state : σ} (ran : Run moves notes first start history state)
    (others : σ → μ → List κ) (told : List κ) : ∃ later, Run moves others told start later state := by
  -- The induction is on the run, whose moves are the same whatever is noted.
  induction ran with
  | start => exact ⟨told, .start⟩
  | move before moved ih =>
    obtain ⟨later, ran⟩ := ih
    exact ⟨_, ran.move moved⟩

namespace Session

variable {ω : Type} [World ω]

/-- Whether an editor can bring a call about; formatters of its choice it can only run by commands. -/
def Call.IsEditors : Call ω → Prop
  | .chain .. | .single .. | .world _ => False
  | _ => True

/-- Whether a call opens no document but one whose cursor is in its text. -/
def Call.IsSighted : Call ω → Prop
  | .openDocument document => document.IsSighted
  | _ => True

/-- A session answers calls of an editor and logs texts, one after another. -/
inductive Serves : Session ω → Session ω → Prop
  | refl (s : Session ω) : Serves s s
  | log {s t : Session ω} (before : Serves s t) (importance : LogLevel) (text : String) :
      Serves s (t.modify fun w => { w with outlet := w.outlet.log importance text })
  | call {s t : Session ω} (before : Serves s t) (call : Call ω) (own : call.IsEditors) :
      Serves s (t.answer call)

/-- What calls of an editor and logged texts keep is kept while a session serves. -/
theorem Serves.keeps (holds : Session ω → Prop) {s t : Session ω} (serves : s.Serves t)
    (logged : ∀ {s : Session ω} (importance : LogLevel) (text : String), holds s →
      holds (s.modify fun w => { w with outlet := w.outlet.log importance text }))
    (called : ∀ {s : Session ω} {call : Call ω}, call.IsEditors → holds s → holds (s.answer call))
    (before : holds s) : holds t := by
  -- Serving is a row of log texts and calls, and each of them keeps it.
  induction serves with
  | refl => exact before
  | log _ importance text ih => exact logged importance text ih
  | call _ call own ih => exact called own ih

/-! ## Errands that wait for their turn -/

omit [World ω] in
/-- Work that is asked for waits behind all other work, under the next number. -/
theorem jobs_spawn (errand : Nat → Errand) (s : Session ω) :
    DebouncedTimeline.jobs (Session.spawn errand s).1 =
      DebouncedTimeline.jobs s ++ [errand s.state.numbered] :=
  DebouncedTimeline.jobs_spawn _ _

/-- The only work that waits for its turn under the number of an errand is that errand. -/
structure Awaits (errand : Errand) (s : Session ω) : Prop where
  issued : errand.number < s.state.numbered
  only : ∀ job ∈ DebouncedTimeline.jobs s, job.number = errand.number → job = errand

namespace Awaits

variable {errand : Errand} {s next : Session ω}

omit [World ω] in
/-- Where work is not disturbed, an errand goes on waiting. -/
theorem undisturbed (waits : s.Awaits errand) (same : s.Undisturbed next) : next.Awaits errand := by
  refine ⟨?_, ?_⟩
  · rw [same.state.numbered]
    exact waits.issued
  · rw [same.jobs]
    exact waits.only

omit [World ω] in
/-- Other work that is asked for has a number of its own. -/
theorem spawn (waits : s.Awaits errand) {other : Nat → Errand}
    (numbered : ∀ number, (other number).number = number) : (Session.spawn other s).1.Awaits errand := by
  refine ⟨Nat.lt_succ_of_lt waits.issued, fun job member same => ?_⟩
  rw [jobs_spawn] at member
  rcases List.mem_append.mp member with earlier | last
  · exact waits.only job earlier same
  · -- The new number has not been issued before.
    rw [List.mem_singleton.mp last, numbered] at same
    exact absurd waits.issued (by omega)

/-- Turns give no numbers, and they only take work out of those that wait. -/
theorem takes (waits : s.Awaits errand) {turn : Turn (Work Update Errand) (Work Update Sleeper)}
    (taken : DebouncedTimeline.Takes machine s turn next) : next.Awaits errand := by
  -- Only a job that begins leaves the queue, and no turn gives a number.
  rcases DebouncedTimeline.takes_cases taken with
    ⟨begun, rest, rfl, queued, jobs, -, state⟩ | ⟨now, sleeper, rest, rfl, -, jobs, -, state⟩ |
    ⟨-, -, jobs, sleepers, state⟩
  · refine ⟨?_, fun job member => waits.only job (queued.mem_iff.mpr ?_)⟩
    · rw [state]
      exact (Workspace.effect_startErrand s.clock begun s.state).numbered ▸ waits.issued
    · exact List.mem_cons_of_mem _ (jobs.mem_iff.mp member)
  · refine ⟨?_, jobs ▸ waits.only⟩
    rw [state]
    exact (Workspace.effect_wakeSleeper now sleeper s.state).numbered ▸ waits.issued
  · exact waits.undisturbed (undisturbed_delayed jobs sleepers state)

/-- What begins under the number of an errand is the errand. -/
theorem eq_of_takes (waits : s.Awaits errand) {begun : Errand}
    (taken : DebouncedTimeline.Takes machine s (.start (.other begun)) next)
    (same : begun.number = errand.number) : begun = errand := by
  -- The job that begins stood in the queue, where the number is the errand's alone.
  rcases DebouncedTimeline.takes_cases taken with ⟨job, rest, turn, queued, -⟩ | ⟨_, _, _, turn, -⟩ |
    ⟨noJob, -⟩
  · cases turn
    exact waits.only begun (queued.mem_iff.mpr List.mem_cons_self) same
  · cases turn
  · exact absurd rfl (noJob begun)

end Awaits

omit [World ω] in
/-- An errand that is asked for is the only one of its number. -/
theorem IsOrderly.awaits {first s : Session ω} {history : List (Nat × Deed)}
    (orderly : IsOrderly first history s) {errand : Nat → Errand}
    (numbered : ∀ number, (errand number).number = number) :
    (Session.spawn errand s).1.Awaits (errand s.state.numbered) := by
  refine ⟨(numbered _).symm ▸ Nat.lt_succ_self _, fun job member same => ?_⟩
  rw [jobs_spawn] at member
  rcases List.mem_append.mp member with earlier | last
  · -- Work that was asked for before has a smaller number.
    have issued : job.number < s.state.numbered := orderly.orderly.issued job.piece
      (List.mem_append_left _ (List.mem_map_of_mem earlier))
    rw [numbered] at same
    exact absurd issued (by omega)
  · exact List.mem_singleton.mp last

end Session

namespace Service

variable {ω : Type} [World ω] {service : Service ω}

/-! ## Messages -/

/-- What is kept by calls of an editor and by logged texts is kept while a message is handled; a
document is opened with its cursor in its text. -/
theorem handle_keeps (holds : Session ω → Prop)
    (logged : ∀ {s : Session ω} (importance : LogLevel) (text : String), holds s →
      holds (s.modify fun w => { w with outlet := w.outlet.log importance text }))
    (called : ∀ {s : Session ω} (call : Session.Call ω), call.IsEditors → call.IsSighted → holds s →
      holds (s.answer call)) (before : holds service.session) (message : Incoming) :
    holds (service.handle message).1.session := by
  have warned : ∀ text, holds (service.warn text).session :=
    fun text => logged .warn (Outlet.warningWord ++ " " ++ text) before
  cases message with
  | openDocument id path displayPath text cursor inScope =>
    exact called (.openDocument (.opened id path displayPath text cursor inScope)) trivial
      (Document.isSighted_opened id path displayPath text cursor inScope) before
  | updateDocument id text cursor =>
    -- A document that is not open is only warned about, here and below.
    rcases service.lookUp_cases id with ⟨handle, -, found⟩ | ⟨-, warning, found⟩
    · simp only [Service.handle, found]
      exact called (.edit handle text cursor) trivial trivial before
    · simp only [Service.handle, found]
      exact warned warning
  | closeDocument id => exact called (.closeDocument id) trivial trivial before
  | scopeChanged id inScope =>
    rcases service.lookUp_cases id with ⟨handle, -, found⟩ | ⟨-, warning, found⟩
    · simp only [Service.handle, found]
      exact called (.changeScope handle inScope) trivial trivial before
    · simp only [Service.handle, found]
      exact warned warning
  | activeDocumentChanged id =>
    have activated := called (.activate id) trivial trivial before
    simp only [Session.answer] at activated
    -- The table refuses a document that is not open, which leaves only the warning.
    simp only [Service.handle]
    generalize service.session.activateDocument id = outcome at activated ⊢
    obtain ⟨s, possible⟩ := outcome
    cases possible with
    | true => exact activated
    | false => exact warned _
  | saved id =>
    rcases service.lookUp_cases id with ⟨handle, -, found⟩ | ⟨-, warning, found⟩
    · have saved := called (.saved handle) trivial trivial before
      simp only [Session.answer] at saved
      simp only [Service.handle, found]
      generalize service.session.documentSaved handle = outcome at saved ⊢
      obtain ⟨s, none | number⟩ := outcome <;> exact saved
    · simp only [Service.handle, found]
      exact warned warning
  | setting key value =>
    simp only [Service.handle, setSetting, modify]
    -- A setting that nobody knows is logged before it is set.
    split
    · exact called (.set key value) trivial trivial before
    · exact called (.set key value) trivial trivial
        (logged .debug ("Unknown setting: " ++ key) before)
  | command name =>
    have given := called (.command name) trivial trivial before
    simp only [Session.answer] at given
    simp only [Service.handle, runCommand]
    -- A command that nobody knows is warned about.
    generalize service.session.command name = outcome at given ⊢
    obtain ⟨s, number | done | unknown⟩ := outcome
    · exact given
    · exact given
    · exact logged .warn _ given
  | shutdown => exact before

/-- The session of a service serves while a message is handled. -/
theorem serves_handle (service : Service ω) (message : Incoming) :
    service.session.Serves (service.handle message).1.session :=
  handle_keeps service.session.Serves (fun importance text before => before.log importance text)
    (fun call own _ before => before.call call own) (.refl _) message

/-- The errand that a message asks for, whatever its number will be, if it asks for one. -/
def asks? (service : Service ω) : Incoming → Option (Nat → Errand)
  | .command name =>
    -- The names are told apart in this order, and a formatter has to be known.
    if name = Command.format then some .formatActive
    else if name = Command.toggleOnSave then none
    else (Session.commandFormatter? name).bind fun formatter =>
      if (service.session.state.formatter? formatter).isSome then some (.runOnActive · formatter)
      else none
  | .saved id =>
    (service.session.state.documents.handle? id).bind fun handle =>
      if (service.session.state.document? handle).any (service.session.state.formatsOnSave ·.id) then
        some (.formatSaved · handle)
      else none
  | _ => none

omit [World ω] in
/-- An errand that is asked for has the number that it is given, and it is no chain without formatters. -/
theorem number_of_asks? {message : Incoming} {errand : Nat → Errand}
    (asked : service.asks? message = some errand) (number : Nat) :
    (errand number).number = number ∧ (errand number).HasFormatters := by
  -- Only commands and saved documents ask for work, and each names what it asks for.
  cases message with
  | command name =>
    simp only [asks?] at asked
    split at asked
    · cases asked
      exact ⟨rfl, by simp [Errand.HasFormatters]⟩
    · split at asked
      · cases asked
      · obtain ⟨formatter, -, found⟩ := Option.bind_eq_some_iff.mp asked
        simp only [Option.ite_none_right_eq_some, Option.some.injEq] at found
        obtain ⟨-, rfl⟩ := found
        exact ⟨rfl, by simp [Errand.HasFormatters]⟩
  | saved id =>
    obtain ⟨handle, -, found⟩ := Option.bind_eq_some_iff.mp asked
    simp only [Option.ite_none_right_eq_some, Option.some.injEq] at found
    obtain ⟨-, rfl⟩ := found
    exact ⟨rfl, by simp [Errand.HasFormatters]⟩
  | openDocument | updateDocument | closeDocument | scopeChanged | activeDocumentChanged | setting
  | shutdown => cases asked

/-- An errand that is asked for is remembered under its number, and no other work is disturbed. -/
inductive TakesUp (service : Service ω) : Option (Nat → Errand) → Service ω → Prop
  | errand {errand : Nat → Errand} {s : Session ω} (same : service.session.Undisturbed s) :
      TakesUp service (some errand)
        (({ service with session := (Session.spawn errand s).1 } : Service ω).addChain s.state.numbered)
  | nothing {later : Service ω} (same : service.session.Undisturbed later.session)
      (chains : later.chains = service.chains) : TakesUp service none later

omit [World ω] in
/-- A warning disturbs no work. -/
theorem undisturbed_warn (service : Service ω) (text : String) :
    service.session.Undisturbed (service.warn text).session :=
  ⟨rfl, rfl, (Workspace.Calm.of_onlySays (Workspace.onlySays_warn _ text)).idle⟩

omit [World ω] in
/-- A warning asks for no work. -/
theorem takesUp_warn (service : Service ω) (text : String) :
    service.TakesUp none (service.warn text) :=
  .nothing (service.undisturbed_warn text) rfl

/-- A command formats, turns a switch over, runs one formatter, or is unknown. -/
theorem takesUp_command (service : Service ω) (name : String) :
    service.TakesUp (service.asks? (.command name)) (service.runCommand name) := by
  have logged : service.session.Undisturbed (service.session.modify (·.debug ("Command: " ++ name))) :=
    Session.undisturbed_modify _ (Workspace.Calm.of_onlySays (Workspace.onlySays_debug _ _)).idle
  let given : Service ω := { service with
    session := service.session.modify (·.debug ("Command: " ++ name)) }
  have unknown : service.TakesUp none (given.warn (Session.unknownCommand name)) :=
    .nothing (logged.trans (given.undisturbed_warn _)) rfl
  unfold runCommand asks? Session.command
  by_cases format : name = Command.format
  -- The names are compared in this order: the format command, the switch, and those of formatters.
  · simp only [format, if_true] at logged ⊢
    exact .errand logged
  by_cases switch : name = Command.toggleOnSave
  · have apart : Command.toggleOnSave ≠ Command.format := by decide
    subst switch
    simp only [apart, if_true, if_false]
    exact .nothing (logged.trans (Session.undisturbed_set _ _ _)) rfl
  simp only [format, switch, if_false]
  cases Session.commandFormatter? name with
  | none => exact unknown
  | some formatter =>
    -- What is logged of the command registers no formatter.
    have same : (service.session.modify (·.debug ("Command: " ++ name))).state.formatter? formatter =
      service.session.state.formatter? formatter := rfl
    dsimp only
    rw [same, Option.bind_some]
    cases (service.session.state.formatter? formatter).isSome with
    | true => exact .errand logged
    | false => exact unknown

/-- A document that was saved is formatted if its saves are watched. -/
theorem takesUp_saved (service : Service ω) (id : Nat) :
    service.TakesUp (service.asks? (.saved id)) (service.handle (.saved id)).1 := by
  -- An unknown document is only warned of, and a known one may be watched or not.
  rcases service.lookUp_cases id with ⟨handle, known, found⟩ | ⟨unknown, warning, found⟩
  · have known : service.session.state.documents.handle? id = some handle := known
    simp only [Service.handle, found, asks?, known, Option.bind_some, Session.documentSaved]
    cases service.session.state.document? handle with
    | none => exact .nothing (.refl _) rfl
    | some document =>
      dsimp only
      rw [Option.any_some]
      cases service.session.state.formatsOnSave document.id with
      | true => exact .errand (.refl _)
      | false => exact .nothing (.refl _) rfl
  · have unknown : service.session.state.documents.handle? id = none := unknown
    simp only [Service.handle, found, asks?, unknown, Option.bind_none]
    exact service.takesUp_warn warning

/-- A message takes up what it asks for. -/
theorem takesUp_handle (service : Service ω) (message : Incoming) :
    service.TakesUp (service.asks? message) (service.handle message).1 := by
  have called : ∀ call : Session.Call ω, call.IsIdle →
      service.session.Undisturbed (service.session.answer call) :=
    service.session.undisturbed_answer
  -- All messages but the last two kinds are calls or warnings, which leave the work alone.
  cases message with
  | openDocument id path displayPath text cursor inScope =>
    exact .nothing (called (.openDocument (.opened id path displayPath text cursor inScope)) trivial) rfl
  | updateDocument id text cursor =>
    rcases service.lookUp_cases id with ⟨handle, -, found⟩ | ⟨-, warning, found⟩
    · simp only [Service.handle, found]
      exact .nothing (called (.edit handle text cursor) trivial) rfl
    · simp only [Service.handle, found]
      exact service.takesUp_warn warning
  | closeDocument id => exact .nothing (called (.closeDocument id) trivial) rfl
  | scopeChanged id inScope =>
    -- The document may be unknown, and then there is only a warning.
    rcases service.lookUp_cases id with ⟨handle, -, found⟩ | ⟨-, warning, found⟩
    · simp only [Service.handle, found]
      exact .nothing (called (.changeScope handle inScope) trivial) rfl
    · simp only [Service.handle, found]
      exact service.takesUp_warn warning
  | activeDocumentChanged id =>
    have activated := called (.activate id) trivial
    simp only [Session.answer] at activated
    simp only [Service.handle]
    generalize service.session.activateDocument id = outcome at activated ⊢
    obtain ⟨s, possible⟩ := outcome
    cases possible with
    | true => exact .nothing activated rfl
    | false => exact service.takesUp_warn _
  | saved id => exact service.takesUp_saved id
  | setting key value =>
    refine .nothing ?_ rfl
    simp only [Service.handle, setSetting, modify]
    -- A key that nobody knows is set all the same, after it was logged.
    split
    · exact called (.set key value) trivial
    · have logged : service.session.Undisturbed
          (service.session.modify (·.debug ("Unknown setting: " ++ key))) :=
        Session.undisturbed_modify _ (Workspace.Calm.of_onlySays (Workspace.onlySays_debug _ _)).idle
      exact logged.trans (Session.undisturbed_set key value _)
  | command name => exact service.takesUp_command name
  | shutdown => exact .nothing (.refl _) rfl

omit [World ω] in
/-- Forgetting chains that are complete changes nothing else. -/
@[simp] theorem session_retainRunning (service : Service ω) :
    service.retainRunning.session = service.session := rfl

/-- The session after a message is the one that handling it leaves. -/
theorem session_answer (service : Service ω) (message : Incoming) :
    (service.answer message).session = (service.handle message).1.session := by
  unfold answer
  generalize service.handle message = outcome
  obtain ⟨later, goesOn⟩ := outcome
  cases goesOn <;> rfl

/-- The errand that a message asks for waits behind all other work. -/
theorem jobs_answer (service : Service ω) (message : Incoming) :
    DebouncedTimeline.jobs (service.answer message).session =
      DebouncedTimeline.jobs service.session ++
        ((service.asks? message).map (· service.session.state.numbered)).toList := by
  rw [session_answer]
  have taken := service.takesUp_handle message
  generalize service.asks? message = errand at taken ⊢
  generalize (service.handle message).1 = later at taken ⊢
  -- The errand is spawned on a session with the same work, or there is none.
  cases taken with
  | @errand errand s same =>
    have jobs := Session.jobs_spawn errand s
    rw [same.jobs, same.state.numbered] at jobs
    exact jobs
  | nothing same => simpa using same.jobs

end Service

end FormatPipeline
