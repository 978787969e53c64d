import FormatPipeline.Proofs.Session.Start
import FormatPipeline.Proofs.Workspace.Uncoded

/-! A session without exit codes and log texts, in which everything happens as it does with them. -/

namespace FormatPipeline

open Schedule (DebouncedTimeline Timeline Work)

namespace Session

variable {ω : Type} [World ω]

/-- The session without exit codes and log texts. -/
def uncoded (s : Session ω) : Session Behaviour :=
  DebouncedTimeline.translate Sleeper.uncoded Workspace.uncoded s

/-- The session's machine goes the same way without exit codes. -/
theorem machine_uncoded : (machine : Schedule.DebouncedMachine _ _ _ (Workspace ω)).onHeld.Translates
    machine.onHeld (Work.translate Sleeper.uncoded) (Schedule.Held.map Workspace.uncoded) :=
  Workspace.chainMachine_uncoded.debounced fun _ w => Workspace.applyTarget_uncoded _ _ w

variable (s : Session ω)

@[simp] theorem uncoded_state : s.uncoded.state = s.state.uncoded := rfl

/-- What changes the state as it does without exit codes changes the session so. -/
theorem modify_uncoded {f : Workspace ω → Workspace ω} {g : Workspace Behaviour → Workspace Behaviour}
    (same : ∀ w, g w.uncoded = (f w).uncoded) (s : Session ω) :
    s.uncoded.modify g = uncoded (s.modify f) :=
  DebouncedTimeline.modify_translate s (same s.state)

/-! ## Time and work -/

/-- Time passes as it does. -/
theorem wait_uncoded (milliseconds : Nat) : s.uncoded.wait milliseconds = (s.wait milliseconds).uncoded :=
  DebouncedTimeline.advance_translate machine_uncoded milliseconds s

/-- Work is waited for as it is. -/
theorem awaitAll_uncoded (numbers : List Nat) :
    s.uncoded.awaitAll numbers = (s.awaitAll numbers).uncoded := by
  refine DebouncedTimeline.await_translate machine_uncoded (fun w => ?_) s
  simp only [Workspace.isSome_result?_uncoded]

/-- A number of steps are taken as they are. -/
theorem runFor_uncoded (limit : Option Nat) (steps : Nat) :
    DebouncedTimeline.runFor machine limit (fun _ => true) steps s.uncoded =
      uncoded (DebouncedTimeline.runFor machine limit (fun _ => true) steps s) :=
  DebouncedTimeline.runFor_translate machine_uncoded (fun _ => rfl) limit steps s

/-- Work is asked for under the same number. -/
theorem spawn_uncoded (errand : Nat → Errand) :
    Session.spawn errand s.uncoded = ((s.spawn errand).1.uncoded, (s.spawn errand).2) := rfl

/-! ## Settings -/

/-- A value takes effect as it does. -/
theorem apply_uncoded (update : Update) (w : Workspace ω) :
    update.apply w.uncoded = (update.apply w).uncoded :=
  Workspace.applyTarget_uncoded update.target update.value w

/-- An observer is told about a change as it is. -/
theorem notify_uncoded (key : String) (value : Json.Value) (subscription : Subscription) :
    s.uncoded.notify key value subscription = (s.notify key value subscription).uncoded := by
  unfold notify
  simp only [uncoded_state, Workspace.uncoded_debouncer]
  -- Who is told at once applies the value, and who is told later asks for it with a delay.
  split
  · exact modify_uncoded (apply_uncoded _) s
  · split
    · split
      · exact DebouncedTimeline.call_translate apply_uncoded _ key _ s
      · rfl
    · rfl

/-- A setting is set, and its observers are told, as they are. -/
theorem set_uncoded (key : String) (value : Json.Value) :
    s.uncoded.set key value = (s.set key value).uncoded := by
  -- The observers are the same on both sides, and they are told in the same order.
  have told : ∀ (told : List Subscription) (s : Session ω),
      told.foldl (notify key value) s.uncoded = (told.foldl (notify key value) s).uncoded := by
    intro told
    induction told with
    | nil => exact fun _ => rfl
    | cons subscription rest ih =>
      intro s
      rw [List.foldl_cons, List.foldl_cons, notify_uncoded, ih]
  exact told _ (s.modify fun w => { w with store := (s.state.store.set key value).1 })

/-- A switch is turned over as it is. -/
theorem toggle_uncoded (key : String) : s.uncoded.toggle key = (s.toggle key).uncoded :=
  set_uncoded s key _

/-- A setting is observed as it is. -/
theorem observe_uncoded (key : String) (subscription : Subscription) :
    s.uncoded.observe key subscription = (s.observe key subscription).uncoded :=
  modify_uncoded (apply_uncoded _) (s.modify fun w => { w with
    store := (s.state.store.observe key subscription).1
    subscriptions := w.subscriptions ++ [(s.state.store.observe key subscription).2] })

/-! ## Beginning and end -/

/-- Formatters are registered as they are. -/
theorem register_uncoded (profiles : List Profile) : s.uncoded.register profiles = (s.register profiles).uncoded := by
  refine modify_uncoded (fun w => ?_) s
  -- The induction is on the profiles, each of which is new on both sides or on neither.
  induction profiles generalizing w with
  | nil => rfl
  | cons profile rest ih =>
    rw [List.foldl_cons, List.foldl_cons, ← ih]
    refine congrArg (fun w => List.foldl _ w rest) ?_
    rw [Workspace.formatter?_uncoded]
    split
    · simp
    · rfl

/-- Updates that wait are forgotten as they are. -/
theorem cancelAll_uncoded :
    DebouncedTimeline.cancelAll s.uncoded = uncoded (DebouncedTimeline.cancelAll s) :=
  DebouncedTimeline.cancelAll_translate s

/-- Another debouncer is put in place as it is. -/
theorem replaceDebouncer_uncoded (delay : Nat) :
    s.uncoded.replaceDebouncer delay = (s.replaceDebouncer delay).uncoded := by
  unfold replaceDebouncer
  rw [cancelAll_uncoded]
  rfl

/-- All targets are observed as they are. -/
theorem observeTargets_uncoded (targets : List Target) :
    s.uncoded.observeTargets targets = (s.observeTargets targets).uncoded := by
  -- The induction is on the targets, each of which takes its first value alike.
  induction targets generalizing s with
  | nil => rfl
  | cons target rest ih =>
    simp only [observeTargets, List.foldl_cons] at ih ⊢
    rw [← ih, ← observe_uncoded]
    rfl

/-- The end of a start is as it is. -/
@[simp] theorem uncoded_greeting (w : Workspace ω) : (greeting w).uncoded = greeting w.uncoded := by
  unfold greeting
  simp only [Workspace.uncoded_documents, Workspace.document?_uncoded, Workspace.uncoded_debug]
  -- Without a document the tile is drawn, and otherwise the document is announced.
  cases w.documents.active? with
  | none =>
    dsimp only
    rw [← Workspace.uncoded_renderStatus, Workspace.debug_uncoded]
  | some handle =>
    dsimp only
    cases w.document? handle with
    | none =>
      dsimp only
      rw [← Workspace.uncoded_activeChanged, Workspace.debug_uncoded]
    | some document =>
      dsimp only
      rw [← Workspace.uncoded_documentOpened, ← Workspace.uncoded_activeChanged, Workspace.debug_uncoded]

/-- The session starts as it does. -/
theorem start_uncoded (profiles : List Profile) (delay : Nat) :
    s.uncoded.start profiles delay = (s.start profiles delay).uncoded := by
  -- The names of the formatters hold no exit codes, so that the targets are the same.
  have names : (s.uncoded.register profiles).state.formatterNames =
      (s.register profiles).state.formatterNames := by rw [register_uncoded]; rfl
  have prepared : s.uncoded.prepared profiles delay = (s.prepared profiles delay).uncoded := by
    rw [prepared, register_uncoded, replaceDebouncer_uncoded]
    rfl
  rw [start_eq, start_eq, names, prepared, observeTargets_uncoded]
  exact modify_uncoded (fun w => (uncoded_greeting w).symm) _

/-- The session ends as it does. -/
theorem stop_uncoded : s.uncoded.stop = s.stop.uncoded := by
  have unobserved : s.uncoded.unobserveAll = s.unobserveAll.uncoded := rfl
  -- The last words are only logged.
  have silent : ∀ w : Workspace ω, (w.uncoded.send (.status none)).debug "Shut down." =
      ((w.send (.status none)).debug "Shut down.").uncoded := by
    intro w
    rw [← Workspace.uncoded_send, Workspace.debug_uncoded, Workspace.uncoded_debug]
  unfold stop
  rw [unobserved, cancelAll_uncoded]
  exact modify_uncoded (fun w => silent { w with
    coordination := { w.coordination with saveWatch := [], activeDocument := none } }) _

/-! ## Commands and saved documents -/

/-- A command is run as it is. -/
theorem command_uncoded (name : String) :
    s.uncoded.command name = ((s.command name).1.uncoded, (s.command name).2) := by
  -- The log text comes first, whatever the command does.
  have logged : s.uncoded.modify (·.debug ("Command: " ++ name)) =
      uncoded (s.modify (·.debug ("Command: " ++ name))) :=
    modify_uncoded (fun w => by simp) s
  unfold command
  rw [logged]
  generalize s.modify (·.debug ("Command: " ++ name)) = t
  have formatter : ∀ formatter, (uncoded t).state.formatter? formatter = t.state.formatter? formatter :=
    fun _ => rfl
  simp only [spawn_uncoded, toggle_uncoded, formatter]
  -- The command is one of the general ones, or it names a formatter, or it is refused.
  split
  · rfl
  · split
    · rfl
    · cases commandFormatter? name with
      | none => rfl
      | some formatter =>
        dsimp only
        split <;> rfl

/-- A saved document is taken to be formatted as it is. -/
theorem documentSaved_uncoded (handle : Handle) :
    s.uncoded.documentSaved handle = ((s.documentSaved handle).1.uncoded, (s.documentSaved handle).2) := by
  -- Whether saves are watched depends on the coordination alone.
  have formats : ∀ id, s.uncoded.state.formatsOnSave id = s.state.formatsOnSave id := fun _ => rfl
  simp only [documentSaved, uncoded_state, Workspace.document?_uncoded] at formats ⊢
  simp only [formats]
  cases s.state.document? handle with
  | none => rfl
  | some document =>
    dsimp only
    split <;> rfl

/-! ## Documents -/

/-- A document is changed as it is. -/
theorem changeDocument_uncoded (handle : Handle) (f : Document → Document) :
    s.uncoded.changeDocument handle f = (s.changeDocument handle f).uncoded := rfl

/-- A document is closed as it is. -/
theorem closeDocument_uncoded (id : Nat) : s.uncoded.closeDocument id = (s.closeDocument id).uncoded :=
  modify_uncoded (fun w => (Workspace.uncoded_documentClosed { w with documents := w.documents.close id } id).symm) s

/-- The formatters begin or cease to apply to a document as they do. -/
theorem changeScope_uncoded (handle : Handle) (inScope : Bool) :
    s.uncoded.changeScope handle inScope = (s.changeScope handle inScope).uncoded := by
  unfold changeScope
  rw [changeDocument_uncoded]
  generalize s.changeDocument handle _ = t
  simp only [uncoded_state, Workspace.document?_uncoded]
  -- A handle without a document changes nothing on either side.
  cases t.state.document? handle with
  | none => rfl
  | some document => exact modify_uncoded (fun w => (Workspace.uncoded_scopeChanged w document).symm) t

/-- A document is made active, or refused, as it is. -/
theorem activateDocument_uncoded (id : Option Nat) :
    s.uncoded.activateDocument id = ((s.activateDocument id).1.uncoded, (s.activateDocument id).2) := by
  simp only [activateDocument, uncoded_state, Workspace.uncoded_documents]
  cases s.state.documents.activate? id with
  | none => rfl
  | some documents =>
    exact congrArg (·, true) (modify_uncoded (fun w => (Workspace.uncoded_activeChanged { w with documents := documents } _).symm) s)

end Session

end FormatPipeline
