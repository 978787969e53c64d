import FormatPipeline.Proofs.Service.Work
import FormatPipeline.Proofs.Workspace.Applied
import FormatPipeline.Proofs.Workspace.Telling

/-! What the editor is told by settings that take effect, by calls, by turns, and by a start and an end. -/

namespace FormatPipeline

open Schedule (DebouncedTimeline Timeline Turn Work)
open Settings (OrderKind Slot)

namespace Workspace

variable {ω : Type}

/-! ## Settings -/

/-- A status message is about the tile alone. -/
theorem isPlain_status (snapshot : Option StatusSnapshot) : (Outgoing.status snapshot).IsPlain :=
  ⟨rfl, fun _ => rfl, fun _ => by simp⟩

/-- Drawing the status tile is no problem. -/
theorem reports_renderStatus (w : Workspace ω) : w.Reports [] w.renderStatus := by
  unfold renderStatus
  split
  · exact reports_send w (isPlain_status _)
  · exact .of_silent rfl rfl rfl

/-- Drawing the tile after a change of the coordination is no problem. -/
theorem reports_coordinated (w : Workspace ω) (coordination : Coordination) :
    w.Reports [] (renderStatus { w with coordination := coordination }) :=
  (reports_renderStatus _).after rfl rfl rfl

/-- Turning the status tile on or off is no problem. -/
theorem reports_setStatusBar (w : Workspace ω) (enabled : Bool) :
    w.Reports [] (w.setStatusBar enabled) := by
  -- The switch itself says nothing.
  have changed : w.Reports [] { w with coordination := { w.coordination with statusBar := enabled } } :=
    .of_silent rfl rfl rfl
  unfold setStatusBar
  dsimp only
  -- The tile is drawn, taken down, or left as it was.
  split
  · exact changed.trans (reports_renderStatus _)
  · split
    · exact changed.trans (reports_send _ (isPlain_status none))
    · exact changed

/-- The problem with a list of formatters for an order: the first of them that nobody knows. -/
def orderProblems (w : Workspace ω) (kind : OrderKind) (names : List String) : List Problem :=
  -- An order that is the same as before is not looked at.
  if w.coordination.order kind = names then []
  else (names.find? fun name => (w.formatter? name).isNone).toList.map fun name =>
    .configuration (.unknownFormatterInOrder kind name)

/-- Setting an order reports its problem. -/
theorem reports_setOrder (w : Workspace ω) (kind : OrderKind) (names : List String) :
    w.Reports (w.orderProblems kind names) (w.setOrder kind names) := by
  unfold setOrder orderProblems
  split
  · exact .of_silent rfl rfl rfl
  · -- The order that is taken over is logged and drawn.
    cases names.find? fun name => (w.formatter? name).isNone with
    | none => exact (reports_debug w _).trans (reports_coordinated _ _)
    | some name =>
      exact (reports_report w _).trans ((reports_debug _ _).trans (reports_coordinated _ _))

/-- What came of a new setting of a formatter is reported if it is a problem. -/
theorem reports_noteApplied (w : Workspace ω) (what formatter : String)
    (error : Option ConfigurationError) :
    w.Reports (error.toList.map .configuration) (w.noteApplied what formatter error) := by
  cases error with
  | none => exact reports_debug w _
  | some error => exact (reports_debug w _).trans (reports_report _ _)

variable [World ω]

/-- A setting of a formatter that takes effect may be a problem. -/
theorem reports_applySlot (w : Workspace ω) (formatter : Formatter) (slot : Slot) (value : Json.Value) :
    ∃ problems, w.Reports problems (w.applySlot formatter slot value) := by
  -- Formatters and questions about files are replaced and counted before anything is said.
  have noted : ∀ (formatters : List Formatter) (probes : Nat) (what : String) error, ∃ problems,
      w.Reports problems (noteApplied { w with formatters := formatters, probes := probes } what
        formatter.name error) :=
    fun _ _ _ _ => ⟨_, (reports_noteApplied _ _ _ _).after rfl rfl rfl⟩
  cases slot with
  | localBins => exact noted _ w.probes _ _
  | localArguments | globalArguments => exact ⟨[], .of_silent rfl rfl rfl⟩
  | localConfigs | globalConfigs => exact noted _ _ _ _
  | globalBinPath =>
    unfold applySlot setGlobalBin
    -- How the finder comes to its binary does not matter.
    generalize formatter.binaries.setGlobalBin (World.files w.world) (Settings.text value) = found
    exact noted _ _ _ _

/-- A setting that takes effect reports what is wrong, unless it says itself how that is to be done. -/
theorem reports_apply (update : Update) (other : update.target ≠ .errorHandling) (w : Workspace ω) :
    ∃ problems, w.Reports problems (update.apply w) := by
  obtain ⟨target, value⟩ := update
  -- Each target has its own lemma, and only the handling could change how problems are shown.
  cases target with
  | errorHandling => exact absurd rfl other
  | busySignal => exact ⟨_, reports_setBusyEnabled w _⟩
  | statusBar => exact ⟨_, reports_setStatusBar w _⟩
  | onSaveEnabled => exact ⟨_, reports_coordinated w _⟩
  | order kind => exact ⟨_, reports_setOrder w kind _⟩
  | slot name slot =>
    simp only [Update.apply, applyTarget]
    split
    · exact reports_applySlot w _ slot value
    · exact ⟨[], .of_silent rfl rfl rfl⟩

/-- Settings that take effect one after another report what is wrong. -/
theorem reports_foldl_apply (updates : List Update)
    (others : ∀ update ∈ updates, update.target ≠ .errorHandling) (w : Workspace ω) :
    ∃ problems, w.Reports problems (updates.foldl (fun w update => update.apply w) w) := by
  -- The induction is on the updates, and their problems are reported in this order.
  induction updates generalizing w with
  | nil => exact ⟨[], .of_silent rfl rfl rfl⟩
  | cons update rest ih =>
    obtain ⟨problems, first⟩ := reports_apply update (others update (by simp)) w
    obtain ⟨more, later⟩ := ih (fun other member => others other (by simp [member])) (update.apply w)
    exact ⟨_, first.trans later⟩

/-- A setting that is observed from now on reports what is wrong. -/
theorem reports_observe {target : Target} (other : target ≠ .errorHandling) (w : Workspace ω) :
    ∃ problems, w.Reports problems (w.observe target) := by
  -- That the setting is observed is not told.
  let observed := w.store.observe target.key (target.subscription ((w.debouncer.map (·.1)).getD 0))
  obtain ⟨problems, reports⟩ := reports_apply ⟨target, observed.1.get target.key⟩ other
    { w with store := observed.1, subscriptions := w.subscriptions ++ [observed.2] }
  exact ⟨problems, reports.after rfl rfl rfl⟩

/-- Settings that are observed from now on report what is wrong. -/
theorem reports_foldl_observe (targets : List Target)
    (others : ∀ target ∈ targets, target ≠ .errorHandling) (w : Workspace ω) :
    ∃ problems, w.Reports problems (targets.foldl observe w) := by
  -- The induction is on the targets, each of which takes effect as it is observed.
  induction targets generalizing w with
  | nil => exact ⟨[], .of_silent rfl rfl rfl⟩
  | cons target rest ih =>
    obtain ⟨problems, first⟩ := reports_observe (others target (by simp)) w
    obtain ⟨more, later⟩ := ih (fun other member => others other (by simp [member])) (w.observe target)
    exact ⟨_, first.trans later⟩

/-- A setting that takes effect tells what has changed and what is wrong. -/
theorem talks_apply (update : Update) (w : Workspace ω) : w.Talks (update.apply w) := by
  by_cases reporting : update.target = .errorHandling
  · -- How problems are shown is not told.
    obtain ⟨target, value⟩ := update
    subst reporting
    exact .of_same rfl rfl
  · obtain ⟨problems, reports⟩ := reports_apply update reporting w
    exact reports.talks

/-- Settings that take effect one after another tell what has changed and what is wrong. -/
theorem talks_foldl_apply (updates : List Update) (w : Workspace ω) :
    w.Talks (updates.foldl (fun w update => update.apply w) w) :=
  foldl_apply_keeps (w.Talks ·) (fun update before => before.trans (talks_apply update _)) updates
    (.of_same rfl rfl)

/-- Settings that are observed from now on tell what has changed and what is wrong. -/
theorem talks_foldl_observe (targets : List Target) (w : Workspace ω) :
    w.Talks (targets.foldl observe w) :=
  foldl_observe_keeps (w.Talks ·) (fun _ _ before => before.trans (.of_same rfl rfl))
    (fun update before => before.trans (talks_apply update _)) targets (.of_same rfl rfl)

/-! ## Documents and formatters -/

omit [World ω] in
/-- That another document is active is no problem. -/
theorem reports_activeChanged (w : Workspace ω) (handle : Option Handle) :
    w.Reports [] (w.activeChanged handle) :=
  reports_coordinated w _

omit [World ω] in
/-- That the formatters apply to a document or not any more is no problem. -/
theorem reports_scopeChanged (w : Workspace ω) (document : Document) :
    w.Reports [] (w.scopeChanged document) := by
  unfold scopeChanged
  dsimp only
  split
  · exact (reports_renderStatus (w.watchSaves document)).after rfl rfl rfl
  · exact .of_silent rfl rfl rfl

omit [World ω] in
/-- That a document was closed is no problem. -/
theorem reports_documentClosed (w : Workspace ω) (id : Nat) : w.Reports [] (w.documentClosed id) := by
  unfold documentClosed
  dsimp only
  split
  · exact reports_coordinated w _
  · exact .of_silent rfl rfl rfl

omit [World ω] in
/-- Profiles that are registered are not told to the editor. -/
theorem reports_register (profiles : List Profile) (w : Workspace ω) :
    w.Reports [] (profiles.foldl registerOne w) := by
  -- The induction is on the profiles; a second one of a name is only logged.
  induction profiles generalizing w with
  | nil => exact .of_silent rfl rfl rfl
  | cons profile rest ih =>
    have first : w.Reports [] (w.registerOne profile) := by
      unfold registerOne
      split
      · exact reports_log w .warn _
      · exact .of_silent rfl rfl rfl
    exact first.trans (ih _)

omit [World ω] in
/-- Taking over the active document is no problem. -/
theorem reports_takeOver (w : Workspace ω) : w.Reports [] w.takeOver := by
  unfold takeOver
  -- The active document may not be there, or it may have no mirror.
  cases w.documents.active? with
  | none => exact reports_renderStatus w
  | some handle =>
    dsimp only
    cases w.document? handle with
    | none => exact reports_activeChanged w _
    | some document => exact (reports_activeChanged (w.documentOpened document) _).after rfl rfl rfl

omit [World ω] in
/-- In the end of a start there is no problem. -/
theorem reports_greeting (w : Workspace ω) : w.Reports [] (Session.greeting w) :=
  (reports_takeOver w).trans (reports_debug _ _)

end Workspace

namespace Session

variable {ω : Type} [World ω] {s next : Session ω}

/-- What is told in a start is told after what was told before. -/
theorem talks_start (profiles : List Profile) (delay : Nat) (s : Session ω) :
    s.state.Talks (s.start profiles delay).state := by
  rw [state_start]
  -- Profiles are registered first, and then their settings are observed.
  refine (Workspace.reports_register profiles s.state).talks.trans ?_
  generalize profiles.foldl Workspace.registerOne s.state = w
  have observed := Workspace.talks_foldl_observe
    (Target.all (s.register profiles).state.formatterNames) (w.debounced s.state.numbered delay)
  exact (observed.trans (Workspace.reports_greeting _).talks).after rfl rfl

omit [World ω] in
/-- In the end the tile is removed. -/
theorem tells_stop (s : Session ω) : s.state.Tells [.status none] s.stop.state := by
  have coordinated : s.state.Tells [] { s.state with
      coordination := { s.state.coordination with saveWatch := [], activeDocument := none }
      store := { s.state.store with observers := [] } } := .of_same id rfl rfl
  have plain := Workspace.isPlain_status none
  have removed := coordinated.trans (Workspace.tells_send _ plain.progress plain.commands)
  exact removed.trans (.of_same (Outlet.saysMore_log _ _ _).lasting (Outlet.messages_log _ _ _) rfl)

/-! ## Calls -/

/-- A call hands something over, and apart from that it reports nothing and makes nothing of settings. -/
theorem answer_eq (call : Call ω) (s : Session ω) :
    ∃ w : Workspace ω, s.state.Reports [] w ∧ w.applied = s.state.applied ∧
      (s.hands (.call call) ≠ [] → w.world = s.state.world) ∧
      (s.answer call).state = (s.hands (.call call)).foldl (fun w update => update.apply w) w := by
  -- Most calls hand nothing over.
  have aside : ∀ call : Call ω, s.hands (.call call) = [] → s.state.Reports [] (s.answer call).state →
      (s.answer call).state.applied = s.state.applied →
      ∃ w : Workspace ω, s.state.Reports [] w ∧ w.applied = s.state.applied ∧
        (s.hands (.call call) ≠ [] → w.world = s.state.world) ∧
        (s.answer call).state = (s.hands (.call call)).foldl (fun w update => update.apply w) w :=
    fun call nothing reports same =>
      ⟨_, reports, same, fun something => absurd nothing something, by rw [nothing, List.foldl_nil]⟩
  cases call with
  | set key value =>
    exact ⟨{ s.state with store := (s.state.store.set key value).1 }, .of_silent rfl rfl rfl, rfl,
      fun _ => rfl, state_set key value s⟩
  | toggle key =>
    exact ⟨{ s.state with store := (s.state.store.set key _).1 }, .of_silent rfl rfl rfl, rfl,
      fun _ => rfl, state_set key _ s⟩
  | command name =>
    have logged := Workspace.reports_debug s.state ("Command: " ++ name)
    by_cases switch : name = Command.toggleOnSave
    · -- The command is logged before its switch is turned over.
      have apart : Command.toggleOnSave ≠ Command.format := by decide
      have turned := state_set Settings.onSaveEnabledKey
        (s.state.store.toggled Settings.onSaveEnabledKey) (s.modify (·.debug ("Command: " ++ name)))
      refine ⟨{ s.state.debug ("Command: " ++ name) with
        store := (s.state.store.set Settings.onSaveEnabledKey
          (s.state.store.toggled Settings.onSaveEnabledKey)).1 },
        logged.trans (.of_silent rfl rfl rfl), rfl, fun _ => rfl, ?_⟩
      subst switch
      simp only [answer, command, hands, apart, if_true, if_false]
      exact turned
    · have spawned : ∀ errand : Nat → Errand, s.state.Reports []
          (Session.spawn errand (s.modify (·.debug ("Command: " ++ name)))).1.state :=
        fun _ => logged.trans (.of_silent rfl rfl rfl)
      suffices s.state.Reports [] (s.command name).1.state ∧
          (s.command name).1.state.applied = s.state.applied from
        aside (.command name) (if_neg switch) this.1 this.2
      unfold command
      dsimp only
      rw [if_neg switch]
      -- Whatever else is asked for has not begun yet.
      split
      · exact ⟨spawned .formatActive, rfl⟩
      · split
        · exact ⟨logged, rfl⟩
        next formatter _ =>
          split
          · exact ⟨spawned (.runOnActive · formatter), rfl⟩
          · exact ⟨logged, rfl⟩
  | saved document =>
    suffices s.state.Reports [] (s.documentSaved document).1.state ∧
        (s.documentSaved document).1.state.applied = s.state.applied from
      aside (.saved document) rfl this.1 this.2
    rw [documentSaved_eq]
    split
    · exact ⟨.of_silent rfl rfl rfl, rfl⟩
    · exact ⟨.of_silent rfl rfl rfl, rfl⟩
  | chain | single | openDocument | edit | world =>
    exact aside _ rfl (.of_silent rfl rfl rfl) rfl
  -- The last three only draw the tile or change the table of documents.
  | closeDocument id =>
    exact aside _ rfl ((Workspace.reports_documentClosed _ id).after rfl rfl rfl)
      (Workspace.applied_documentClosed _ id)
  | changeScope document inScope =>
    suffices s.state.Reports [] (s.changeScope document inScope).state ∧
        (s.changeScope document inScope).state.applied = s.state.applied from
      aside (.changeScope document inScope) rfl this.1 this.2
    unfold changeScope
    dsimp only
    split
    next changed _ =>
      exact ⟨(Workspace.reports_scopeChanged _ changed).after rfl rfl rfl,
        Workspace.applied_scopeChanged _ changed⟩
    next => exact ⟨.of_silent rfl rfl rfl, rfl⟩
  | activate id =>
    suffices s.state.Reports [] (s.activateDocument id).1.state ∧
        (s.activateDocument id).1.state.applied = s.state.applied from
      aside (.activate id) rfl this.1 this.2
    unfold activateDocument
    split
    next => exact ⟨.of_silent rfl rfl rfl, rfl⟩
    next documents _ =>
      exact ⟨(Workspace.reports_activeChanged _ documents.active?).after rfl rfl rfl,
        Workspace.applied_activeChanged _ documents.active?⟩

/-- Calls tell the editor something or nothing. -/
theorem talks_answer (call : Call ω) (s : Session ω) : s.state.Talks (s.answer call).state := by
  obtain ⟨w, reports, -, -, state⟩ := answer_eq call s
  rw [state]
  exact reports.talks.trans (Workspace.talks_foldl_apply _ w)

omit [World ω] in
/-- News of documents are no problem. -/
theorem reports_noticed (notice : Notice) (s : Session ω) :
    s.state.Reports [] (s.noticed notice).state := by
  cases notice with
  | opened document => exact .of_silent rfl rfl rfl
  | activated document => exact Workspace.reports_activeChanged _ document
  | closed id => exact Workspace.reports_documentClosed _ id
  | replaced documents => exact .of_silent rfl rfl rfl

/-! ## Turns -/

/-- The problems that are reported in a turn, unless a delayed update takes effect. -/
def turnProblems (s : Session ω) : Turn (Work Update Errand) (Work Update Sleeper) → List Problem
  | .start (.other errand) => Workspace.errandProblems s.clock errand s.state
  | .wake now (.other sleeper) => Workspace.wakeProblems now sleeper s.state
  | .start (.delayed _) | .wake _ (.delayed _) | .pass => []

/-- Work whose turn it is reports its problems. -/
theorem reports_takes {turn : Turn (Work Update Errand) (Work Update Sleeper)}
    (taken : DebouncedTimeline.Takes machine s turn next)
    (other : ∀ now entry, turn ≠ .wake now (.delayed entry)) :
    s.state.Reports (s.turnProblems turn) next.state := by
  -- The state follows from the work whose turn it was.
  rw [taken.state_eq]
  rcases turn with (task | errand) | ⟨now, task | sleeper⟩ | _
  · exact .of_silent rfl rfl rfl
  · exact Workspace.reports_startErrand s.clock errand s.state
  · exact absurd rfl (other now task)
  · exact Workspace.reports_wakeSleeper now sleeper s.state
  · exact .of_silent rfl rfl rfl

/-- Turns tell the editor something or nothing. -/
theorem talks_takes {turn : Turn (Work Update Errand) (Work Update Sleeper)}
    (taken : DebouncedTimeline.Takes machine s turn next) : s.state.Talks next.state := by
  by_cases waited : ∃ now entry, turn = .wake now (.delayed entry)
  · -- A delayed update takes effect.
    obtain ⟨now, task, rfl⟩ := waited
    rw [taken.state_eq]
    exact Workspace.talks_apply task.action s.state
  · exact (reports_takes taken fun now entry same => waited ⟨now, entry, same⟩).talks

end Session

end FormatPipeline
