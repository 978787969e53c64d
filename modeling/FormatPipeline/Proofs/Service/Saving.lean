import FormatPipeline.Proofs.Service.Selection
import FormatPipeline.Proofs.Service.Work

/-! Saved documents: which of them are watched, and that just those start a chain. -/

namespace FormatPipeline

open Schedule (DebouncedTimeline Timeline Turn Work)

/-- Only the boolean true is true. -/
theorem Settings.isTrue_iff {value : Json.Value} : isTrue value = true ↔ value = .bool true := by
  cases value <;> simp [isTrue, Json.Value.bool?]

/-! ## Documents that are watched -/

/-- Watches the saves of a document from now on, or no longer. -/
def rewatch (id : Nat) (inScope : Bool) (watched : List Nat) : List Nat :=
  let others := watched.filter (· != id)
  if inScope then id :: others else others

/-- A document is watched if it is in scope, and others are watched as before. -/
theorem mem_rewatch {id other : Nat} {inScope : Bool} {watched : List Nat} :
    other ∈ rewatch id inScope watched ↔
      if other = id then inScope = true else other ∈ watched := by
  unfold rewatch
  by_cases same : other = id
  · cases inScope <;> simp [same]
  · cases inScope <;> simp [same]

namespace DocumentTable

/-- Whether the formatters apply to the open document of a number. -/
def InScope (table : DocumentTable) (id : Nat) : Prop :=
  ∃ handle document, table.handle? id = some handle ∧ table.get? handle = some document ∧
    document.inScope = true

/-- Just the open documents in scope are watched. -/
def Watched (table : DocumentTable) (watched : List Nat) : Prop :=
  ∀ id, id ∈ watched ↔ table.InScope id

/-- The number of which a message says whether it is in scope, and what it says; what is closed is not. -/
def rescopes? (table : DocumentTable) : Incoming → Option (Nat × Bool)
  | .openDocument id _ _ _ _ inScope => some (id, inScope)
  | .closeDocument id => some (id, false)
  -- What is said of a document that is not open is not heard.
  | .scopeChanged id inScope => if (table.handle? id).isSome then some (id, inScope) else none
  | .updateDocument .. | .activeDocumentChanged _ | .saved _ | .setting .. | .command _ | .shutdown =>
    none

/-- Which numbers are watched after a message. -/
def watchedAfter (table : DocumentTable) (watched : List Nat) (message : Incoming) : List Nat :=
  match table.rescopes? message with
  | some (id, inScope) => rewatch id inScope watched
  | none => watched

variable {table other : DocumentTable} {watched : List Nat}

/-- What is written in documents makes no difference to their scope. -/
theorem inScope_of_blank (blank : other.blank = table.blank) (id : Nat) :
    other.InScope id ↔ table.InScope id := by
  -- It is enough to show one direction, since the two tables stand alike.
  have one : ∀ {table other : DocumentTable}, other.blank = table.blank →
      table.InScope id → other.InScope id := by
    rintro table other blank ⟨handle, document, known, present, inScope⟩
    have handles : other.handle? id = table.handle? id := congrArg (·.handle? id) blank
    obtain ⟨written, there, differs⟩ := get?_of_blank blank present
    obtain ⟨-, -, -, same⟩ := Document.blank_eq_iff.mp differs
    exact ⟨handle, written, handles.trans known, there, same.trans inScope⟩
  exact ⟨one blank.symm, one blank⟩

/-- A message about no scope leaves all documents in scope that were. -/
theorem inScope_after_of_none {message : Incoming} (silent : table.rescopes? message = none) (id : Nat) :
    (table.after message).InScope id ↔ table.InScope id := by
  -- Only messages about a scope or a closing document could change it, and those are not silent.
  cases message with
  | openDocument | closeDocument => cases silent
  | scopeChanged number inScope =>
    have unknown : table.handle? number = none := by simpa [rescopes?] using silent
    rw [after, unknown]
  | activeDocumentChanged number =>
    rw [after]
    cases activated : table.activate? number with
    | none => rfl
    | some later =>
      obtain rfl := activate?_eq_some activated
      rfl
  | updateDocument | saved | setting | command | shutdown => rfl

/-- A document is in scope as a message about it says, and others are in scope as before. -/
theorem inScope_after_of_some (sound : table.Sound) {message : Incoming} {number : Nat} {inScope : Bool}
    (told : table.rescopes? message = some (number, inScope)) (id : Nat) :
    (table.after message).InScope id ↔ if id = number then inScope = true else table.InScope id := by
  cases message with
  | openDocument number path displayPath text cursor inScope =>
    cases told
    simp only [after, InScope, handle?_insert, get?_insert, Document.opened]
    by_cases same : id = number
    · simp [same]
    · simp only [same, if_false]
      -- A document that is there already has another handle than the new one.
      refine exists_congr fun handle => exists_congr fun document => and_congr_right fun known => ?_
      obtain ⟨own, present, -⟩ := sound id handle known
      rw [if_neg (ne_length_of_get? present)]
  | closeDocument number =>
    cases told
    simp only [after, InScope, handle?_close]
    -- Closing takes away the only handle of the number.
    by_cases same : id = number
    · simp [same]
    · simp only [same, if_false]
      rfl
  | scopeChanged number inScope =>
    simp only [rescopes?, Option.ite_none_right_eq_some, Option.some.injEq, Prod.mk.injEq] at told
    obtain ⟨opened, rfl, rfl⟩ := told
    obtain ⟨place, known⟩ := Option.isSome_iff_exists.mp opened
    obtain ⟨own, present, named⟩ := sound number place known
    -- The document of the number is changed where it is, and no handle moves.
    rw [after, known]
    have handles : ∀ id, (table.modify place fun document =>
      { document with inScope := inScope }).handle? id = table.handle? id := fun _ => rfl
    simp only [InScope, handles, get?_modify]
    by_cases same : id = number
    · simp [same, known, present]
    · simp only [same, if_false]
      refine exists_congr fun handle => exists_congr fun document => and_congr_right fun found => ?_
      -- Documents of two numbers have two handles.
      obtain ⟨another, there, differs⟩ := sound id handle found
      have apart : handle ≠ place := by
        rintro rfl
        cases present.symm.trans there
        exact same (differs.symm.trans named)
      simp [apart]
  | updateDocument | activeDocumentChanged | saved | setting | command | shutdown => cases told

/-- Every message keeps just the open documents in scope watched. -/
theorem Watched.after (current : table.Watched watched) (sound : table.Sound) (message : Incoming) :
    (table.after message).Watched (table.watchedAfter watched message) := by
  intro id
  -- The watch list is rewritten just when the message says something of a scope.
  unfold watchedAfter
  cases told : table.rescopes? message with
  | none => exact (current id).trans (inScope_after_of_none told id).symm
  | some said =>
    refine mem_rewatch.trans (Iff.trans ?_ (inScope_after_of_some sound told id).symm)
    rw [current id]

end DocumentTable

/-! ## What is watched in a session -/

namespace Workspace

variable {ω : Type}

/-- What is only said changes nothing of what is watched. -/
theorem OnlySays.saveWatch {w later : Workspace ω} (speech : w.OnlySays later) :
    later.coordination.saveWatch = w.coordination.saveWatch := by
  obtain ⟨outlet, -, rfl⟩ := speech
  rfl

/-- A setting that takes effect changes nothing of what is watched. -/
theorem saveWatch_apply [World ω] (update : Update) (w : Workspace ω) :
    (update.apply w).coordination.saveWatch = w.coordination.saveWatch := by
  obtain ⟨target, value⟩ := update
  -- Switches and orders stand beside the saves that are watched.
  cases target with
  | statusBar => exact (onlySays_setStatusBar w _).saveWatch
  | onSaveEnabled => exact (onlySays_renderStatus _).saveWatch
  | order kind =>
    obtain ⟨order, speech⟩ := onlySays_setOrder w kind (Settings.stringList value)
    refine speech.saveWatch.trans ?_
    cases kind <;> rfl
  | errorHandling | busySignal | slot =>
    exact congrArg Coordination.saveWatch (unseen_apply _ w (by simp)).coordination

end Workspace

namespace Session

variable {ω : Type} [World ω]

/-- Setting a setting changes nothing of what is watched. -/
theorem saveWatch_set (key : String) (value : Json.Value) (s : Session ω) :
    (s.set key value).state.coordination.saveWatch = s.state.coordination.saveWatch := by
  rw [state_set]
  exact Workspace.foldl_apply_keeps (·.coordination.saveWatch = s.state.coordination.saveWatch)
    (fun update before => (Workspace.saveWatch_apply update _).trans before) _ rfl

/-- A command changes nothing of what is watched when it is given. -/
theorem saveWatch_command (name : String) (s : Session ω) :
    (s.command name).1.state.coordination.saveWatch = s.state.coordination.saveWatch := by
  unfold command
  -- A command toggles the setting, asks for work, or is refused, and none of these is a watch.
  dsimp only
  split
  · rfl
  · split
    · exact saveWatch_set Settings.onSaveEnabledKey _ (s.modify (·.debug ("Command: " ++ name)))
    · split
      · rfl
      · split <;> rfl

/-- A turn changes nothing of what is watched. -/
theorem saveWatch_takes {s next : Session ω} {turn : Turn (Work Update Errand) (Work Update Sleeper)}
    (taken : DebouncedTimeline.Takes machine s turn next) :
    next.state.coordination.saveWatch = s.state.coordination.saveWatch := by
  -- Neither work nor updates touch the watch list.
  rcases DebouncedTimeline.takes_cases taken with
    ⟨errand, rest, -, -, -, -, state⟩ | ⟨now, sleeper, rest, -, -, -, -, state⟩ |
    ⟨-, -, -, -, same | ⟨update, same⟩⟩
  · rw [state]
    exact congrArg Coordination.saveWatch
      (Workspace.unseen_startErrand s.clock errand s.state).coordination
  · rw [state]
    exact congrArg Coordination.saveWatch (Workspace.unseen_wakeSleeper now sleeper s.state).coordination
  · rw [same]
  · rw [same]
    exact Workspace.saveWatch_apply update s.state

/-- A start changes nothing of what is watched if no document is active before it. -/
theorem saveWatch_start (profiles : List Profile) (delay : Nat) {s : Session ω}
    (inactive : s.state.documents.active? = none) :
    (s.start profiles delay).state.coordination.saveWatch = s.state.coordination.saveWatch := by
  have registered := Workspace.unseen_register profiles s.state
  rw [state_start]
  generalize Target.all (s.register profiles).state.formatterNames = targets
  generalize profiles.foldl Workspace.registerOne s.state = w at registered ⊢
  -- There is still no active document, so that none is announced.
  have steady := Workspace.steady_foldl_observe targets (w.debounced s.state.numbered delay)
  have still := congrArg DocumentTable.active? (steady.documents.trans registered.documents)
  have watched : (targets.foldl Workspace.observe
      (w.debounced s.state.numbered delay)).coordination.saveWatch = w.coordination.saveWatch :=
    Workspace.foldl_observe_keeps (·.coordination.saveWatch = w.coordination.saveWatch)
      (fun _ _ => id) (fun update before => (Workspace.saveWatch_apply update _).trans before) targets rfl
  generalize targets.foldl Workspace.observe (w.debounced s.state.numbered delay) = started at still watched ⊢
  rw [greeting, show started.documents.active? = none from still.trans inactive]
  exact (Workspace.onlySays_renderStatus started).saveWatch.trans
    (watched.trans (congrArg Coordination.saveWatch registered.coordination))

end Session

namespace Service

variable {ω : Type} [World ω] {service next : Service ω}

/-- A message watches documents as it says, and no others. -/
theorem saveWatch_handle (sound : service.session.state.documents.Sound) (message : Incoming) :
    (service.handle message).1.session.state.coordination.saveWatch =
      service.session.state.documents.watchedAfter
        service.session.state.coordination.saveWatch message := by
  cases message with
  | openDocument => rfl
  | closeDocument id =>
    simp only [handle, modify, Session.closeDocument, DebouncedTimeline.modify, Timeline.modify,
      Workspace.documentClosed]
    -- Whether the tile is drawn again makes no difference.
    split
    · exact (Workspace.onlySays_renderStatus _).saveWatch
    · rfl
  | scopeChanged id inScope =>
    rcases service.lookUp_cases id with ⟨mirror, known, found⟩ | ⟨unknown, warning, found⟩
    · have known : service.session.state.documents.handle? id = some mirror := known
      obtain ⟨document, present, rfl⟩ := sound id mirror known
      have present : service.session.state.document? mirror = some document := present
      simp only [handle, found, modify, Session.state_changeScope, Workspace.changeScope_eq present,
        -- The tile is drawn again behind the change, if the document is the active one.
        DocumentTable.watchedAfter, DocumentTable.rescopes?, known, Option.isSome_some, if_true]
      split
      · exact (Workspace.onlySays_renderStatus _).saveWatch
      · rfl
    · have unknown : service.session.state.documents.handle? id = none := unknown
      simp only [handle, found, DocumentTable.watchedAfter, DocumentTable.rescopes?, unknown]
      rfl
  | activeDocumentChanged id =>
    simp only [handle, Session.activateDocument]
    cases service.session.state.documents.activate? id with
    | none => rfl
    | some documents => exact (Workspace.onlySays_renderStatus _).saveWatch
  | updateDocument id text cursor =>
    rcases service.lookUp_cases id with ⟨mirror, -, found⟩ | ⟨-, warning, found⟩
    all_goals
      simp only [handle, found]
      rfl
  | saved id =>
    rcases service.lookUp_cases id with ⟨mirror, -, found⟩ | ⟨-, warning, found⟩
    -- Saving may report a problem or ask for work, and neither changes who is watched.
    · have asked := Session.documentSaved_eq mirror service.session
      simp only [handle, found]
      generalize service.session.documentSaved mirror = outcome at asked ⊢
      obtain ⟨s, number⟩ := outcome
      have same : s.state.coordination = service.session.state.coordination := by
        rw [show s = _ from asked]
        split <;> rfl
      cases number <;> exact congrArg Coordination.saveWatch same
    · simp only [handle, found]
      rfl
  | setting key value =>
    simp only [handle, setSetting, modify]
    split
    · exact Session.saveWatch_set key value service.session
    · exact Session.saveWatch_set key value (service.session.modify (·.debug ("Unknown setting: " ++ key)))
  | command name =>
    have given := Session.saveWatch_command name service.session
    simp only [handle, runCommand]
    -- Whatever becomes of the command, it only sets settings and spawns work.
    generalize service.session.command name = outcome at given ⊢
    obtain ⟨s, number | done | unknown⟩ := outcome <;> exact given
  | shutdown => rfl

/-- Just the open documents in scope are watched in a service. -/
def IsWatched (service : Service ω) : Prop :=
  service.session.state.documents.Watched service.session.state.coordination.saveWatch

/-- Moves keep just the open documents in scope watched. -/
theorem isWatched_moves (current : service.IsWatched) (sound : service.session.state.documents.Sound)
    {move : Move} (moved : Moves service move next) : next.IsWatched := by
  -- Texts are of no importance, so that only what messages say has to be compared.
  have blank := blank_documents_moves moved
  intro id
  refine Iff.trans ?_ (DocumentTable.inScope_of_blank blank id).symm
  cases moved with
  | message message =>
    rw [session_answer, saveWatch_handle sound message]
    exact current.after sound message id
  | skip text => exact current id
  | turn taken =>
    rw [Session.saveWatch_takes taken]
    exact current id

variable {profiles : List Profile} {delay : Nat} {first : Session ω}

/-- Just the open documents in scope are watched at any time of a run. -/
theorem isWatched_run {history : List Incoming} (unopened : first.state.documents = .empty)
    (unset : first.state.coordination = .initial)
    (ran : Run Moves receipts [] ⟨first.start profiles delay, []⟩ history service) :
    service.IsWatched := by
  have inactive : first.state.coordination.activeDocument = none := by rw [unset]; rfl
  -- The induction is on the run, with the watch list right at each of its moments.
  induction ran with
  | start =>
    have still : first.state.documents.active? = none := by rw [unopened]; rfl
    have nobody : (first.start profiles delay).state.coordination.saveWatch = [] :=
      (Session.saveWatch_start profiles delay still).trans (by rw [unset]; rfl)
    have nothing := (Session.steady_start profiles delay still).documents
    rw [unopened] at nothing
    intro id
    refine Iff.trans ?_ (DocumentTable.inScope_of_blank nothing id).symm
    rw [nobody]
    simp [DocumentTable.InScope, DocumentTable.empty, DocumentTable.handle?]
  | move before moved ih =>
    exact isWatched_moves ih (isInStep_run unopened inactive before).sound moved

/-! ## The switch -/

/-- Everything stays up to date while messages are handled and work is done. -/
theorem isUpToDate_moves {targets : List Target} {number : Nat} {handed : List Update}
    (current : service.session.IsUpToDate targets number delay handed) (different : targets.Nodup)
    {move : Move} (moved : Moves service move next) :
    ∃ later, next.session.IsUpToDate targets number delay later := by
  have logged : ∀ {s : Session ω} (importance : LogLevel) (text : String),
      (∃ handed, s.IsUpToDate targets number delay handed) →
      ∃ handed, Session.IsUpToDate targets number delay handed
        (s.modify fun w => { w with outlet := w.outlet.log importance text }) := by
    rintro s importance text ⟨handed, current⟩
    exact ⟨handed, current.quiet ⟨rfl, rfl⟩⟩
  cases moved with
  | message message =>
    rw [session_answer]
    -- A message is made of calls and of texts for the log.
    refine (service.serves_handle message).keeps
      (fun s => ∃ handed, s.IsUpToDate targets number delay handed) logged ?_ ⟨handed, current⟩
    rintro s call - ⟨handed, current⟩
    exact ⟨_, Session.isUpToDate_moves current different (.call call)⟩
  | skip text => exact logged .warn _ ⟨handed, current⟩
  | turn taken => exact ⟨_, Session.isUpToDate_moves current different (.turn taken)⟩

/-- Formatting on save is enabled at any time of a run if the setting is true. -/
theorem onSaveEnabled_run {history : List Incoming} (fresh : first.state.formatters = [])
    (quiet : ∀ observer ∈ first.state.store.observers,
      observer.reaction.isQuiet (first.prepared profiles delay).debouncerNumber)
    (ran : Run Moves receipts [] ⟨first.start profiles delay, []⟩ history service) :
    service.session.state.coordination.onSaveEnabled =
      Settings.isTrue (service.session.state.store.get Settings.onSaveEnabledKey) := by
  -- The switch is one of the targets of the settings, and each target is up to date.
  have different : (first.register profiles).state.formatterNames.Nodup :=
    Workspace.nodup_register profiles (by simp [Workspace.formatterNames, fresh])
  have current : ∃ handed, service.session.IsUpToDate
      (Target.all (first.register profiles).state.formatterNames)
      (first.prepared profiles delay).debouncerNumber delay handed := by
    -- The invariant is carried along with the values that were handed over.
    induction ran with
    | start => exact ⟨_, Session.isUpToDate_start profiles delay fresh quiet⟩
    | move before moved ih =>
      obtain ⟨handed, current⟩ := ih
      exact isUpToDate_moves current (Target.nodup_all different) moved
  obtain ⟨handed, current⟩ := current
  exact (current.fine .onSaveEnabled (List.mem_append_left _ (by decide))).shows

/-! ## Saves -/

omit [World ω] in
/-- An open document that was saved is formatted if its number is watched and formatting is enabled. -/
theorem asks?_saved (sound : service.session.state.documents.Sound) {id : Nat} {handle : Handle}
    (known : service.session.state.documents.handle? id = some handle) :
    service.asks? (.saved id) =
      if service.session.state.formatsOnSave id then some (.formatSaved · handle) else none := by
  -- The document of the handle has the number.
  obtain ⟨document, present, rfl⟩ := sound id handle known
  have present : service.session.state.document? handle = some document := present
  simp only [asks?, known, Option.bind_some, present, Option.any_some]

/-- Whether the editor has a document open that is in scope, while formatting on save is enabled. -/
def FormatsOnSave (history : List Incoming) (service : Service ω) (id : Nat) : Prop :=
  -- All three have to hold at the moment of the message.
  (service.session.state.documents.handle? id).isSome ∧
    latest (·.inScope? id) history = some true ∧
    service.session.state.store.get Settings.onSaveEnabledKey = .bool true

/-- A document that is saved is formatted just as the editor has it. -/
theorem savedDocument_run {history : List Incoming} (unused : first.Unused)
    (unopened : first.state.documents = .empty) (unset : first.state.coordination = .initial)
    (fresh : first.state.formatters = [])
    (quiet : ∀ observer ∈ first.state.store.observers,
      observer.reaction.isQuiet (first.prepared profiles delay).debouncerNumber)
    (ran : Run Moves receipts [] ⟨first.start profiles delay, []⟩ history service) :
    (∀ id, id ∈ service.session.state.coordination.saveWatch ↔
      (service.session.state.documents.handle? id).isSome ∧
        latest (·.inScope? id) history = some true) ∧
    ∀ id, (¬ service.FormatsOnSave history id →
        DebouncedTimeline.jobs (service.answer (.saved id)).session =
          DebouncedTimeline.jobs service.session) ∧
      (service.FormatsOnSave history id → ∃ handle,
        service.session.state.documents.handle? id = some handle ∧
        DebouncedTimeline.jobs (service.answer (.saved id)).session =
          DebouncedTimeline.jobs service.session ++
            [.formatSaved service.session.state.numbered handle] ∧
        ∀ since later begun after, Run Moves receipts [] (service.answer (.saved id)) since later →
          DebouncedTimeline.Takes Session.machine later.session (.start (.other begun)) after →
          begun.number = service.session.state.numbered →
          begun = .formatSaved service.session.state.numbered handle ∧
            let w := later.session.state
            after.state =
              if w.coordination.saveOrder.isEmpty then
                (w.report (.configuration (.orderNotDefined .save))).finish begun.number (.chain [])
              else (Workspace.startChain later.session.clock begun.number handle
                w.coordination.saveOrder .file w).1) := by
  have inactive : first.state.coordination.activeDocument = none := by rw [unset]; rfl
  have inStep := isInStep_run unopened inactive ran
  have enabled := onSaveEnabled_run fresh quiet ran
  have watched : ∀ id, id ∈ service.session.state.coordination.saveWatch ↔
      (service.session.state.documents.handle? id).isSome ∧
        latest (·.inScope? id) history = some true := by
    intro id
    -- Being watched means being in scope in the table, where the last word of the editor stands.
    refine (isWatched_run unopened unset ran id).trans ⟨?_, ?_⟩
    · rintro ⟨handle, document, known, present, inScope⟩
      have said := (inStep.given id handle document known present).1
      exact ⟨by simp [known], said.trans (congrArg some inScope)⟩
    · rintro ⟨opened, said⟩
      obtain ⟨handle, known⟩ := Option.isSome_iff_exists.mp opened
      obtain ⟨document, present, -⟩ := inStep.sound id handle known
      have same := (inStep.given id handle document known present).1
      exact ⟨handle, document, known, present, Option.some.inj (same.symm.trans said)⟩
  refine ⟨watched, fun id => ?_⟩
  have formats : service.session.state.formatsOnSave id ↔
      service.session.state.store.get Settings.onSaveEnabledKey = .bool true ∧
        (service.session.state.documents.handle? id).isSome ∧
          latest (·.inScope? id) history = some true := by
    rw [Workspace.formatsOnSave, Bool.and_eq_true, enabled, Settings.isTrue_iff, List.contains_iff_mem,
      watched id]
  refine ⟨fun not => ?_, fun ⟨opened, said, on⟩ => ?_⟩
  -- Saving spawns nothing unless all three conditions hold.
  · have nothing : service.asks? (.saved id) = none := by
      cases known : service.session.state.documents.handle? id with
      | none => simp [asks?, known]
      | some handle =>
        refine (asks?_saved inStep.sound known).trans (if_neg fun watches => not ?_)
        obtain ⟨on, opened, said⟩ := formats.mp watches
        exact ⟨opened, said, on⟩
    rw [jobs_answer, nothing]
    exact List.append_nil _
  · obtain ⟨handle, known⟩ := Option.isSome_iff_exists.mp opened
    have errand : service.asks? (.saved id) = some (.formatSaved · handle) :=
      (asks?_saved inStep.sound known).trans (if_pos (formats.mpr ⟨on, opened, said⟩))
    refine ⟨handle, known, by rw [jobs_answer, errand]; rfl, ?_⟩
    intro since later begun after ran' taken same
    -- The turn belongs to this errand, since the number is given only once.
    obtain rfl := eq_of_asks? unused ran errand ran' taken same
    refine ⟨rfl, ?_⟩
    dsimp only
    -- The order counts that is set when the turn comes; one without formatters is a problem.
    split
    next empty =>
      have reported : Workspace.startErrand later.session.clock
        (.formatSaved service.session.state.numbered handle) later.session.state = (_, none) :=
        if_pos empty
      exact taken.state_eq.trans (congrArg Prod.fst reported)
    next order => exact Session.state_of_chainOf? taken (if_neg order)

/-- A service with an open document, while formatting on save is enabled. -/
def sampleSaving : Service Scripted.Tables :=
  (sampleFirst.answer (.setting Settings.onSaveEnabledKey (.bool true))).answer (sampleOpening "old")

/-- The document of the sample is watched, and it is formatted when it is saved. -/
theorem savedDocument_sample :
    1 ∈ sampleSaving.session.state.coordination.saveWatch ∧
      ∃ handle, sampleSaving.session.state.documents.handle? 1 = some handle ∧
        DebouncedTimeline.jobs (sampleSaving.answer (.saved 1)).session =
          DebouncedTimeline.jobs sampleSaving.session ++
            [.formatSaved sampleSaving.session.state.numbered handle] := by
  -- The switch is turned on, and then the document is opened.
  have enabled : Run Moves receipts [] sampleFirst _ _ :=
    Run.start.move (.message (.setting Settings.onSaveEnabledKey (.bool true)))
  have ran : Run Moves receipts [] sampleFirst
      [.setting Settings.onSaveEnabledKey (.bool true), sampleOpening "old"] sampleSaving :=
    enabled.move (.message (sampleOpening "old"))
  have on : Settings.isTrue (sampleSaving.session.state.store.get Settings.onSaveEnabledKey) := by
    decide +kernel
  -- The general statement needs the document open, its scope said, and the switch on.
  obtain ⟨watched, saves⟩ := savedDocument_run ⟨rfl, rfl, rfl, rfl⟩ rfl rfl rfl (by decide +kernel) ran
  have opened : (sampleSaving.session.state.documents.handle? 1).isSome := by decide +kernel
  have said : latest (·.inScope? 1)
      [.setting Settings.onSaveEnabledKey (.bool true), sampleOpening "old"] = some true := by
    decide +kernel
  obtain ⟨handle, known, asked, -⟩ := (saves 1).2 ⟨opened, said, Settings.isTrue_iff.mp on⟩
  exact ⟨(watched 1).mpr ⟨opened, said⟩, handle, known, asked⟩

end Service

end FormatPipeline
