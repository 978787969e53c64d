import FormatPipeline.Proofs.Formatter.Answers
import FormatPipeline.Proofs.Workspace.Ended
import FormatPipeline.Proofs.Workspace.Frame
import FormatPipeline.Workspace.Chain

/-! What formatters that run do one after another, and that they change nothing else. -/

namespace FormatPipeline

open Settings (ErrorHandling Store)

/-- Something that a piece of work does; its formatters are counted from zero. -/
inductive Deed where
  /-- The process of a formatter is started. -/
  | spawned (position : Nat) (line : String) (stdin : Option String)
  /-- The outcome of a formatter is known. -/
  | settled (position : Nat)
  /-- A text is put into a document. -/
  | wrote (document : Handle) (id : Nat) (text : String)
  deriving DecidableEq, Repr

namespace Deed

/-- The command line and the input of a process that is started. -/
def spawn? : Deed → Option (String × Option String)
  | spawned _ line stdin => some (line, stdin)
  | _ => none

/-- The document's number and the text that is put into it. -/
def text? : Deed → Option (Nat × String)
  | wrote _ id text => some (id, text)
  | _ => none

/-- The numbers and texts of all documents after a deed. -/
def write (contents : List (Nat × String)) : Deed → List (Nat × String)
  | wrote handle _ text => contents.modify handle fun entry => (entry.1, text)
  | _ => contents

end Deed

/-- What a process in a mode reads of a document. -/
def Document.input? (document : Document) : Mode → Option String
  | .buffer => some document.text
  | .file => none

/-- The numbers and texts of all documents that were ever opened. -/
def DocumentTable.contents (table : DocumentTable) : List (Nat × String) :=
  table.documents.map fun document => (document.id, document.text)

namespace Workspace

variable {ω : Type}

/-! ## Deeds -/

/-- The deed of putting a text into a document, if there is one. -/
def textDeeds (w : Workspace ω) (handle : Handle) (text : String) : List Deed :=
  (w.document? handle).toList.map fun document => .wrote handle document.id text

/-- What is done when a process ends. -/
def flightDeeds (w : Workspace ω) (flight : InFlight) : List Deed :=
  match flight.result, flight.mode with
  | .ok output, .buffer => w.textDeeds flight.document output.stdout
  | _, _ => []

variable [World ω]

/-- What is done when a formatter starts, up to where it has to be waited for. -/
def formatDeeds (w : Workspace ω) (position : Nat) (formatter : Formatter) (handle : Handle)
    (document : Document) (mode : Mode) : List Deed :=
  match w.resolve formatter document.path mode with
  | (_, none) => []
  | (w, some invocation) =>
    let (w, delay, flight) :=
      w.startProcess handle document invocation.binary invocation.arguments mode
    .spawned position flight.commandLine (document.input? mode) ::
      -- A process that takes no time has ended before anything else is done.
      if delay = 0 then w.flightDeeds flight else []

/-- What is done while formatters run in order until one has to be waited for. -/
def chainDeeds (now : Nat) (run : ChainRun) : List String → Workspace ω → List Deed
  | [], _ => []
  | name :: rest, w =>
    -- The handle leads to the document even when it has been closed.
    match w.formatter? name, w.document? run.document with
    | some formatter, some document =>
      let w := w.beginBusy now (run.stepLabel name)
      w.formatDeeds run.steps.length formatter run.document document run.mode ++
        match w.beginFormat formatter run.document document run.mode with
        | (_, .running ..) => []
        | (w, .done outcome) =>
          .settled run.steps.length :: chainDeeds now (run.record name (some outcome)) rest
            (w.endBusyLogged now (run.stepLabel name))
    | _, _ =>
      .settled run.steps.length :: chainDeeds now (run.record name none) rest
        (w.report (.unknownFormatter name))

/-! ## What stays -/

/-- What settings have made of a workspace. -/
structure Settled where
  store : Store Subscription
  /-- The numbers of one's own observers. -/
  subscriptions : List Nat
  debouncer : Option (Nat × Nat)
  handling : ErrorHandling
  busyEnabled : Bool
  statusBar : Bool
  onSaveEnabled : Bool
  /-- The arguments of the user, for binaries in repositories and others, by formatters' names. -/
  ownArguments : String → Option (List String × List String)

omit [World ω] in
/-- What settings have made of a workspace. -/
def settled (w : Workspace ω) : Settled where
  store := w.store
  subscriptions := w.subscriptions
  debouncer := w.debouncer
  handling := w.handling
  busyEnabled := w.busy.enabled
  statusBar := w.coordination.statusBar
  onSaveEnabled := w.coordination.onSaveEnabled
  ownArguments name :=
    (w.formatter? name).map fun formatter => (formatter.localArguments, formatter.globalArguments)

/-- Deeds are all that distinguishes a workspace from an earlier one, apart from the busy signal. -/
structure Effect (w : Workspace ω) (deeds : List Deed) (later : Workspace ω) : Prop where
  settled : later.settled = w.settled
  numbered : later.numbered = w.numbered
  handles : later.documents.handles = w.documents.handles
  contents : later.documents.contents = deeds.foldl Deed.write w.documents.contents
  named : ∀ handle id text, .wrote handle id text ∈ deeds →
    (w.documents.contents[handle]?).map (·.1) = some id
  spawns : later.outlet.spawns = w.outlet.spawns ++ deeds.filterMap Deed.spawn?
  lasting : w.outlet.writesLeft = none → later.outlet.writesLeft = none
  texts : w.outlet.writesLeft = none →
    later.outlet.texts = w.outlet.texts ++ deeds.filterMap Deed.text?

namespace Effect

omit [World ω] in
/-- Writing into documents changes no number of a document. -/
theorem map_fst_foldl_write (deeds : List Deed) (contents : List (Nat × String)) :
    (deeds.foldl Deed.write contents).map (·.1) = contents.map (·.1) := by
  induction deeds generalizing contents with
  | nil => rfl
  | cons deed rest ih =>
    rw [List.foldl_cons, ih]
    cases deed with
    | wrote handle id text =>
      -- Only the text in one place changes, and the number there stays.
      refine List.ext_getElem? fun place => ?_
      simp only [Deed.write, List.getElem?_map, List.getElem?_modify]
      by_cases here : handle = place <;> simp [here, Function.comp_def]
    | spawned => rfl
    | settled => rfl

omit [World ω] in
/-- Doing nothing has no effect. -/
theorem refl (w : Workspace ω) : w.Effect [] w where
  settled := rfl
  numbered := rfl
  handles := rfl
  contents := rfl
  named := by simp
  spawns := by simp
  lasting := id
  texts := by simp

omit [World ω] in
/-- The effects of one thing after another add up. -/
theorem trans {w mid later : Workspace ω} {first second : List Deed} (before : w.Effect first mid)
    (after : mid.Effect second later) : w.Effect (first ++ second) later where
  settled := after.settled.trans before.settled
  numbered := after.numbered.trans before.numbered
  handles := after.handles.trans before.handles
  contents := by rw [after.contents, before.contents, List.foldl_append]
  named := by
    intro handle id text member
    rcases List.mem_append.mp member with early | late
    · exact before.named handle id text early
    · -- The numbers of the documents were the same before.
      have same := after.named handle id text late
      rw [before.contents, ← List.getElem?_map, map_fst_foldl_write] at same
      simpa using same
  spawns := by rw [after.spawns, before.spawns, List.filterMap_append, List.append_assoc]
  lasting := fun lasting => after.lasting (before.lasting lasting)
  texts := by
    intro lasting
    rw [after.texts (before.lasting lasting), before.texts lasting, List.filterMap_append,
      List.append_assoc]

omit [World ω] in
/-- Saying something does nothing. -/
theorem of_onlySays {w later : Workspace ω} (speech : w.OnlySays later) : w.Effect [] later := by
  obtain ⟨outlet, more, rfl⟩ := speech
  exact ⟨rfl, rfl, rfl, rfl, by simp, by simpa using more.spawns, more.lasting, by
    intro _
    simpa using more.texts⟩

end Effect

omit [World ω] in
/-- The formatter of a name has that name. -/
theorem name_of_formatter? {w : Workspace ω} {name : String} {formatter : Formatter}
    (present : w.formatter? name = some formatter) : formatter.name = name := by
  simpa using List.find?_some present

omit [World ω] in
/-- Replacing a formatter replaces its arguments of the user, and nothing else that was set. -/
theorem settled_of_replaces {w later : Workspace ω} {old new : Formatter}
    (replaces : w.Replaces new later) (present : w.formatter? new.name = some old) :
    later.settled = { w.settled with
      ownArguments := fun name =>
        if new.name = name then some (new.localArguments, new.globalArguments)
        else w.settled.ownArguments name } := by
  -- The formatter is found with its new arguments, and others are found as before.
  have own : later.settled.ownArguments = fun name =>
      if new.name = name then some (new.localArguments, new.globalArguments)
      else w.settled.ownArguments name := by
    funext name
    by_cases here : new.name = name
    · subst here
      simp [settled, (replaces.formatter? present rfl).1]
    · simp [settled, here, replaces.formatter?_of_ne here]
  -- All other settings are read from parts that stay as they are.
  obtain ⟨probes, outlet, -, rfl⟩ := replaces
  exact congrArg (fun own => { w.settled with ownArguments := own }) own

omit [World ω] in
/-- Replacing a formatter by one with the same arguments of the user does nothing. -/
theorem Effect.of_replaces {w later : Workspace ω} {old new : Formatter}
    (replaces : w.Replaces new later) (present : w.formatter? new.name = some old)
    (alike : old.SetAlike new) : w.Effect [] later := by
  -- The same arguments as before are found under the name.
  have same : later.settled = w.settled := by
    rw [settled_of_replaces replaces present]
    refine congrArg (fun own => { w.settled with ownArguments := own }) (funext fun name => ?_)
    by_cases here : new.name = name
    · subst here
      simp [present, alike.localArguments, alike.globalArguments]
    · simp [here, Workspace.settled]
  obtain ⟨probes, outlet, said, rfl⟩ := replaces
  have more : w.outlet.SaysMore outlet := said
  exact ⟨same, rfl, rfl, rfl, by simp, by simpa using more.spawns, more.lasting, by
    intro _
    simpa using more.texts⟩

/-- Resolving does nothing. -/
theorem effect_resolve {w : Workspace ω} {name : String} {formatter : Formatter}
    (present : w.formatter? name = some formatter) (file : Path) (mode : Mode) :
    w.Effect [] (w.resolve formatter file mode).1 := by
  have alike := Formatter.setAlike_resolve (World.files w.world) formatter file mode
  -- Its profile gives a formatter its name, and memories have no part in it.
  have same : (formatter.resolve (World.files w.world) file mode).value.2.name = name := by
    rw [Formatter.name, ← alike.profile]
    exact name_of_formatter? present
  exact .of_replaces (replaces_resolve w formatter file mode) (same ▸ present) alike

/-- Starting a process does only that. -/
theorem effect_startProcess (w : Workspace ω) (position : Nat) (handle : Handle)
    (document : Document) (binary : Path) (arguments : List String) (mode : Mode) :
    let started := w.startProcess handle document binary arguments mode
    w.Effect [.spawned position started.2.2.commandLine (document.input? mode)] started.1 := by
  -- The command line is logged before the process starts.
  have speech := Effect.of_onlySays (onlySays_debug w ("Running: " ++ Shell.commandLine binary arguments))
  refine speech.trans ⟨rfl, rfl, rfl, rfl, by simp, ?_, id, fun _ => ?_⟩
  · -- The process reads the document in one mode only.
    cases mode <;> simp [startProcess, Outlet.spawns, Outlet.record, Event.spawn?, Deed.spawn?,
      Document.input?]
  · -- A process that was started has put no text anywhere yet.
    rw [show List.filterMap Deed.text? [Deed.spawned _ _ _] = [] from rfl, List.append_nil]
    simp only [startProcess, Outlet.texts, Outlet.record]
    rfl

omit [World ω] in
/-- Changing a document as its table does changes its entry among the contents. -/
theorem contents_modify (table : DocumentTable) (handle : Handle) (change : Document → Document)
    (text : String → String)
    (changed : ∀ document, ((change document).id, (change document).text) =
      (document.id, text document.text)) :
    (table.modify handle change).contents =
      table.contents.modify handle fun entry => (entry.1, text entry.2) := by
  refine List.ext_getElem? fun place => ?_
  simp only [DocumentTable.contents, DocumentTable.modify, List.getElem?_map, List.getElem?_modify]
  -- Only the document in the place of the handle changes.
  by_cases here : handle = place
  · simp [here, Function.comp_def, changed]
  · simp [here]

omit [World ω] in
/-- Putting a text into a document does only that. -/
theorem effect_setText (w : Workspace ω) (handle : Handle) (text : String) :
    w.Effect (w.textDeeds handle text) (w.setText handle text) := by
  unfold textDeeds setText
  cases present : w.document? handle with
  | none => exact .refl w
  | some document =>
    -- An open document has its entry among the contents.
    have listed : w.documents.contents[handle]? = some (document.id, document.text) := by
      have found : w.documents.documents[handle]? = some document := present
      simp [DocumentTable.contents, found]
    refine ⟨rfl, rfl, rfl, ?_, ?_, ?_, ?_, ?_⟩
    · exact contents_modify w.documents handle _ (fun _ => text) fun _ => rfl
    · -- The text goes under the number that the document has.
      intro other id written member
      simp only [Option.toList_some, List.map_cons, List.map_nil, List.mem_singleton,
        Deed.wrote.injEq] at member
      obtain ⟨rfl, rfl, rfl⟩ := member
      simp [listed]
    · simpa [List.filterMap_cons, Deed.spawn?, send] using Outlet.spawns_send w.outlet _
    · exact fun lasting => (Outlet.texts_send w.outlet lasting _ _).2
    · exact fun lasting => (Outlet.texts_send w.outlet lasting _ _).1

omit [World ω] in
/-- Moving a cursor does nothing. -/
theorem effect_setCursor (w : Workspace ω) (handle : Handle) (position : Position) :
    w.Effect [] (w.setCursor handle position) := by
  unfold setCursor
  cases present : w.document? handle with
  | none => exact .refl w
  | some document =>
    -- Cursors are no part of the contents, and the editor is told of them without a text.
    have moved : w.Effect [] { w with documents := w.documents.modify handle fun other =>
        { other with cursor := position.clamp document.text } } := by
      refine ⟨rfl, rfl, rfl, ?_, by simp, by simp, id, by simp⟩
      have same := contents_modify w.documents handle
        (fun other => { other with cursor := position.clamp document.text }) id fun _ => rfl
      rw [same]
      exact List.modify_id _ _
    exact moved.trans (.of_onlySays (onlySays_send _ rfl))

omit [World ω] in
/-- What is said when a process has ended is said before its output replaces a buffer. -/
theorem finishProcess_cases (w : Workspace ω) (flight : InFlight) :
    ∃ spoken, w.OnlySays spoken ∧ (w.finishProcess flight).1 =
      match flight.result, flight.mode with
      | .ok output, .buffer =>
        (spoken.setText flight.document output.stdout).setCursor flight.document flight.cursor
      | _, _ => spoken := by
  -- All remarks and problems come first; what the mode and the result decide is only what follows.
  refine ⟨_, spoken_of_each (R := fun _ => OnlySays) .refl .trans onlySays_debug onlySays_report w flight, ?_⟩
  exact finishProcess_eq w flight

omit [World ω] in
/-- What a process that ended leaves behind is what is done then. -/
theorem effect_finishProcess (w : Workspace ω) (flight : InFlight) :
    w.Effect (w.flightDeeds flight) (w.finishProcess flight).1 := by
  obtain ⟨spoken, speech, same⟩ := finishProcess_cases w flight
  rw [same]
  unfold flightDeeds
  -- Only output in the mode that reads a buffer replaces a text.
  split
  next output _ _ =>
    -- What is said before changes no document.
    have deeds : spoken.textDeeds flight.document output.stdout =
        w.textDeeds flight.document output.stdout := by
      obtain ⟨outlet, -, rfl⟩ := speech
      rfl
    have written := (Effect.of_onlySays speech).trans (effect_setText spoken flight.document output.stdout)
    rw [deeds] at written
    simpa using written.trans (effect_setCursor _ flight.document flight.cursor)
  next => exact .of_onlySays speech

omit [World ω] in
/-- What the busy signal says of work in progress does nothing. -/
theorem effect_busy (w : Workspace ω) (entries : List BusyEntry) {messages : List Outgoing}
    (idle : ∀ message ∈ messages, (Event.sent message).isIdle) :
    w.Effect [] { w with
      busy := { w.busy with entries := entries }, outlet := w.outlet.sendAll messages } := by
  -- The entries of the signal are no document and no result, so only its messages count.
  have more := Outlet.saysMore_sendAll idle w.outlet
  exact ⟨rfl, rfl, rfl, rfl, by simp, by simpa using more.spawns, more.lasting, by
    intro _
    simpa using more.texts⟩

omit [World ω] in
/-- Messages that are only sent while the signal is on are idle if they are idle at all. -/
theorem idle_whenEnabled (signal : BusySignal) {messages : List Outgoing}
    (idle : ∀ message ∈ messages, (Event.sent message).isIdle) :
    ∀ message ∈ signal.whenEnabled messages, (Event.sent message).isIdle := by
  unfold BusySignal.whenEnabled
  split
  · exact idle
  · simp

omit [World ω] in
/-- Beginning a piece of work that is shown does nothing. -/
theorem effect_beginBusy (w : Workspace ω) (now : Nat) (label : String) :
    w.Effect [] (w.beginBusy now label) :=
  effect_busy w _ (idle_whenEnabled w.busy (by simp [Event.isIdle, Event.spawn?, Event.text?]))

omit [World ω] in
/-- Ending a piece of work that is shown does nothing. -/
theorem effect_endBusy (w : Workspace ω) (now : Nat) (label : String) :
    w.Effect [] (w.endBusy now label).1 := by
  unfold endBusy BusySignal.remove
  split
  next busy messages duration removed =>
    -- Nothing under the label is left to end, or one entry ends and may be told of.
    split at removed
    next => cases removed; exact effect_busy w w.busy.entries (by simp)
    next =>
      cases removed
      refine effect_busy w _ (idle_whenEnabled w.busy ?_)
      split <;> simp [Event.isIdle, Event.spawn?, Event.text?]

omit [World ω] in
/-- Ending a piece of work and logging its duration does nothing. -/
theorem effect_endBusyLogged (w : Workspace ω) (now : Nat) (label : String) :
    w.Effect [] (w.endBusyLogged now label) := by
  have ended := effect_endBusy w now label
  unfold endBusyLogged
  -- A duration is logged if there is one.
  split
  next later same =>
    rw [same] at ended
    exact ended
  next later duration same =>
    rw [same] at ended
    exact ended.trans (.of_onlySays (onlySays_debug _ _))

omit [World ω] in
/-- Keeping a result does nothing. -/
theorem effect_finish (w : Workspace ω) (number : Nat) (result : Result) :
    w.Effect [] (w.finish number result) :=
  ⟨rfl, rfl, rfl, rfl, by simp, by simp [finish], id, by simp [finish]⟩

/-- What a formatter does when it starts is all that it does. -/
theorem effect_beginFormat {w : Workspace ω} {name : String} {formatter : Formatter}
    (present : w.formatter? name = some formatter) (position : Nat) (handle : Handle)
    (document : Document) (mode : Mode) :
    w.Effect (w.formatDeeds position formatter handle document mode)
      (w.beginFormat formatter handle document mode).1 := by
  have resolved := effect_resolve present document.path mode
  unfold formatDeeds beginFormat
  generalize w.resolve formatter document.path mode = resolution at resolved ⊢
  obtain ⟨mid, found⟩ := resolution
  -- Without a binary the formatter is done, after a report.
  cases found with
  | none => exact resolved.trans (.of_onlySays (onlySays_report mid _))
  | some invocation =>
    have started := resolved.trans
      (effect_startProcess mid position handle document invocation.binary invocation.arguments mode)
    dsimp only at started ⊢
    generalize mid.startProcess handle document invocation.binary invocation.arguments mode =
      launched at started ⊢
    obtain ⟨later, delay, flight⟩ := launched
    dsimp only at started ⊢
    -- A process that takes no time has ended before anything else happens.
    by_cases instant : delay = 0
    · have ended := started.trans (effect_finishProcess later flight)
      simpa [instant] using ended
    · simpa [instant] using started

omit [World ω] in
/-- That an outcome is known changes nothing. -/
theorem effect_settled (w : Workspace ω) (position : Nat) : w.Effect [.settled position] w :=
  ⟨rfl, rfl, rfl, rfl, by simp, by simp [List.filterMap_cons, Deed.spawn?], id, by
    simp [List.filterMap_cons, Deed.text?]⟩

/-- What formatters do in order is all that they do. -/
theorem effect_runChain (now : Nat) (run : ChainRun) (names : List String) (w : Workspace ω) :
    w.Effect (chainDeeds now run names w) (runChain now run names w).1 := by
  -- The formatters are run one by one, and the last one may have to be waited for.
  induction names generalizing run w with
  | nil => exact (effect_endBusyLogged w now run.label).trans (effect_finish _ _ _)
  | cons name rest ih =>
    -- A name that nobody has is reported, and the chain goes on with the rest.
    have unknown := (Effect.of_onlySays (onlySays_report w (.unknownFormatter name))).trans
      (.trans (effect_settled _ run.steps.length) (ih (run.record name none) _))
    unfold chainDeeds runChain
    cases present : w.formatter? name with
    | none => exact unknown
    | some formatter =>
      cases opened : w.document? run.document with
      | none => exact unknown
      | some document =>
        have begun := (effect_beginBusy w now (run.stepLabel name)).trans
          (effect_beginFormat (w := w.beginBusy now (run.stepLabel name)) present
            run.steps.length run.document document run.mode)
        dsimp only
        generalize (w.beginBusy now (run.stepLabel name)).beginFormat formatter run.document document
          run.mode = result at begun ⊢
        obtain ⟨mid, outcome | ⟨delay, scope, flight⟩⟩ := result
        · -- The outcome is known at once, so that the rest of the chain follows.
          have ended := begun.trans (effect_endBusyLogged mid now (run.stepLabel name))
          simp only [List.nil_append, List.append_nil] at ended
          exact ended.trans (.trans (effect_settled _ _) (ih (run.record name (some outcome)) _))
        · simpa using begun

end Workspace

end FormatPipeline
