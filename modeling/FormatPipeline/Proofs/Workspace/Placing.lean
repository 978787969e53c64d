import FormatPipeline.Proofs.Document.Cursor
import FormatPipeline.Proofs.Workspace.Shown

/-! Texts are put into documents together with a cursor in them, and the editor is told of both at once. -/

namespace FormatPipeline

/-- A text that is put into a document, with a cursor in the text. -/
structure Placing where
  document : Handle
  id : Nat
  text : String
  cursor : Position
  inside : cursor.IsIn text

namespace Placing

/-- The deed of putting the text into the document. -/
def deed (placing : Placing) : Deed := .wrote placing.document placing.id placing.text

/-- What the editor is told: first the text, and then the cursor. -/
def messages (placing : Placing) : List Outgoing :=
  [.setText placing.id placing.text, .setCursor placing.id placing.cursor]

/-- The documents when the text and the cursor are in their document. -/
def put (table : DocumentTable) (placing : Placing) : DocumentTable :=
  table.modify placing.document fun document =>
    { document with text := placing.text, cursor := placing.cursor }

end Placing

/-- Whether a deed puts a text into a document. -/
def Deed.isWriting : Deed → Bool
  | wrote .. => true
  | spawned .. | settled _ => false

/-- Whether a message is about the text or the cursor of a document. -/
def Outgoing.isPlacing : Outgoing → Bool
  | setText .. | setCursor .. => true
  | notification _ | progressStarted _ | progressFinished _ | status _ | commands _ => false

/-- The messages of events that are about texts and cursors. -/
def placingsOf (events : List Event) : List Outgoing :=
  (events.filterMap Event.message?).filter Outgoing.isPlacing

/-- What is told of texts and cursors in one event after another. -/
theorem placingsOf_append (first second : List Event) :
    placingsOf (first ++ second) = placingsOf first ++ placingsOf second := by
  simp [placingsOf]

/-- Nothing is told of texts and cursors in events of which none is about them. -/
theorem placingsOf_eq_nil {messages : List Outgoing}
    (other : ∀ message ∈ messages, message.isPlacing = false) :
    placingsOf (messages.map .sent) = [] := by
  have same : (messages.map Event.sent).filterMap Event.message? = messages := by
    simp [List.filterMap_map, Function.comp_def, Event.message?]
  rw [placingsOf, same]
  simpa using other

namespace Outlet

/-- The editor is told of texts and cursors, and of anything else. -/
def Pairs (outlet : Outlet) (placings : List Placing) (later : Outlet) : Prop :=
  ∃ events, outlet.Shows events later ∧ placingsOf events = placings.flatMap Placing.messages

namespace Pairs

/-- What is about neither texts nor cursors tells nothing of them. -/
theorem of_shows {outlet later : Outlet} {events : List Event} (shows : outlet.Shows events later)
    (other : placingsOf events = []) : outlet.Pairs [] later := ⟨events, shows, other⟩

/-- Nothing has to be told. -/
theorem refl (outlet : Outlet) : outlet.Pairs [] outlet := .of_shows (.refl outlet) rfl

/-- More can be told than was told before. -/
theorem trans {outlet mid later : Outlet} {first second : List Placing}
    (before : outlet.Pairs first mid) (after : mid.Pairs second later) :
    outlet.Pairs (first ++ second) later := by
  obtain ⟨early, shows, told⟩ := before
  obtain ⟨late, still, more⟩ := after
  exact ⟨early ++ late, shows.trans still, by rw [placingsOf_append, told, more, List.flatMap_append]⟩

/-- What is sent of texts and cursors is told in pairs, up to where no more can be written. -/
theorem messages {outlet later : Outlet} {placings : List Placing} (pairs : outlet.Pairs placings later) :
    ∃ sent, later.messages = outlet.messages ++ sent ∧
      sent.filter Outgoing.isPlacing <+: placings.flatMap Placing.messages ∧
      (outlet.writesLeft = none →
        sent.filter Outgoing.isPlacing = placings.flatMap Placing.messages) := by
  obtain ⟨events, shows, told⟩ := pairs
  -- What is shown is cut off where no more can be written, and so are the pairs.
  refine ⟨_, shows.messages, ?_, fun lasting => ?_⟩
  · rw [← told]
    exact (admitted_isPrefixOf _ _).filter _
  · rw [lasting, ← told]
    rfl

end Pairs

end Outlet

namespace Workspace

variable {ω : Type}

/-- Texts and cursors are put into documents as the deeds say, and just these are told of to the editor. -/
structure Places (w : Workspace ω) (deeds : List Deed) (placings : List Placing)
    (later : Workspace ω) : Prop where
  deeds : placings.map Placing.deed = deeds.filter Deed.isWriting
  documents : later.documents = placings.foldl Placing.put w.documents
  told : w.outlet.Pairs placings later.outlet

namespace Places

/-- Where documents stay and nothing is told of them, nothing is put into them. -/
theorem of_pairs {w later : Workspace ω} (told : w.outlet.Pairs [] later.outlet)
    (documents : later.documents = w.documents) : w.Places [] [] later := ⟨rfl, documents, told⟩

/-- One thing after another can be put into documents. -/
theorem trans {w mid later : Workspace ω} {first second : List Deed} {ones others : List Placing}
    (before : w.Places first ones mid) (after : mid.Places second others later) :
    w.Places (first ++ second) (ones ++ others) later where
  deeds := by rw [List.map_append, List.filter_append, before.deeds, after.deeds]
  documents := by rw [after.documents, before.documents, List.foldl_append]
  told := before.told.trans after.told

/-- Deeds that put no text into a document do not matter. -/
theorem of_idle {w later : Workspace ω} {deeds : List Deed} (places : w.Places [] [] later)
    (idle : ∀ deed ∈ deeds, deed.isWriting = false) : w.Places deeds [] later where
  deeds := by simpa using idle
  documents := places.documents
  told := places.told

end Places

/-! ## Problems, the busy signal and processes -/

/-- A problem that is shown puts nothing into documents. -/
theorem places_report (w : Workspace ω) (problem : Problem) : w.Places [] [] (w.report problem) := by
  obtain ⟨outlet, -, same⟩ := onlySays_report w problem
  refine .of_pairs (.of_shows (shows_report w problem) ?_) (by rw [same])
  unfold noticeEvents
  cases noticeOf w.handling problem <;> rfl

/-- Work that begins puts nothing into documents. -/
theorem places_beginBusy (w : Workspace ω) (now : Nat) (label : String) :
    w.Places [] [] (w.beginBusy now label) := by
  refine .of_pairs (.of_shows (shows_beginBusy w now label) (placingsOf_eq_nil ?_)) rfl
  unfold BusySignal.add BusySignal.whenEnabled
  split <;> simp [Outgoing.isPlacing]

/-- What is told of work that ends is about neither texts nor cursors. -/
theorem isPlacing_remove (signal : BusySignal) (now : Nat) (label : String) :
    ∀ message ∈ (signal.remove now label).2.1, message.isPlacing = false := by
  -- Nothing is told, or that the work under the label has ended.
  unfold BusySignal.remove BusySignal.whenEnabled
  split
  · simp
  · dsimp only
    split
    · split <;> simp [Outgoing.isPlacing]
    · simp

/-- Work that ends puts nothing into documents. -/
theorem places_endBusy (w : Workspace ω) (now : Nat) (label : String) :
    w.Places [] [] (w.endBusy now label).1 :=
  .of_pairs (.of_shows (Outlet.shows_sendAll _ _)
    (placingsOf_eq_nil (isPlacing_remove w.busy now label))) rfl

/-- Work that ends and is logged puts nothing into documents. -/
theorem places_endBusyLogged (w : Workspace ω) (now : Nat) (label : String) :
    w.Places [] [] (w.endBusyLogged now label) := by
  have ended := places_endBusy w now label
  unfold endBusyLogged
  -- The label may be gone before, and then nothing more is logged.
  split
  next later same =>
    rw [same] at ended
    exact ended
  next later duration same =>
    rw [same] at ended
    exact ended.trans (.of_pairs (.of_shows (Outlet.shows_log _ _ _) rfl) rfl)

/-- Of problems the editor is told in notifications. -/
theorem placingsOf_notices (handling : Settings.ErrorHandling) (problems : List Problem) :
    placingsOf (problems.flatMap (noticeEvents handling)) = [] := by
  -- The induction is on the problems, and a notice is no placing.
  induction problems with
  | nil => rfl
  | cons problem rest ih =>
    rw [List.flatMap_cons, placingsOf_append, ih]
    unfold noticeEvents
    cases noticeOf handling problem <;> rfl

/-- What a process left behind is put into the document that it was started for. -/
theorem places_finishProcess (w : Workspace ω) (flight : InFlight) :
    ∃ placings, w.Places (w.flightDeeds flight) placings (w.finishProcess flight).1 := by
  obtain ⟨shows, documents⟩ := shows_finishProcess w flight
  unfold flightEvents at shows
  unfold landed at documents
  unfold flightDeeds textDeeds
  -- Only a process on the buffer that has ended well leaves a text.
  split
  next output landing buffer =>
    simp only [landing, buffer] at shows documents
    -- A document that is gone takes no text, and the editor is told of none.
    cases present : w.document? flight.document with
    | none =>
      have absent : w.documents.documents.length ≤ flight.document :=
        List.getElem?_eq_none_iff.mp present
      refine ⟨[], .of_pairs (.of_shows shows ?_) ?_⟩
      · rw [placingsOf_append, placingsOf_notices, present]
        rfl
      · rw [documents, DocumentTable.modify, List.modify_eq_self absent]
    -- The text and the clamped cursor are put into the document together.
    | some document =>
      refine ⟨[⟨flight.document, document.id, output.stdout, flight.cursor.clamp output.stdout,
        Position.isIn_clamp _ _⟩], rfl, documents, _, shows, ?_⟩
      rw [placingsOf_append, placingsOf_notices, present]
      rfl
  -- Without such an output nothing is put anywhere.
  next other =>
    refine ⟨[], .of_pairs (.of_shows shows ?_) ?_⟩
    · rw [placingsOf_append, placingsOf_notices]
      split
      next output landing buffer => exact absurd buffer (other output landing)
      · rfl
    · rw [documents]
      split
      next output landing buffer => exact absurd buffer (other output landing)
      · rfl

/-- Keeping a result puts nothing into documents. -/
theorem places_finish (w : Workspace ω) (number : Nat) (result : Result) :
    w.Places [] [] (w.finish number result) := .of_pairs (.refl _) rfl

/-- That an outcome is known puts nothing into documents. -/
theorem places_settled (w : Workspace ω) (position : Nat) : w.Places [.settled position] [] w :=
  Places.of_idle (.of_pairs (.refl _) rfl) (by simp [Deed.isWriting])

variable [World ω]

/-- Resolving puts nothing into documents. -/
theorem places_resolve (w : Workspace ω) (formatter : Formatter) (file : Path) (mode : Mode) :
    w.Places [] [] (w.resolve formatter file mode).1 := by
  have replaces := replaces_resolve w formatter file mode
  refine .of_pairs (.of_shows (shows_resolve w formatter file mode) rfl) ?_
  obtain ⟨probes, outlet, -, same⟩ := replaces
  rw [same]
  rfl

/-- A process that starts puts nothing into documents. -/
theorem places_startProcess (w : Workspace ω) (position : Nat) (handle : Handle)
    (document : Document) (binary : Path) (arguments : List String) (mode : Mode) :
    let started := w.startProcess handle document binary arguments mode
    w.Places [.spawned position started.2.2.commandLine (document.input? mode)] [] started.1 :=
  Places.of_idle (.of_pairs (.of_shows (shows_startProcess w handle document binary arguments mode)
    rfl) rfl) (by simp [Deed.isWriting])

/-! ## Chains -/

/-- What a formatter puts into documents when it starts. -/
theorem places_beginFormat (w : Workspace ω) (position : Nat) (formatter : Formatter)
    (handle : Handle) (document : Document) (mode : Mode) :
    ∃ placings, w.Places (w.formatDeeds position formatter handle document mode) placings
      (w.beginFormat formatter handle document mode).1 := by
  have resolved := places_resolve w formatter document.path mode
  unfold formatDeeds beginFormat
  generalize w.resolve formatter document.path mode = resolution at resolved ⊢
  obtain ⟨mid, found⟩ := resolution
  cases found with
  | none => exact ⟨_, resolved.trans (places_report mid _)⟩
  | some invocation =>
    have started := resolved.trans
      (places_startProcess mid position handle document invocation.binary invocation.arguments mode)
    dsimp only at started ⊢
    generalize mid.startProcess handle document invocation.binary invocation.arguments mode =
      launched at started ⊢
    obtain ⟨later, delay, flight⟩ := launched
    dsimp only at started ⊢
    -- A process that takes no time has ended before anything else happens.
    by_cases instant : delay = 0
    · obtain ⟨placings, ended⟩ := places_finishProcess later flight
      exact ⟨_, by simpa [instant] using started.trans ended⟩
    · exact ⟨_, by simpa [instant] using started⟩

/-- What formatters that run in order put into documents. -/
theorem places_runChain (now : Nat) (run : ChainRun) (names : List String) (w : Workspace ω) :
    ∃ placings, w.Places (chainDeeds now run names w) placings (runChain now run names w).1 := by
  induction names generalizing run w with
  | nil => exact ⟨_, (places_endBusyLogged w now run.label).trans (places_finish _ _ _)⟩
  | cons name rest ih =>
    -- A name that nobody has puts nothing anywhere, and the chain goes on with the rest.
    have unknown : ∃ placings, w.Places (.settled run.steps.length ::
        chainDeeds now (run.record name none) rest (w.report (.unknownFormatter name))) placings
        (runChain now (run.record name none) rest (w.report (.unknownFormatter name))).1 := by
      obtain ⟨placings, later⟩ := ih (run.record name none) (w.report (.unknownFormatter name))
      exact ⟨_, (places_report w (.unknownFormatter name)).trans
        (.trans (places_settled _ run.steps.length) later)⟩
    unfold chainDeeds runChain
    cases present : w.formatter? name with
    | none => exact unknown
    | some formatter =>
      cases opened : w.document? run.document with
      | none => exact unknown
      | some document =>
        obtain ⟨placings, formats⟩ := places_beginFormat (w.beginBusy now (run.stepLabel name))
          run.steps.length formatter run.document document run.mode
        have begun := (places_beginBusy w now (run.stepLabel name)).trans formats
        dsimp only
        generalize (w.beginBusy now (run.stepLabel name)).beginFormat formatter run.document document
          run.mode = result at begun ⊢
        obtain ⟨mid, outcome | ⟨delay, scope, flight⟩⟩ := result
        · -- The outcome is known at once, so that the rest of the chain follows.
          obtain ⟨others, later⟩ := ih (run.record name (some outcome))
            (mid.endBusyLogged now (run.stepLabel name))
          have ended := begun.trans (places_endBusyLogged mid now (run.stepLabel name))
          rw [List.nil_append, List.append_nil] at ended
          exact ⟨_, ended.trans (.trans (places_settled _ _) later)⟩
        · exact ⟨_, by simpa using begun⟩

/-- An errand that has nothing to do puts nothing into documents. -/
theorem places_startErrand_of_none {errand : Errand} {w : Workspace ω} (now : Nat)
    (none : w.chainOf? errand = none)
    (other : ∀ number name handle mode, errand ≠ .single number name handle mode) :
    w.Places [] [] (startErrand now errand w).1 := by
  have logged : w.Places [] [] (w.debug "No active document to format.") :=
    .of_pairs (.of_shows (Outlet.shows_log _ _ _) rfl) rfl
  have noDocument : ∀ number, w.Places [] [] (w.finishWithoutDocument number) :=
    fun number => logged.trans (places_finish _ number _)
  have noOrder : ∀ number problem, w.Places [] [] ((w.report problem).finish number (.chain [])) :=
    fun number problem => (places_report w problem).trans (places_finish _ number _)
  cases errand with
  | formatActive number =>
    cases active : w.documents.active? with
    | none => simpa [startErrand, active] using noDocument number
    | some handle =>
      -- An order without formatters is reported instead of being run.
      have empty : w.coordination.formatOrder = [] := by simpa [chainOf?, active] using none
      simpa [startErrand, active, empty] using noOrder number _
  | runOnActive number formatter =>
    have inactive : w.documents.active? = Option.none := by simpa [chainOf?] using none
    simpa [startErrand, inactive] using noDocument number
  | formatSaved number handle =>
    have empty : w.coordination.saveOrder = [] := by simpa [chainOf?] using none
    simpa [startErrand, empty] using noOrder number _
  | chain number handle names mode => cases none
  | single number name handle mode => exact absurd rfl (other number name handle mode)

/-- What an errand puts into documents when it begins. -/
theorem places_startErrand (now : Nat) (errand : Errand) (w : Workspace ω) :
    ∃ placings, w.Places (errandDeeds now errand w) placings (startErrand now errand w).1 := by
  rcases startErrand_cases now errand w with
    ⟨handle, names, mode, chain, started⟩ | ⟨number, name, handle, mode, rfl⟩ |
    ⟨none, other, -⟩
  · simp only [errandDeeds, chain, started]
    -- A chain without formatters ends as it begins.
    by_cases empty : names = []
    · subst empty
      exact ⟨_, (places_endBusy w now _).trans (places_finish _ _ _)⟩
    · rw [startChain_of_ne_nil now _ handle empty]
      obtain ⟨placings, later⟩ := places_runChain now (w.chainRun errand.number handle mode) names
        (w.beginBusy now (w.chainRun errand.number handle mode).label)
      exact ⟨_, (places_beginBusy w now _).trans later⟩
  -- A formatter that runs on its own writes at most once, when its process has ended.
  · simp only [errandDeeds, chainOf?, startErrand]
    have unknown : w.Places [.settled 0] [] (w.finish number (.single .binaryNotFound)) :=
      (places_settled w 0).trans (places_finish w number _)
    cases present : w.formatter? name with
    | none => exact ⟨_, unknown⟩
    | some formatter =>
      cases opened : w.document? handle with
      | none => exact ⟨_, unknown⟩
      | some document =>
        obtain ⟨placings, begun⟩ := places_beginFormat w 0 formatter handle document mode
        dsimp only
        generalize w.beginFormat formatter handle document mode = result at begun ⊢
        obtain ⟨mid, outcome | ⟨delay, scope, flight⟩⟩ := result
        · exact ⟨_, begun.trans ((places_settled mid 0).trans (places_finish mid number _))⟩
        · exact ⟨_, by simpa using begun⟩
  · rw [errandDeeds_of_none now none other]
    exact ⟨_, places_startErrand_of_none now none other⟩

/-- What is put into documents when a process has ended. -/
theorem places_wakeSleeper (now : Nat) (sleeper : Sleeper) (w : Workspace ω) :
    ∃ placings, w.Places (wakeDeeds now sleeper w) placings (wakeSleeper now sleeper w).1 := by
  -- The output is put into the document before the rest of a chain begins.
  cases sleeper with
  | single number scope flight =>
    obtain ⟨placings, ended⟩ := places_finishProcess w flight
    exact ⟨_, ended.trans ((places_settled _ 0).trans (places_finish _ number _))⟩
  | chain run name rest scope flight =>
    obtain ⟨placings, landed⟩ := places_finishProcess w flight
    have ended := landed.trans (places_endBusyLogged _ now (run.stepLabel name))
    rw [List.append_nil, List.append_nil] at ended
    obtain ⟨others, later⟩ := places_runChain now
      (run.record name (some (.ran scope (w.finishProcess flight).2))) rest
      ((w.finishProcess flight).1.endBusyLogged now (run.stepLabel name))
    exact ⟨_, ended.trans (.trans (places_settled _ run.steps.length) later)⟩

end Workspace

end FormatPipeline
