import FormatPipeline.Proofs.Document.Table
import FormatPipeline.Proofs.Workspace.Ended
import FormatPipeline.Workspace.Chain
import FormatPipeline.Workspace.Coordination

/-! What formatters that run leave alone: the order of work, the documents but for their texts, the tile. -/

namespace FormatPipeline

open Settings (Slot)

/-- What a message makes of the status tile, if it is about it. -/
def Outgoing.status? : Outgoing → Option (Option StatusSnapshot)
  | .status snapshot => some snapshot
  | _ => none

/-- What an event makes of the status tile, if it is about it. -/
def Event.status? : Event → Option (Option StatusSnapshot)
  | .sent message => message.status?
  | _ => none

namespace Outlet

/-- What was made of the status tile, in its order. -/
def statuses (outlet : Outlet) : List (Option StatusSnapshot) :=
  (outlet.events.filterMap Event.status?).reverse

/-- An event comes last if it is about the tile. -/
theorem statuses_record (outlet : Outlet) (event : Event) :
    (outlet.record event).statuses = outlet.statuses ++ event.status?.toList := by
  cases about : event.status? <;> simp [record, statuses, about]

/-- Logging says nothing about the tile. -/
@[simp] theorem statuses_log (outlet : Outlet) (importance : LogLevel) (text : String) :
    (outlet.log importance text).statuses = outlet.statuses := by
  unfold log
  split
  · simp [statuses_record, Event.status?]
  · rfl

/-- A message comes last if it is about the tile and can be written. -/
theorem statuses_send_cases (outlet : Outlet) (message : Outgoing) :
    (outlet.send message).statuses = outlet.statuses ++ message.status?.toList ∨
      (outlet.writesLeft = some 0 ∧ (outlet.send message).statuses = outlet.statuses) := by
  -- What has been written counts, whether it can be flushed or not.
  have written : ∀ writes flushes, (Outlet.mk outlet.level (.sent message :: outlet.events) writes
      flushes).statuses = outlet.statuses ++ message.status?.toList :=
    fun _ _ => statuses_record outlet (.sent message)
  unfold send trySend
  by_cases closed : outlet.writesLeft = some 0
  · exact .inr ⟨closed, by simp [closed]⟩
  · refine .inl ?_
    by_cases stuck : outlet.flushesLeft = some 0
    · simpa [closed, stuck, record] using written _ _
    · simpa [closed, stuck, record] using written _ _

/-- A message about something else says nothing about the tile. -/
theorem statuses_send_of_none (outlet : Outlet) {message : Outgoing} (other : message.status? = none) :
    (outlet.send message).statuses = outlet.statuses := by
  rcases statuses_send_cases outlet message with sent | ⟨-, same⟩
  · simpa [other] using sent
  · exact same

/-- Messages about something else say nothing about the tile. -/
theorem statuses_sendAll {messages : List Outgoing}
    (other : ∀ message ∈ messages, message.status? = none) (outlet : Outlet) :
    (outlet.sendAll messages).statuses = outlet.statuses := by
  -- Messages are sent one by one.
  induction messages generalizing outlet with
  | nil => rfl
  | cons message rest ih =>
    have first := statuses_send_of_none outlet (other message (by simp))
    exact (ih (fun later member => other later (by simp [member])) _).trans first

end Outlet

namespace Workspace

variable {ω : Type}

/-- Neither who runs when nor which documents there are has changed, and the tile was not drawn. -/
structure Unseen (w later : Workspace ω) : Prop where
  coordination : later.coordination = w.coordination
  documents : later.documents.blank = w.documents.blank
  statuses : later.outlet.statuses = w.outlet.statuses

/-- Doing nothing is unseen. -/
theorem Unseen.refl (w : Workspace ω) : w.Unseen w := ⟨rfl, rfl, rfl⟩

/-- One unseen thing can follow another. -/
theorem Unseen.trans {w mid later : Workspace ω} (first : w.Unseen mid) (second : mid.Unseen later) :
    w.Unseen later :=
  ⟨second.coordination.trans first.coordination, second.documents.trans first.documents,
    second.statuses.trans first.statuses⟩

/-- Logging is unseen. -/
theorem unseen_debug (w : Workspace ω) (text : String) : w.Unseen (w.debug text) :=
  ⟨rfl, rfl, Outlet.statuses_log _ _ _⟩

/-- A warning is unseen. -/
theorem unseen_warn (w : Workspace ω) (text : String) : w.Unseen (w.warn text) :=
  ⟨rfl, rfl, Outlet.statuses_log _ _ _⟩

/-- A message about something else is unseen. -/
theorem unseen_send (w : Workspace ω) {message : Outgoing} (other : message.status? = none) :
    w.Unseen (w.send message) :=
  ⟨rfl, rfl, Outlet.statuses_send_of_none _ other⟩

/-- A problem is unseen, however it is shown. -/
theorem unseen_report (w : Workspace ω) (problem : Problem) : w.Unseen (w.report problem) := by
  have logged := unseen_debug w (titleOf problem ++ " (" ++ problem.detail.getD "no detail" ++ ")")
  unfold report
  dsimp only
  -- The problem is only logged, or it is shown in one of two ways.
  split
  · exact logged
  · exact logged.trans (unseen_send _ rfl)
  · exact logged.trans (unseen_send _ rfl)

/-! ## The busy signal -/

/-- What the busy signal says of work in progress is unseen. -/
theorem unseen_busy (w : Workspace ω) (busy : BusySignal) {messages : List Outgoing}
    (other : ∀ message ∈ messages, message.status? = none) :
    w.Unseen { w with busy := busy, outlet := w.outlet.sendAll messages } :=
  ⟨rfl, rfl, Outlet.statuses_sendAll other _⟩

/-- Messages that are only sent while the signal is on are not about the tile if none of them is. -/
theorem status?_whenEnabled (signal : BusySignal) {messages : List Outgoing}
    (other : ∀ message ∈ messages, message.status? = none) :
    ∀ message ∈ signal.whenEnabled messages, message.status? = none := by
  unfold BusySignal.whenEnabled
  split
  · exact other
  · simp

/-- Beginning a piece of work is unseen. -/
theorem unseen_beginBusy (w : Workspace ω) (now : Nat) (label : String) :
    w.Unseen (w.beginBusy now label) :=
  unseen_busy w _ (status?_whenEnabled w.busy (by simp [Outgoing.status?]))

/-- Ending a piece of work is unseen. -/
theorem unseen_endBusy (w : Workspace ω) (now : Nat) (label : String) :
    w.Unseen (w.endBusy now label).1 := by
  unfold endBusy BusySignal.remove
  split
  next busy messages duration removed =>
    -- Nothing under the label is left to end, or one entry ends and may be told of.
    split at removed
    next => cases removed; exact unseen_busy w w.busy (by simp)
    next =>
      cases removed
      refine unseen_busy w _ (status?_whenEnabled w.busy ?_)
      split <;> simp [Outgoing.status?]

/-- Ending a piece of work and logging its duration is unseen. -/
theorem unseen_endBusyLogged (w : Workspace ω) (now : Nat) (label : String) :
    w.Unseen (w.endBusyLogged now label) := by
  have ended := unseen_endBusy w now label
  unfold endBusyLogged
  -- The label may be gone before, and then nothing is logged.
  split
  next later same =>
    rw [same] at ended
    exact ended
  next later duration same =>
    rw [same] at ended
    exact ended.trans (unseen_debug _ _)

/-- Turning the busy signal on or off is unseen. -/
theorem unseen_setBusyEnabled (w : Workspace ω) (enabled : Bool) :
    w.Unseen (w.setBusyEnabled enabled) := by
  unfold setBusyEnabled BusySignal.setEnabled
  -- The switch changes nothing, or it tells of each label in use.
  split
  next busy messages changed =>
    split at changed
    next => cases changed; exact unseen_busy w w.busy (by simp)
    next =>
      cases changed
      refine unseen_busy w _ fun message member => ?_
      obtain ⟨label, -, rfl⟩ := List.mem_map.mp member
      split <;> rfl

/-! ## Formatters and their processes -/

/-- What came of a new setting of a formatter is unseen. -/
theorem unseen_noteApplied (w : Workspace ω) (what formatter : String)
    (error : Option ConfigurationError) : w.Unseen (w.noteApplied what formatter error) := by
  cases error with
  | none => exact unseen_debug w _
  | some error => exact (unseen_debug w _).trans (unseen_report _ _)

/-- Putting a text into a document is unseen. -/
theorem unseen_setText (w : Workspace ω) (handle : Handle) (text : String) :
    w.Unseen (w.setText handle text) := by
  unfold setText
  split
  · exact .refl w
  · exact ⟨rfl, DocumentTable.blank_modify _ _ fun _ => rfl, Outlet.statuses_send_of_none _ rfl⟩

/-- Moving a cursor is unseen. -/
theorem unseen_setCursor (w : Workspace ω) (handle : Handle) (position : Position) :
    w.Unseen (w.setCursor handle position) := by
  unfold setCursor
  split
  · exact .refl w
  · exact ⟨rfl, DocumentTable.blank_modify _ _ fun _ => rfl, Outlet.statuses_send_of_none _ rfl⟩

/-- What a process that ended leaves behind is unseen. -/
theorem unseen_finishProcess (w : Workspace ω) (flight : InFlight) :
    w.Unseen (w.finishProcess flight).1 := by
  have spoken := spoken_of_each (R := fun _ => Unseen) .refl .trans unseen_debug unseen_report w flight
  rw [finishProcess_eq]
  refine spoken.trans ?_
  -- The output that replaces a buffer is unseen as well.
  unfold takeOutput
  split
  · exact (unseen_setText _ _ _).trans (unseen_setCursor _ _ _)
  · exact .refl _

variable [World ω]

/-- A setting of a formatter that takes effect is unseen. -/
theorem unseen_applySlot (w : Workspace ω) (formatter : Formatter) (slot : Slot) (value : Json.Value) :
    w.Unseen (w.applySlot formatter slot value) := by
  -- Formatters and questions about files are replaced and counted before anything is said.
  have replaced : ∀ (formatters : List Formatter) (probes : Nat),
      w.Unseen { w with formatters := formatters, probes := probes } := fun _ _ => ⟨rfl, rfl, rfl⟩
  cases slot with
  | localBins => exact (replaced _ w.probes).trans (unseen_noteApplied _ _ _ _)
  | localArguments | globalArguments => exact replaced _ w.probes
  | localConfigs | globalConfigs => exact (replaced _ _).trans (unseen_noteApplied _ _ _ _)
  | globalBinPath =>
    unfold applySlot setGlobalBin
    -- How the finder comes to its binary does not matter.
    generalize formatter.binaries.setGlobalBin (World.files w.world) (Settings.text value) = found
    exact (replaced _ _).trans (unseen_noteApplied _ _ _ _)

/-- Starting a process is unseen. -/
theorem unseen_startProcess (w : Workspace ω) (handle : Handle) (document : Document) (binary : Path)
    (arguments : List String) (mode : Mode) :
    w.Unseen (w.startProcess handle document binary arguments mode).1 := by
  refine (unseen_debug w ("Running: " ++ Shell.commandLine binary arguments)).trans ⟨rfl, rfl, ?_⟩
  exact (Outlet.statuses_record _ _).trans (List.append_nil _)

/-- Resolving is unseen. -/
theorem unseen_resolve (w : Workspace ω) (formatter : Formatter) (file : Path) (mode : Mode) :
    w.Unseen (w.resolve formatter file mode).1 := by
  unfold resolve counting
  dsimp only
  -- What the formatter remembers cannot be seen, and what it found is only logged.
  split
  · exact ⟨rfl, rfl, rfl⟩
  · exact ⟨rfl, rfl, Outlet.statuses_log _ _ _⟩

/-- Starting a formatter is unseen. -/
theorem unseen_beginFormat (w : Workspace ω) (formatter : Formatter) (handle : Handle)
    (document : Document) (mode : Mode) :
    w.Unseen (w.beginFormat formatter handle document mode).1 := by
  have resolved := unseen_resolve w formatter document.path mode
  unfold beginFormat
  generalize w.resolve formatter document.path mode = resolution at resolved ⊢
  obtain ⟨mid, found⟩ := resolution
  cases found with
  | none => exact resolved.trans (unseen_report mid _)
  | some invocation =>
    have started := resolved.trans
      (unseen_startProcess mid handle document invocation.binary invocation.arguments mode)
    dsimp only
    generalize mid.startProcess handle document invocation.binary invocation.arguments mode =
      launched at started ⊢
    obtain ⟨later, delay, flight⟩ := launched
    dsimp only at started ⊢
    -- A process that takes no time has ended before anything else happens.
    split
    · exact started.trans (unseen_finishProcess later flight)
    · exact started

/-- Formatters that run in order are unseen. -/
theorem unseen_runChain (now : Nat) (run : ChainRun) (names : List String) (w : Workspace ω) :
    w.Unseen (runChain now run names w).1 := by
  -- The induction is on the names; beginning, ending and reporting are unseen.
  induction names generalizing run w with
  | nil => exact (unseen_endBusyLogged w now run.label).trans ⟨rfl, rfl, rfl⟩
  | cons name rest ih =>
    unfold runChain
    split
    next formatter document _ _ =>
      have begun := (unseen_beginBusy w now (run.stepLabel name)).trans
        (unseen_beginFormat _ formatter run.document document run.mode)
      dsimp only
      generalize (w.beginBusy now (run.stepLabel name)).beginFormat formatter run.document document
        run.mode = result at begun ⊢
      obtain ⟨mid, outcome | ⟨delay, scope, flight⟩⟩ := result
      · exact begun.trans ((unseen_endBusyLogged mid now _).trans (ih _ _))
      · exact begun
    · exact (unseen_report w _).trans (ih _ _)

/-- A chain that is started is unseen. -/
theorem unseen_startChain (now number : Nat) (handle : Handle) (names : List String) (mode : Mode)
    (w : Workspace ω) : w.Unseen (startChain now number handle names mode w).1 := by
  unfold startChain
  dsimp only
  split
  · exact (unseen_endBusy w now _).trans ⟨rfl, rfl, rfl⟩
  · exact (unseen_beginBusy w now _).trans (unseen_runChain now _ names _)

/-- An errand that begins is unseen. -/
theorem unseen_startErrand (now : Nat) (errand : Errand) (w : Workspace ω) :
    w.Unseen (startErrand now errand w).1 := by
  -- Keeping the result of a piece of work comes last, if there is one at once.
  have finished : ∀ {later : Workspace ω} (number : Nat) (result : Result), w.Unseen later →
      w.Unseen (later.finish number result) := fun _ _ before => before.trans ⟨rfl, rfl, rfl⟩
  cases errand with
  | formatActive number =>
    simp only [startErrand]
    split
    · exact finished number _ (unseen_debug w _)
    · split
      · exact finished _ _ (unseen_report w _)
      · exact unseen_startChain ..
  | runOnActive number formatter =>
    simp only [startErrand]
    split
    · exact finished _ _ (unseen_debug w _)
    · exact unseen_startChain ..
  | formatSaved number handle =>
    simp only [startErrand]
    split
    · exact finished _ _ (unseen_report w _)
    · exact unseen_startChain ..
  | chain number handle names mode => exact unseen_startChain ..
  | single number name handle mode =>
    simp only [startErrand]
    split
    next formatter document _ _ =>
      have begun := unseen_beginFormat w formatter handle document mode
      generalize w.beginFormat formatter handle document mode = result at begun ⊢
      obtain ⟨mid, outcome | ⟨delay, scope, flight⟩⟩ := result
      · exact finished _ _ begun
      · exact begun
    · exact finished _ _ (.refl w)

/-- Work that goes on when a process has ended is unseen. -/
theorem unseen_wakeSleeper (now : Nat) (sleeper : Sleeper) (w : Workspace ω) :
    w.Unseen (wakeSleeper now sleeper w).1 := by
  cases sleeper with
  | single number scope flight => exact (unseen_finishProcess w flight).trans ⟨rfl, rfl, rfl⟩
  | chain run name rest scope flight =>
    have ended := (unseen_finishProcess w flight).trans (unseen_endBusyLogged _ now (run.stepLabel name))
    exact ended.trans (unseen_runChain now _ rest _)

end Workspace

end FormatPipeline
