import FormatPipeline.Workspace.Coordination

/-! What logging, notifying and replacing a formatter leave as they are. -/

namespace FormatPipeline

/-- The command line and the input of a process that is started. -/
def Event.spawn? : Event → Option (String × Option String)
  | .spawn line stdin => some (line, stdin)
  | _ => none

/-- The document's number and the text that are sent to the editor. -/
def Event.text? : Event → Option (Nat × String)
  | .sent (.setText id text) => some (id, text)
  | _ => none

/-- Whether an event neither starts a process nor sends a text. -/
def Event.isIdle (event : Event) : Bool := event.spawn?.isNone && event.text?.isNone

namespace Outlet

/-- The processes that were started, in their order. -/
def spawns (outlet : Outlet) : List (String × Option String) :=
  (outlet.events.filterMap Event.spawn?).reverse

/-- The texts that were sent to the editor, in their order. -/
def texts (outlet : Outlet) : List (Nat × String) := (outlet.events.filterMap Event.text?).reverse

/-- A later outlet has seen the same processes and texts, and lasts if the earlier one does. -/
structure SaysMore (outlet later : Outlet) : Prop where
  spawns : later.spawns = outlet.spawns
  texts : later.texts = outlet.texts
  lasting : outlet.writesLeft = none → later.writesLeft = none

/-- Nothing needs to be said. -/
theorem SaysMore.refl (outlet : Outlet) : outlet.SaysMore outlet := ⟨rfl, rfl, id⟩

/-- More can be said than was said before. -/
theorem SaysMore.trans {outlet later last : Outlet} (first : outlet.SaysMore later)
    (second : later.SaysMore last) : outlet.SaysMore last :=
  ⟨second.spawns.trans first.spawns, second.texts.trans first.texts,
    fun lasting => second.lasting (first.lasting lasting)⟩

/-- Recording anything but a process or a text only says more. -/
theorem saysMore_record (outlet : Outlet) {event : Event} (idle : event.isIdle) :
    outlet.SaysMore (outlet.record event) := by
  -- Such an event is passed over by both lists.
  obtain ⟨noSpawn, noText⟩ : event.spawn? = none ∧ event.text? = none := by
    simpa [Event.isIdle] using idle
  exact ⟨by simp [record, Outlet.spawns, noSpawn], by simp [record, Outlet.texts, noText], id⟩

/-- Logging only says more. -/
theorem saysMore_log (outlet : Outlet) (importance : LogLevel) (text : String) :
    outlet.SaysMore (outlet.log importance text) := by
  unfold log
  split
  · exact saysMore_record outlet rfl
  · exact .refl outlet

/-- Sending anything but a text only says more. -/
theorem saysMore_send (outlet : Outlet) {message : Outgoing} (idle : (Event.sent message).isIdle) :
    outlet.SaysMore (outlet.send message) := by
  -- Whether the message can be written and flushed makes no difference.
  have recorded := saysMore_record outlet idle
  have written : outlet.SaysMore
      { outlet.record (.sent message) with writesLeft := outlet.writesLeft.map (· - 1) } :=
    ⟨recorded.spawns, recorded.texts, by simp +contextual⟩
  unfold send trySend
  by_cases closed : outlet.writesLeft = some 0
  · simpa [closed] using saysMore_log outlet _ _
  · by_cases stuck : outlet.flushesLeft = some 0
    · simpa [closed, stuck] using written.trans (saysMore_log _ _ _)
    · simp only [closed, stuck, if_false]
      exact written.trans ⟨rfl, rfl, id⟩

/-- As long as messages can be written, a text that is sent is the last one. -/
theorem texts_send (outlet : Outlet) (lasting : outlet.writesLeft = none) (id : Nat) (text : String) :
    (outlet.send (.setText id text)).texts = outlet.texts ++ [(id, text)] ∧
      (outlet.send (.setText id text)).writesLeft = none := by
  -- A text that cannot be flushed has been written all the same.
  have written : ∀ writes flushes, (Outlet.mk outlet.level (.sent (.setText id text) :: outlet.events)
      writes flushes).texts = outlet.texts ++ [(id, text)] := by
    intro writes flushes
    simp [Outlet.texts, Event.text?]
  unfold send trySend
  by_cases stuck : outlet.flushesLeft = some 0
  · simp only [lasting, stuck, reduceCtorEq, if_false, if_true, record, Option.map_none]
    have logged := saysMore_log (.mk outlet.level (.sent (.setText id text) :: outlet.events) none
      (some 0)) .error ("Error sending message to the editor. " ++
        ": ".intercalate SendError.flush.reasons)
    exact ⟨logged.texts.trans (written _ _), logged.lasting rfl⟩
  · simp only [lasting, stuck, reduceCtorEq, if_false, record, Option.map_none]
    exact ⟨written _ _, trivial⟩

/-- Sending a message starts no process. -/
theorem spawns_send (outlet : Outlet) (message : Outgoing) :
    (outlet.send message).spawns = outlet.spawns := by
  -- A message is an event, but it is not one of those that start a process.
  have written : ∀ writes flushes, (Outlet.mk outlet.level (.sent message :: outlet.events) writes
      flushes).spawns = outlet.spawns := fun _ _ => rfl
  unfold send trySend
  by_cases closed : outlet.writesLeft = some 0
  · simpa [closed] using (saysMore_log outlet _ _).spawns
  · by_cases stuck : outlet.flushesLeft = some 0
    · simp only [closed, stuck, if_false, if_true, record]
      exact (saysMore_log _ _ _).spawns.trans (written _ _)
    · simp only [closed, stuck, if_false, record]
      exact written _ _

/-- Sending messages of which none is a text only says more. -/
theorem saysMore_sendAll {messages : List Outgoing}
    (idle : ∀ message ∈ messages, (Event.sent message).isIdle) (outlet : Outlet) :
    outlet.SaysMore (outlet.sendAll messages) := by
  -- Messages are sent one by one.
  induction messages generalizing outlet with
  | nil => exact .refl outlet
  | cons message rest ih =>
    have first := saysMore_send outlet (idle message (by simp))
    exact first.trans (ih (fun other member => idle other (by simp [member])) _)

end Outlet

namespace Workspace

variable {ω : Type}

/-- A workspace differs from an earlier one only in what was said. -/
def OnlySays (w later : Workspace ω) : Prop :=
  ∃ outlet, w.outlet.SaysMore outlet ∧ later = { w with outlet := outlet }

/-- Saying nothing is possible. -/
theorem OnlySays.refl (w : Workspace ω) : w.OnlySays w := ⟨w.outlet, .refl _, rfl⟩

/-- Something can be said after something else. -/
theorem OnlySays.trans {w later last : Workspace ω} (first : w.OnlySays later)
    (second : later.OnlySays last) : w.OnlySays last := by
  obtain ⟨outlet, more, rfl⟩ := first
  obtain ⟨final, still, rfl⟩ := second
  exact ⟨final, more.trans still, rfl⟩

/-- A log text is only said. -/
theorem onlySays_debug (w : Workspace ω) (text : String) : w.OnlySays (w.debug text) :=
  ⟨_, Outlet.saysMore_log _ _ _, rfl⟩

/-- A warning is only said. -/
theorem onlySays_warn (w : Workspace ω) (text : String) : w.OnlySays (w.warn text) :=
  ⟨_, Outlet.saysMore_log _ _ _, rfl⟩

/-- A message that is no text for a document is only said. -/
theorem onlySays_send (w : Workspace ω) {message : Outgoing}
    (idle : (Event.sent message).isIdle) : w.OnlySays (w.send message) :=
  ⟨_, Outlet.saysMore_send _ idle, rfl⟩

/-- A problem is only said, however it is shown. -/
theorem onlySays_report (w : Workspace ω) (problem : Problem) : w.OnlySays (w.report problem) := by
  have logged := onlySays_debug w
    (titleOf problem ++ " (" ++ problem.detail.getD "no detail" ++ ")")
  unfold report
  dsimp only
  -- A problem is logged in any case, and some kinds of handling show it as well.
  split
  · exact logged
  · exact logged.trans (onlySays_send _ rfl)
  · exact logged.trans (onlySays_send _ rfl)

/-- What came of a new setting is only said. -/
theorem onlySays_noteApplied (w : Workspace ω) (what formatter : String)
    (error : Option ConfigurationError) : w.OnlySays (w.noteApplied what formatter error) := by
  cases error with
  | none => exact onlySays_debug w _
  | some error => exact (onlySays_debug w _).trans (onlySays_report _ _)

/-! ## Replacing a formatter -/

/-- A workspace differs from an earlier one in one formatter, and in what was asked and said. -/
def Replaces (w : Workspace ω) (formatter : Formatter) (later : Workspace ω) : Prop :=
  ∃ probes, ({ w with probes := probes }.putFormatter formatter).OnlySays later

/-- A formatter that is put in place of another one of its name is found. -/
theorem formatter?_putFormatter {w : Workspace ω} {name : String} {old new : Formatter}
    (present : w.formatter? name = some old) (same : new.name = name) :
    (w.putFormatter new).formatter? name = some new := by
  -- The first formatter of the name is replaced where it stands.
  unfold formatter? at present ⊢
  unfold putFormatter
  dsimp only
  generalize w.formatters = formatters at present ⊢
  induction formatters with
  | nil => simp at present
  | cons first rest ih =>
    -- A formatter in front of it has another name, and it is passed over as before.
    by_cases here : first.name = name
    · simp [here, same]
    · simp only [List.find?_cons, beq_eq_false_iff_ne.mpr here] at present
      simpa [List.find?_cons, here, same] using ih present

/-- A formatter that replaces another one of its name is found, in the same world. -/
theorem Replaces.formatter? {w later : Workspace ω} {name : String} {old new : Formatter}
    (replaces : w.Replaces new later) (present : w.formatter? name = some old)
    (same : new.name = name) : later.formatter? name = some new ∧ later.world = w.world := by
  -- Neither what was asked nor what was said touches a formatter.
  obtain ⟨probes, outlet, -, rfl⟩ := replaces
  exact ⟨formatter?_putFormatter (w := { w with probes := probes }) present same, rfl⟩

/-- A formatter that is put in place changes no formatter of another name. -/
theorem formatter?_putFormatter_of_ne (w : Workspace ω) {name : String} {new : Formatter}
    (different : new.name ≠ name) : (w.putFormatter new).formatter? name = w.formatter? name := by
  unfold formatter? putFormatter
  dsimp only
  induction w.formatters with
  | nil => rfl
  | cons first rest ih =>
    -- The replaced formatter has not the name either, so that both are passed over.
    by_cases here : first.name = new.name
    · have passed : first.name ≠ name := here ▸ different
      simpa [List.find?_cons, here, different, passed] using ih
    · simp only [List.map_cons, List.find?_cons, here, if_false, ih]

/-- Replacing a formatter changes no formatter of another name. -/
theorem Replaces.formatter?_of_ne {w later : Workspace ω} {name : String} {new : Formatter}
    (replaces : w.Replaces new later) (different : new.name ≠ name) :
    later.formatter? name = w.formatter? name := by
  obtain ⟨probes, outlet, -, rfl⟩ := replaces
  exact formatter?_putFormatter_of_ne { w with probes := probes } different

variable [World ω]

/-- Resolving replaces the formatter by one that remembers more. -/
theorem replaces_resolve (w : Workspace ω) (formatter : Formatter) (file : Path) (mode : Mode) :
    w.Replaces (formatter.resolve (World.files w.world) file mode).value.2
      (w.resolve formatter file mode).1 := by
  refine ⟨w.probes + (formatter.resolve (World.files w.world) file mode).probes, ?_⟩
  unfold resolve counting
  dsimp only
  -- Whether there is something to run is only logged.
  split
  · exact .refl _
  · exact onlySays_debug _ _

omit [World ω] in
/-- Putting a formatter in place replaces it. -/
theorem replaces_putFormatter (w : Workspace ω) (formatter : Formatter) :
    w.Replaces formatter (w.putFormatter formatter) :=
  ⟨w.probes, .refl _⟩

omit [World ω] in
/-- Setting where binaries are searched for replaces the formatter. -/
theorem replaces_setLocalBins (w : Workspace ω) (formatter : Formatter) (names : List String) :
    w.Replaces { formatter with binaries := (formatter.binaries.setLocalBins names).1 }
      (w.setLocalBins formatter names) :=
  ⟨w.probes, onlySays_noteApplied _ _ _ _⟩

/-- Setting the binary of the user replaces the formatter. -/
theorem replaces_setGlobalBin (w : Workspace ω) (formatter : Formatter) (value : String) :
    w.Replaces
      { formatter with
        binaries := (formatter.binaries.setGlobalBin (World.files w.world) value).value.1 }
      (w.setGlobalBin formatter value) := by
  unfold setGlobalBin
  -- How the finder comes to its binary does not matter.
  generalize formatter.binaries.setGlobalBin (World.files w.world) value = found
  exact ⟨w.probes + found.probes, onlySays_noteApplied _ _ _ _⟩

/-- Setting the configuration files of repositories replaces the formatter. -/
theorem replaces_setLocalConfigs (w : Workspace ω) (formatter : Formatter)
    (candidates : List String) :
    w.Replaces
      { formatter with
        localConfigs :=
          (formatter.localConfigs.setCandidates (World.files w.world) candidates).value.1 }
      (w.setLocalConfigs formatter candidates) := by
  unfold setLocalConfigs
  generalize formatter.localConfigs.setCandidates (World.files w.world) candidates = found
  exact ⟨w.probes + found.probes, onlySays_noteApplied _ _ _ _⟩

/-- Setting the configuration files of the user replaces the formatter. -/
theorem replaces_setGlobalConfigs (w : Workspace ω) (formatter : Formatter)
    (candidates : List String) :
    w.Replaces
      { formatter with
        globalConfigs :=
          (formatter.globalConfigs.setCandidates (World.files w.world) candidates).value.1 }
      (w.setGlobalConfigs formatter candidates) := by
  unfold setGlobalConfigs
  generalize formatter.globalConfigs.setCandidates (World.files w.world) candidates = found
  exact ⟨w.probes + found.probes, onlySays_noteApplied _ _ _ _⟩

end Workspace

end FormatPipeline
