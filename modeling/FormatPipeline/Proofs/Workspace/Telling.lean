import FormatPipeline.Proofs.Service.Exchange
import FormatPipeline.Proofs.Workspace.Errands

/-! What the editor is told: problems as they are to be shown, and work as the busy signal has it. -/

namespace FormatPipeline

open Settings (ErrorHandling)

/-- What comes last counts, unless there is nothing there of what is asked for. -/
theorem latest_append {α β : Type} (part : α → Option β) (history later : List α) :
    latest part (history ++ later) = (latest part later).or (latest part history) := by
  simp [latest, List.findSome?_append]

namespace Outgoing

/-- What a message shows to the user, if it does. -/
def notification? : Outgoing → Option Notification
  | notification content => some content
  | setText .. | setCursor .. | progressStarted _ | progressFinished _ | status _ | commands _ => none

/-- Whether work with the label is in progress, if a message is about it. -/
def progress? (label : String) : Outgoing → Option Bool
  | progressStarted other => if other = label then some true else none
  | progressFinished other => if other = label then some false else none
  | setText .. | setCursor .. | notification _ | status _ | commands _ => none

/-- A message is about one thing that changes: no problem, no progress, and not the commands. -/
structure IsPlain (message : Outgoing) : Prop where
  notification : message.notification? = none
  progress : ∀ label, message.progress? label = none
  commands : ∀ names, message ≠ .commands names

end Outgoing

/-- The message that an event sends, if it does. -/
def Event.message? : Event → Option Outgoing
  | .sent message => some message
  | .log _ | .spawn .. => none

namespace Outlet

/-- The messages to the editor, in their order. -/
def messages (outlet : Outlet) : List Outgoing := (outlet.events.filterMap Event.message?).reverse

/-- An event comes last if it sends a message. -/
theorem messages_record (outlet : Outlet) (event : Event) :
    (outlet.record event).messages = outlet.messages ++ event.message?.toList := by
  cases sent : event.message? <;> simp [record, messages, sent]

/-- Logging sends nothing. -/
@[simp] theorem messages_log (outlet : Outlet) (importance : LogLevel) (text : String) :
    (outlet.log importance text).messages = outlet.messages := by
  unfold log
  split
  · simp [messages_record, Event.message?]
  · rfl

/-- A message comes last if it can be written, whether it can be flushed or not. -/
theorem messages_send_cases (outlet : Outlet) (message : Outgoing) :
    (outlet.send message).messages = outlet.messages ++ [message] ∨
      (outlet.writesLeft = some 0 ∧ (outlet.send message).messages = outlet.messages) := by
  -- The event of a message is recorded before anything can fail.
  have written : ∀ writes flushes, (Outlet.mk outlet.level (.sent message :: outlet.events) writes
      flushes).messages = outlet.messages ++ [message] :=
    fun _ _ => messages_record outlet (.sent message)
  unfold send trySend
  by_cases closed : outlet.writesLeft = some 0
  -- Only a closed outlet drops the message, and a flush that fails comes after the event.
  · exact .inr ⟨closed, by simp [closed]⟩
  · refine .inl ?_
    by_cases stuck : outlet.flushesLeft = some 0
    · simpa [closed, stuck, record] using written _ _
    · simpa [closed, stuck, record] using written _ _

/-- As long as messages can be written, a message comes last, and more can be written. -/
theorem messages_send {outlet : Outlet} (lasting : outlet.writesLeft = none) (message : Outgoing) :
    (outlet.send message).writesLeft = none ∧
      (outlet.send message).messages = outlet.messages ++ [message] := by
  -- An outlet without a limit has no closed end, so that the other case cannot be.
  refine ⟨?_, (messages_send_cases outlet message).resolve_right fun closed => ?_⟩
  · unfold send trySend
    by_cases stuck : outlet.flushesLeft = some 0
    -- The complaint about the flush goes to the log, which needs no write.
    · simp only [lasting, stuck, reduceCtorEq, if_false, if_true, record, Option.map_none]
      exact (saysMore_log _ _ _).lasting rfl
    · simp only [lasting, stuck, reduceCtorEq, if_false, record, Option.map_none]
  · rw [lasting] at closed
    cases closed.1

/-- As long as messages can be written, messages come last in their order. -/
theorem messages_sendAll (messages : List Outgoing) {outlet : Outlet}
    (lasting : outlet.writesLeft = none) :
    (outlet.sendAll messages).writesLeft = none ∧
      (outlet.sendAll messages).messages = outlet.messages ++ messages := by
  -- Messages are sent one by one.
  induction messages generalizing outlet with
  | nil => exact ⟨lasting, (List.append_nil _).symm⟩
  | cons message rest ih =>
    obtain ⟨lasts, first⟩ := messages_send lasting message
    obtain ⟨still, later⟩ := ih lasts
    exact ⟨still, later.trans (by rw [first, List.append_assoc]; rfl)⟩

/-- Of one message all or nothing comes last. -/
theorem exists_messages_send (outlet : Outlet) (message : Outgoing) :
    ∃ reached : List Outgoing, reached.Sublist [message] ∧
      (outlet.send message).messages = outlet.messages ++ reached := by
  rcases messages_send_cases outlet message with sent | ⟨-, same⟩
  · exact ⟨[message], .refl _, sent⟩
  · exact ⟨[], List.nil_sublist _, same.trans (List.append_nil _).symm⟩

/-- Of several messages those come last, in their order, that can be written. -/
theorem exists_messages_sendAll (messages : List Outgoing) (outlet : Outlet) :
    ∃ reached : List Outgoing, reached.Sublist messages ∧
      (outlet.sendAll messages).messages = outlet.messages ++ reached := by
  -- Messages are sent one by one.
  induction messages generalizing outlet with
  | nil => exact ⟨[], .refl _, (List.append_nil _).symm⟩
  | cons message rest ih =>
    obtain ⟨one, first, early⟩ := exists_messages_send outlet message
    obtain ⟨others, later, late⟩ := ih (outlet.send message)
    exact ⟨one ++ others, first.append later, late.trans (by rw [early, List.append_assoc])⟩

end Outlet

/-! ## The busy signal -/

namespace BusySignal

/-- Whether the editor is to show work with the label. -/
def shows (signal : BusySignal) (label : String) : Bool :=
  signal.enabled && signal.labels.contains label

/-- What is told of work that begins is what the signal shows more. -/
theorem shows_add (signal : BusySignal) (now : Nat) (label other : String) :
    (signal.add now label).1.shows other =
      (latest (·.progress? other) (signal.add now label).2).getD (signal.shows other) := by
  -- A signal that is off shows nothing and tells nothing.
  cases on : signal.enabled with
  | false => simp [add, shows, whenEnabled, on, latest]
  | true =>
    -- What begins is its own label, and the others are shown as before.
    by_cases same : label = other
    · simp [add, shows, labels, whenEnabled, on, latest, Outgoing.progress?, same]
    · simp [add, shows, labels, whenEnabled, on, latest, Outgoing.progress?, same, Ne.symm same]

/-- Taking out an entry of one label leaves those of others. -/
theorem contains_labels_eraseP (entries : List BusyEntry) {label other : String}
    (different : label ≠ other) :
    ((entries.eraseP (·.label == label)).map (·.label)).contains other =
      (entries.map (·.label)).contains other := by
  induction entries with
  | nil => rfl
  | cons entry rest ih =>
    -- Either the first entry is the one that is taken out, or it stays in front.
    by_cases here : entry.label = label
    · simp [here, Ne.symm different]
    · simp only [List.eraseP_cons, beq_eq_false_iff_ne.mpr here, cond_false, List.map_cons,
        List.contains_cons, ih]

/-- What is told of work that ends is what the signal does not show any more. -/
theorem shows_remove (signal : BusySignal) (now : Nat) (label other : String) :
    (signal.remove now label).1.shows other =
      (latest (·.progress? other) (signal.remove now label).2.1).getD (signal.shows other) := by
  -- Nothing ends where no work has the label.
  unfold remove
  cases found : signal.entries.find? (·.label == label) with
  | none => simp [latest]
  | some entry =>
    -- A signal that is off shows nothing before and after.
    cases on : signal.enabled with
    | false => simp [shows, whenEnabled, on, latest]
    | true =>
      dsimp only
      by_cases same : label = other
      · -- The label goes with the last work that has it.
        subst same
        have before : signal.labels.contains label := by
          have named : entry.label = label := by simpa using List.find?_some found
          simpa [labels] using ⟨entry, List.mem_of_find?_eq_some found, named⟩
        cases more : (signal.entries.eraseP (·.label == label)).any (·.label == label) with
        | true =>
          have after : ((signal.entries.eraseP (·.label == label)).map (·.label)).contains label := by
            simpa using more
          simp only [shows, labels, whenEnabled, on, if_true, latest, List.reverse_nil,
            List.findSome?_nil, Option.getD_none, Bool.true_and, after]
          exact before.symm
        | false =>
          have after : ((signal.entries.eraseP (·.label == label)).map (·.label)).contains label =
              false := by
            simpa using more
          simp only [shows, labels, whenEnabled, on, if_true, Bool.true_and, after]
          simp [latest, Outgoing.progress?]
      · -- Other labels stay as they are.
        have kept := contains_labels_eraseP signal.entries same
        have silent : ∀ last : Bool, latest (·.progress? other)
            (if last then [] else [Outgoing.progressFinished label]) = none := by
          intro last
          cases last <;> simp [latest, Outgoing.progress?, same]
        simp only [shows, labels, whenEnabled, on, if_true, Bool.true_and, silent, Option.getD_none]
        exact kept

/-- What is told of all labels at once is what the signal shows when it is turned on or off. -/
theorem shows_setEnabled (signal : BusySignal) (enabled : Bool) (label : String) :
    (signal.setEnabled enabled).1.shows label =
      (latest (·.progress? label) (signal.setEnabled enabled).2).getD (signal.shows label) := by
  have each : ∀ labels : List String, latest (·.progress? label) (labels.map fun other =>
      if enabled then Outgoing.progressStarted other else .progressFinished other) =
      if labels.contains label then some enabled else none := by
    intro labels
    induction labels with
    | nil => rfl
    | cons other rest ih =>
      rw [List.map_cons, ← List.singleton_append, latest_append, ih]
      -- All labels are told the same of, so that it does not matter which entry is the last.
      by_cases later : label ∈ rest
      · simp [later]
      · by_cases same : other = label
        · cases enabled <;> simp [latest, Outgoing.progress?, later, same]
        · cases enabled <;> simp [latest, Outgoing.progress?, later, same, Ne.symm same]
  unfold setEnabled
  by_cases same : signal.enabled = enabled
  · simp [same, latest]
  · rw [if_neg same]
    dsimp only
    rw [each]
    -- Without the label nothing is shown before or after.
    have before : signal.shows label = (signal.enabled && signal.labels.contains label) := rfl
    have after : BusySignal.shows { signal with enabled := enabled } label =
        (enabled && signal.labels.contains label) := rfl
    by_cases listed : label ∈ signal.labels <;> simp [before, after, listed]

end BusySignal

namespace Workspace

variable {ω : Type}

/-- The editor is told something, and the busy signal shows just what it was told of work. -/
structure Tells (w : Workspace ω) (told : List Outgoing) (later : Workspace ω) : Prop where
  sent : w.outlet.writesLeft = none →
    later.outlet.writesLeft = none ∧ later.outlet.messages = w.outlet.messages ++ told
  /-- Nothing else is sent when not everything can be written any more. -/
  reached : ∃ reached : List Outgoing, reached.Sublist told ∧
    later.outlet.messages = w.outlet.messages ++ reached
  shows : ∀ label,
    later.busy.shows label = (latest (·.progress? label) told).getD (w.busy.shows label)
  /-- The commands are told before any work begins. -/
  commands : ∀ names, .commands names ∉ told

/-- One thing after another can be told. -/
theorem Tells.trans {w mid later : Workspace ω} {first second : List Outgoing}
    (before : w.Tells first mid) (after : mid.Tells second later) :
    w.Tells (first ++ second) later where
  -- The texts are put one behind the other, and what is told last of a label counts.
  sent lasting := by
    obtain ⟨lasts, early⟩ := before.sent lasting
    obtain ⟨still, late⟩ := after.sent lasts
    exact ⟨still, by rw [late, early, List.append_assoc]⟩
  reached := by
    obtain ⟨one, part, early⟩ := before.reached
    obtain ⟨other, rest, late⟩ := after.reached
    exact ⟨one ++ other, part.append rest, by rw [late, early, List.append_assoc]⟩
  shows label := by
    rw [after.shows, before.shows, latest_append]
    cases latest (·.progress? label) second <;> rfl
  commands names member :=
    (List.mem_append.mp member).elim (before.commands names) (after.commands names)

/-- Where nothing is sent and the busy signal stays the same, nothing is told. -/
theorem Tells.of_same {w later : Workspace ω}
    (lasting : w.outlet.writesLeft = none → later.outlet.writesLeft = none)
    (messages : later.outlet.messages = w.outlet.messages) (busy : later.busy = w.busy) :
    w.Tells [] later where
  sent lasts := ⟨lasting lasts, messages.trans (List.append_nil _).symm⟩
  reached := ⟨[], .refl _, messages.trans (List.append_nil _).symm⟩
  -- No message tells of the label, so it is shown as before.
  shows label := by simp [busy, latest]
  commands := by simp

/-- The editor is told something or nothing. -/
def Talks (w later : Workspace ω) : Prop := ∃ told, w.Tells told later

/-- Talking can go on. -/
theorem Talks.trans {w mid later : Workspace ω} (first : w.Talks mid) (second : mid.Talks later) :
    w.Talks later := by
  obtain ⟨told, before⟩ := first
  obtain ⟨more, after⟩ := second
  exact ⟨_, before.trans after⟩

/-- A change of which nothing is sent is no talk. -/
theorem Talks.of_same {w later : Workspace ω} (outlet : later.outlet = w.outlet)
    (busy : later.busy = w.busy) : w.Talks later :=
  ⟨[], .of_same (by rw [outlet]; exact id) (by rw [outlet]) busy⟩

/-- A change of which nothing is sent can come before any talk. -/
theorem Talks.after {w mid later : Workspace ω} (talks : mid.Talks later)
    (outlet : mid.outlet = w.outlet) (busy : mid.busy = w.busy) : w.Talks later :=
  (Talks.of_same outlet busy).trans talks

/-! ## Problems -/

/-- How a problem is shown to the user, if it is. -/
def noticeOf (handling : ErrorHandling) (problem : Problem) : Option Notification :=
  match handling with
  | .hide => none
  | .showing => some ⟨titleOf problem, problem.detail, true⟩
  | .standard => some ⟨titleOf problem, problem.detail, false⟩

/-- Problems are shown as far as the error handling allows, and nothing else is shown to the user. -/
structure Reports (w : Workspace ω) (problems : List Problem) (later : Workspace ω) : Prop where
  handling : later.handling = w.handling
  told : ∃ told, w.Tells told later ∧
    told.filterMap (·.notification?) = problems.filterMap (noticeOf w.handling)

namespace Reports

/-- What reports problems tells something or nothing. -/
theorem talks {w later : Workspace ω} {problems : List Problem} (reports : w.Reports problems later) :
    w.Talks later := by
  obtain ⟨told, tells, -⟩ := reports.told
  exact ⟨told, tells⟩

/-- Further problems come behind. -/
theorem trans {w mid later : Workspace ω} {first second : List Problem}
    (before : w.Reports first mid) (after : mid.Reports second later) :
    w.Reports (first ++ second) later := by
  -- Problems are filtered from what is told, and that is one text behind another.
  obtain ⟨told, tells, shown⟩ := before.told
  obtain ⟨more, goesOn, last⟩ := after.told
  rw [before.handling] at last
  refine ⟨after.handling.trans before.handling, _, tells.trans goesOn, ?_⟩
  rw [List.filterMap_append, List.filterMap_append, shown, last]

/-- Where nothing is sent and the busy signal stays the same, no problem is reported. -/
theorem of_same {w later : Workspace ω}
    (lasting : w.outlet.writesLeft = none → later.outlet.writesLeft = none)
    (messages : later.outlet.messages = w.outlet.messages) (busy : later.busy = w.busy)
    (handling : later.handling = w.handling) : w.Reports [] later :=
  ⟨handling, [], .of_same lasting messages busy, rfl⟩

/-- A change of which nothing is said reports no problem. -/
theorem of_silent {w later : Workspace ω} (outlet : later.outlet = w.outlet)
    (busy : later.busy = w.busy) (handling : later.handling = w.handling) : w.Reports [] later :=
  of_same (by rw [outlet]; exact id) (by rw [outlet]) busy handling

end Reports

/-- A change of which nothing is said can come before any problem. -/
theorem Reports.after {w mid later : Workspace ω} {problems : List Problem}
    (reports : mid.Reports problems later) (outlet : mid.outlet = w.outlet)
    (busy : mid.busy = w.busy) (handling : mid.handling = w.handling) : w.Reports problems later :=
  (Reports.of_silent outlet busy handling).trans reports

/-- Logging reports no problem, not even a warning. -/
theorem reports_log (w : Workspace ω) (importance : LogLevel) (text : String) :
    w.Reports [] { w with outlet := w.outlet.log importance text } :=
  .of_same (Outlet.saysMore_log _ _ _).lasting (Outlet.messages_log _ _ _) rfl rfl

/-- Logging what helps to find mistakes reports no problem. -/
theorem reports_debug (w : Workspace ω) (text : String) : w.Reports [] (w.debug text) :=
  reports_log w .debug text

/-- A message that is about no work is told as it is. -/
theorem tells_send (w : Workspace ω) {message : Outgoing}
    (progress : ∀ label, message.progress? label = none)
    (commands : ∀ names, message ≠ .commands names) : w.Tells [message] (w.send message) where
  sent lasting := Outlet.messages_send lasting message
  reached := Outlet.exists_messages_send w.outlet message
  shows label := by simp [latest, progress, send]
  commands names member := commands names (List.mem_singleton.mp member).symm

/-- A plain message reports no problem. -/
theorem reports_send (w : Workspace ω) {message : Outgoing} (plain : message.IsPlain) :
    w.Reports [] (w.send message) :=
  ⟨rfl, [message], tells_send w plain.progress plain.commands, by simp [plain.notification]⟩

/-- A problem is reported as the error handling asks for. -/
theorem reports_report (w : Workspace ω) (problem : Problem) :
    w.Reports [problem] (w.report problem) := by
  have logged := reports_debug w (titleOf problem ++ " (" ++ problem.detail.getD "no detail" ++ ")")
  have shown : ∀ (logged : Workspace ω) content, logged.handling = w.handling →
      noticeOf w.handling problem = some content →
      logged.Reports [problem] (logged.send (.notification content)) := by
    intro logged content same notice
    refine ⟨rfl, _, tells_send logged (fun _ => rfl) fun _ => by simp, ?_⟩
    simp [Outgoing.notification?, same, notice]
  unfold report
  dsimp only
  cases handling : w.handling with
  | hide =>
    -- Nothing is shown of a problem that is to be hidden.
    rw [show (w.debug _).handling = .hide from handling]
    obtain ⟨told, tells, quiet⟩ := logged.told
    exact ⟨logged.handling, told, tells, quiet.trans (by rw [handling]; rfl)⟩
  | showing =>
    rw [show (w.debug _).handling = .showing from handling]
    exact logged.trans (shown _ _ logged.handling (by rw [handling]; rfl))
  | standard =>
    rw [show (w.debug _).handling = .standard from handling]
    exact logged.trans (shown _ _ logged.handling (by rw [handling]; rfl))

/-! ## Work in progress -/

/-- What the busy signal tells of work is no problem. -/
theorem reports_busy (w : Workspace ω) (busy : BusySignal) {messages : List Outgoing}
    (shows : ∀ label,
      busy.shows label = (latest (·.progress? label) messages).getD (w.busy.shows label))
    (progress : ∀ message ∈ messages, ∃ label, message.progress? label ≠ none) :
    w.Reports [] { w with busy := busy, outlet := w.outlet.sendAll messages } := by
  -- Every message of the signal is about a label, so that none of them is a problem.
  refine ⟨rfl, messages, ⟨Outlet.messages_sendAll messages, Outlet.exists_messages_sendAll messages _,
    shows, fun names member => ?_⟩, ?_⟩
  · obtain ⟨label, about⟩ := progress _ member
    exact about rfl
  -- A notification is about no label.
  · refine List.filterMap_eq_nil_iff.mpr fun message member => ?_
    obtain ⟨label, about⟩ := progress message member
    cases message with
    | notification => exact absurd rfl about
    | setText | setCursor | progressStarted | progressFinished | status | commands => rfl

/-- What is told of work while the signal is on is about work if it is anyway. -/
theorem progress?_whenEnabled (signal : BusySignal) {messages : List Outgoing}
    (progress : ∀ message ∈ messages, ∃ label, message.progress? label ≠ none) :
    ∀ message ∈ signal.whenEnabled messages, ∃ label, message.progress? label ≠ none := by
  unfold BusySignal.whenEnabled
  split
  · exact progress
  · simp

/-- Work that begins is no problem. -/
theorem reports_beginBusy (w : Workspace ω) (now : Nat) (label : String) :
    w.Reports [] (w.beginBusy now label) := by
  refine reports_busy w _ (w.busy.shows_add now label) (progress?_whenEnabled w.busy ?_)
  simpa using ⟨label, by simp [Outgoing.progress?]⟩

/-- Work that ends is no problem. -/
theorem reports_endBusy (w : Workspace ω) (now : Nat) (label : String) :
    w.Reports [] (w.endBusy now label).1 := by
  -- What is told of the end is the one label, or nothing if it is still in use.
  have progress : ∀ message ∈ (w.busy.remove now label).2.1,
      ∃ label, message.progress? label ≠ none := by
    unfold BusySignal.remove
    split
    · simp
    · -- At most the end of this label is told.
      refine progress?_whenEnabled w.busy ?_
      split
      · simp
      · simpa using ⟨label, by simp [Outgoing.progress?]⟩
  exact reports_busy w _ (w.busy.shows_remove now label) progress

/-- Work that ends is logged, and it is no problem. -/
theorem reports_endBusyLogged (w : Workspace ω) (now : Nat) (label : String) :
    w.Reports [] (w.endBusyLogged now label) := by
  -- The label may be gone before, and then nothing is logged.
  have ended := reports_endBusy w now label
  unfold endBusyLogged
  split
  next later same =>
    rw [same] at ended
    exact ended
  next later duration same =>
    rw [same] at ended
    exact ended.trans (reports_debug _ _)

/-- Turning the busy signal on or off is no problem. -/
theorem reports_setBusyEnabled (w : Workspace ω) (enabled : Bool) :
    w.Reports [] (w.setBusyEnabled enabled) := by
  -- Turning the signal over tells only of labels that are in use.
  have progress : ∀ message ∈ (w.busy.setEnabled enabled).2,
      ∃ label, message.progress? label ≠ none := by
    intro message member
    unfold BusySignal.setEnabled at member
    split at member
    · cases member
    · -- Each label is put up or taken down.
      obtain ⟨label, -, rfl⟩ := List.mem_map.mp member
      refine ⟨label, ?_⟩
      split <;> simp [Outgoing.progress?]
  exact reports_busy w _ (w.busy.shows_setEnabled enabled) progress

/-! ## Formatters and their processes -/

/-- Putting a text into a document is no problem. -/
theorem reports_setText (w : Workspace ω) (handle : Handle) (text : String) :
    w.Reports [] (w.setText handle text) := by
  unfold setText
  split
  · exact .of_silent rfl rfl rfl
  · exact (reports_send _ ⟨rfl, fun _ => rfl, fun _ => by simp⟩).after rfl rfl rfl

/-- Moving a cursor is no problem. -/
theorem reports_setCursor (w : Workspace ω) (handle : Handle) (position : Position) :
    w.Reports [] (w.setCursor handle position) := by
  unfold setCursor
  split
  · exact .of_silent rfl rfl rfl
  · exact (reports_send _ ⟨rfl, fun _ => rfl, fun _ => by simp⟩).after rfl rfl rfl

/-- What a process that ended leaves behind are its problems. -/
theorem reports_finishProcess (w : Workspace ω) (flight : InFlight) :
    w.Reports flight.problems (w.finishProcess flight).1 := by
  have spoken := spoken_of_each (R := fun problems w later => w.Reports problems later)
    (fun _ => .of_silent rfl rfl rfl) .trans reports_debug reports_report w flight
  rw [finishProcess_eq]
  generalize flight.problems.foldl report (flight.remarks.foldl debug w) = said at spoken ⊢
  unfold takeOutput
  -- Output that replaces a buffer is no problem.
  split
  next output _ _ =>
    have written := (reports_setText said flight.document output.stdout).trans
      (reports_setCursor _ flight.document flight.cursor)
    simpa using spoken.trans written
  next => exact spoken

variable [World ω]

/-- Resolving is no problem. -/
theorem reports_resolve (w : Workspace ω) (formatter : Formatter) (file : Path) (mode : Mode) :
    w.Reports [] (w.resolve formatter file mode).1 := by
  unfold resolve counting
  dsimp only
  -- What was found is only logged.
  split
  · exact .of_silent rfl rfl rfl
  · exact (reports_debug _ _).after rfl rfl rfl

/-- Starting a process is no problem. -/
theorem reports_startProcess (w : Workspace ω) (handle : Handle) (document : Document) (binary : Path)
    (arguments : List String) (mode : Mode) :
    w.Reports [] (w.startProcess handle document binary arguments mode).1 := by
  refine (reports_debug w ("Running: " ++ Shell.commandLine binary arguments)).trans
    (.of_same id ?_ rfl rfl)
  exact (Outlet.messages_record _ _).trans (List.append_nil _)

/-- The problems of a formatter when it starts. -/
def formatProblems (w : Workspace ω) (formatter : Formatter) (handle : Handle) (document : Document)
    (mode : Mode) : List Problem :=
  match w.resolve formatter document.path mode with
  | (_, none) => [.binaryNotFound formatter.name]
  | (w, some invocation) =>
    let (_, delay, flight) :=
      w.startProcess handle document invocation.binary invocation.arguments mode
    -- The problems of a process that runs on are told when it has ended.
    if delay = 0 then flight.problems else []

/-- What a formatter reports when it starts are its problems. -/
theorem reports_beginFormat (w : Workspace ω) (formatter : Formatter) (handle : Handle)
    (document : Document) (mode : Mode) :
    w.Reports (w.formatProblems formatter handle document mode)
      (w.beginFormat formatter handle document mode).1 := by
  have resolved := reports_resolve w formatter document.path mode
  unfold beginFormat formatProblems
  generalize w.resolve formatter document.path mode = resolution at resolved ⊢
  obtain ⟨mid, found⟩ := resolution
  cases found with
  | none => exact resolved.trans (reports_report mid _)
  | some invocation =>
    have started := resolved.trans
      (reports_startProcess mid handle document invocation.binary invocation.arguments mode)
    dsimp only
    generalize mid.startProcess handle document invocation.binary invocation.arguments mode =
      launched at started ⊢
    obtain ⟨later, delay, flight⟩ := launched
    dsimp only at started ⊢
    -- A process that takes no time has ended before anything else happens.
    by_cases instant : delay = 0
    · simpa [instant] using started.trans (reports_finishProcess later flight)
    · simpa [instant] using started

/-! ## Chains -/

/-- The problems of formatters that run in order, until one has to be waited for. -/
def chainProblems (now : Nat) (run : ChainRun) : List String → Workspace ω → List Problem
  | [], _ => []
  | name :: rest, w =>
    match w.formatter? name, w.document? run.document with
    | some formatter, some document =>
      let w := w.beginBusy now (run.stepLabel name)
      w.formatProblems formatter run.document document run.mode ++
        match w.beginFormat formatter run.document document run.mode with
        | (_, .running ..) => []
        | (w, .done outcome) =>
          chainProblems now (run.record name (some outcome)) rest
            (w.endBusyLogged now (run.stepLabel name))
    | _, _ =>
      .unknownFormatter name ::
        chainProblems now (run.record name none) rest (w.report (.unknownFormatter name))

/-- What formatters that run in order report are their problems. -/
theorem reports_runChain (now : Nat) (run : ChainRun) (names : List String) (w : Workspace ω) :
    w.Reports (chainProblems now run names w) (runChain now run names w).1 := by
  -- The induction is on the names, as the chain runs them; the end of the chain is no problem.
  induction names generalizing run w with
  | nil => exact (reports_endBusyLogged w now run.label).trans (.of_silent rfl rfl rfl)
  | cons name rest ih =>
    -- A name without a formatter and a document without a mirror lead to the same report.
    have unknown := (reports_report w (.unknownFormatter name)).trans (ih (run.record name none) _)
    unfold chainProblems runChain
    cases w.formatter? name with
    | none => exact unknown
    | some formatter =>
      cases w.document? run.document with
      | none => exact unknown
      | some document =>
        have begun := (reports_beginBusy w now (run.stepLabel name)).trans
          (reports_beginFormat _ formatter run.document document run.mode)
        dsimp only
        generalize (w.beginBusy now (run.stepLabel name)).formatProblems formatter run.document document
          run.mode = problems at begun ⊢
        generalize (w.beginBusy now (run.stepLabel name)).beginFormat formatter run.document document
          run.mode = result at begun ⊢
        obtain ⟨mid, outcome | ⟨delay, scope, flight⟩⟩ := result
        · -- The label of the formatter ends before the rest of the chain begins.
          exact begun.trans ((reports_endBusyLogged mid now _).trans (ih _ _))
        · simpa using begun

/-- The problems of an errand when it begins. -/
def errandProblems (now : Nat) (errand : Errand) (w : Workspace ω) : List Problem :=
  match w.chainOf? errand, errand with
  | some (handle, names, mode), _ =>
    let run := w.chainRun errand.number handle mode
    -- A chain without formatters has no problem at all.
    if names = [] then [] else chainProblems now run names (w.beginBusy now run.label)
  | none, .formatActive _ =>
    if w.documents.active?.isSome then [.configuration (.orderNotDefined .format)] else []
  | none, .formatSaved _ _ => [.configuration (.orderNotDefined .save)]
  | none, .single _ name handle mode =>
    match w.formatter? name, w.document? handle with
    | some formatter, some document => w.formatProblems formatter handle document mode
    | _, _ => []
  | none, .runOnActive .. | none, .chain .. => []

/-- The problems of work that goes on when a process has ended. -/
def wakeProblems (now : Nat) (sleeper : Sleeper) (w : Workspace ω) : List Problem :=
  match sleeper with
  | .single _ _ flight => flight.problems
  | .chain run name rest scope flight =>
    let (later, result) := w.finishProcess flight
    flight.problems ++ chainProblems now (run.record name (some (.ran scope result))) rest
      (later.endBusyLogged now (run.stepLabel name))

omit [World ω] in
/-- Keeping a result reports no problem. -/
theorem reports_finish (w : Workspace ω) (number : Nat) (result : Result) :
    w.Reports [] (w.finish number result) := .of_silent rfl rfl rfl

/-- A chain that is started reports the problems of its formatters. -/
theorem reports_startChain (now number : Nat) (handle : Handle) (names : List String) (mode : Mode)
    (w : Workspace ω) :
    w.Reports
      (if names = [] then []
        else chainProblems now (w.chainRun number handle mode) names
          (w.beginBusy now (w.chainRun number handle mode).label))
      (startChain now number handle names mode w).1 := by
  -- A chain without names ends at once, and nothing is reported of it.
  by_cases empty : names = []
  · subst empty
    exact (reports_endBusy w now _).trans (reports_finish _ _ _)
  · rw [if_neg empty, startChain_of_ne_nil now number handle empty]
    exact (reports_beginBusy w now _).trans (reports_runChain now _ names _)

/-- An errand that begins reports its problems. -/
theorem reports_startErrand (now : Nat) (errand : Errand) (w : Workspace ω) :
    w.Reports (errandProblems now errand w) (startErrand now errand w).1 := by
  -- Work that begins nothing logs or reports why, and keeps an empty result.
  have noDocument : ∀ number, w.Reports [] (w.finishWithoutDocument number) :=
    fun number => (reports_debug w _).trans (reports_finish _ number _)
  have noOrder : ∀ number kind, w.Reports [.configuration (.orderNotDefined kind)]
      ((w.report (.configuration (.orderNotDefined kind))).finish number (.chain [])) :=
    fun number _ => (reports_report w _).trans (reports_finish _ number _)
  cases errand with
  | formatActive number =>
    cases active : w.documents.active? with
    | none => simpa [startErrand, errandProblems, chainOf?, active] using noDocument number
    | some handle =>
      -- An order without formatters is reported instead of being run.
      by_cases empty : w.coordination.formatOrder = []
      · simpa [startErrand, errandProblems, chainOf?, active, empty] using noOrder number .format
      · have started := reports_startChain now number handle w.coordination.formatOrder .buffer w
        simpa [startErrand, errandProblems, chainOf?, Errand.number, active, empty] using started
  | runOnActive number formatter =>
    cases active : w.documents.active? with
    | none => simpa [startErrand, errandProblems, chainOf?, active] using noDocument number
    | some handle =>
      have started := reports_startChain now number handle [formatter] .buffer w
      simpa [startErrand, errandProblems, chainOf?, Errand.number, active] using started
  | formatSaved number handle =>
    by_cases empty : w.coordination.saveOrder = []
    · simpa [startErrand, errandProblems, chainOf?, empty] using noOrder number .save
    · have started := reports_startChain now number handle w.coordination.saveOrder .file w
      simpa [startErrand, errandProblems, chainOf?, Errand.number, empty] using started
  | chain number handle names mode => exact reports_startChain now number handle names mode w
  | single number name handle mode =>
    simp only [startErrand, errandProblems, chainOf?]
    -- A formatter on its own keeps its outcome when it has one at once.
    cases w.formatter? name with
    | none => exact reports_finish w number _
    | some formatter =>
      cases w.document? handle with
      | none => exact reports_finish w number _
      | some document =>
        have begun := reports_beginFormat w formatter handle document mode
        dsimp only
        generalize w.beginFormat formatter handle document mode = result at begun ⊢
        obtain ⟨mid, outcome | ⟨delay, scope, flight⟩⟩ := result
        · simpa using begun.trans (reports_finish mid number (.single outcome))
        · exact begun

/-- Work that goes on when a process has ended reports its problems. -/
theorem reports_wakeSleeper (now : Nat) (sleeper : Sleeper) (w : Workspace ω) :
    w.Reports (wakeProblems now sleeper w) (wakeSleeper now sleeper w).1 := by
  -- A single formatter is followed by its result, and one of a chain by the rest of the chain.
  cases sleeper with
  | single number scope flight =>
    simpa [wakeProblems, wakeSleeper] using
      (reports_finishProcess w flight).trans (reports_finish _ number _)
  | chain run name rest scope flight =>
    have ended := (reports_finishProcess w flight).trans
      (reports_endBusyLogged _ now (run.stepLabel name))
    rw [List.append_nil] at ended
    exact ended.trans (reports_runChain now _ rest _)

end Workspace

end FormatPipeline
