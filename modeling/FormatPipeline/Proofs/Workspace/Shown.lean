import FormatPipeline.Proofs.Workspace.Telling
import FormatPipeline.Proofs.Workspace.Uncoded

/-! What work on documents shows outside the log: processes that start and messages, in their order. -/

namespace FormatPipeline

open Settings (ErrorHandling)

namespace Outlet

/-- Something happens outside the log; a message has to be written. -/
def act (outlet : Outlet) : Event → Outlet
  | .sent message => outlet.send message
  | .log text => outlet.record (.log text)
  | .spawn line stdin => outlet.record (.spawn line stdin)

/-- Events have happened, one after another, and apart from them there were only log texts. -/
def Shows (outlet : Outlet) (events : List Event) (later : Outlet) : Prop :=
  later.hushed = events.foldl act outlet.hushed

/-- Everything that has happened outside the log, in its order. -/
def shown (outlet : Outlet) : List Event := outlet.hushed.events.reverse

namespace Shows

/-- Nothing has to happen. -/
theorem refl (outlet : Outlet) : outlet.Shows [] outlet := rfl

/-- Further events come behind. -/
theorem trans {outlet mid later : Outlet} {first second : List Event}
    (before : outlet.Shows first mid) (after : mid.Shows second later) :
    outlet.Shows (first ++ second) later := by
  unfold Shows at before after ⊢
  rw [List.foldl_append, ← before, after]

end Shows

/-- Logging shows nothing. -/
theorem shows_log (outlet : Outlet) (importance : LogLevel) (text : String) :
    outlet.Shows [] (outlet.log importance text) := hushed_log outlet importance text

/-- A message that is sent is shown if it can be written. -/
theorem shows_send (outlet : Outlet) (message : Outgoing) :
    outlet.Shows [.sent message] (outlet.send message) := hushed_send outlet message

/-- Messages are shown in their order. -/
theorem shows_sendAll (outlet : Outlet) (messages : List Outgoing) :
    outlet.Shows (messages.map .sent) (outlet.sendAll messages) := by
  unfold Shows
  rw [hushed_sendAll, List.foldl_map]
  rfl

/-- What is shown does not bring the log back. -/
theorem level_act {outlet : Outlet} (event : Event) : (outlet.act event).level = outlet.level := by
  -- Only messages go through the limits of the outlet, and they leave the level.
  cases event with
  | log | spawn => rfl
  | sent message =>
    unfold act send trySend
    -- A complaint about the connection goes to the log, if there is one.
    by_cases closed : outlet.writesLeft = some 0
    · simp only [closed, if_true, log]
      split <;> rfl
    · by_cases stuck : outlet.flushesLeft = some 0
      · simp only [closed, stuck, if_true, if_false, log]
        split <;> rfl
      · simp only [closed, stuck, if_false]
        rfl

/-- Without a log a message is written, or nothing happens. -/
theorem send_of_silent {outlet : Outlet} (silent : outlet.level = .silent) (message : Outgoing) :
    (outlet.send message).events =
        (if outlet.writesLeft = some 0 then [] else [.sent message]) ++ outlet.events ∧
      (outlet.send message).writesLeft = outlet.writesLeft.map (· - 1) := by
  obtain ⟨level, events, writes, flushes⟩ := outlet
  obtain rfl : level = .silent := silent
  unfold send trySend
  -- Neither the closed nor the stuck connection is complained of.
  by_cases closed : writes = some 0
  · subst closed
    exact ⟨rfl, rfl⟩
  -- A flush that fails comes after the message was written.
  · by_cases stuck : flushes = some 0
    · subst stuck
      simp only [closed, if_false, if_true]
      exact ⟨rfl, rfl⟩
    · simp [closed, stuck, record]

/-- What is left of messages when only so many can be written. -/
def admitted (messages : List Outgoing) : Option Nat → List Outgoing
  | none => messages
  | some count => messages.take count

/-- Messages are admitted from the first one on. -/
theorem admitted_isPrefixOf (messages : List Outgoing) (left : Option Nat) :
    admitted messages left <+: messages := by
  cases left with
  | none => exact List.prefix_refl _
  | some count => exact List.take_prefix _ _

/-- Without a log the messages of events are sent as long as any can be written. -/
theorem messages_foldl_act (events : List Event) {outlet : Outlet} (silent : outlet.level = .silent) :
    (events.foldl act outlet).messages =
      outlet.messages ++ admitted (events.filterMap Event.message?) outlet.writesLeft := by
  induction events generalizing outlet with
  | nil => cases outlet.writesLeft <;> simp [admitted]
  | cons event rest ih =>
    have kept : (outlet.act event).level = .silent := (level_act event).trans silent
    rw [List.foldl_cons, ih kept]
    cases event with
    | log text | spawn line stdin =>
      -- Neither a log text nor a process takes anything away from the messages.
      simp only [act, messages_record, Event.message?, Option.toList_none, List.append_nil,
        List.filterMap_cons]
      rfl
    | sent message =>
      obtain ⟨written, left⟩ := send_of_silent silent message
      have messages : (outlet.act (.sent message)).messages = outlet.messages ++
          (if outlet.writesLeft = some 0 then [] else [message]) := by
        unfold Outlet.messages
        simp only [act, written]
        split <;> simp [Event.message?]
      rw [messages, List.append_assoc]
      congr 1
      simp only [act, left, List.filterMap_cons, Event.message?]
      -- One message less can be written behind it.
      cases outlet.writesLeft with
      | none => rfl
      | some count => cases count <;> simp [admitted]

/-- Without a log, and as long as all messages can be written, just the events have happened. -/
theorem events_foldl_act (events : List Event) {outlet : Outlet} (silent : outlet.level = .silent)
    (lasting : outlet.writesLeft = none) :
    (events.foldl act outlet).events = events.reverse ++ outlet.events ∧
      (events.foldl act outlet).writesLeft = none := by
  -- The induction is on the events; the log stays silent and the connection open.
  induction events generalizing outlet with
  | nil => exact ⟨rfl, lasting⟩
  | cons event rest ih =>
    have kept : (outlet.act event).level = .silent := (level_act event).trans silent
    -- The event is recorded, since nothing limits the messages.
    have happened : (outlet.act event).events = event :: outlet.events ∧
        (outlet.act event).writesLeft = none := by
      cases event with
      | log | spawn => exact ⟨rfl, lasting⟩
      | sent message =>
        obtain ⟨written, left⟩ := send_of_silent silent message
        simp only [act, written, left, lasting]
        exact ⟨rfl, rfl⟩
    obtain ⟨later, lasts⟩ := ih kept happened.2
    exact ⟨by rw [List.foldl_cons, later, happened.1]; simp, lasts⟩

/-- The way out without the log logs nothing. -/
theorem level_hushed (outlet : Outlet) : outlet.hushed.level = .silent := rfl

/-- The messages are those of the events outside the log. -/
theorem messages_hushed (outlet : Outlet) : outlet.hushed.messages = outlet.messages := by
  simp only [messages, hushed, List.filterMap_filter]
  congr
  funext event
  cases event <;> rfl

/-- Of the messages that are shown those are sent that can be written. -/
theorem Shows.messages {outlet later : Outlet} {events : List Event} (shows : outlet.Shows events later) :
    later.messages = outlet.messages ++
      admitted (events.filterMap Event.message?) outlet.writesLeft := by
  have same := messages_foldl_act events (level_hushed outlet)
  rw [← shows, messages_hushed, messages_hushed] at same
  exact same

/-- As long as all messages can be written, everything that is shown has happened. -/
theorem Shows.shown {outlet later : Outlet} {events : List Event} (shows : outlet.Shows events later)
    (lasting : outlet.writesLeft = none) :
    later.shown = outlet.shown ++ events ∧ later.writesLeft = none := by
  obtain ⟨happened, lasts⟩ := events_foldl_act events (level_hushed outlet) lasting
  rw [← shows] at happened lasts
  exact ⟨by simp [Outlet.shown, happened], lasts⟩

end Outlet

/-- The document with another text and the cursor at an existing position in it. -/
def Document.placed (document : Document) (text : String) (position : Position) : Document :=
  { document with text := text, cursor := position.clamp text }

namespace Workspace

variable {ω : Type}

/-! ## Problems and the busy signal -/

/-- The events in which a problem is shown to the user, if it is. -/
def noticeEvents (handling : ErrorHandling) (problem : Problem) : List Event :=
  (noticeOf handling problem).toList.map fun notice => .sent (.notification notice)

/-- A problem is shown as the error handling asks for. -/
theorem shows_report (w : Workspace ω) (problem : Problem) :
    w.outlet.Shows (noticeEvents w.handling problem) (w.report problem).outlet := by
  unfold report noticeEvents noticeOf debug send
  cases w.handling with
  | hide => exact Outlet.shows_log _ _ _
  | showing | standard => exact (Outlet.shows_log _ _ _).trans (Outlet.shows_send _ _)

/-- A workspace differs from an earlier one only in events that have happened, and in its log. -/
def OnlyShows (w : Workspace ω) (events : List Event) (later : Workspace ω) : Prop :=
  ∃ outlet, w.outlet.Shows events outlet ∧ later = { w with outlet := outlet }

namespace OnlyShows

/-- Nothing has to happen. -/
theorem refl (w : Workspace ω) : w.OnlyShows [] w := ⟨w.outlet, .refl _, rfl⟩

/-- Further events come behind. -/
theorem trans {w mid later : Workspace ω} {first second : List Event}
    (before : w.OnlyShows first mid) (after : mid.OnlyShows second later) :
    w.OnlyShows (first ++ second) later := by
  obtain ⟨outlet, shows, rfl⟩ := before
  obtain ⟨final, still, rfl⟩ := after
  exact ⟨final, shows.trans still, rfl⟩

/-- What happens does not change how problems are shown. -/
theorem handling {w later : Workspace ω} {events : List Event} (only : w.OnlyShows events later) :
    later.handling = w.handling := by
  obtain ⟨outlet, -, rfl⟩ := only
  rfl

end OnlyShows

/-- Logging shows nothing. -/
theorem onlyShows_debug (w : Workspace ω) (text : String) : w.OnlyShows [] (w.debug text) :=
  ⟨_, Outlet.shows_log _ _ _, rfl⟩

/-- A problem is shown as the error handling asks for, and that is all. -/
theorem onlyShows_report (w : Workspace ω) (problem : Problem) :
    w.OnlyShows (noticeEvents w.handling problem) (w.report problem) := by
  obtain ⟨outlet, -, same⟩ := onlySays_report w problem
  have shows := shows_report w problem
  rw [same] at shows
  exact ⟨outlet, shows, same⟩

/-- Work that begins is shown while the signal is on. -/
theorem shows_beginBusy (w : Workspace ω) (now : Nat) (label : String) :
    w.outlet.Shows ((w.busy.add now label).2.map .sent) (w.beginBusy now label).outlet :=
  Outlet.shows_sendAll _ _

/-- Work that ends is shown while the signal is on, when it was the last with its label. -/
theorem shows_endBusyLogged (w : Workspace ω) (now : Nat) (label : String) :
    w.outlet.Shows ((w.busy.remove now label).2.1.map .sent) (w.endBusyLogged now label).outlet := by
  have ended : w.outlet.Shows ((w.busy.remove now label).2.1.map .sent)
      (w.endBusy now label).1.outlet := Outlet.shows_sendAll _ _
  unfold endBusyLogged
  -- The label may be gone before, and then nothing is logged.
  split
  next later same => rwa [same] at ended
  next later duration same =>
    rw [same] at ended
    have logged := ended.trans (Outlet.shows_log later.outlet .debug
      (label ++ " took " ++ toString duration ++ "ms"))
    rwa [List.append_nil] at logged

/-! ## Documents -/

/-- The events in which a document is given a text and then a cursor. -/
def placingEvents (id : Nat) (text : String) (cursor : Position) : List Event :=
  [.sent (.setText id text), .sent (.setCursor id cursor)]

/-- A text and then a cursor are put into a document, and the editor is told of both. -/
theorem place_eq {w : Workspace ω} {handle : Handle} {document : Document}
    (present : w.document? handle = some document) (text : String) (position : Position) :
    (w.setText handle text).setCursor handle position =
      { w with
        documents := w.documents.modify handle (·.placed text position)
        outlet := (w.outlet.send (.setText document.id text)).send
          (.setCursor document.id (position.clamp text)) } := by
  -- The cursor is put into the text that the document has been given just before.
  have written : (w.setText handle text).document? handle = some { document with text := text } := by
    have found : w.documents.get? handle = some document := present
    simp [setText, document?, send, DocumentTable.get?_modify, found]
  have documents : (w.setText handle text).documents =
      w.documents.modify handle fun document => { document with text := text } := by
    simp [setText, present, send]
  unfold setCursor
  rw [written]
  simp only [send, documents]
  simp [setText, present, send, DocumentTable.modify, List.modify_modify_eq, Function.comp_def,
    Document.placed]

/-! ## Processes -/

/-- The events in which it is shown what a process left behind: its problems, and its output in a
buffer. -/
def flightEvents (w : Workspace ω) (flight : InFlight) : List Event :=
  flight.problems.flatMap (noticeEvents w.handling) ++
    -- Only the mode that reads a buffer has its output put into the document.
    match flight.result, flight.mode with
    | .ok output, .buffer =>
      (w.document? flight.document).toList.flatMap fun document =>
        placingEvents document.id output.stdout (flight.cursor.clamp output.stdout)
    | _, _ => []

/-- The documents when the output of a process has been taken over. -/
def landed (w : Workspace ω) (flight : InFlight) : DocumentTable :=
  match flight.result, flight.mode with
  | .ok output, .buffer =>
    w.documents.modify flight.document (·.placed output.stdout flight.cursor)
  | _, _ => w.documents

/-- The output of a process is put into the buffer that it was started for. -/
theorem place_landed (w : Workspace ω) (handle : Handle) (text : String) (position : Position) :
    ((w.setText handle text).setCursor handle position).documents =
        w.documents.modify handle (·.placed text position) ∧
      w.outlet.Shows ((w.document? handle).toList.flatMap fun document =>
          placingEvents document.id text (position.clamp text))
        ((w.setText handle text).setCursor handle position).outlet := by
  cases present : w.document? handle with
  | none =>
    -- Without a document there is nothing to put the output into.
    have absent : w.documents.documents.length ≤ handle :=
      List.getElem?_eq_none_iff.mp present
    have same : (w.setText handle text).setCursor handle position = w := by
      simp [setText, setCursor, present]
    rw [same]
    exact ⟨by simp [DocumentTable.modify, List.modify_eq_self absent], .refl _⟩
  | some document =>
    rw [place_eq present]
    exact ⟨rfl, by simpa [placingEvents] using
      (Outlet.shows_send _ _).trans (Outlet.shows_send _ (.setCursor document.id (position.clamp text)))⟩

/-- Just the problems with a process are shown before its output is taken. -/
theorem spoken_onlyShows (w : Workspace ω) (flight : InFlight) :
    w.OnlyShows (flight.problems.flatMap (noticeEvents w.handling))
      (flight.problems.foldl report (flight.remarks.foldl debug w)) := by
  -- Texts for the log show nothing, and each problem shows its own notice.
  refine spoken_of_each
    (R := fun problems w later => w.OnlyShows (problems.flatMap (noticeEvents w.handling)) later)
    .refl ?_ onlyShows_debug (fun w problem => by simpa using onlyShows_report w problem) w flight
  intro first second w mid later before after
  rw [List.flatMap_append, ← before.handling]
  exact (before.handling ▸ before).trans after

/-- What is said when a process has ended are its problems, before its output replaces a buffer. -/
theorem finishProcess_onlyShows (w : Workspace ω) (flight : InFlight) :
    ∃ spoken, w.OnlyShows (flight.problems.flatMap (noticeEvents w.handling)) spoken ∧
      (w.finishProcess flight).1 =
        match flight.result, flight.mode with
        | .ok output, .buffer =>
          (spoken.setText flight.document output.stdout).setCursor flight.document flight.cursor
        | _, _ => spoken := by
  -- The equation of a process that has ended starts where all its problems have been said.
  refine ⟨_, spoken_onlyShows w flight, ?_⟩
  exact finishProcess_eq w flight

/-- Just what a process left behind is shown, and put into its document. -/
theorem shows_finishProcess (w : Workspace ω) (flight : InFlight) :
    w.outlet.Shows (w.flightEvents flight) (w.finishProcess flight).1.outlet ∧
      (w.finishProcess flight).1.documents = w.landed flight := by
  obtain ⟨_, ⟨outlet, shows, rfl⟩, same⟩ := finishProcess_onlyShows w flight
  rw [same]
  unfold flightEvents landed
  -- Only output in the mode that reads a buffer replaces a text.
  split
  next output _ _ =>
    obtain ⟨documents, placed⟩ := place_landed { w with outlet := outlet } flight.document
      output.stdout flight.cursor
    exact ⟨shows.trans placed, documents⟩
  next => exact ⟨by simpa using shows, rfl⟩

variable [World ω]

/-- Resolving shows nothing. -/
theorem shows_resolve (w : Workspace ω) (formatter : Formatter) (file : Path) (mode : Mode) :
    w.outlet.Shows [] (w.resolve formatter file mode).1.outlet := by
  unfold resolve counting
  dsimp only
  split
  · exact .refl _
  · exact Outlet.shows_log _ _ _

/-- A process that starts is shown with its input. -/
theorem shows_startProcess (w : Workspace ω) (handle : Handle) (document : Document) (binary : Path)
    (arguments : List String) (mode : Mode) :
    w.outlet.Shows [.spawn (Shell.commandLine binary arguments) (document.input? mode)]
      (w.startProcess handle document binary arguments mode).1.outlet := by
  have logged := Outlet.shows_log w.outlet .debug ("Running: " ++ Shell.commandLine binary arguments)
  -- The process reads the document in one mode only.
  cases mode with
  | buffer => exact logged.trans (Outlet.hushed_spawn _ _ _)
  | file => exact logged.trans (Outlet.hushed_spawn _ _ _)

end Workspace

end FormatPipeline
