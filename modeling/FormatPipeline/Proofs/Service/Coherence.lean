import FormatPipeline.Proofs.Service.Mirrors
import FormatPipeline.Proofs.World.Scripted

/-! Runs of a service: when the mirrors of open documents have the texts of the editor. -/

namespace FormatPipeline

open Schedule (DebouncedTimeline Turn Work)

namespace Service

variable {ω : Type} [World ω] {texts : List (Nat × String)} {history : List Exchange}
  {service : Service ω}

/-- The service after a message. -/
def answer (service : Service ω) (message : Incoming) : Service ω :=
  match service.handle message with
  | (service, true) => service.retainRunning
  | (service, false) => service

/-- A move of a service: a message, a line that is none, or a turn of its waiting work. -/
inductive Move where
  | message (message : Incoming)
  | skip (text : String)
  | turn (turn : Turn (Work Update Errand) (Work Update Sleeper))

/-- A move leads from one service to another. -/
inductive Moves : Service ω → Move → Service ω → Prop
  | message {service : Service ω} (message : Incoming) :
      Moves service (.message message) (service.answer message)
  | skip {service : Service ω} (text : String) : Moves service (.skip text) (service.warn text)
  | turn {service : Service ω} {next : Session ω}
      {turn : Turn (Work Update Errand) (Work Update Sleeper)}
      (taken : DebouncedTimeline.Takes Session.machine service.session turn next) :
      Moves service (.turn turn) { service with session := next }

/-- What editor and service exchange in a move. -/
def exchanges (service : Service ω) : Move → List Exchange
  | .message message => [.received message]
  -- A line that is skipped is no message.
  | .skip _ => []
  | .turn turn => (service.session.turnDeeds turn).filterMap Exchange.ofDeed?

/-- Moves keep editor and service in touch. -/
theorem inTouch_moves (current : service.session.InTouch texts history) {move : Move}
    {next : Service ω} (moved : Moves service move next) :
    next.session.InTouch texts (history ++ service.exchanges move) := by
  cases moved with
  | message message =>
    have handled := inTouch_handle current message
    unfold answer
    generalize service.handle message = outcome at handled ⊢
    obtain ⟨later, goesOn⟩ := outcome
    -- Forgetting work that is complete changes no text.
    cases goesOn <;> exact handled
  | skip text =>
    rw [exchanges, List.append_nil]
    exact current.silent (service.silent_warn text)
  | turn taken => exact current.takes taken

/-! ## The input -/

section Input

variable {ν : Type} {notes : Service ω → Move → List ν} {told noted : List ν} {first : Service ω}

/-- Waiting is a number of moves. -/
theorem run_wait (before : Run Moves notes told first noted service) (milliseconds : Nat) :
    ∃ later, Run Moves notes told first later (service.modify fun s => s.wait milliseconds) := by
  -- Time passes by turns, and each turn is a move.
  refine DebouncedTimeline.advance_keeps (fun s => ∃ later, Run Moves notes told first later
    { service with session := s }) ?_ ⟨noted, before⟩ milliseconds
  rintro t turn next ⟨later, ran⟩ taken
  exact ⟨_, ran.move (.turn taken)⟩

/-- Handling a line is a move. -/
theorem run_handleLine (before : Run Moves notes told first noted service) (line : String) :
    ∃ later, Run Moves notes told first later (service.handleLine line).1 := by
  unfold handleLine
  -- A blank line is passed over, and a line that is no message is warned about.
  split
  · exact ⟨noted, before⟩
  · split
    · exact ⟨_, before.move (.skip _)⟩
    next message decoded =>
      have moved := before.move (.message message)
      unfold answer at moved
      generalize service.handle message = outcome at moved ⊢
      obtain ⟨later, goesOn⟩ := outcome
      cases goesOn with
      | true => exact ⟨_, moved⟩
      | false => exact ⟨_, moved⟩

/-- Handling the bytes of a line is a number of moves. -/
theorem run_handleBytes (before : Run Moves notes told first noted service) (reversed : List UInt8) :
    ∃ later, Run Moves notes told first later (service.handleBytes reversed).1 := by
  unfold handleBytes
  dsimp only
  split
  · exact ⟨noted, before⟩
  · exact run_handleLine before _

/-- Handling bytes is a number of moves. -/
theorem run_takeBytes (bytes : List UInt8) (before : Run Moves notes told first noted service)
    (reversed : List UInt8) :
    ∃ later, Run Moves notes told first later (service.takeBytes reversed bytes).1 := by
  induction bytes generalizing noted service reversed with
  | nil => exact ⟨noted, before⟩
  | cons byte rest ih =>
    unfold takeBytes
    -- A line ends at its last byte, and until then bytes are only collected.
    split
    · -- After the last message no more bytes are read.
      obtain ⟨later, ran⟩ := run_handleBytes before (byte :: reversed)
      generalize service.handleBytes (byte :: reversed) = outcome at ran ⊢
      obtain ⟨next, none | ending⟩ := outcome
      · exact ih ran []
      · exact ⟨later, ran⟩
    · exact ih before (byte :: reversed)

/-- Handling the whole input is a number of moves. -/
theorem run_takeFeed (input : List Feed) (before : Run Moves notes told first noted service)
    (reversed : List UInt8) :
    ∃ later, Run Moves notes told first later (service.takeFeed reversed input).1 := by
  induction input generalizing noted service reversed with
  | nil =>
    unfold takeFeed
    -- Bytes without an end of line are a line when the input ends.
    split
    · exact ⟨noted, before⟩
    · exact run_handleBytes before reversed
  | cons feed rest ih =>
    cases feed with
    | pause milliseconds =>
      obtain ⟨later, ran⟩ := run_wait before milliseconds
      exact ih ran reversed
    | bytes bytes =>
      unfold takeFeed
      obtain ⟨later, ran⟩ := run_takeBytes bytes before reversed
      generalize service.takeBytes reversed bytes = outcome at ran ⊢
      obtain ⟨next, left, none | ending⟩ := outcome
      · exact ih ran left
      · exact ⟨later, ran⟩

end Input

/-! ## Texts of mirrors and of the editor -/

/-- Editor and service stay in touch as long as the connection between them lasts. -/
theorem inTouch_run {first : Service ω} (unopened : first.session.state.documents.handles = [])
    (lasting : first.session.state.outlet.writesLeft = none)
    (ran : Run Moves exchanges [] first history service) :
    service.session.InTouch first.session.state.outlet.texts history := by
  induction ran with
  | start =>
    -- Before any message no document is open, so that there is no mirror to compare.
    refine ⟨fun id mirror opened => ?_, lasting, by simp⟩
    simp [unopened] at opened
  | move before moved ih => exact inTouch_moves ih moved

/-- An open document has the editor's text unless another mirror has sent a different one last. -/
theorem editorText_run {first : Service ω} (unopened : first.session.state.documents.handles = [])
    (lasting : first.session.state.outlet.writesLeft = none)
    (ran : Run Moves exchanges [] first history service) :
    service.session.state.outlet.texts =
        first.session.state.outlet.texts ++ history.filterMap Exchange.sent? ∧
      ∀ id mirror, service.session.state.documents.handle? id = some mirror →
        ∃ document, service.session.state.document? mirror = some document ∧ document.id = id ∧
          (editorText id history = some document.text ↔
            ∀ sender text, lastAbout id history = some (.wrote sender id text) →
              sender = mirror ∨ text = document.text) := by
  -- Being in touch is the invariant: what the mirror holds and what was sent last are both in it.
  have current := inTouch_run unopened lasting ran
  refine ⟨current.sent, fun id mirror opened => ?_⟩
  obtain ⟨text, listed, reached⟩ := current.mirrors id mirror opened
  simp only [DocumentTable.contents, List.getElem?_map, Option.map_eq_some_iff, Prod.mk.injEq]
    at listed
  obtain ⟨document, present, rfl, rfl⟩ := listed
  exact ⟨document, present, rfl, editorText_eq_iff reached⟩

/-- A service that knows one formatter, before any message. -/
def sampleFirst : Service Scripted.Tables :=
  ⟨(Session.initial (Scripted.sample []) .silent (.ofDefaults [])).start [Scripted.sampleProfile] 0, []⟩

/-- The service after the next turn in the order of its timeline. -/
def next (service : Service ω) : Service ω :=
  match service.session.step Session.machine none with
  | some s => { service with session := s }
  | none => service

/-- The next turn is a move if there is one. -/
theorem moves_next (more : (service.session.step Session.machine none).isSome) :
    Moves service (.turn service.session.nextTurn) service.next := by
  obtain ⟨s, stepped⟩ := Option.isSome_iff_exists.mp more
  unfold next
  rw [stepped]
  exact .turn (DebouncedTimeline.takes_of_step stepped).1

/-- The document of the sample as it is opened. -/
def sampleOpening (text : String) : Incoming :=
  .openDocument 1 ⟨"/repo/main.py"⟩ none text ⟨0, 0⟩ true

/-- A service that was asked to run its formatter. -/
def sampleAsked : Service Scripted.Tables :=
  (((sampleFirst.answer (.setting "black.global.binPath" (.string "black"))).answer
    (sampleOpening "old")).answer (.activeDocumentChanged (some 1))).answer (.command "fmtchain:black")

/-- The document is closed and opened again while its formatter runs. -/
def sampleReopened : Service Scripted.Tables :=
  (sampleAsked.next.answer (.closeDocument 1)).answer (sampleOpening "new")

/-- What was exchanged in the sample up to the end of the process. -/
def sampleExchanges : List Exchange :=
  [.received (.setting "black.global.binPath" (.string "black")), .received (sampleOpening "old"),
    .received (.activeDocumentChanged (some 1)), .received (.command "fmtchain:black")] ++
  sampleAsked.exchanges (.turn sampleAsked.session.nextTurn) ++
  [.received (.closeDocument 1), .received (sampleOpening "new")] ++
  sampleReopened.exchanges (.turn sampleReopened.session.nextTurn)

/-- The sample is a run. -/
theorem run_sample : Run Moves exchanges [] sampleFirst sampleExchanges sampleReopened.next := by
  have asked : Run Moves exchanges [] sampleFirst _ sampleAsked :=
    (((Run.start.move (.message (.setting "black.global.binPath" (.string "black")))).move
      (.message (sampleOpening "old"))).move (.message (.activeDocumentChanged (some 1)))).move
      (.message (.command "fmtchain:black"))
  -- The old document is closed while its formatter runs, and the same number is opened again.
  have reopened : Run Moves exchanges [] sampleFirst _ sampleReopened :=
    ((asked.move (moves_next (by decide +kernel))).move (.message (.closeDocument 1))).move
      (.message (sampleOpening "new"))
  have ended := reopened.move (moves_next (by decide +kernel))
  simpa [sampleExchanges, exchanges] using ended

/-- The text of the old mirror reaches the editor, and the new mirror does not learn of it. -/
theorem editorText_reopened :
    Run Moves exchanges [] sampleFirst sampleExchanges sampleReopened.next ∧
      sampleReopened.next.session.state.documents.handle? 1 = some 1 ∧
      (sampleReopened.next.session.state.document? 1).map (·.text) = some "new" ∧
      editorText 1 sampleExchanges = some "old" := by
  refine ⟨run_sample, ?_, ?_, ?_⟩
  · decide +kernel
  · decide +kernel
  · decide +kernel

/-- In the sample an old mirror's text is last, and the open document has another one. -/
theorem editorText_sample :
    ∃ document, sampleReopened.next.session.state.document? 1 = some document ∧ document.id = 1 ∧
      (editorText 1 sampleExchanges = some document.text ↔
        ∀ sender text, lastAbout 1 sampleExchanges = some (.wrote sender 1 text) →
          sender = 1 ∨ text = document.text) := by
  obtain ⟨-, agree⟩ := editorText_run (by decide +kernel) (by decide +kernel) run_sample
  exact agree 1 1 (by decide +kernel)

end Service

end FormatPipeline
