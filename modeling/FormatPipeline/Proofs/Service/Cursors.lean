import FormatPipeline.Proofs.Session.Placing

/-! Runs of a service: every cursor is in its text, in the documents and in what the editor is told. -/

namespace FormatPipeline

open Schedule (DebouncedTimeline Turn Work)

namespace Service

variable {ω : Type} [World ω] {service next : Service ω}

/-- The texts that are put into documents in a move. -/
def writings (service : Service ω) : Move → List Deed
  | .turn turn => (service.session.turnDeeds turn).filter Deed.isWriting
  | .message _ | .skip _ => []

/-- Every cursor is in its text, and since an outlet the editor was told of texts and cursors in pairs. -/
structure Sighted (outlet : Outlet) (history : List Deed) (s : Session ω) : Prop where
  documents : s.state.documents.IsSighted
  told : ∃ placings, placings.map Placing.deed = history ∧ outlet.Pairs placings s.state.outlet

variable {outlet : Outlet} {history : List Deed}

namespace Sighted

omit [World ω] in
/-- What is logged changes no document and tells nothing of any. -/
theorem log {s : Session ω} (sighted : Sighted outlet history s) (importance : LogLevel)
    (text : String) :
    Sighted outlet history (s.modify fun w => { w with outlet := w.outlet.log importance text }) where
  documents := sighted.documents
  told := by
    obtain ⟨placings, deeds, told⟩ := sighted.told
    have logged : s.state.outlet.Pairs [] (s.state.outlet.log importance text) :=
      -- A line of the log places nothing, so the placings told of are the same.
      .of_shows (Outlet.shows_log s.state.outlet importance text) rfl
    exact ⟨placings, deeds, List.append_nil placings ▸ told.trans logged⟩

/-- Calls tell nothing of texts and cursors, and edits leave the cursors in the new texts. -/
theorem answer {s : Session ω} (sighted : Sighted outlet history s) {call : Session.Call ω}
    (proper : call.IsSighted) : Sighted outlet history (s.answer call) := by
  obtain ⟨placings, deeds, told⟩ := sighted.told
  have silent := (Session.alters_answer call s).2
  exact ⟨Session.isSighted_answer sighted.documents proper, placings, deeds,
    List.append_nil placings ▸ told.trans silent⟩

/-- In a turn texts are put into documents with cursors in them, and the editor is told of both. -/
theorem takes {s t : Session ω} (sighted : Sighted outlet history s)
    {turn : Turn (Work Update Errand) (Work Update Sleeper)}
    (taken : DebouncedTimeline.Takes Session.machine s turn t) :
    Sighted outlet (history ++ (s.turnDeeds turn).filter Deed.isWriting) t := by
  obtain ⟨earlier, deeds, told⟩ := sighted.told
  obtain ⟨placings, places⟩ := Session.places_takes taken
  exact ⟨Session.isSighted_takes sighted.documents taken, earlier ++ placings,
    by rw [List.map_append, deeds, places.deeds], told.trans places.told⟩

end Sighted

/-- Moves leave every cursor in its text. -/
theorem sighted_moves (sighted : Sighted outlet history service.session) {move : Move}
    (moved : Moves service move next) :
    Sighted outlet (history ++ service.writings move) next.session := by
  cases moved with
  | message message =>
    -- Messages write into no document, so only the documents' own cursors are at stake.
    rw [writings, List.append_nil, session_answer]
    exact handle_keeps (Sighted outlet history) (fun importance text before => before.log importance text)
      (fun _ _ proper before => before.answer proper) sighted message
  | skip text =>
    rw [writings, List.append_nil]
    exact sighted.log .warn _
  | turn taken => exact sighted.takes taken

/-- Every document that was ever opened has its cursor in its text, whatever was done so far. -/
theorem sighted_run {first : Service ω} (unopened : first.session.state.documents.documents = [])
    (ran : Run Moves writings [] first history service) :
    Sighted first.session.state.outlet history service.session := by
  induction ran with
  | start =>
    -- Before any document is opened there is no cursor, and nothing was told.
    refine ⟨fun document member => ?_, [], rfl, .refl _⟩
    simp [unopened] at member
  | move before moved ih => exact sighted_moves ih moved

/-- At any point of a run the cursors of all documents exist in their texts, and the editor is told
of each text that is put into a document together with a cursor in it; clamping is idempotent, and
it leaves exactly the positions of the text as they are. -/
theorem cursorsExist_run {first : Service ω} (unopened : first.session.state.documents.documents = [])
    (ran : Run Moves writings [] first history service) :
    (∀ handle document, service.session.state.document? handle = some document →
      document.cursor.IsIn document.text) ∧
    (∃ (placings : List Placing) (sent : List Outgoing), placings.map Placing.deed = history ∧
      service.session.state.outlet.messages = first.session.state.outlet.messages ++ sent ∧
      sent.filter Outgoing.isPlacing <+: placings.flatMap Placing.messages ∧
      (first.session.state.outlet.writesLeft = none →
        sent.filter Outgoing.isPlacing = placings.flatMap Placing.messages)) ∧
    ∀ text (position : Position),
      (position.clamp text).clamp text = position.clamp text ∧
        (position.clamp text = position ↔ position.IsIn text) ∧
        (position.clamp text).row ≤ position.row ∧ (position.clamp text).column ≤ position.column := by
  -- The invariant gives both halves: documents have proper cursors, and so has every pair that is sent.
  obtain ⟨documents, placings, deeds, told⟩ := sighted_run unopened ran
  obtain ⟨sent, messages, bounded, complete⟩ := told.messages
  exact ⟨fun _ _ present => documents.get? present, ⟨placings, sent, deeds, messages, bounded, complete⟩,
    fun text position => ⟨Position.clamp_clamp text position, Position.clamp_eq_self_iff,
      Position.clamp_le text position⟩⟩

/-- The document of the sample gets a shorter text while its formatter runs, and its cursor is clamped. -/
def sampleShortened : Service Scripted.Tables :=
  sampleAsked.next.answer (.updateDocument 1 "ne" (some ⟨7, 4⟩))

/-- The text of the formatter replaces the one of the editor, and the cursor is in it as before. -/
theorem cursorsExist_sample :
    (sampleShortened.session.state.document? 0).map (·.cursor) = some ⟨0, 2⟩ ∧
      Run Moves writings [] sampleFirst [.wrote 0 1 "old"] sampleShortened.next ∧
      (∀ handle document, sampleShortened.next.session.state.document? handle = some document →
        document.cursor.IsIn document.text) ∧
      sampleShortened.next.session.state.outlet.messages.filter Outgoing.isPlacing =
        [.setText 1 "old", .setCursor 1 ⟨0, 0⟩] := by
  have asked : Run Moves writings [] sampleFirst _ sampleAsked :=
    (((Run.start.move (.message (.setting "black.global.binPath" (.string "black")))).move
      (.message (sampleOpening "old"))).move (.message (.activeDocumentChanged (some 1)))).move
      (.message (.command "fmtchain:black"))
  -- While the formatter runs, the editor shortens the text below what it was asked about.
  have shortened : Run Moves writings [] sampleFirst _ sampleShortened :=
    (asked.move (moves_next (by decide +kernel))).move (.message (.updateDocument 1 "ne" (some ⟨7, 4⟩)))
  have ended := shortened.move (moves_next (by decide +kernel))
  have ran : Run Moves writings [] sampleFirst [.wrote 0 1 "old"] sampleShortened.next := ended
  exact ⟨by decide +kernel, ran, (cursorsExist_run (by decide +kernel) ran).1, by decide +kernel⟩

end Service

end FormatPipeline
