import FormatPipeline.Proofs.Service.Saving

/-! Messages about documents that are not open: they are logged at most, and nothing else changes. -/

namespace FormatPipeline

open Schedule (DebouncedTimeline)

/-- The number of the document that a message takes for open, if it takes one for open. -/
def Incoming.refersTo? : Incoming → Option Nat
  | updateDocument id _ _ | closeDocument id | scopeChanged id _ | saved id => some id
  -- No document at all is a choice that can always be made.
  | activeDocumentChanged id => id
  | openDocument .. | setting .. | command _ | shutdown => none

namespace DocumentTable

variable {table : DocumentTable} {id : Nat}

/-- Without an entry under a number nothing is taken out with it. -/
theorem filter_handles_of_unknown (unknown : table.handle? id = none) :
    table.handles.filter (·.1 != id) = table.handles := by
  refine List.filter_eq_self.mpr fun entry member => ?_
  have apart := List.lookup_eq_none_iff.mp unknown entry member
  exact bne_iff_ne.mpr fun same => by simp [same] at apart

/-- Closing a document that is not open changes nothing if it is not active either. -/
theorem close_of_unknown (unknown : table.handle? id = none) (inactive : table.activeId ≠ some id) :
    table.close id = table := by
  rw [close, filter_handles_of_unknown unknown, if_neg inactive]

/-- A document that is not open is not watched if just the open ones in scope are. -/
theorem Watched.filter_of_unknown {watched : List Nat} (current : table.Watched watched)
    (unknown : table.handle? id = none) : watched.filter (· != id) = watched := by
  refine List.filter_eq_self.mpr fun other member => bne_iff_ne.mpr ?_
  rintro rfl
  obtain ⟨handle, document, known, -⟩ := (current other).mp member
  cases unknown.symm.trans known

end DocumentTable

/-- A document that is not open is not the active one while table and tile are in step. -/
theorem InStep.activeId_ne_of_unknown {history : List Incoming} {active : Option Handle}
    {table : DocumentTable} (current : InStep history active table) {id : Nat}
    (unknown : table.handle? id = none) : table.activeId ≠ some id := by
  intro chosen
  have opened := current.opened id chosen
  simp [unknown] at opened

namespace Workspace

variable {ω : Type}

/-- What is closed is forgotten without a trace if it was neither watched nor active. -/
theorem documentClosed_of_unknown {w : Workspace ω} {id : Nat}
    (unwatched : w.coordination.saveWatch.filter (· != id) = w.coordination.saveWatch)
    (inactive : w.isActive id = false) : w.documentClosed id = w := by
  simp [documentClosed, unwatched, inactive]

/-- The workspace after some texts were logged, the newest first. -/
def logged (w : Workspace ω) (texts : List String) : Workspace ω :=
  { w with outlet := { w.outlet with events := texts.map .log ++ w.outlet.events } }

/-- A warning is logged, or nothing is. -/
theorem warn_eq_logged (w : Workspace ω) (text : String) : ∃ texts, w.warn text = w.logged texts := by
  unfold warn Outlet.warn Outlet.log
  split
  · exact ⟨[Outlet.warningWord ++ " " ++ text], rfl⟩
  · exact ⟨[], rfl⟩

end Workspace

namespace Session

variable {ω : Type} {history : List Incoming} {s : Session ω}

/-- Closing a document that is not open changes nothing. -/
theorem closeDocument_of_unknown (current : s.IsInStep history)
    (watched : s.state.documents.Watched s.state.coordination.saveWatch) {id : Nat}
    (unknown : s.state.documents.handle? id = none) : s.closeDocument id = s := by
  -- The number is not in the table, so that it is neither active nor watched.
  have apart := InStep.activeId_ne_of_unknown current unknown
  have closed := DocumentTable.close_of_unknown unknown apart
  have inactive : s.state.isActive id = false :=
    Bool.eq_false_iff.mpr fun active => apart ((current.isActive_iff id).mp active)
  refine DebouncedTimeline.modify_of_fixed ?_
  rw [closed]
  exact Workspace.documentClosed_of_unknown (watched.filter_of_unknown unknown) inactive

end Session

namespace Service

variable {ω : Type} [World ω] {service : Service ω} {history : List Incoming}

/-- The service after some texts were logged. -/
def logged (service : Service ω) (texts : List String) : Service ω :=
  service.modify fun s => s.modify (·.logged texts)

omit [World ω] in
/-- A warning is logged, or nothing is. -/
theorem warn_eq_logged (service : Service ω) (text : String) :
    ∃ texts, service.warn text = service.logged texts := by
  obtain ⟨texts, same⟩ := service.session.state.warn_eq_logged text
  exact ⟨texts, congrArg (fun w => { service with session := { service.session with state := w } }) same⟩

/-- A message about a document that is not open is only logged, if it is mentioned at all. -/
theorem handle_of_unknown (current : service.session.IsInStep history) (watched : service.IsWatched)
    {message : Incoming} {id : Nat} (about : message.refersTo? = some id)
    (unknown : service.session.state.documents.handle? id = none) :
    ∃ texts, service.handle message = (service.logged texts, true) := by
  -- A document that is looked up is missed and warned about.
  have missed : ∃ warning, service.lookUp id = (service.warn warning, none) := by
    rw [lookUp, unknown]
    exact ⟨_, rfl⟩
  obtain ⟨warning, missed⟩ := missed
  have warned : ∀ text, ∃ texts, (service.warn text, true) = (service.logged texts, true) := fun text =>
    (service.warn_eq_logged text).imp fun _ same => congrArg (·, true) same
  cases message with
  | updateDocument number text cursor | scopeChanged number inScope | saved number =>
    obtain rfl : number = id := Option.some.inj about
    simp only [handle, missed]
    exact warned warning
  | closeDocument number =>
    -- Closing looks nothing up, and finds nothing to take out.
    obtain rfl : number = id := Option.some.inj about
    refine ⟨[], ?_⟩
    simp only [handle, modify, Session.closeDocument_of_unknown current watched unknown]
    rfl
  | activeDocumentChanged number =>
    obtain rfl : number = some id := about
    have refused : service.session.activateDocument (some id) = (service.session, false) := by
      simp [Session.activateDocument, DocumentTable.activate?, unknown]
    simp only [handle, refused]
    exact warned _
  | openDocument | setting | command | shutdown => cases about

variable {profiles : List Profile} {delay : Nat} {first : Session ω}

/-- At any time of a run, a message about a document that is not open changes nothing but the log. -/
theorem unknownDocument_run (unopened : first.state.documents = .empty)
    (unset : first.state.coordination = .initial)
    (ran : Run Moves receipts [] ⟨first.start profiles delay, []⟩ history service)
    {message : Incoming} {id : Nat} (about : message.refersTo? = some id)
    (unknown : service.session.state.documents.handle? id = none) :
    ∃ texts, service.handle message = (service.logged texts, true) := by
  -- Before the start nothing is chosen, which both invariants need at their beginning.
  have inactive : first.state.coordination.activeDocument = none := by rw [unset]; rfl
  exact handle_of_unknown (isInStep_run unopened inactive ran) (isWatched_run unopened unset ran)
    about unknown

/-- A service whose document was closed while its formatter runs. -/
def sampleClosed : Service Scripted.Tables := sampleAsked.next.answer (.closeDocument 1)

/-- In the sample the closed document cannot be made active again, and its chain goes on. -/
theorem unknownDocument_sample :
    sampleClosed.session.state.documents.handle? 1 = none ∧ sampleClosed.chains = [1] ∧
      sampleClosed.session.sleeping.length = 1 ∧
      ∃ texts, sampleClosed.handle (.activeDocumentChanged (some 1)) = (sampleClosed.logged texts, true) := by
  have asked : Run Moves receipts [] sampleFirst _ sampleAsked :=
    (((Run.start.move (.message (.setting "black.global.binPath" (.string "black")))).move
      (.message (sampleOpening "old"))).move (.message (.activeDocumentChanged (some 1)))).move
      (.message (.command "fmtchain:black"))
  -- The chain has still to end when its document is closed.
  have closed := (asked.move (moves_next (by decide +kernel))).move (.message (.closeDocument 1))
  have unknown : sampleClosed.session.state.documents.handle? 1 = none := by decide +kernel
  exact ⟨unknown, by decide +kernel, by decide +kernel, unknownDocument_run rfl rfl closed rfl unknown⟩

end Service

end FormatPipeline
