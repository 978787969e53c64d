import FormatPipeline.Proofs.Session.Handing
import FormatPipeline.Proofs.Workspace.News

/-! What can happen to a session, and that all of it keeps the status tile up to date. -/

namespace FormatPipeline

open Schedule (DebouncedTimeline Timeline Turn Work)
open Settings (Slot Store)
open Workspace (Redraws Settled)

/-- News of documents, whether the table knows of them or not. -/
inductive Notice where
  | opened (document : Document)
  | activated (document : Option Handle)
  | closed (id : Nat)
  /-- The documents have changed, and nobody was told. -/
  | replaced (documents : DocumentTable)

/-- News are about documents that are there, and no document is taken out or changed secretly. -/
def Notice.FitsTo (documents : DocumentTable) : Notice → Prop
  | opened _ | closed _ => True
  | activated document => ∀ handle, document = some handle → (documents.get? handle).isSome
  | replaced later => documents.Keeps later ∧ later.Sound

/-- What can happen to a session: a move of its own, or news of documents. -/
inductive Happening (ω : Type) where
  | move (move : Session.Move ω)
  | notice (notice : Notice)

namespace Session

variable {ω : Type}

/-- The session after news of documents. -/
def noticed (s : Session ω) : Notice → Session ω
  | .opened document => s.modify (·.documentOpened document)
  | .activated document => s.modify (·.activeChanged document)
  | .closed id => s.modify (·.documentClosed id)
  | .replaced documents => s.modify fun w => { w with documents := documents }

/-- The session with another way out. -/
def speaking (outlet : Outlet) (s : Session ω) : Session ω := s.modify fun w => { w with outlet := outlet }

/-- The session with a way out on which nothing was said, and everything can be. -/
def overheard (s : Session ω) : Session ω := s.speaking (.ofLevel s.state.outlet.level)

variable [World ω]

/-- What happens leads from one session to another. -/
inductive Happens : Session ω → Happening ω → Session ω → Prop
  | move {s next : Session ω} {move : Move ω} (moved : Moves s move next) :
      Happens s (.move move) next
  | notice {s : Session ω} {notice : Notice} (fits : notice.FitsTo s.state.documents) :
      Happens s (.notice notice) (s.noticed notice)

/-- What is made of the tile when something happens, whether it can be sent or not. -/
def drawn (s : Session ω) : Happening ω → List (Option StatusSnapshot)
  | .move (.call call) => (s.overheard.answer call).state.outlet.statuses
  | .move (.turn (.start job)) => (machine.start s.clock job s.overheard.state).1.outlet.statuses
  | .move (.turn (.wake now sleeper)) =>
    (machine.wake now sleeper s.overheard.state).1.outlet.statuses
  -- Time that passes draws nothing.
  | .move (.turn .pass) => []
  | .notice notice => (s.overheard.noticed notice).state.outlet.statuses

/-- A function does what happens to the workspace, whatever its way out, and keeps the tile up to date. -/
def Does (s : Session ω) (act : Session ω → Session ω) : Prop :=
  ∃ f told, (∀ outlet, (act (s.speaking outlet)).state = f { s.state with outlet := outlet }) ∧
    Redraws f s.state told

/-! ## Calls -/

omit [World ω] in
/-- Replacing the settings makes nothing of the tile, nor do the numbers of one's observers. -/
theorem redraws_store (store : Store Subscription) (numbers : List Nat → List Nat) (w : Workspace ω) :
    Redraws (fun w => { w with store := store, subscriptions := numbers w.subscriptions }) w [] := by
  refine .of_silent (fun other same => ⟨?_, same.coordination, same.documents⟩) (fun _ => rfl)
    (fun sound => ⟨sound.documents, sound.active⟩) fun _ => rfl
  exact congrArg (fun settled : Workspace.Settled => { settled with
    store := store, subscriptions := numbers settled.subscriptions }) same.settled

/-- Setting a setting keeps the tile up to date. -/
theorem does_set (key : String) (value : Json.Value) (s : Session ω) : s.Does (·.set key value) := by
  have stored := redraws_store (s.state.store.set key value).1 id s.state
  obtain ⟨told, applied⟩ := Workspace.redraws_foldl_apply (s.handsOut key value)
    { s.state with store := (s.state.store.set key value).1 }
  exact ⟨_, _, fun outlet => state_set key value (s.speaking outlet), stored.trans applied⟩

omit [World ω] in
/-- What changes neither the settings nor what the tile shows makes nothing of it. -/
theorem redraws_aside {f : Workspace ω → Workspace ω} (unseen : ∀ w : Workspace ω, w.Unseen (f w))
    (settled : ∀ w, (f w).settled = w.settled)
    (lasting : ∀ w : Workspace ω, w.outlet.writesLeft = none → (f w).outlet.writesLeft = none)
    (w : Workspace ω) : Redraws f w [] := by
  refine .of_unseen unseen (fun other same => ?_) lasting
  rw [settled, settled, same.settled]

omit [World ω] in
/-- Asking for a piece of work keeps the tile up to date. -/
theorem does_spawn (errand : Nat → Errand) (s : Session ω) : s.Does fun s => (s.spawn errand).1 :=
  ⟨fun w => w.takeNumber.1, [], fun _ => rfl,
    redraws_aside (f := fun w => w.takeNumber.1) (fun _ => ⟨rfl, rfl, rfl⟩) (fun _ => rfl) (fun _ => id) _⟩

omit [World ω] in
/-- Doing nothing keeps the tile up to date. -/
theorem does_nothing (s : Session ω) : s.Does fun s => s :=
  ⟨fun w => w, [], fun _ => rfl, redraws_aside (fun w => .refl w) (fun _ => rfl) (fun _ => id) _⟩

omit [World ω] in
/-- What does the same to the session, whatever its way out, keeps the tile up to date as well. -/
theorem Does.congr {s : Session ω} {act other : Session ω → Session ω} (does : s.Does act)
    (same : ∀ outlet, other (s.speaking outlet) = act (s.speaking outlet)) : s.Does other := by
  obtain ⟨f, told, acts, redraws⟩ := does
  exact ⟨f, told, fun outlet => by rw [same, acts], redraws⟩

/-- Turning a switch over keeps the tile up to date. -/
theorem does_toggle (key : String) (s : Session ω) : s.Does (·.toggle key) :=
  (does_set key (s.state.store.toggled key) s).congr fun _ => rfl

omit [World ω] in
/-- Logging something before anything else makes no difference to the tile. -/
theorem Does.of_debug {s : Session ω} {act : Session ω → Session ω} (text : String)
    (later : Session.Does (s.modify (·.debug text)) act) : s.Does fun s => act (s.modify (·.debug text)) := by
  obtain ⟨f, told, acts, redraws⟩ := later
  have logged : Redraws (·.debug text) s.state [] :=
    .of_onlySays (fun w => Workspace.unseen_debug w text) fun w => Workspace.onlySays_debug w text
  exact ⟨fun w => f (w.debug text), _, fun outlet => acts (outlet.log .debug text),
    logged.trans redraws⟩

/-- A command keeps the tile up to date when it is given. -/
theorem does_command (name : String) (s : Session ω) : s.Does fun s => (s.command name).1 := by
  have logged : s.Does fun s => s.modify (·.debug ("Command: " ++ name)) :=
    Does.of_debug _ (does_nothing _)
  have spawned : ∀ errand : Nat → Errand, s.Does fun s =>
      (Session.spawn errand (s.modify (·.debug ("Command: " ++ name)))).1 :=
    fun errand => Does.of_debug _ (does_spawn errand _)
  unfold command
  dsimp only
  -- A command formats, turns a switch over, runs one formatter, or is unknown.
  split
  · exact spawned .formatActive
  · split
    · exact Does.of_debug _ (does_toggle Settings.onSaveEnabledKey _)
    · split
      · exact logged
      next formatter found =>
        cases known : (s.state.formatter? formatter).isSome with
        | true =>
          refine (spawned (.runOnActive · formatter)).congr fun outlet => congrArg Prod.fst (if_pos ?_)
          exact known
        | false =>
          refine logged.congr fun outlet => congrArg Prod.fst (if_neg ?_)
          exact Bool.eq_false_iff.mp known

omit [World ω] in
/-- A document that was saved is formatted if its saves are watched, and else nothing happens. -/
theorem documentSaved_eq (document : Handle) (s : Session ω) :
    (s.documentSaved document).1 =
      if (s.state.document? document).any (s.state.formatsOnSave ·.id) then
        (s.spawn (.formatSaved · document)).1
      else s := by
  unfold documentSaved
  -- Without a mirror of the document its saves cannot be watched.
  cases s.state.document? document with
  | none => rfl
  | some saved => cases watched : s.state.formatsOnSave saved.id <;> simp [watched]

omit [World ω] in
/-- A document that was saved keeps the tile up to date. -/
theorem does_saved (document : Handle) (s : Session ω) :
    s.Does fun s => (s.documentSaved document).1 := by
  -- Whether its saves are watched decides between asking for work and doing nothing.
  cases watched : (s.state.document? document).any (s.state.formatsOnSave ·.id) with
  | true =>
    refine (does_spawn (.formatSaved · document) s).congr fun outlet => ?_
    exact (documentSaved_eq document _).trans (if_pos watched)
  | false =>
    refine (does_nothing s).congr fun outlet => ?_
    exact (documentSaved_eq document _).trans (if_neg (Bool.eq_false_iff.mp watched))

omit [World ω] in
/-- Opening a document keeps the tile up to date. -/
theorem does_openDocument (document : Document) (s : Session ω) : s.Does (·.openDocument document) := by
  -- The new document is one more in the table, and then it may be watched.
  have inserted : Redraws (fun w => { w with documents := (w.documents.insert document).1 }) s.state [] :=
    Workspace.redraws_documents (fun table => (table.insert document).1)
      (fun _ _ same => DocumentTable.blank_insert same document)
      (fun handle other present => by
        simp [DocumentTable.get?_insert, DocumentTable.ne_length_of_get? present, present])
      fun sound => sound.insert document
  exact ⟨_, _, fun _ => rfl, inserted.trans (Workspace.redraws_documentOpened document _)⟩

omit [World ω] in
/-- Closing a document keeps the tile up to date. -/
theorem does_closeDocument (id : Nat) (s : Session ω) : s.Does (·.closeDocument id) := by
  -- The number is given up first, and then the tile is drawn if it had the document.
  have closed : Redraws (fun w => { w with documents := w.documents.close id }) s.state [] :=
    Workspace.redraws_documents ((·.close id))
      (fun _ _ same => congrArg (DocumentTable.close · id) same)
      (fun handle document present => congrArg (Option.map Document.blank) present)
      fun sound => sound.close id
  obtain ⟨told, drawn⟩ := Workspace.redraws_documentClosed id { s.state with
    documents := s.state.documents.close id }
  exact ⟨_, _, fun _ => rfl, closed.trans drawn⟩

omit [World ω] in
/-- Making a document active, or none, keeps the tile up to date. -/
theorem does_activateDocument (id : Option Nat) (s : Session ω) :
    s.Does fun s => (s.activateDocument id).1 := by
  -- A document that is not there is refused, and nothing happens.
  cases activated : s.state.documents.activate? id with
  | none =>
    refine (does_nothing s).congr fun outlet => ?_
    simp only [activateDocument, show (s.speaking outlet).state.documents.activate? id = none from activated]
  | some documents =>
    obtain rfl := DocumentTable.activate?_eq_some activated
    -- The number becomes active in the table, and then the tile takes over the document.
    have replaced : Redraws (fun w => { w with documents := { w.documents with activeId := id } })
        s.state [] :=
      Workspace.redraws_documents (fun table => { table with activeId := id })
        (fun _ _ same => congrArg (fun table => { table with activeId := id }) same)
        (fun handle document present => congrArg (Option.map Document.blank) present) fun sound => sound
    obtain ⟨told, drawn⟩ := Workspace.redraws_activeChanged
      (w := { s.state with documents := { s.state.documents with activeId := id } }) _
      fun sound handle => sound.documents.isSome_get?
    refine ⟨_, _, fun outlet => ?_, replaced.trans drawn⟩
    simp only [activateDocument, show (s.speaking outlet).state.documents.activate? id = some _ from activated]
    rfl

omit [World ω] in
/-- The scope of a document is changed in the workspace. -/
theorem state_changeScope (handle : Handle) (inScope : Bool) (s : Session ω) :
    (s.changeScope handle inScope).state = s.state.changeScope handle inScope := by
  unfold changeScope Workspace.changeScope
  dsimp only
  -- What is told is the document as it is after the change, if there is one.
  split
  next document present =>
    split
    next found => cases present.symm.trans found; rfl
    next absent => cases present.symm.trans absent
  next absent =>
    split
    next found => cases absent.symm.trans found
    next => rfl

omit [World ω] in
/-- Changing the scope of a document keeps the tile up to date. -/
theorem does_changeScope (handle : Handle) (inScope : Bool) (s : Session ω) :
    s.Does (·.changeScope handle inScope) := by
  obtain ⟨told, drawn⟩ := Workspace.redraws_changeScope handle inScope s.state
  exact ⟨_, _, fun outlet => state_changeScope handle inScope (s.speaking outlet), drawn⟩

/-- Every call keeps the tile up to date. -/
theorem does_answer (call : Call ω) (s : Session ω) : s.Does (·.answer call) := by
  cases call with
  | set key value => exact does_set key value s
  | toggle key => exact does_toggle key s
  | command name => exact does_command name s
  | saved document => exact does_saved document s
  | chain document names mode => exact does_spawn (.chain · document names mode) s
  | single formatter document mode => exact does_spawn (.single · formatter document mode) s
  | openDocument document => exact does_openDocument document s
  | edit document text cursor =>
    -- What is written in a document is not shown.
    exact ⟨_, [], fun _ => rfl, redraws_aside (f := fun w => { w with
      documents := w.documents.modify document (·.edited text cursor) })
      (fun _ => ⟨rfl, DocumentTable.blank_modify _ _ fun _ => rfl, rfl⟩) (fun _ => rfl) (fun _ => id) _⟩
  | closeDocument id => exact does_closeDocument id s
  | changeScope document inScope => exact does_changeScope document inScope s
  | activate id => exact does_activateDocument id s
  | world change =>
    exact ⟨_, [], fun _ => rfl, redraws_aside (f := fun w => { w with world := change w.world })
      (fun _ => ⟨rfl, rfl, rfl⟩) (fun _ => rfl) (fun _ => id) _⟩

omit [World ω] in
/-- News of documents keep the tile up to date. -/
theorem does_noticed {notice : Notice} {s : Session ω} (fits : notice.FitsTo s.state.documents) :
    s.Does (·.noticed notice) := by
  -- The tile hears of a document, or the table was replaced by one that fits.
  cases notice with
  | opened document => exact ⟨_, _, fun _ => rfl, Workspace.redraws_documentOpened document _⟩
  | activated document =>
    obtain ⟨told, drawn⟩ := Workspace.redraws_activeChanged (w := s.state) document
      fun _ => fits
    exact ⟨_, _, fun _ => rfl, drawn⟩
  | closed id =>
    obtain ⟨told, drawn⟩ := Workspace.redraws_documentClosed id s.state
    exact ⟨_, _, fun _ => rfl, drawn⟩
  | replaced documents =>
    exact ⟨_, _, fun _ => rfl, Workspace.redraws_documents (fun _ => documents)
      (fun _ _ _ => rfl) fits.1 fun _ => fits.2⟩

/-! ## Turns -/

/-- Work that begins keeps the tile up to date. -/
theorem redraws_start (now : Nat) (job : Work Update Errand) (w : Workspace ω) :
    Redraws (fun w => (machine.start now job w).1) w [] := by
  -- A delayed action only goes to sleep, and an errand leaves what the tile is made of.
  cases job with
  | delayed entry => exact redraws_aside (fun w => .refl w) (fun _ => rfl) (fun _ => id) w
  | other errand =>
    exact redraws_aside (Workspace.unseen_startErrand now errand)
      (fun w => (Workspace.effect_startErrand now errand w).settled)
      (fun w => (Workspace.effect_startErrand now errand w).lasting) w

/-- Work that goes on keeps the tile up to date, and so does an update that has waited. -/
theorem redraws_wake (now : Nat) (sleeper : Work Update Sleeper) (w : Workspace ω) :
    ∃ told, Redraws (fun w => (machine.wake now sleeper w).1) w told := by
  -- Only an update can change what the tile is made of.
  cases sleeper with
  | delayed entry => exact Workspace.redraws_apply entry.action w
  | other sleeper =>
    exact ⟨[], redraws_aside (Workspace.unseen_wakeSleeper now sleeper)
      (fun w => (Workspace.effect_wakeSleeper now sleeper w).settled)
      (fun w => (Workspace.effect_wakeSleeper now sleeper w).lasting) w⟩

/-! ## The run -/

omit [World ω] in
/-- What is made of the tile can be overheard. -/
theorem overheard_eq {s : Session ω} {f : Workspace ω → Workspace ω} {told : List (Option StatusSnapshot)}
    (redraws : Redraws f s.state told) : (f s.overheard.state).outlet.statuses = told := by
  have alike : s.state.Alike s.overheard.state := ⟨rfl, rfl, rfl⟩
  exact (redraws.statuses _ alike rfl).2

omit [World ω] in
/-- What keeps the tile up to date does what is overheard of it. -/
theorem Does.redraws {s : Session ω} {act : Session ω → Session ω} (does : s.Does act) :
    ∃ f, (act s).state = f s.state ∧ Redraws f s.state (act s.overheard).state.outlet.statuses := by
  obtain ⟨f, told, acts, redraws⟩ := does
  refine ⟨f, acts s.state.outlet, ?_⟩
  rw [show (act s.overheard).state = f s.overheard.state from acts _, overheard_eq redraws]
  exact redraws

/-- Whatever happens keeps the tile up to date. -/
theorem redraws_happens {s next : Session ω} {happening : Happening ω}
    (happens : Happens s happening next) :
    ∃ f, next.state = f s.state ∧ Redraws f s.state (s.drawn happening) := by
  -- Calls, turns and news each have their own lemma, and what is drawn is overheard.
  cases happens with
  | move moved =>
    cases moved with
    | call call => exact (does_answer call s).redraws
    | @turn _ turn taken =>
      refine ⟨machine.turned s.clock turn, taken.state_eq, ?_⟩
      cases turn with
      | start job =>
        have redraws := redraws_start s.clock job s.state
        rw [← overheard_eq redraws] at redraws
        exact redraws
      | wake now sleeper =>
        obtain ⟨told, redraws⟩ := redraws_wake now sleeper s.state
        rw [← overheard_eq redraws] at redraws
        exact redraws
      | pass => exact redraws_aside (fun w => .refl w) (fun _ => rfl) (fun _ => id) _
  | notice fits => exact (does_noticed fits).redraws

end Session

end FormatPipeline
