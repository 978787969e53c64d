import FormatPipeline.Proofs.Service.Exchange
import FormatPipeline.Proofs.Session.Handing
import FormatPipeline.Service

/-! The mirrors of a service while messages are handled and formatters run, in any order. -/

namespace FormatPipeline

open Schedule (DebouncedTimeline Turn Work)

namespace Workspace

variable {ω : Type}

/-- Neither the texts of documents change nor what was sent of them. -/
structure Silent (w later : Workspace ω) : Prop where
  handles : later.documents.handles = w.documents.handles
  contents : later.documents.contents = w.documents.contents
  speech : w.outlet.SaysMore later.outlet

/-- Doing nothing is silent. -/
theorem Silent.refl (w : Workspace ω) : w.Silent w := ⟨rfl, rfl, .refl _⟩

/-- Silence lasts. -/
theorem Silent.trans {w mid later : Workspace ω} (first : w.Silent mid) (second : mid.Silent later) :
    w.Silent later :=
  ⟨second.handles.trans first.handles, second.contents.trans first.contents,
    first.speech.trans second.speech⟩

/-- A calm is silent. -/
theorem Calm.silent {w later : Workspace ω} (calm : w.Calm later) : w.Silent later :=
  ⟨by rw [calm.documents], by rw [calm.documents], calm.speech⟩

/-- Saying something that is no text of a document is silent. -/
theorem OnlySays.silent {w later : Workspace ω} (speech : w.OnlySays later) : w.Silent later :=
  (Calm.of_onlySays speech).silent

/-- Values that take effect are silent. -/
theorem silent_foldl_apply [World ω] (updates : List Update) (w : Workspace ω) :
    w.Silent (updates.foldl (fun w update => update.apply w) w) :=
  foldl_apply_keeps (w.Silent ·) (fun update before => before.trans (calm_apply update _).silent)
    updates (.refl w)

end Workspace

namespace Session

variable {ω : Type} [World ω]

/-- Setting a setting is silent. -/
theorem silent_set (key : String) (value : Json.Value) (s : Session ω) :
    s.state.Silent (s.set key value).state := by
  -- Storing the value is silent, and so is all that takes effect of it.
  have stored : s.state.Silent { s.state with store := (s.state.store.set key value).1 } :=
    ⟨rfl, rfl, .refl _⟩
  rw [state_set]
  exact stored.trans (Workspace.silent_foldl_apply _ _)

/-- A command is silent when it is given. -/
theorem silent_command (name : String) (s : Session ω) : s.state.Silent (s.command name).1.state := by
  have logged := (Workspace.onlySays_debug s.state ("Command: " ++ name)).silent
  unfold command
  dsimp only
  -- Whatever the command asks for is only done later.
  split
  · exact logged.trans ⟨rfl, rfl, .refl _⟩
  · split
    · exact logged.trans (silent_set Settings.onSaveEnabledKey _
        (s.modify (·.debug ("Command: " ++ name))))
    · split
      · exact logged
      · split
        · exact logged.trans ⟨rfl, rfl, .refl _⟩
        · exact logged

/-- Every open document has the text that reached its mirror last, and every text was sent. -/
structure InTouch (texts : List (Nat × String)) (history : List Exchange) (s : Session ω) : Prop where
  mirrors : Mirrors history s.state.documents.handles s.state.documents.contents
  lasting : s.state.outlet.writesLeft = none
  sent : s.state.outlet.texts = texts ++ history.filterMap Exchange.sent?

namespace InTouch

variable {texts : List (Nat × String)} {history : List Exchange} {s next : Session ω}

omit [World ω] in
/-- Silence leaves all in touch. -/
theorem silent (current : InTouch texts history s) (silent : s.state.Silent next.state) :
    InTouch texts history next where
  mirrors := by
    rw [silent.handles, silent.contents]
    exact current.mirrors
  lasting := silent.speech.lasting current.lasting
  sent := silent.speech.texts.trans current.sent

omit [World ω] in
/-- A message after which nothing was sent leaves all in touch if its mirrors do. -/
theorem receive (current : InTouch texts history s) {message : Incoming}
    (speech : s.state.outlet.SaysMore next.state.outlet)
    (mirrors : Mirrors (history ++ [.received message]) next.state.documents.handles
      next.state.documents.contents) :
    InTouch texts (history ++ [.received message]) next where
  mirrors := mirrors
  lasting := speech.lasting current.lasting
  sent := by
    -- A message received is no text sent, so nothing is added to the list of those.
    rw [speech.texts, current.sent, List.filterMap_append]
    simp [Exchange.sent?]

omit [World ω] in
/-- A message about no text leaves all in touch if it is handled silently. -/
theorem receive_silent (current : InTouch texts history s) {message : Incoming}
    (silent : s.state.Silent next.state)
    (other : ∀ id mirror, s.state.documents.handles.lookup id = some mirror →
      (Exchange.received message).text? id = none) :
    InTouch texts (history ++ [.received message]) next := by
  refine current.receive silent.speech ?_
  rw [silent.handles, silent.contents]
  exact current.mirrors.receive other

/-- Turns keep all in touch. -/
theorem takes (current : InTouch texts history s)
    {turn : Turn (Work Update Errand) (Work Update Sleeper)}
    (taken : DebouncedTimeline.Takes machine s turn next) :
    InTouch texts (history ++ (s.turnDeeds turn).filterMap Exchange.ofDeed?) next := by
  rcases DebouncedTimeline.pending_takes taken with ⟨now, entry, rfl, -, state⟩ | ⟨other, -⟩
  · -- A value takes effect.
    have silent : s.state.Silent next.state := by
      rw [state]
      exact (Workspace.calm_apply entry.action s.state).silent
    simpa [turnDeeds] using current.silent silent
  · -- Any other turn does what is noted of it, which is all that it changes.
    have effect := effect_takes taken other
    refine ⟨?_, effect.lasting current.lasting, ?_⟩
    · rw [effect.handles, effect.contents]
      exact current.mirrors.deeds _ effect.named
    · rw [effect.texts current.lasting, current.sent, List.filterMap_append, List.append_assoc,
        List.filterMap_filterMap]
      refine congrArg (fun part => texts ++ (history.filterMap Exchange.sent? ++ part)) ?_
      refine congrArg (fun part => (s.turnDeeds turn).filterMap part) (funext fun deed => ?_)
      cases deed <;> rfl

end InTouch

end Session

/-- A document that is opened comes behind all that were ever opened. -/
theorem DocumentTable.insert_contents (table : DocumentTable) (document : Document) :
    (table.insert document).1.contents = table.contents ++ [(document.id, document.text)] ∧
      (table.insert document).1.handles =
        (document.id, table.contents.length) :: table.handles.filter (·.1 != document.id) := by
  simp [insert, add, contents]

/-- Whether a message opens, updates or closes a document. -/
def Incoming.isAboutText : Incoming → Bool
  | openDocument .. | updateDocument .. | closeDocument .. => true
  | _ => false

namespace Service

variable {ω : Type} [World ω] {texts : List (Nat × String)} {history : List Exchange}
  {service : Service ω}

omit [World ω] in
/-- A warning is silent. -/
theorem silent_warn (service : Service ω) (text : String) :
    service.session.state.Silent (service.warn text).session.state :=
  (Workspace.onlySays_warn _ _).silent

omit [World ω] in
/-- A document is looked up silently. -/
theorem lookUp_cases (service : Service ω) (id : Nat) :
    (∃ mirror, service.session.state.documents.handles.lookup id = some mirror ∧
      service.lookUp id = (service, some mirror)) ∨
    (service.session.state.documents.handles.lookup id = none ∧
      ∃ text, service.lookUp id = (service.warn text, none)) := by
  unfold lookUp
  cases found : service.session.state.documents.handle? id with
  | some mirror => exact .inl ⟨mirror, found, rfl⟩
  | none => exact .inr ⟨found, _, rfl⟩

/-- A message that opens, updates or closes no document is handled silently. -/
theorem silent_handle (service : Service ω) {message : Incoming}
    (about : message.isAboutText = false) :
    service.session.state.Silent (service.handle message).1.session.state := by
  cases message with
  | openDocument | updateDocument | closeDocument => simp [Incoming.isAboutText] at about
  | scopeChanged number inScope =>
    -- A document that is not open is only warned about.
    rcases service.lookUp_cases number with ⟨mirror, -, found⟩ | ⟨-, warning, found⟩
    · simp only [handle, found, modify, Session.changeScope]
      have changed : service.session.state.Silent (service.session.changeDocument mirror fun document =>
          { document with inScope := inScope }).state := by
        have same := Workspace.contents_modify service.session.state.documents mirror
          (fun document => { document with inScope := inScope }) id fun _ => rfl
        exact ⟨rfl, same.trans (List.modify_id _ _), .refl _⟩
      split
      · exact changed.trans (Workspace.calm_scopeChanged _ _).1.silent
      · exact changed
    · simp only [handle, found]
      exact service.silent_warn warning
  | activeDocumentChanged id =>
    simp only [handle, Session.activateDocument]
    cases activated : service.session.state.documents.activate? id with
    | none => exact service.silent_warn _
    | some documents =>
      -- Which document is active says nothing about texts.
      have same : documents.handles = service.session.state.documents.handles ∧
          documents.contents = service.session.state.documents.contents := by
        cases id with
        | none =>
          cases activated
          exact ⟨rfl, rfl⟩
        | some id =>
          simp only [DocumentTable.activate?, Option.ite_none_right_eq_some] at activated
          cases activated.2
          exact ⟨rfl, rfl⟩
      have replaced : service.session.state.Silent
          { service.session.state with documents := documents } := ⟨same.1, same.2, .refl _⟩
      exact replaced.trans (Workspace.calm_activeChanged _ documents.active?).1.silent
  | saved id =>
    -- Saving asks for work at most, which begins in a later turn.
    rcases service.lookUp_cases id with ⟨mirror, -, found⟩ | ⟨-, warning, found⟩
    · simp only [handle, found, Session.documentSaved]
      cases service.session.state.document? mirror with
      | none => exact .refl _
      | some document =>
        by_cases formats : service.session.state.formatsOnSave document.id
        · simp only [formats, if_true]
          exact ⟨rfl, rfl, .refl _⟩
        · simp only [formats]
          exact .refl _
    · simp only [handle, found]
      exact service.silent_warn warning
  | setting key value =>
    simp only [handle, setSetting, modify]
    -- A setting that nobody knows is logged before it is set.
    split
    · exact Session.silent_set key value service.session
    · exact (Workspace.onlySays_debug _ _).silent.trans (Session.silent_set key value
        (service.session.modify (·.debug ("Unknown setting: " ++ key))))
  | command name =>
    have given := Session.silent_command name service.session
    simp only [handle, runCommand]
    -- A command that nobody knows is warned about.
    generalize service.session.command name = outcome at given ⊢
    obtain ⟨s, number | done | unknown⟩ := outcome
    · exact given
    · exact given
    · exact given.trans (Workspace.onlySays_warn _ _).silent
  | shutdown => exact .refl _

/-- Messages keep editor and service in touch. -/
theorem inTouch_handle (current : service.session.InTouch texts history) (message : Incoming) :
    (service.handle message).1.session.InTouch texts (history ++ [.received message]) := by
  by_cases about : message.isAboutText
  · cases message with
    | openDocument id path displayPath text cursor inScope =>
      -- The new mirror comes behind all others, and it takes over the number.
      have inserted := current.mirrors.insert id path displayPath text cursor inScope
      have table := DocumentTable.insert_contents service.session.state.documents
        (.opened id path displayPath text cursor inScope)
      refine current.receive (.refl _) ?_
      exact table.1 ▸ table.2 ▸ inserted
    | updateDocument id text cursor =>
      -- An edit reaches the mirror that is open, and without one it reaches nobody.
      rcases service.lookUp_cases id with ⟨mirror, opened, found⟩ | ⟨unknown, warning, found⟩
      · simp only [handle, found]
        refine current.receive (.refl _) ?_
        have edited := current.mirrors.edit opened text cursor
        rw [← Workspace.contents_modify service.session.state.documents mirror (·.edited text cursor)
          (fun _ => text) fun _ => rfl] at edited
        exact edited
      · simp only [handle, found]
        refine current.receive_silent (service.silent_warn warning) fun other mirror present => ?_
        have apart : id ≠ other := by
          rintro rfl
          simp [unknown] at present
        simp [Exchange.text?, apart]
    | closeDocument id =>
      -- The mirror is closed, and nothing is sent about it.
      have closed := (Workspace.calm_documentClosed { service.session.state with
        documents := service.session.state.documents.close id } id).1
      refine current.receive closed.speech ?_
      exact closed.documents ▸ current.mirrors.close id
    | scopeChanged | activeDocumentChanged | saved | setting | command | shutdown =>
      simp [Incoming.isAboutText] at about
  · refine current.receive_silent (service.silent_handle (by simpa using about)) fun _ _ _ => ?_
    cases message with
    | openDocument | updateDocument => simp [Incoming.isAboutText] at about
    | closeDocument | scopeChanged | activeDocumentChanged | saved | setting | command | shutdown => rfl

end Service

end FormatPipeline
