import FormatPipeline.Proofs.Session.Steady
import FormatPipeline.Proofs.Session.Telling
import FormatPipeline.Proofs.Workspace.Steps

/-! Orders of registered formatters: whatever happens, they stay so, and no formatter or document is lost. -/

namespace FormatPipeline

open Schedule (DebouncedTimeline Timeline Turn Work)
open Settings (OrderKind)

/-- An order that is replaced is the new one, and the other order stays. -/
theorem Coordination.order_withOrder (coordination : Coordination) (names : List String)
    (kind other : OrderKind) :
    (coordination.withOrder names kind).order other =
      if other = kind then names else coordination.order other := by
  cases kind <;> cases other <;> rfl

namespace Workspace

variable {ω : Type}

/-! ## Orders -/

/-- Both orders name registered formatters only. -/
def KnowsOrders (w : Workspace ω) : Prop :=
  ∀ kind, ∀ name ∈ w.coordination.order kind, (w.formatter? name).isSome

/-- A list of formatters is taken over for an order, or the order is emptied for the first unknown one. -/
inductive TakesOrder (w : Workspace ω) (kind : OrderKind) : List String → Workspace ω → Prop
  | accepted {names : List String} {later : Workspace ω}
      (known : ∀ name ∈ names, (w.formatter? name).isSome)
      (order : later.coordination.order kind = names) (silent : w.Reports [] later) :
      TakesOrder w kind names later
  /-- Whether the problem is shown or not, it is reported before anything else is said. -/
  | rejected {earlier rest : List String} {name : String} {later : Workspace ω}
      (known : ∀ other ∈ earlier, (w.formatter? other).isSome) (unknown : w.formatter? name = none)
      (order : later.coordination.order kind = [])
      (reported : w.Reports [.configuration (.unknownFormatterInOrder kind name)] later)
      (logged : OnlySays { w.report (.configuration (.unknownFormatterInOrder kind name)) with
        coordination := w.coordination.withOrder [] kind } later) :
      TakesOrder w kind (earlier ++ name :: rest) later

/-- Any value that is applied as the setting of an order is taken over, or given up. -/
def TakesOrders [World ω] (w : Workspace ω) : Prop :=
  ∀ kind value, w.TakesOrder kind (Settings.stringList value) (Update.apply ⟨.order kind, value⟩ w)

/-- Nothing is lost, and orders of registered formatters stay so. -/
structure Tends (w later : Workspace ω) : Prop where
  retains : w.Retains later
  orders : w.KnowsOrders → later.KnowsOrders

/-- Doing nothing tends to everything. -/
theorem Tends.refl (w : Workspace ω) : w.Tends w := ⟨.refl w, id⟩

/-- Everything can be tended to again. -/
theorem Tends.trans {w mid later : Workspace ω} (first : w.Tends mid) (second : mid.Tends later) :
    w.Tends later :=
  ⟨first.retains.trans second.retains, fun knows => second.orders (first.orders knows)⟩

/-- Where nothing is lost, orders that stay the same name registered formatters as before. -/
theorem Tends.of_order {w later : Workspace ω} (retains : w.Retains later)
    (same : later.coordination.order = w.coordination.order) : w.Tends later := by
  refine ⟨retains, fun knows kind name member => ?_⟩
  rw [same] at member
  exact (retains.formatters name).trans (knows kind name member)

/-- What is unseen tends to everything if it sets nothing. -/
theorem Tends.of_unseen {w later : Workspace ω} (unseen : w.Unseen later)
    (settled : later.settled = w.settled) : w.Tends later :=
  .of_order (.of_same settled unseen.documents) (congrArg Coordination.order unseen.coordination)

/-- Saying something loses nothing, also when it is about other documents, settings and switches. -/
theorem Tends.of_onlySays {w later : Workspace ω} {store : Settings.Store Subscription}
    {coordination : Coordination} {documents : DocumentTable}
    (speech : OnlySays { w with
      store := store, coordination := coordination, documents := documents } later)
    (kept : ∀ handle, (w.documents.get? handle).isSome → (documents.get? handle).isSome)
    (same : coordination.order = w.coordination.order) : w.Tends later := by
  -- Only the outlet differs, and it is no part of what could be lost.
  obtain ⟨outlet, -, rfl⟩ := speech
  exact .of_order ⟨fun _ => rfl, kept⟩ same

/-! ## Settings -/

/-- A list of registered formatters becomes the order. -/
theorem onlySays_setOrder_of_known {w : Workspace ω} {names : List String} (kind : OrderKind)
    (known : ∀ name ∈ names, (w.formatter? name).isSome) :
    OnlySays { w with coordination := w.coordination.withOrder names kind } (w.setOrder kind names) := by
  have none : names.find? (fun name => (w.formatter? name).isNone) = none := by
    simpa [← Option.isSome_iff_ne_none] using known
  unfold setOrder
  split
  next same =>
    -- The order that was set already is set again.
    subst same
    cases kind <;> exact .refl w
  next =>
    rw [none]
    exact ((onlySays_debug w _).coordinated (·.withOrder names kind)).trans (onlySays_renderStatus _)

/-- A formatter that nobody knows is reported, and the order is emptied. -/
theorem onlySays_setOrder_of_unknown {w : Workspace ω} {kind : OrderKind} {names : List String}
    {name : String} (other : w.coordination.order kind ≠ names)
    (found : names.find? (fun name => (w.formatter? name).isNone) = some name) :
    OnlySays { w.report (.configuration (.unknownFormatterInOrder kind name)) with
      coordination := w.coordination.withOrder [] kind } (w.setOrder kind names) := by
  -- The report leaves the coordination, so that it is the old order that is emptied.
  have kept : (w.report (.configuration (.unknownFormatterInOrder kind name))).coordination =
      w.coordination := (unseen_report w _).coordination
  unfold setOrder
  rw [if_neg other, found, ← kept]
  exact ((onlySays_debug _ _).coordinated (·.withOrder [] kind)).trans (onlySays_renderStatus _)

/-- Where orders name registered formatters, a list for an order is taken over or given up. -/
theorem takesOrder_setOrder {w : Workspace ω} (knows : w.KnowsOrders) (kind : OrderKind)
    (names : List String) : w.TakesOrder kind names (w.setOrder kind names) := by
  have reports := reports_setOrder w kind names
  cases found : names.find? fun name => (w.formatter? name).isNone with
  | none =>
    have known : ∀ name ∈ names, (w.formatter? name).isSome := by
      simpa [← Option.isSome_iff_ne_none] using found
    obtain ⟨outlet, -, same⟩ := onlySays_setOrder_of_known kind known
    refine .accepted known ?_ (by simpa [orderProblems, found] using reports)
    simp [same, Coordination.order_withOrder]
  | some name =>
    obtain ⟨missing, earlier, rest, rfl, known⟩ := List.find?_eq_some_iff_append.mp found
    have unknown : w.formatter? name = none := by simpa using missing
    -- The present order cannot be the list, for it names registered formatters only.
    have other : w.coordination.order kind ≠ earlier ++ name :: rest := by
      intro same
      have listed := knows kind name (by simp [same])
      simp [unknown] at listed
    have speech := onlySays_setOrder_of_unknown other found
    refine .rejected ?_ unknown ?_ (by simpa [orderProblems, found, other] using reports) speech
    · simpa [← Option.isSome_iff_ne_none] using known
    · obtain ⟨outlet, -, same⟩ := speech
      simp [same, Coordination.order_withOrder]

/-- Setting an order loses nothing, and the orders name registered formatters afterwards. -/
theorem tends_setOrder (w : Workspace ω) (kind : OrderKind) (names : List String) :
    w.Tends (w.setOrder kind names) := by
  obtain ⟨order, outlet, -, same⟩ := onlySays_setOrder w kind names
  have retains : w.Retains (w.setOrder kind names) := by
    rw [same]
    exact ⟨fun _ => rfl, fun _ => id⟩
  refine ⟨retains, fun knows other name member => (retains.formatters name).trans ?_⟩
  by_cases here : other = kind
  · -- The order itself is the list, or it is empty.
    subst here
    cases takesOrder_setOrder knows other names with
    | accepted known order => exact known name (order ▸ member)
    | rejected known unknown order => simp [order] at member
  · rw [same] at member
    exact knows other name (by simpa [Coordination.order_withOrder, here] using member)

variable [World ω]

/-- A setting that takes effect neither adds nor removes a formatter or a document. -/
theorem retains_apply (update : Update) (w : Workspace ω) : w.Retains (update.apply w) where
  formatters name := by
    rw [← isSome_ownArguments, settled_apply, Settled.isSome_ownArguments_take, isSome_ownArguments]
  documents handle present :=
    (DocumentTable.isSome_get?_of_blank (steady_apply update w).documents handle).trans present

/-- After a setting has taken effect, the orders name registered formatters as before. -/
theorem tends_apply (update : Update) (w : Workspace ω) : w.Tends (update.apply w) := by
  have retains := retains_apply update w
  obtain ⟨target, value⟩ := update
  -- Only an order changes an order.
  cases target with
  | order kind => exact tends_setOrder w kind _
  | statusBar => exact .of_onlySays (onlySays_setStatusBar w _) (fun _ => id) rfl
  | onSaveEnabled => exact .of_onlySays (onlySays_renderStatus _) (fun _ => id) rfl
  | errorHandling | busySignal | slot =>
    exact .of_order retains (congrArg Coordination.order (unseen_apply _ w (by simp)).coordination)

/-- After settings have taken effect, the orders name registered formatters as before. -/
theorem tends_foldl_apply (updates : List Update) (w : Workspace ω) :
    w.Tends (updates.foldl (fun w update => update.apply w) w) :=
  foldl_apply_keeps (w.Tends ·) (fun update before => before.trans (tends_apply update _)) updates
    (.refl w)

/-- After settings were observed, the orders name registered formatters as before. -/
theorem tends_foldl_observe (targets : List Target) (w : Workspace ω) :
    w.Tends (targets.foldl observe w) :=
  foldl_observe_keeps (w.Tends ·)
    (fun _ _ before => before.trans (.of_order ⟨fun _ => rfl, fun _ => id⟩ rfl))
    (fun update before => before.trans (tends_apply update _)) targets (.refl w)

/-! ## Documents -/

omit [World ω] in
/-- That the formatters apply to a document, or not any more, changes no order. -/
theorem tends_scopeChanged (w : Workspace ω) (document : Document) :
    w.Tends (w.scopeChanged document) := by
  unfold scopeChanged
  dsimp only
  split
  · exact .of_onlySays (onlySays_renderStatus (w.watchSaves document)) (fun _ => id) rfl
  · exact .of_order ⟨fun _ => rfl, fun _ => id⟩ rfl

omit [World ω] in
/-- That a document was closed changes no order. -/
theorem tends_documentClosed (w : Workspace ω) (id : Nat) : w.Tends (w.documentClosed id) := by
  unfold documentClosed
  dsimp only
  split
  · exact .of_onlySays (onlySays_renderStatus _) (fun _ present => present) rfl
  · exact .of_order ⟨fun _ => rfl, fun _ present => present⟩ rfl

omit [World ω] in
/-- In the end of a start no order changes. -/
theorem tends_greeting (w : Workspace ω) : w.Tends (Session.greeting w) := by
  refine Tends.trans ?_ (.of_onlySays (onlySays_debug _ _) (fun _ => id) rfl)
  -- The tile is drawn or the document is announced, and only the outlet changes.
  cases w.documents.active? with
  | none => exact .of_onlySays (onlySays_renderStatus w) (fun _ => id) rfl
  | some handle =>
    dsimp only
    cases w.document? handle <;>
      exact .of_onlySays (onlySays_renderStatus _) (fun _ => id) rfl

end Workspace

namespace Session

variable {ω : Type} [World ω] {s next : Session ω}

/-! ## What happens to a session -/

/-- Setting a setting loses nothing, and the orders name registered formatters afterwards. -/
theorem tends_set (key : String) (value : Json.Value) (s : Session ω) :
    s.state.Tends (s.set key value).state := by
  have stored : s.state.Tends { s.state with store := (s.state.store.set key value).1 } :=
    .of_order ⟨fun _ => rfl, fun _ => id⟩ rfl
  rw [state_set]
  exact stored.trans (Workspace.tends_foldl_apply _ _)

/-- A call that asks for no work loses nothing, and the orders name registered formatters afterwards. -/
theorem tends_answer (s : Session ω) (call : Call ω) (idle : call.IsIdle) :
    s.state.Tends (s.answer call).state := by
  -- A document that is changed stays there.
  have changed : ∀ (handle : Handle) (change : Document → Document),
      s.state.Tends (s.changeDocument handle change).state := fun handle change =>
    .of_order ⟨fun _ => rfl, fun other present => by
      simpa [Workspace.document?, changeDocument, DebouncedTimeline.modify, Timeline.modify,
        DocumentTable.get?_modify] using present⟩ rfl
  cases call with
  | set key value => exact tends_set key value s
  | toggle key => exact tends_set key _ s
  | openDocument document =>
    refine .of_order ⟨fun _ => rfl, fun handle present => ?_⟩ rfl
    have kept : ((s.state.documents.insert document).1.get? handle).isSome := by
      rw [DocumentTable.get?_insert]
      split
      · rfl
      · exact present
    exact kept
  | edit handle text cursor => exact changed handle _
  | closeDocument id =>
    have closed : s.state.Tends { s.state with documents := s.state.documents.close id } :=
      .of_order ⟨fun _ => rfl, fun _ present => present⟩ rfl
    exact closed.trans (Workspace.tends_documentClosed _ id)
  | changeScope handle inScope =>
    simp only [answer, changeScope]
    split
    · exact (changed handle _).trans (Workspace.tends_scopeChanged _ _)
    · exact changed handle _
  -- A document becomes active only if its number is open, so it is in the table.
  | activate id =>
    simp only [answer, activateDocument]
    split
    next => exact .refl _
    next documents activated =>
      obtain rfl := DocumentTable.activate?_eq_some activated
      exact .of_onlySays (Workspace.onlySays_renderStatus _) (fun _ present => present) rfl
  | world change => exact .of_order ⟨fun _ => rfl, fun _ => id⟩ rfl
  | command | saved | chain | single => exact idle.elim

omit [World ω] in
/-- News of documents lose nothing, and the orders stay as they are. -/
theorem tends_noticed {notice : Notice} (fits : notice.FitsTo s.state.documents) :
    s.state.Tends (s.noticed notice).state := by
  cases notice with
  -- Being told of a document changes neither formatters nor orders.
  | opened document => exact .of_order ⟨fun _ => rfl, fun _ => id⟩ rfl
  | activated document => exact .of_onlySays (Workspace.onlySays_renderStatus _) (fun _ => id) rfl
  | closed id => exact Workspace.tends_documentClosed _ id
  -- A replaced table still has a document under every handle that had one.
  | replaced documents =>
    refine .of_order ⟨fun _ => rfl, fun handle present => ?_⟩ rfl
    obtain ⟨document, there⟩ := Option.isSome_iff_exists.mp present
    have kept : (documents.get? handle).isSome := by
      simpa using congrArg Option.isSome (fits.1 handle document there)
    exact kept

omit [World ω] in
/-- News of documents disturb no work. -/
theorem undisturbed_noticed (notice : Notice) (s : Session ω) : s.Undisturbed (s.noticed notice) := by
  cases notice with
  | opened document => exact ⟨rfl, rfl, (Workspace.calm_watchSaves _ document).idle⟩
  | activated document => exact ⟨rfl, rfl, (Workspace.calm_activeChanged _ document).1.idle⟩
  | closed id => exact ⟨rfl, rfl, (Workspace.calm_documentClosed _ id).1.idle⟩
  | replaced documents => exact ⟨rfl, rfl, ⟨rfl, rfl, rfl, rfl⟩⟩

omit [World ω] in
/-- The end of a session disturbs no work, and loses nothing but what is observed. -/
theorem undisturbed_stop (s : Session ω) : s.Undisturbed s.stop ∧ s.state.Tends s.stop.state := by
  -- The stop cancels, forgets the document, takes the tile down and logs it.
  have forgotten := DebouncedTimeline.others_cancelAll s.unobserveAll
  let ended : Workspace ω := { s.unobserveAll.state with
    coordination := { s.state.coordination with saveWatch := [], activeDocument := none } }
  have removed : ended.OnlySays (ended.send (.status none)) := Workspace.onlySays_send ended rfl
  have speech : ended.OnlySays s.stop.state := removed.trans (Workspace.onlySays_debug _ "Shut down.")
  have idle := (Workspace.Calm.of_onlySays speech).idle
  -- Observers that are dropped are no part of formatters, orders or documents.
  have unobserved : s.state.Tends s.unobserveAll.state := .of_order ⟨fun _ => rfl, fun _ => id⟩ rfl
  exact ⟨⟨forgotten.1, forgotten.2, ⟨idle.entries, idle.numbered, idle.finished, idle.spawns⟩⟩,
    unobserved.trans (.of_onlySays speech (fun _ => id) rfl)⟩

/-- Turns lose nothing, and the orders name registered formatters afterwards. -/
theorem tends_takes {turn : Turn (Work Update Errand) (Work Update Sleeper)}
    (taken : DebouncedTimeline.Takes machine s turn next) : s.state.Tends next.state := by
  rw [taken.state_eq]
  -- Only the four kinds of work that is carried out change anything.
  rcases turn with (task | errand) | ⟨now, task | sleeper⟩ | _
  · exact .refl _
  · exact .of_unseen (Workspace.unseen_startErrand s.clock errand s.state)
      (Workspace.effect_startErrand s.clock errand s.state).settled
  · exact Workspace.tends_apply task.action s.state
  · exact .of_unseen (Workspace.unseen_wakeSleeper now sleeper s.state)
      (Workspace.effect_wakeSleeper now sleeper s.state).settled
  · exact .refl _

end Session

end FormatPipeline
