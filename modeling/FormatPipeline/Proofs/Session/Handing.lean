import FormatPipeline.Proofs.Schedule.Pending
import FormatPipeline.Proofs.Session.Run

/-! What changes of settings hand over, and that nothing else takes effect. -/

namespace FormatPipeline

open Schedule (DebouncedTimeline Turn Work)
open Workspace (Settled)

namespace Workspace.Settled

/-- What was set after a setting is observed, before its value takes effect. -/
def observe (settled : Settled) (key : String) (subscription : Subscription) : Settled :=
  { settled with
    store := (settled.store.observe key subscription).1
    subscriptions := settled.subscriptions ++ [(settled.store.observe key subscription).2] }

/-- Values that take effect do not change the settings themselves. -/
@[simp] theorem store_take (settled : Settled) (update : Update) :
    (settled.take update).store = settled.store := by
  unfold take
  split <;> rfl

/-- Values that take effect do not change the debouncer. -/
@[simp] theorem debouncer_take (settled : Settled) (update : Update) :
    (settled.take update).debouncer = settled.debouncer := by
  unfold take
  split <;> rfl

/-- Values that take effect do not change who observes them. -/
@[simp] theorem subscriptions_take (settled : Settled) (update : Update) :
    (settled.take update).subscriptions = settled.subscriptions := by
  unfold take
  split <;> rfl

/-- Values that take effect neither add nor remove a formatter. -/
@[simp] theorem isSome_ownArguments_take (settled : Settled) (update : Update) (name : String) :
    ((settled.take update).ownArguments name).isSome = (settled.ownArguments name).isSome := by
  obtain ⟨target, value⟩ := update
  cases target with
  | slot other which =>
    -- Arguments are replaced only where there are some.
    by_cases here : other = name
    · simp [take, here]
    · simp [take, here]
  | order kind => rfl
  | errorHandling | busySignal | statusBar | onSaveEnabled => rfl

end Workspace.Settled

namespace Workspace

variable {ω : Type} [World ω]

/-- A setting that takes effect changes no setting. -/
theorem store_apply (update : Update) (w : Workspace ω) : (update.apply w).store = w.store :=
  (congrArg Settled.store (settled_apply update w)).trans (Settled.store_take _ _)

/-- Settings that take effect one after another change no setting. -/
theorem store_foldl_apply (updates : List Update) (w : Workspace ω) :
    (updates.foldl (fun w update => update.apply w) w).store = w.store :=
  foldl_apply_keeps (·.store = w.store) (fun update before => (store_apply update _).trans before)
    updates rfl

end Workspace

/-- Whether someone who is told about changes is without an effect, for want of the present debouncer. -/
def Subscription.isQuiet (subscription : Subscription) (number : Nat) : Bool :=
  subscription.debouncer.any (· != number)

/-- An observer without an effect has a debouncer, and it is another one. -/
theorem Subscription.isQuiet_iff {subscription : Subscription} {number : Nat} :
    subscription.isQuiet number ↔ ∃ other, subscription.debouncer = some other ∧ other ≠ number := by
  simp [isQuiet, Option.any_eq_true]

namespace Session

variable {ω : Type}

/-- What a change of a setting hands to one of those who are told about it, if it hands it at once. -/
def handsTo? (value : Json.Value) (s : Session ω) (subscription : Subscription) : Option Update :=
  match subscription.debouncer with
  -- Without a debouncer the value is handed over at once, and with one only if it does not wait.
  | none => some ⟨subscription.target, value⟩
  | some number =>
    match s.state.debouncer with
    | some (current, delay) =>
      if number = current ∧ delay = 0 then some ⟨subscription.target, value⟩ else none
    | none => none

/-- What setting a setting hands over at once. -/
def handsOut (key : String) (value : Json.Value) (s : Session ω) : List Update :=
  (s.state.store.set key value).2.filterMap (handsTo? value s)

variable [World ω]

/-- What a move hands over. -/
def hands (s : Session ω) : Move ω → List Update
  | .call (.set key value) => s.handsOut key value
  | .call (.toggle key) => s.handsOut key (s.state.store.toggled key)
  | .call (.command name) =>
    if name = Command.toggleOnSave then
      s.handsOut Settings.onSaveEnabledKey (s.state.store.toggled Settings.onSaveEnabledKey)
    else []
  -- A delayed update is handed over when its wait is over.
  | .turn (.wake _ (.delayed entry)) => [entry.action]
  | _ => []

omit [World ω] in
/-- What is handed over depends on the debouncer and on nothing else of a session. -/
theorem handsTo?_congr {s other : Session ω} (same : other.state.debouncer = s.state.debouncer)
    (value : Json.Value) (subscription : Subscription) :
    other.handsTo? value subscription = s.handsTo? value subscription := by
  simp only [handsTo?, same]

omit [World ω] in
/-- What is handed to someone who is told about a change takes effect on its target. -/
theorem target_of_handsTo? {s : Session ω} {value : Json.Value} {subscription : Subscription} {update : Update}
    (hands : s.handsTo? value subscription = some update) : update.target = subscription.target := by
  -- Without a debouncer, or with one that does not wait, the value goes to the target itself.
  unfold handsTo? at hands
  split at hands
  · cases hands
    rfl
  · split at hands
    · split at hands
      · cases hands
        rfl
      · cases hands
    · cases hands

/-- What is handed over at once is what takes effect at once. -/
theorem state_notify (key : String) (value : Json.Value) (s : Session ω)
    (subscription : Subscription) :
    (s.notify key value subscription).state =
      (s.handsTo? value subscription).elim s.state fun update => update.apply s.state := by
  unfold notify handsTo?
  -- Who has no debouncer is told at once.
  cases subscription.debouncer with
  | none => rfl
  | some number =>
    cases debouncer : s.state.debouncer with
    | none => rfl
    | some current =>
      -- An earlier debouncer hands nothing over any more.
      by_cases same : number = current.1
      · -- Without a delay the debouncer hands over at once, and otherwise a job is asked for.
        by_cases instant : current.2 = 0
        · simp [same, instant, DebouncedTimeline.call]
          rfl
        · simp [same, instant, DebouncedTimeline.call]
          rfl
      · simp [same]

/-- Nobody who is told about a change changes the debouncer. -/
theorem debouncer_notify (key : String) (value : Json.Value) (s : Session ω)
    (subscription : Subscription) :
    (s.notify key value subscription).state.debouncer = s.state.debouncer := by
  -- A setter is the only thing called, and it keeps the debouncer among all that is settled.
  rw [state_notify]
  cases s.handsTo? value subscription with
  | none => rfl
  | some update =>
    exact (congrArg Settled.debouncer (Workspace.settled_apply update s.state)).trans
      (Settled.debouncer_take _ _)

/-- What takes effect when all are told about a change is what they are handed. -/
theorem state_foldl_notify (key : String) (value : Json.Value) (told : List Subscription)
    (s : Session ω) :
    (told.foldl (notify key value) s).state =
      (told.filterMap (s.handsTo? value)).foldl (fun w update => update.apply w) s.state := by
  induction told generalizing s with
  | nil => rfl
  | cons subscription rest ih =>
    -- Those who are told later are handed the same as if they were told first.
    have same := funext (handsTo?_congr (debouncer_notify key value s subscription) value)
    rw [List.foldl_cons, ih, state_notify, same]
    cases hands : s.handsTo? value subscription <;> simp [hands]

/-- What was set after several updates have taken effect. -/
theorem settled_foldl_apply (updates : List Update) (w : Workspace ω) :
    (updates.foldl (fun w update => update.apply w) w).settled =
      updates.foldl Settled.take w.settled := by
  -- Each update goes on from what the earlier ones have set.
  induction updates generalizing w with
  | nil => rfl
  | cons update rest ih => rw [List.foldl_cons, List.foldl_cons, ih, Workspace.settled_apply]

/-- Setting a setting hands over all that takes effect at once. -/
theorem state_set (key : String) (value : Json.Value) (s : Session ω) :
    (s.set key value).state =
      (s.handsOut key value).foldl (fun w update => update.apply w)
        { s.state with store := (s.state.store.set key value).1 } :=
  state_foldl_notify key value _ _

/-! ## Observers without an effect -/

omit [World ω] in
/-- The present debouncer is none that an observer without an effect has. -/
theorem debouncer_of_isQuiet {s : Session ω} {subscription : Subscription}
    (quiet : subscription.isQuiet s.debouncerNumber) : ∃ other, subscription.debouncer = some other ∧
      ∀ current delay, s.state.debouncer = some (current, delay) → other ≠ current := by
  obtain ⟨other, stale, apart⟩ := Subscription.isQuiet_iff.mp quiet
  refine ⟨other, stale, fun current delay present => ?_⟩
  simpa [debouncerNumber, present] using apart

omit [World ω] in
/-- An observer whose debouncer is another one than the present one is handed nothing. -/
theorem handsTo?_of_isQuiet {s : Session ω} {subscription : Subscription}
    (quiet : subscription.isQuiet s.debouncerNumber) (value : Json.Value) :
    s.handsTo? value subscription = none := by
  obtain ⟨other, stale, apart⟩ := debouncer_of_isQuiet quiet
  cases present : s.state.debouncer with
  | none => simp [handsTo?, stale, present]
  | some current => simp [handsTo?, stale, present, apart current.1 current.2 present]

/-- Telling an observer whose debouncer is another one than the present one changes nothing. -/
theorem notify_of_isQuiet {s : Session ω} {subscription : Subscription}
    (quiet : subscription.isQuiet s.debouncerNumber) (key : String) (value : Json.Value) :
    s.notify key value subscription = s := by
  obtain ⟨other, stale, apart⟩ := debouncer_of_isQuiet quiet
  cases present : s.state.debouncer with
  | none => simp [notify, stale, present]
  | some current => simp [notify, stale, present, apart current.1 current.2 present]

/-- Observers without an effect need not be told about a change. -/
theorem foldl_notify_filter (key : String) (value : Json.Value) (told : List Subscription)
    {s : Session ω} {number delay : Nat} (present : s.state.debouncer = some (number, delay)) :
    told.foldl (notify key value) s =
      (told.filter (!·.isQuiet number)).foldl (notify key value) s := by
  -- The debouncer stays the same while one after another is told.
  induction told generalizing s with
  | nil => rfl
  | cons subscription rest ih =>
    have same : s.debouncerNumber = number := by simp [debouncerNumber, present]
    cases quiet : subscription.isQuiet number with
    | true => simpa [quiet, notify_of_isQuiet (same ▸ quiet)] using ih present
    | false =>
      have later := ih ((debouncer_notify key value s subscription).trans present)
      simpa [quiet] using later

omit [World ω] in
/-- Observers without an effect are handed nothing. -/
theorem filterMap_handsTo?_filter (value : Json.Value) (told : List Subscription) {s : Session ω}
    {number delay : Nat} (present : s.state.debouncer = some (number, delay)) :
    told.filterMap (s.handsTo? value) =
      (told.filter (!·.isQuiet number)).filterMap (s.handsTo? value) := by
  have same : s.debouncerNumber = number := by simp [debouncerNumber, present]
  -- By induction on those told; an observer without effect adds nothing on either side.
  induction told with
  | nil => rfl
  | cons subscription rest ih =>
    cases quiet : subscription.isQuiet number with
    | true =>
      have nothing := handsTo?_of_isQuiet (same ▸ quiet) value
      simpa [List.filterMap_cons, quiet, nothing] using ih
    | false =>
      cases hands : s.handsTo? value subscription <;> simp [quiet, hands, ih]

/-! ## What hands nothing over -/

/-- A session in which nothing else was set and nothing else waits than in another one. -/
structure Quiet (s next : Session ω) : Prop where
  settled : next.state.settled = s.state.settled
  waiting : DebouncedTimeline.pending next = DebouncedTimeline.pending s

omit [World ω] in
/-- Nothing happens to a session that stays as it is. -/
theorem Quiet.refl (s : Session ω) : s.Quiet s := ⟨rfl, rfl⟩

omit [World ω] in
/-- Asking for a piece of work sets nothing. -/
theorem quiet_spawn (s : Session ω) (errand : Nat → Errand) : s.Quiet (s.spawn errand).1 :=
  ⟨rfl, DebouncedTimeline.pending_spawn _ _⟩

omit [World ω] in
/-- Logging something sets nothing. -/
theorem quiet_debug (s : Session ω) (text : String) :
    s.Quiet (s.modify (·.debug text) : Session ω) :=
  ⟨Workspace.settled_of_onlySays (Workspace.onlySays_debug _ text), rfl⟩

/-- A call sets one setting, or it hands nothing over and nothing changes. -/
theorem answer_cases (s : Session ω) (call : Call ω) :
    (∃ t key value, s.Quiet t ∧ s.answer call = t.set key value ∧
      s.hands (.call call) = t.handsOut key value) ∨
    (s.Quiet (s.answer call) ∧ s.hands (.call call) = []) := by
  cases call with
  | set key value => exact .inl ⟨s, key, value, .refl s, rfl, rfl⟩
  | toggle key => exact .inl ⟨s, key, _, .refl s, rfl, rfl⟩
  | command name =>
    have logged := quiet_debug s ("Command: " ++ name)
    -- Whatever the command asks for, it sets nothing by itself.
    have spawned : ∀ errand : Nat → Errand,
        s.Quiet (Session.spawn errand (s.modify (·.debug ("Command: " ++ name)))).1 := by
      intro errand
      have asked := quiet_spawn (s.modify (·.debug ("Command: " ++ name)) : Session ω) errand
      exact ⟨asked.settled.trans logged.settled, asked.waiting.trans logged.waiting⟩
    -- Only one command turns a setting over, and it is not the one that formats.
    by_cases switch : name = Command.toggleOnSave
    · have apart : Command.toggleOnSave ≠ Command.format := by decide
      subst switch
      refine .inl ⟨_, Settings.onSaveEnabledKey, s.state.store.toggled Settings.onSaveEnabledKey,
        logged, ?_, rfl⟩
      simp only [answer, command, apart, if_true, if_false]
      rfl
    · refine .inr ⟨?_, by simp [hands, switch]⟩
      simp only [answer, command, switch, if_false]
      split
      · exact spawned .formatActive
      · split
        · exact logged
        next formatter found =>
          split
          · exact spawned (.runOnActive · formatter)
          · exact logged
  | saved document =>
    refine .inr ⟨?_, rfl⟩
    simp only [answer, documentSaved]
    -- Saving asks for work at most.
    split
    · split
      · exact quiet_spawn s (.formatSaved · document)
      · exact .refl s
    · exact .refl s
  | chain document names mode => exact .inr ⟨quiet_spawn s _, rfl⟩
  | single formatter document mode => exact .inr ⟨quiet_spawn s _, rfl⟩
  | openDocument document => exact .inr ⟨⟨rfl, rfl⟩, rfl⟩
  | edit document text cursor => exact .inr ⟨⟨rfl, rfl⟩, rfl⟩
  | closeDocument id => exact .inr ⟨⟨(Workspace.calm_documentClosed _ id).2, rfl⟩, rfl⟩
  | changeScope document inScope =>
    refine .inr ⟨?_, rfl⟩
    simp only [answer, changeScope]
    -- A change of the scope is told to the workspace, which sets nothing.
    split
    next changed _ => exact ⟨(Workspace.calm_scopeChanged _ changed).2, rfl⟩
    next => exact ⟨rfl, rfl⟩
  | activate id =>
    refine .inr ⟨?_, rfl⟩
    simp only [answer, activateDocument]
    split
    next => exact .refl s
    next documents _ => exact ⟨(Workspace.calm_activeChanged _ documents.active?).2, rfl⟩
  | world change => exact .inr ⟨⟨rfl, rfl⟩, rfl⟩

omit [World ω] in
/-- Unless a delayed update takes effect, a turn hands nothing over. -/
theorem hands_turn {turn : Turn (Work Update Errand) (Work Update Sleeper)} (s : Session ω)
    -- Only an entry of the debouncer that wakes is handed over; a job that starts hands nothing itself.
    (other : ∀ now entry, turn ≠ .wake now (.delayed entry)) : s.hands (.turn turn) = [] := by
  cases turn with
  | wake now work =>
    cases work with
    | delayed entry => exact absurd rfl (other now entry)
    | other sleeper => rfl
  | start job => rfl
  | pass => rfl

/-- What a move hands over is all that it changes of what was set, apart from the settings. -/
theorem settled_moves {s next : Session ω} {move : Move ω} (moved : Moves s move next) :
    ∃ store, next.state.settled =
      (s.hands move).foldl Settled.take { s.state.settled with store := store } := by
  cases moved with
  | call call =>
    -- A call that sets a setting changes the store first.
    rcases answer_cases s call with ⟨t, key, value, quiet, same, hands⟩ | ⟨quiet, nothing⟩
    · refine ⟨(t.state.store.set key value).1, ?_⟩
      rw [same, hands, state_set, settled_foldl_apply, ← quiet.settled]
      rfl
    · exact ⟨s.state.store, by rw [nothing]; exact quiet.settled⟩
  | turn taken =>
    refine ⟨s.state.store, ?_⟩
    -- A turn hands over what it takes out of the waiting updates.
    rcases DebouncedTimeline.pending_takes taken with ⟨now, entry, rfl, -, state⟩ | ⟨other, -⟩
    · exact (congrArg Workspace.settled state).trans (Workspace.settled_apply entry.action s.state)
    · rw [hands_turn s other]
      exact (effect_takes taken other).settled

/-- No move adds or removes a formatter. -/
theorem isSome_ownArguments_moves {s next : Session ω} {move : Move ω} (moved : Moves s move next)
    (name : String) :
    (next.state.settled.ownArguments name).isSome = (s.state.settled.ownArguments name).isSome := by
  obtain ⟨store, same⟩ := settled_moves moved
  rw [same]
  generalize s.hands move = updates
  -- No update adds or removes arguments, so neither do several.
  have known : ∀ settled : Settled,
      ((updates.foldl Settled.take settled).ownArguments name).isSome =
        (settled.ownArguments name).isSome := by
    induction updates with
    | nil => exact fun _ => rfl
    | cons update rest ih => exact fun settled => (ih _).trans (Settled.isSome_ownArguments_take ..)
  exact known _

end Session

end FormatPipeline
