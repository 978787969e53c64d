import FormatPipeline.Proofs.Schedule.Pending
import FormatPipeline.Proofs.Session.Handing
import FormatPipeline.Proofs.Session.Observing

/-! No change of a setting is lost: what takes effect is up to date, or an update waits. -/

namespace FormatPipeline

open Json (putMember)
open Schedule (DebouncedTimeline Delayed Turn Work)
open Settings (Slot Store)
open Workspace (Settled)

/-- All targets are observed, by nobody else with an effect, and each of them is fine. -/
structure UpToDate (targets : List Target) (number delay : Nat) (handed : List Update)
    (settled : Settled) (pending : List (Delayed Update)) : Prop where
  observers : (settled.store.observers.filter (!·.reaction.isQuiet number)).map
      (fun observer => (observer.key, observer.reaction)) =
    targets.map fun target => (target.key, target.subscription number)
  debouncer : settled.debouncer = some (number, delay)
  known : ∀ name which, .slot name which ∈ targets → (settled.ownArguments name).isSome
  waiting : ∀ entry ∈ pending, ∃ target ∈ targets, target.isDebounced ∧ target.key = entry.key
  fine : ∀ target ∈ targets, Fine delay handed settled pending target

/-- A target is told with an effect, whether at once or by the present debouncer. -/
theorem Target.isQuiet_subscription (target : Target) (number : Nat) :
    (target.subscription number).isQuiet number = false := by
  unfold subscription Subscription.isQuiet
  cases target.isDebounced <;> simp

/-- Of different targets at most one is observed under a key. -/
theorem filter_key {targets : List Target} (different : targets.Nodup) {target : Target}
    (member : target ∈ targets) : targets.filter (·.key == target.key) = [target] := by
  induction targets with
  | nil => simp at member
  | cons first rest ih =>
    obtain ⟨missing, others⟩ := List.nodup_cons.mp different
    rcases List.mem_cons.mp member with rfl | later
    · -- A second target under the key would be the same target.
      have none : rest.filter (·.key == target.key) = [] := by
        refine List.filter_eq_nil_iff.mpr fun other listed same => ?_
        exact missing (Target.key_injective (by simpa using same) ▸ listed)
      simp [none]
    · -- The first target is another one, so it has another key.
      have apart : first.key ≠ target.key := fun same =>
        missing (Target.key_injective same ▸ later)
      simpa [apart] using ih others later

/-- Nothing waits under a key after what waited under it was dropped. -/
theorem filter_dropped (pending : List (Delayed Update)) (key : String) :
    (pending.filter fun entry => !entry.key == key).filter (·.key == key) = [] := by
  rw [List.filter_filter]
  refine List.filter_eq_nil_iff.mpr fun entry _ => ?_
  simp

namespace UpToDate

variable {targets : List Target} {number delay : Nat} {handed : List Update} {settled : Settled}
  {pending : List (Delayed Update)}

/-- Those who are told about a key with an effect are its target, if there is one. -/
theorem told (current : UpToDate targets number delay handed settled pending)
    (different : targets.Nodup) (key : String) :
    let told := (settled.store.observers.filter (·.key == key)).map (·.reaction)
    (∃ target ∈ targets, target.key = key ∧
      told.filter (!·.isQuiet number) = [target.subscription number]) ∨
    ((∀ target ∈ targets, target.key ≠ key) ∧ told.filter (!·.isQuiet number) = []) := by
  intro told
  -- Who observes what is known from the targets.
  have same : told.filter (!·.isQuiet number) =
      (targets.filter (·.key == key)).map (·.subscription number) := by
    have pairs := congrArg (fun pairs => (pairs.filter (·.1 == key)).map (·.2)) current.observers
    simpa [told, List.filter_map, Function.comp_def, List.filter_filter, Bool.and_comm] using pairs
  -- The targets observe their own keys, each of which belongs to one target.
  by_cases observed : ∃ target ∈ targets, target.key = key
  · obtain ⟨target, member, rfl⟩ := observed
    exact .inl ⟨target, member, rfl, by rw [same, filter_key different member]; rfl⟩
  · have nobody : targets.filter (·.key == key) = [] := by
      refine List.filter_eq_nil_iff.mpr fun target member found => observed ⟨target, member, ?_⟩
      simpa using found
    exact .inr ⟨fun target member found => observed ⟨target, member, found⟩, by rw [same, nobody]; rfl⟩

/-- The order in which updates wait makes no difference. -/
theorem perm (current : UpToDate targets number delay handed settled pending)
    {other : List (Delayed Update)} (same : pending.Perm other) :
    UpToDate targets number delay handed settled other :=
  { current with
    waiting := fun entry member => current.waiting entry (same.mem_iff.mpr member)
    fine := fun target member => (current.fine target member).perm same }

/-- Setting a key that no target has leaves everything up to date. -/
theorem put_unobserved (current : UpToDate targets number delay handed settled pending) {key : String}
    (unobserved : ∀ target ∈ targets, target.key ≠ key) (value : Json.Value) :
    UpToDate targets number delay handed
      { settled with
        store := { settled.store with values := putMember key value settled.store.values } }
      pending :=
  -- Only the entry of the key is new, and no target looks at it.
  { current with
    fine := fun target member => (current.fine target member).put_of_ne (unobserved target member) value }

/-- Handing its value to a target for which nothing waits leaves everything up to date. -/
theorem put_handed (current : UpToDate targets number delay handed settled pending)
    {target : Target} (member : target ∈ targets) (value : Json.Value)
    (remaining : List (Delayed Update))
    (dropped : remaining = pending.filter fun entry => !entry.key == target.key) :
    UpToDate targets number delay (handed ++ [⟨target, value⟩])
      (Settled.take { settled with
          store := { settled.store with values := putMember target.key value settled.store.values } }
        ⟨target, value⟩)
      remaining := by
  -- The target takes the value, and every other target is as fine as before.
  have got := Settings.Store.get_put_self settled.store target.key value
  have nothing : remaining.filter (·.key == target.key) = [] := by
    rw [dropped]
    exact filter_dropped pending target.key
  refine ⟨?_, ?_, ?_, ?_, ?_⟩
  · rw [Settled.store_take]
    exact current.observers
  · simpa using current.debouncer
  · intro name which listed
    simpa using current.known name which listed
  · intro entry waits
    rw [dropped] at waits
    exact current.waiting entry (List.mem_filter.mp waits).1
  -- What waited under the target's key was dropped; under all other keys nothing was.
  · intro other listed
    by_cases here : target = other
    · subst here
      have fine := Fine.of_handed delay handed
        { settled with
          store := { settled.store with values := putMember target.key value settled.store.values } }
        remaining
        (fun name which same => current.known name which (same ▸ member)) nothing
      simpa only [got] using fine
    · have apart := Target.key_ne here
      rw [dropped]
      exact (((current.fine other listed).put_of_ne apart value).drop_of_ne apart).hand_of_ne here

/-- Nothing waits for a target that is not debounced. -/
theorem filter_of_direct (current : UpToDate targets number delay handed settled pending)
    {target : Target} (direct : target.isDebounced = false) :
    pending.filter (fun entry => !entry.key == target.key) = pending := by
  refine List.filter_eq_self.mpr fun entry waits => ?_
  -- Whatever waits is meant for a debounced target, which is another one.
  obtain ⟨other, -, debounced, same⟩ := current.waiting entry waits
  have apart : entry.key ≠ target.key := by
    intro equal
    have identical := Target.key_injective (same.trans equal)
    simp [identical, direct] at debounced
  simpa using apart

/-- Letting its value wait for a target, in place of an earlier one, leaves everything up to date. -/
theorem put_waiting (current : UpToDate targets number delay handed settled pending)
    {target : Target} (member : target ∈ targets) (debounced : target.isDebounced)
    (value : Json.Value) :
    UpToDate targets number delay handed
      { settled with
        store := { settled.store with values := putMember target.key value settled.store.values } }
      (⟨target.key, delay, ⟨target, value⟩⟩ :: pending.filter fun entry => !entry.key == target.key) := by
  have got := Settings.Store.get_put_self settled.store target.key value
  have nothing := filter_dropped pending target.key
  -- The new entry belongs to the target, and the others waited before.
  refine { current with waiting := ?_, fine := ?_ }
  · intro entry waits
    rcases List.mem_cons.mp waits with rfl | earlier
    · exact ⟨target, member, debounced, rfl⟩
    · exact current.waiting entry (List.mem_filter.mp earlier).1
  -- The target itself is right as its value waits, and the others did not change.
  · intro other listed
    by_cases here : target = other
    · subst here
      have fine := Fine.of_waiting delay handed
        { settled with
          store := { settled.store with values := putMember target.key value settled.store.values } }
        debounced nothing
      simpa only [Target.delayed, got] using fine
    · have apart := Target.key_ne here
      exact (((current.fine other listed).put_of_ne apart value).drop_of_ne apart).wait_of_ne apart.symm

/-- Whatever waits for a target is the present value of its setting, and the target is debounced. -/
theorem delayed_of_waiting (current : UpToDate targets number delay handed settled pending)
    {entry : Delayed Update} (waits : entry ∈ pending) :
    ∃ target : Target, target.isDebounced ∧ entry = target.delayed delay settled.store := by
  obtain ⟨target, member, debounced, same⟩ := current.waiting entry waits
  refine ⟨target, debounced, ?_⟩
  have found : entry ∈ pending.filter (·.key == target.key) := by simp [waits, same]
  -- What waits under the key of a target is its one update, or nothing does.
  rcases (current.fine target member).arrives debounced with one | ⟨none, -⟩
  · exact List.mem_singleton.mp (one ▸ found)
  · rw [none] at found
    cases found

/-- Handing over what has waited long enough leaves everything up to date. -/
theorem wake {entry : Delayed Update} {remaining : List (Delayed Update)}
    (current : UpToDate targets number delay handed settled (entry :: remaining)) :
    UpToDate targets number delay (handed ++ [entry.action]) (settled.take entry.action) remaining := by
  -- Nothing else waits for the target, and what waits is its present value.
  obtain ⟨target, member, debounced, same⟩ := current.waiting entry (by simp)
  obtain ⟨rfl, nothing⟩ : entry = target.delayed delay settled.store ∧
      remaining.filter (·.key == target.key) = [] := by
    rcases (current.fine target member).arrives debounced with waits | ⟨none, -⟩
    · simpa [same] using waits
    · simp [same] at none
  -- With the entry gone, nothing is left to drop for the target.
  have others : ((target.delayed delay settled.store :: remaining).filter fun entry =>
      !entry.key == target.key) = remaining := by
    have kept : remaining.filter (fun entry => !entry.key == target.key) = remaining := by
      refine List.filter_eq_self.mpr fun entry listed => ?_
      simpa using List.filter_eq_nil_iff.mp nothing entry listed
    simpa [Target.delayed] using kept
  refine ⟨?_, by simpa using current.debouncer, ?_, ?_, ?_⟩
  · rw [Settled.store_take]
    exact current.observers
  · intro name which listed
    simpa using current.known name which listed
  · exact fun entry waits => current.waiting entry (List.mem_cons_of_mem _ waits)
  · intro other listed
    by_cases here : target = other
    · subst here
      exact Fine.of_handed _ _ _ _ (fun name which same => current.known name which (same ▸ member)) nothing
    · have apart := Target.key_ne here
      have fine := (current.fine other listed).drop_of_ne apart
      rw [others] at fine
      exact fine.hand_of_ne here

/-- Observing one more target leaves everything up to date. -/
theorem observe (current : UpToDate targets number delay handed settled [])
    {target : Target} (new : target ∉ targets)
    (known : ∀ name which, target = .slot name which → (settled.ownArguments name).isSome) :
    UpToDate (targets ++ [target]) number delay (handed ++ [⟨target, settled.store.get target.key⟩])
      ((settled.observe target.key (target.subscription number)).take
        ⟨target, settled.store.get target.key⟩)
      [] := by
  refine ⟨?_, by simpa [Settled.observe] using current.debouncer, ?_, by simp, ?_⟩
  · have before := current.observers
    simp [Settled.observe, Store.observe, Target.isQuiet_subscription, before]
  · intro name which listed
    rcases List.mem_append.mp listed with earlier | last
    · simpa [Settled.observe] using current.known name which earlier
    · have same : target = .slot name which := (List.mem_singleton.mp last).symm
      simpa [Settled.observe] using known name which same
  · intro other listed
    -- An earlier target is another one, and the new target is handed the present value.
    rcases List.mem_append.mp listed with earlier | last
    · have apart : target ≠ other := fun same => new (same ▸ earlier)
      exact ((current.fine other earlier).with_store (Store.get_observe ..) _).hand_of_ne apart
    · obtain rfl : other = target := by simpa using last
      have fine := Fine.of_handed delay handed
        (settled.observe other.key (other.subscription number)) [] known rfl
      simpa [Settled.observe] using fine

end UpToDate

namespace Session

variable {ω : Type} [World ω]

/-- Everything that takes effect in a session is up to date. -/
def IsUpToDate (targets : List Target) (number delay : Nat) (handed : List Update) (s : Session ω) :
    Prop :=
  UpToDate targets number delay handed s.state.settled (DebouncedTimeline.pending s)

variable {targets : List Target} {number delay : Nat} {handed : List Update} {s : Session ω}

omit [World ω] in
/-- Whether a session is up to date depends on what was set and on what waits. -/
theorem IsUpToDate.of_eq {settled : Settled} {pending : List (Delayed Update)}
    (current : UpToDate targets number delay handed settled pending)
    (state : s.state.settled = settled) (waiting : DebouncedTimeline.pending s = pending) :
    s.IsUpToDate targets number delay handed := by
  subst state waiting
  exact current

/-- Telling a target about a change that was made keeps everything up to date. -/
theorem isUpToDate_notify (current : s.IsUpToDate targets number delay handed) {target : Target}
    (member : target ∈ targets) (value : Json.Value) :
    let store := { s.state.store with values := putMember target.key value s.state.store.values }
    let changed : Session ω := s.modify fun w => { w with store := store }
    (changed.notify target.key value (target.subscription number)).IsUpToDate targets number delay
      (handed ++ (s.handsTo? value (target.subscription number)).toList) := by
  intro store changed
  have debouncer : s.state.debouncer = some (number, delay) := current.debouncer
  have after : changed.state.debouncer = some (number, delay) := debouncer
  have taken := Workspace.settled_apply ⟨target, value⟩ changed.state
  cases direct : target.isDebounced with
  | false =>
    -- The target is told at once, and nothing waits for it.
    have told := current.put_handed member value _ (current.filter_of_direct direct).symm
    have atOnce : target.subscription number = ⟨target, none⟩ := by simp [Target.subscription, direct]
    simp only [atOnce, notify, handsTo?, Option.toList_some]
    exact .of_eq told taken rfl
  | true =>
    -- A debounced target is told by its debouncer, which is the current one.
    have later : target.subscription number = ⟨target, some number⟩ := by
      simp [Target.subscription, direct]
    have dropped := DebouncedTimeline.pending_giveUp target.key changed
    simp only [later, notify, handsTo?, debouncer, after, true_and, if_true, DebouncedTimeline.call]
    by_cases instant : delay = 0
    · -- Without a delay the update is handed over in place of an earlier one.
      have told := current.put_handed member value _ dropped
      simp only [instant, if_true, Option.toList_some]
      subst instant
      exact .of_eq told taken rfl
    · -- Otherwise the value begins to wait, in place of an earlier one.
      have waits := current.put_waiting member direct value
      simp only [instant, if_false, Option.toList_none, List.append_nil]
      have same : DebouncedTimeline.pending s = DebouncedTimeline.pending changed := rfl
      rw [same, ← dropped] at waits
      exact .of_eq (waits.perm (DebouncedTimeline.pending_arm ..).symm) rfl rfl

omit [World ω] in
/-- Where everything is up to date, a change is handed to the target of its setting and to no other. -/
theorem key_of_mem_handsOut (current : s.IsUpToDate targets number delay handed)
    (different : targets.Nodup) {key : String} {value : Json.Value} {update : Update}
    (member : update ∈ s.handsOut key value) : update.target.key = key := by
  unfold handsOut at member
  by_cases same : (s.state.store.get key).equal value
  · simp [Store.set, same] at member
  · rw [Store.set_of_changed same] at member
    dsimp only at member
    have debouncer : s.state.debouncer = some (number, delay) := current.debouncer
    rw [filterMap_handsTo?_filter value _ debouncer] at member
    -- Everyone else who observes the setting is without an effect.
    obtain ⟨subscription, among, hands⟩ := List.mem_filterMap.mp member
    rcases current.told different key with ⟨target, -, rfl, told⟩ | ⟨-, told⟩
    · obtain rfl := List.mem_singleton.mp (told ▸ among)
      exact congrArg Target.key (target_of_handsTo? hands)
    · cases told ▸ among

/-- Setting a setting keeps everything up to date. -/
theorem isUpToDate_set (current : s.IsUpToDate targets number delay handed)
    (different : targets.Nodup) (key : String) (value : Json.Value) :
    (s.set key value).IsUpToDate targets number delay (handed ++ s.handsOut key value) := by
  by_cases same : (s.state.store.get key).equal value
  · -- An equal value changes nothing.
    simp only [set, handsOut, Store.set, same, if_true, List.filterMap_nil, List.append_nil,
      List.foldl_nil]
    exact current
  · simp only [set, handsOut, Store.set_of_changed same]
    -- A changed value is told to the one target of the key, if it has any.
    have debouncer : s.state.debouncer = some (number, delay) := current.debouncer
    rw [filterMap_handsTo?_filter value _ debouncer, foldl_notify_filter key value _ (by exact debouncer)]
    rcases current.told different key with ⟨target, member, rfl, told⟩ | ⟨unobserved, told⟩
    · have told : ((s.state.store.observers.filter (·.key == target.key)).map (·.reaction)).filter
          (!·.isQuiet number) = [target.subscription number] := told
      have notified := isUpToDate_notify current member value
      simp only [told, List.foldl_cons, List.foldl_nil]
      cases hands : s.handsTo? value (target.subscription number) <;>
        simpa [List.filterMap_cons, hands] using notified
    · have told : ((s.state.store.observers.filter (·.key == key)).map (·.reaction)).filter
          (!·.isQuiet number) = [] := told
      simp only [told, List.filterMap_nil, List.append_nil, List.foldl_nil]
      exact current.put_unobserved unobserved value

omit [World ω] in
/-- What sets nothing and hands nothing over keeps everything up to date. -/
theorem IsUpToDate.quiet (current : s.IsUpToDate targets number delay handed) {next : Session ω}
    (quiet : s.Quiet next) : next.IsUpToDate targets number delay handed :=
  .of_eq current quiet.settled quiet.waiting

/-- Every call keeps everything up to date. -/
theorem isUpToDate_answer (current : s.IsUpToDate targets number delay handed)
    (different : targets.Nodup) (call : Call ω) :
    (s.answer call).IsUpToDate targets number delay (handed ++ s.hands (.call call)) := by
  -- At most one setting is set in a call.
  rcases answer_cases s call with ⟨t, key, value, quiet, same, hands⟩ | ⟨quiet, nothing⟩
  · rw [same, hands]
    exact isUpToDate_set (current.quiet quiet) different key value
  · rw [nothing, List.append_nil]
    exact current.quiet quiet

/-- Every turn keeps everything up to date. -/
theorem isUpToDate_takes (current : s.IsUpToDate targets number delay handed)
    {next : Session ω} {turn : Turn (Work Update Errand) (Work Update Sleeper)}
    (taken : DebouncedTimeline.Takes machine s turn next) :
    next.IsUpToDate targets number delay (handed ++ s.hands (.turn turn)) := by
  rcases DebouncedTimeline.pending_takes taken with ⟨now, entry, rfl, same, state⟩ | ⟨other, same⟩
  · -- An update that has waited long enough is handed over.
    have waiting := UpToDate.perm current same
    have taken : next.state.settled = _ :=
      (congrArg Workspace.settled state).trans (Workspace.settled_apply entry.action s.state)
    exact .of_eq waiting.wake taken rfl
  · -- Any other turn leaves what waits as it is, up to its order.
    rw [hands_turn s other, List.append_nil]
    exact .of_eq (UpToDate.perm current same) (effect_takes taken other).settled rfl

/-- Every move keeps everything up to date. -/
theorem isUpToDate_moves (current : s.IsUpToDate targets number delay handed)
    (different : targets.Nodup) {next : Session ω} {move : Move ω} (moved : Moves s move next) :
    next.IsUpToDate targets number delay (handed ++ s.hands move) := by
  cases moved with
  | call call => exact isUpToDate_answer current different call
  | turn taken => exact isUpToDate_takes current taken

end Session

end FormatPipeline
