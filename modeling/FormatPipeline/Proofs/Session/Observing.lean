import FormatPipeline.Proofs.Session.Handing
import FormatPipeline.Proofs.Settings.Store

/-! When all that takes effect is up to date with the settings, up to updates that wait. -/

namespace FormatPipeline

open Json (putMember)
open Schedule (Delayed)
open Settings (OrderKind Slot Store)
open Workspace (Settled)

namespace Target

/-- The key of the setting that takes effect on a target. -/
def key : Target → String
  | errorHandling => Settings.errorHandlingKey
  | busySignal => Settings.busySignalKey
  | statusBar => Settings.statusBarKey
  | onSaveEnabled => Settings.onSaveEnabledKey
  | order kind => kind.key
  | slot formatter which => which.keyOf formatter

/-- Whether changes of the setting wait for a quiet period. -/
def isDebounced : Target → Bool
  | order _ => true
  -- The arguments of the user take effect at once, unlike the other settings of a formatter.
  | slot _ .localArguments | slot _ .globalArguments => false
  | slot .. => true
  | errorHandling | busySignal | statusBar | onSaveEnabled => false

/-- The targets that belong to no formatter, in the order in which their settings are observed. -/
def general : List Target :=
  [.errorHandling, .busySignal, .statusBar, .onSaveEnabled, .order .format, .order .save]

/-- The targets that belong to a formatter, in the order in which their settings are observed. -/
def ofFormatter (name : String) : List Target :=
  Session.observedSlots.map fun observed => .slot name observed.1

/-- All targets for formatters of some names, in the order in which their settings are observed. -/
def all (names : List String) : List Target := general ++ names.flatMap ofFormatter

/-- How changes come to a target while there is a debouncer of a number. -/
def subscription (target : Target) (number : Nat) : Subscription :=
  ⟨target, if target.isDebounced then some number else none⟩

/-- A target belongs to a formatter or is one of those that belong to none. -/
theorem mem_general_or_slot (target : Target) :
    target ∈ general ∨ ∃ name which, target = .slot name which := by
  cases target with
  | order kind => cases kind <;> simp [general]
  | slot name which => exact .inr ⟨name, which, rfl⟩
  | errorHandling | busySignal | statusBar | onSaveEnabled => simp [general]

/-- A target that belongs to no formatter has a key that does neither. -/
theorem key_mem_generalKeys : ∀ target ∈ general, target.key ∈ Settings.generalKeys := by decide

/-- Different targets have different keys. -/
theorem key_injective {one other : Target} (same : one.key = other.key) : one = other := by
  -- Keys of formatters' settings differ from all others and tell the formatter and the setting.
  have apart : ∀ one ∈ general, ∀ other ∈ general, one.key = other.key → one = other := by decide
  rcases mem_general_or_slot one with first | ⟨name, which, rfl⟩
  · rcases mem_general_or_slot other with second | ⟨another, second, rfl⟩
    · exact apart one first other second same
    · exact absurd same.symm (Settings.keyOf_ne_general (key_mem_generalKeys one first) second another)
  · rcases mem_general_or_slot other with second | ⟨another, second, rfl⟩
    · exact absurd same (Settings.keyOf_ne_general (key_mem_generalKeys other second) which name)
    · obtain ⟨rfl, rfl⟩ := Settings.keyOf_injective same
      rfl

/-- The key of a target is none of another target. -/
theorem key_ne {one other : Target} (different : one ≠ other) : other.key ≠ one.key :=
  fun same => different (key_injective same).symm

end Target

namespace Workspace.Settled

/-- Whether a target shows a value; what is debounced need not show it at once. -/
def Shows (settled : Settled) (value : Json.Value) : Target → Prop
  | .errorHandling => settled.handling = .ofValue value
  | .busySignal => settled.busyEnabled = Settings.isTrue value
  | .statusBar => settled.statusBar = Settings.isTrue value
  | .onSaveEnabled => settled.onSaveEnabled = Settings.isTrue value
  | .slot name .localArguments =>
    (settled.ownArguments name).map (·.1) = some (Settings.stringList value)
  | .slot name .globalArguments =>
    (settled.ownArguments name).map (·.2) = some (Settings.stringList value)
  | .order _ | .slot .. => True

/-- Debounced targets need not show anything at once. -/
theorem shows_of_isDebounced (settled : Settled) (value : Json.Value) {target : Target}
    -- `Shows` asks nothing of the targets that wait; those that are set at once are no such targets.
    (debounced : target.isDebounced) : settled.Shows value target := by
  cases target with
  | order kind => trivial
  | slot name which =>
    cases which with
    | localArguments | globalArguments => simp [Target.isDebounced] at debounced
    | localBins | localConfigs | globalBinPath | globalConfigs => trivial
  | errorHandling | busySignal | statusBar | onSaveEnabled => simp [Target.isDebounced] at debounced

/-- A value that takes effect is shown by its target. -/
theorem shows_take_self (settled : Settled) (update : Update)
    (known : ∀ name which, update.target = .slot name which → (settled.ownArguments name).isSome) :
    (settled.take update).Shows update.value update.target := by
  obtain ⟨target, value⟩ := update
  cases target with
  | slot name which =>
    -- The formatter is registered, so that there are arguments to replace.
    obtain ⟨own, present⟩ := Option.isSome_iff_exists.mp (known name which rfl)
    cases which <;> simp [Shows, take, present, withArguments]
  | order kind => trivial
  | errorHandling | busySignal | statusBar | onSaveEnabled => rfl

/-- A value that takes effect on one target changes nothing for another. -/
theorem shows_take_of_ne {settled : Settled} {update : Update} {target : Target}
    (different : update.target ≠ target) {value : Json.Value} (shows : settled.Shows value target) :
    (settled.take update).Shows value target := by
  -- Only two targets of one formatter share a place, and then each has its own half of it.
  obtain ⟨changed, given⟩ := update
  cases changed with
  | slot name which =>
    cases target with
    | slot other second =>
      by_cases here : name = other
      · subst here
        cases own : settled.ownArguments name <;> cases which <;> cases second <;>
          simp_all [Shows, take, withArguments]
      · cases second <;> first | trivial | simpa [Shows, take, here] using shows
    | order kind => trivial
    | errorHandling | busySignal | statusBar | onSaveEnabled => exact shows
  | order kind => exact shows
  | errorHandling | busySignal | statusBar | onSaveEnabled =>
    cases target with
    | slot name which => cases which <;> exact shows
    | order kind => trivial
    | errorHandling | busySignal | statusBar | onSaveEnabled =>
      first | exact absurd rfl different | exact shows

end Workspace.Settled

/-! ## Up to date -/

/-- The value that was handed to a target last. -/
def lastHanded (target : Target) (handed : List Update) : Option Json.Value :=
  (handed.findRev? (·.target == target)).map (·.value)

/-- What was handed over last is the last value of its target. -/
theorem lastHanded_append_self (handed : List Update) (update : Update) :
    lastHanded update.target (handed ++ [update]) = some update.value := by
  simp [lastHanded]

/-- What is handed to one target is nothing to another. -/
theorem lastHanded_append_of_ne (handed : List Update) {update : Update} {target : Target}
    (different : update.target ≠ target) :
    lastHanded target (handed ++ [update]) = lastHanded target handed := by
  simp [lastHanded, different]

/-- The update that a change of the setting of a target brings in the end. -/
def Target.delayed (target : Target) (delay : Nat) (store : Store Subscription) : Delayed Update :=
  ⟨target.key, delay, ⟨target, store.get target.key⟩⟩

/-- The present value of a setting waits for its target, and no other one does, or it was handed over. -/
def Arrives (delay : Nat) (handed : List Update) (store : Store Subscription)
    (pending : List (Delayed Update)) (target : Target) : Prop :=
  -- An update that waits for another value, or a second one, is neither.
  pending.filter (·.key == target.key) = [target.delayed delay store] ∨
    (pending.filter (·.key == target.key) = [] ∧
      lastHanded target handed = some (store.get target.key))

/-- A target shows the present value of its setting, or the value arrives there. -/
structure Fine (delay : Nat) (handed : List Update) (settled : Settled)
    (pending : List (Delayed Update)) (target : Target) : Prop where
  shows : settled.Shows (settled.store.get target.key) target
  arrives : target.isDebounced → Arrives delay handed settled.store pending target

namespace Fine

variable {delay : Nat} {handed : List Update} {settled : Settled} {pending : List (Delayed Update)}
  {target : Target}

/-- A store with the same value for its key leaves a target fine, whoever observes it. -/
theorem with_store (fine : Fine delay handed settled pending target) {store : Store Subscription}
    (same : store.get target.key = settled.store.get target.key) (subscriptions : List Nat) :
    Fine delay handed { settled with store := store, subscriptions := subscriptions } pending target := by
  refine ⟨?_, fun debounced => ?_⟩
  · have shows := fine.shows
    dsimp only
    rw [same]
    -- What a target shows does not depend on the store beyond the value.
    cases target with
    | slot name which => cases which <;> exact shows
    | order kind => trivial
    | errorHandling | busySignal | statusBar | onSaveEnabled => exact shows
  · simpa only [Arrives, Target.delayed, same] using fine.arrives debounced

/-- Setting another key leaves a target fine. -/
theorem put_of_ne (fine : Fine delay handed settled pending target) {key : String}
    (different : target.key ≠ key) (value : Json.Value) :
    Fine delay handed
      { settled with
        store := { settled.store with values := putMember key value settled.store.values } }
      pending target :=
  fine.with_store (Settings.Store.get_put_of_ne settled.store different value) settled.subscriptions

/-- Forgetting what waits for another key leaves a target fine. -/
theorem drop_of_ne (fine : Fine delay handed settled pending target) {key : String}
    (different : target.key ≠ key) :
    Fine delay handed settled (pending.filter fun entry => !entry.key == key) target := by
  refine ⟨fine.shows, fun debounced => ?_⟩
  -- Entries under the key of the target are none of those that are dropped.
  have same : (pending.filter fun entry => !entry.key == key).filter (·.key == target.key) =
      pending.filter (·.key == target.key) := by
    rw [List.filter_filter]
    refine List.filter_congr fun entry _ => ?_
    by_cases here : entry.key = target.key
    · simp [here, different]
    · simp [here]
  simpa only [Arrives, same] using fine.arrives debounced

/-- What waits for another key leaves a target fine. -/
theorem wait_of_ne (fine : Fine delay handed settled pending target) {entry : Delayed Update}
    (different : entry.key ≠ target.key) :
    Fine delay handed settled (entry :: pending) target := by
  refine ⟨fine.shows, fun debounced => ?_⟩
  simpa [Arrives, different] using fine.arrives debounced

/-- What is handed to another target leaves a target fine. -/
theorem hand_of_ne (fine : Fine delay handed settled pending target) {update : Update}
    (different : update.target ≠ target) :
    Fine delay (handed ++ [update]) (settled.take update) pending target := by
  -- Setting one target changes neither the value of another one nor what it was handed last.
  refine ⟨?_, fun debounced => ?_⟩
  · rw [Settled.store_take]
    exact Settled.shows_take_of_ne different fine.shows
  · simpa only [Arrives, Settled.store_take, lastHanded_append_of_ne handed different] using
      fine.arrives debounced

/-- A target for which nothing waits is fine when it is handed the present value of its setting. -/
theorem of_handed (delay : Nat) (handed : List Update) (settled : Settled)
    (pending : List (Delayed Update))
    (known : ∀ name which, target = .slot name which → (settled.ownArguments name).isSome)
    (nothing : pending.filter (·.key == target.key) = []) :
    Fine delay (handed ++ [⟨target, settled.store.get target.key⟩])
      (settled.take ⟨target, settled.store.get target.key⟩) pending target := by
  -- Values that take effect leave the store as it is.
  refine ⟨?_, fun _ => .inr ⟨nothing, ?_⟩⟩
  · rw [Settled.store_take]
    exact Settled.shows_take_self settled ⟨target, settled.store.get target.key⟩ known
  · rw [Settled.store_take]
    exact lastHanded_append_self handed ⟨target, settled.store.get target.key⟩

/-- A debounced target is fine when nothing but the present value of its setting waits for it. -/
theorem of_waiting (delay : Nat) (handed : List Update) (settled : Settled)
    (debounced : target.isDebounced)
    (nothing : pending.filter (·.key == target.key) = []) :
    Fine delay handed settled (target.delayed delay settled.store :: pending) target :=
  ⟨Settled.shows_of_isDebounced settled _ debounced, fun _ => .inl (by simp [Target.delayed, nothing])⟩

/-- The order in which updates wait makes no difference. -/
theorem perm (fine : Fine delay handed settled pending target) {other : List (Delayed Update)}
    (same : pending.Perm other) : Fine delay handed settled other target := by
  refine ⟨fine.shows, fun debounced => ?_⟩
  have filtered := same.filter (·.key == target.key)
  -- At most one update waits for the target, and its place among others is free.
  rcases fine.arrives debounced with waiting | ⟨nothing, last⟩
  · rw [waiting] at filtered
    exact .inl (List.perm_singleton.mp filtered.symm)
  · rw [nothing] at filtered
    exact .inr ⟨List.perm_nil.mp filtered.symm, last⟩

end Fine

end FormatPipeline
