import FormatPipeline.Proofs.Settings.Store

/-! Observers that change settings while they are told: what each of them was told last. -/

namespace FormatPipeline.Settings

open Json (Value)

/-- A value that an observer was told, and the one that the key had at that moment. -/
structure Telling where
  observer : Nat
  value : Value
  present : Value

/-- Whether the key still had the value that was told. -/
def Telling.isCurrent (telling : Telling) : Bool := telling.value.equal telling.present

/-- A value on its way to the observers that are still to be told. -/
structure Delivery where
  key : String
  value : Value
  waiting : List Nat

/-- A store whose observers are told under their numbers, with everything that is on its way. -/
structure Relay where
  store : Store Nat
  /-- The innermost delivery first; an outer one goes on when it is over. -/
  deliveries : List Delivery
  /-- The newest first. -/
  tellings : List Telling

/-- What comes next: someone uses the store, as anyone may who was just told, or a delivery goes on. -/
inductive Relay.Act where
  | set (key : String) (value : Value)
  | observe (key : String)
  | unobserve (id : Nat)
  | goOn

namespace Relay

/-- A store in which nothing is on its way. -/
def ofStore (store : Store Nat) : Relay := ⟨store, [], []⟩

/-- What one act leads to. -/
def step (relay : Relay) : Act → Relay
  | .set key value =>
    let (store, told) := relay.store.set key value
    { relay with store := store, deliveries := ⟨key, value, told⟩ :: relay.deliveries }
  | .observe key =>
    let (store, id) := relay.store.observe key relay.store.nextId
    -- A new observer alone is told the present value.
    { relay with store := store, deliveries := ⟨key, store.get key, [id]⟩ :: relay.deliveries }
  | .unobserve id => { relay with store := relay.store.unobserve id }
  | .goOn =>
    match relay.deliveries with
    | [] => relay
    | delivery :: rest =>
      match delivery.waiting with
      | [] => { relay with deliveries := rest }
      | id :: others =>
        { relay with
          deliveries := { delivery with waiting := others } :: rest
          tellings := ⟨id, delivery.value, relay.store.get delivery.key⟩ :: relay.tellings }

/-- What several acts lead to. -/
def after (relay : Relay) (acts : List Act) : Relay := acts.foldl step relay

/-- What an observer was told last. -/
def lastTelling? (relay : Relay) (id : Nat) : Option Telling :=
  relay.tellings.find? (·.observer == id)

/-! ## What every act keeps -/

/-- Whether the observer is still to be told, or was told when the key had its present value. -/
def Informs (relay : Relay) (observer : Observer Nat) : Prop :=
  (∃ delivery ∈ relay.deliveries, observer.id ∈ delivery.waiting) ∨
    ∃ last, relay.lastTelling? observer.id = some last ∧ last.present = relay.store.get observer.key

/-- Observers have numbers of their own, are told about their own keys, and miss no change. -/
structure Sound (relay : Relay) : Prop where
  numbered : ∀ observer ∈ relay.store.observers,
    observer.reaction = observer.id ∧ observer.id < relay.store.nextId
  different : ∀ one ∈ relay.store.observers, ∀ other ∈ relay.store.observers,
    one.id = other.id → one.key = other.key
  meant : ∀ delivery ∈ relay.deliveries, ∀ id ∈ delivery.waiting, id < relay.store.nextId ∧
    ∀ observer ∈ relay.store.observers, observer.id = id → observer.key = delivery.key
  informed : ∀ observer ∈ relay.store.observers, relay.Informs observer

/-- Without observers there is nobody to inform. -/
theorem sound_ofStore {store : Store Nat} (unobserved : store.observers = []) :
    (ofStore store).Sound := by
  constructor <;> simp [ofStore, unobserved]

variable {relay : Relay}

/-- Setting a setting tells those who observe it, and the value of no other one changes. -/
theorem Sound.set (sound : relay.Sound) (key : String) (value : Value) :
    (relay.step (.set key value)).Sound := by
  have observers := Store.observers_set relay.store key value
  have count := Store.nextId_set relay.store key value
  -- Those to be told are the observers of the key, under their numbers.
  have told : ∀ id, id ∈ (relay.store.set key value).2 →
      ∃ observer ∈ relay.store.observers, observer.key = key ∧ observer.id = id := by
    intro id member
    unfold Store.set at member
    split at member
    · cases member
    · obtain ⟨observer, among, rfl⟩ := List.mem_map.mp member
      obtain ⟨listed, observes⟩ := List.mem_filter.mp among
      exact ⟨observer, listed, by simpa using observes, (sound.numbered observer listed).1.symm⟩
  refine ⟨?_, ?_, ?_, ?_⟩
  · simpa only [step, observers, count] using sound.numbered
  · simpa only [step, observers] using sound.different
  -- The delivery in front is meant for its observers, and the numbers are still theirs alone.
  · simp only [step, observers, count, List.forall_mem_cons]
    refine ⟨fun id member => ?_, sound.meant⟩
    obtain ⟨observer, listed, observes, rfl⟩ := told id member
    refine ⟨(sound.numbered observer listed).2, fun other among same => ?_⟩
    rw [sound.different other among observer listed same, observes]
  · intro observer among
    have listed : observer ∈ relay.store.observers := observers ▸ among
    by_cases changed : observer.key = key ∧ ¬ (relay.store.get key).equal value
    · -- The observer of a key that changes is to be told.
      refine .inl ⟨⟨key, value, (relay.store.set key value).2⟩, List.mem_cons_self, ?_⟩
      rw [Store.set_of_changed changed.2]
      refine List.mem_map.mpr ⟨observer, List.mem_filter.mpr ⟨listed, by simp [changed.1]⟩, ?_⟩
      exact (sound.numbered observer listed).1
    -- An observer whose key keeps its value is as informed as it was.
    · have same : (relay.store.set key value).1.get observer.key = relay.store.get observer.key := by
        by_cases observes : observer.key = key
        · have equal : (relay.store.get key).equal value := by
            simpa [observes] using changed
          simp [Store.set, equal]
        · exact Store.get_set_of_ne _ observes value
      refine (sound.informed observer listed).imp ?_ ?_
      · rintro ⟨delivery, under, waits⟩
        exact ⟨delivery, List.mem_cons_of_mem _ under, waits⟩
      · rintro ⟨last, latest, present⟩
        exact ⟨last, latest, present.trans same.symm⟩

/-- A new observer is told at once, and the others stay informed. -/
theorem Sound.observe (sound : relay.Sound) (key : String) : (relay.step (.observe key)).Sound := by
  have new : ∀ observer ∈ relay.store.observers, observer.id ≠ relay.store.nextId :=
    fun observer listed => Nat.ne_of_lt (sound.numbered observer listed).2
  have cases : ∀ observer ∈ (relay.step (.observe key)).store.observers,
      observer ∈ relay.store.observers ∨ observer = ⟨relay.store.nextId, key, relay.store.nextId⟩ :=
    fun observer among => (List.mem_append.mp among).imp_right List.mem_singleton.mp
  refine ⟨fun observer among => ?_, fun one among other too same => ?_,
    List.forall_mem_cons.mpr ⟨fun id member => ?_, fun delivery under id waits => ?_⟩, fun observer among => ?_⟩
  · rcases cases observer among with listed | rfl
    · exact (sound.numbered observer listed).imp_right Nat.lt_succ_of_lt
    · exact ⟨rfl, Nat.lt_succ_self _⟩
  · -- The number of the new observer is none of the others.
    rcases cases one among with first | rfl <;> rcases cases other too with second | rfl
    · exact sound.different one first other second same
    · exact absurd same (new one first)
    · exact absurd same.symm (new other second)
    · rfl
  -- The delivery in front is meant for the new observer only.
  · obtain rfl := List.mem_singleton.mp member
    refine ⟨Nat.lt_succ_self _, fun observer among same => ?_⟩
    rcases cases observer among with listed | rfl
    · exact absurd same (new observer listed)
    · rfl
  · obtain ⟨early, meant⟩ := sound.meant delivery under id waits
    refine ⟨Nat.lt_succ_of_lt early, fun observer among same => ?_⟩
    rcases cases observer among with listed | rfl
    · exact meant observer listed same
    · exact absurd same.symm (Nat.ne_of_lt early)
  -- The new observer waits to be told; the others were informed, or they wait as before.
  · rcases cases observer among with listed | rfl
    · refine (sound.informed observer listed).imp_left ?_
      rintro ⟨delivery, under, waits⟩
      exact ⟨delivery, List.mem_cons_of_mem _ under, waits⟩
    · exact .inl ⟨_, List.mem_cons_self, List.mem_singleton_self _⟩

/-- Those who go on observing stay informed when another observer is removed. -/
theorem Sound.unobserve (sound : relay.Sound) (id : Nat) : (relay.step (.unobserve id)).Sound := by
  have kept : ∀ observer ∈ (relay.store.unobserve id).observers, observer ∈ relay.store.observers :=
    fun observer among => (List.mem_filter.mp among).1
  refine ⟨fun observer among => sound.numbered observer (kept observer among),
    fun one listed other among => sound.different one (kept one listed) other (kept other among),
    -- Who goes on observing was already there, and no delivery is added or lost.
    fun delivery under number waits => ?_, fun observer among => sound.informed observer (kept observer among)⟩
  obtain ⟨early, meant⟩ := sound.meant delivery under number waits
  exact ⟨early, fun observer among => meant observer (kept observer among)⟩

/-- When a delivery goes on, the next one in it is told, and the others stay informed. -/
theorem Sound.goOn (sound : relay.Sound) : (relay.step .goOn).Sound := by
  obtain ⟨store, deliveries, tellings⟩ := relay
  cases deliveries with
  | nil => exact sound
  | cons delivery rest =>
    obtain ⟨key, value, waiting⟩ := delivery
    obtain ⟨innermost, outer⟩ := List.forall_mem_cons.mp sound.meant
    cases waiting with
    | nil =>
      refine ⟨sound.numbered, sound.different, outer, fun observer listed => ?_⟩
      -- Nobody was left in the delivery that is over.
      refine (sound.informed observer listed).imp ?_ id
      rintro ⟨delivery, under, waits⟩
      rcases List.mem_cons.mp under with rfl | under
      · cases waits
      · exact ⟨delivery, under, waits⟩
    | cons first others =>
      obtain ⟨⟨-, meant⟩, later⟩ := List.forall_mem_cons.mp innermost
      refine ⟨sound.numbered, sound.different, List.forall_mem_cons.mpr ⟨later, outer⟩,
        fun observer listed => ?_⟩
      by_cases here : observer.id = first
      · -- The one that is told observes the key of the delivery.
        refine .inr ⟨⟨first, value, store.get key⟩, ?_, ?_⟩
        · simp [lastTelling?, step, here]
        · exact congrArg store.get (meant observer listed here).symm
      · refine (sound.informed observer listed).imp ?_ ?_
        · rintro ⟨delivery, under, waits⟩
          rcases List.mem_cons.mp under with rfl | under
          · have among := (List.mem_cons.mp waits).resolve_left here
            exact ⟨_, List.mem_cons_self, among⟩
          · exact ⟨delivery, List.mem_cons_of_mem _ under, waits⟩
        · rintro ⟨last, latest, present⟩
          refine ⟨last, ?_, present⟩
          simpa [lastTelling?, step, Ne.symm here] using latest

/-- Whatever comes next, no observer misses a change. -/
theorem Sound.step (sound : relay.Sound) (act : Act) : (relay.step act).Sound := by
  cases act with
  | set key value => exact sound.set key value
  | observe key => exact sound.observe key
  | unobserve id => exact sound.unobserve id
  | goOn => exact sound.goOn

/-- Whatever comes, no observer misses a change. -/
theorem Sound.after (sound : relay.Sound) (acts : List Act) : (relay.after acts).Sound := by
  induction acts generalizing relay with
  | nil => exact sound
  | cons act rest ih => exact ih (sound.step act)

/-- When nothing is on its way any more, every observer was told last while its key had the present value. -/
theorem Sound.exists_lastTelling (sound : relay.Sound) (settled : relay.deliveries = []) {observer : Observer Nat}
    (live : observer ∈ relay.store.observers) :
    ∃ last, relay.lastTelling? observer.id = some last ∧ last.present = relay.store.get observer.key := by
  rcases sound.informed observer live with ⟨delivery, under, -⟩ | informed
  · simp [settled] at under
  · exact informed

/-! ## Acts that leave what is on its way alone -/

/-- Whether an act changes no key of which a value is still on its way to somebody. -/
def Spares (relay : Relay) : Act → Prop
  -- Setting an equal value changes nothing.
  | .set key value => (relay.store.get key).equal value ∨
      ∀ delivery ∈ relay.deliveries, delivery.key = key → delivery.waiting = []
  | .observe _ | .unobserve _ | .goOn => True

/-- Whether none of several acts changes a key of which a value is still on its way. -/
def Undisturbed (relay : Relay) : List Act → Prop
  | [] => True
  | act :: rest => relay.Spares act ∧ (relay.step act).Undisturbed rest

instance decidableSpares (relay : Relay) : (act : Act) → Decidable (relay.Spares act)
  | .set .. => inferInstanceAs (Decidable (_ ∨ _))
  | .observe _ | .unobserve _ | .goOn => .isTrue trivial

instance decidableUndisturbed (relay : Relay) : (acts : List Act) → Decidable (relay.Undisturbed acts)
  | [] => .isTrue trivial
  | act :: rest =>
    have := (relay.step act).decidableUndisturbed rest
    inferInstanceAs (Decidable (_ ∧ _))

/-- Whether only present values are on their way and were told. -/
structure Prompt (relay : Relay) : Prop where
  deliveries : ∀ delivery ∈ relay.deliveries, delivery.waiting ≠ [] →
    delivery.value = relay.store.get delivery.key
  tellings : ∀ telling ∈ relay.tellings, telling.value = telling.present

/-- An act that changes nothing of which a value is on its way leaves only present values. -/
theorem Prompt.step (prompt : relay.Prompt) {act : Act} (spares : relay.Spares act) :
    (relay.step act).Prompt := by
  cases act with
  | set key value =>
    by_cases equal : (relay.store.get key).equal value
    · -- Nothing changes, and nobody is to be told.
      have nothing : relay.step (.set key value) =
          { relay with deliveries := ⟨key, value, []⟩ :: relay.deliveries } := by
        simp [Relay.step, Store.set, equal]
      rw [nothing]
      exact ⟨List.forall_mem_cons.mpr ⟨fun someone => absurd rfl someone, prompt.deliveries⟩, prompt.tellings⟩
    · have idle := spares.resolve_left equal
      have changed := Store.set_of_changed equal
      refine ⟨List.forall_mem_cons.mpr ⟨fun _ => ?_, fun delivery under someone => ?_⟩, prompt.tellings⟩
      · simp only [Relay.step, changed, Store.get_put_self]
      -- Deliveries that still wait are about other keys, whose values stay.
      · have apart : delivery.key ≠ key := fun same => someone (idle delivery under same)
        simp only [Relay.step, changed, Store.get_put_of_ne relay.store apart]
        exact prompt.deliveries delivery under someone
  | observe key =>
    exact ⟨List.forall_mem_cons.mpr ⟨fun _ => rfl, prompt.deliveries⟩, prompt.tellings⟩
  | unobserve id => exact ⟨prompt.deliveries, prompt.tellings⟩
  -- A telling takes the value of the innermost delivery, which is the present one.
  | goOn =>
    obtain ⟨store, deliveries, tellings⟩ := relay
    cases deliveries with
    | nil => exact prompt
    | cons delivery rest =>
      obtain ⟨key, value, waiting⟩ := delivery
      obtain ⟨innermost, outer⟩ := List.forall_mem_cons.mp prompt.deliveries
      cases waiting with
      | nil => exact ⟨outer, prompt.tellings⟩
      | cons first others =>
        have present := innermost (List.cons_ne_nil first others)
        exact ⟨List.forall_mem_cons.mpr ⟨fun _ => present, outer⟩,
          List.forall_mem_cons.mpr ⟨present, prompt.tellings⟩⟩

/-- Acts that change nothing of which a value is on its way leave only present values. -/
theorem Prompt.after (prompt : relay.Prompt) {acts : List Act} (undisturbed : relay.Undisturbed acts) :
    (relay.after acts).Prompt := by
  induction acts generalizing relay with
  | nil => exact prompt
  | cons act rest ih => exact ih (prompt.step undisturbed.1) undisturbed.2

end Relay

end FormatPipeline.Settings
