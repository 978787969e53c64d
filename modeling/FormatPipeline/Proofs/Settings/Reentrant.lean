import FormatPipeline.Proofs.Settings.Relay
import FormatPipeline.Proofs.World.Scripted
import FormatPipeline.Settings.Reentrant

/-! Observers that follow scripts are told step by step, and who is told what last. -/

namespace FormatPipeline.Settings

open Json (Value)

/-- Whom a notice tells what, if it tells anybody. -/
def Notice.told? : Notice → Option (String × Value)
  | told observer value => some (observer, value)
  | log _ => none

namespace Bench

variable {ω : Type}

/-- The name of the observer at a place. -/
def nameAt (bench : Bench ω) (place : Nat) : String := ((bench.scripts[place]?).map (·.name)).getD ""

/-- A relay with the same store, in which the same observers were told the same. -/
structure Shows (bench : Bench ω) (relay : Relay) : Prop where
  store : relay.store = bench.store
  places : bench.store.nextId = bench.scripts.length
  known : ∀ telling ∈ relay.tellings, telling.observer < bench.scripts.length
  told : bench.notices.filterMap Notice.told? =
    relay.tellings.map fun telling => (bench.nameAt telling.observer, telling.value)

/-- Whether a change is made step by step, until no more is on its way than before. -/
def Stepwise (change : Bench ω → Bench ω) : Prop :=
  ∀ bench relay, bench.Shows relay → relay.Sound →
    ∃ acts, (change bench).Shows (relay.after acts) ∧ (relay.after acts).deliveries = relay.deliveries

/-- Two changes that are made step by step are made so one after the other. -/
theorem Stepwise.comp {one other : Bench ω → Bench ω} (first : Stepwise one) (second : Stepwise other) :
    Stepwise fun bench => other (one bench) := by
  intro bench relay shows sound
  obtain ⟨acts, between, waiting⟩ := first bench relay shows sound
  obtain ⟨more, after, later⟩ := second (one bench) _ between (sound.after acts)
  have joined : relay.after (acts ++ more) = (relay.after acts).after more := List.foldl_append
  exact ⟨acts ++ more, joined ▸ after, joined ▸ later.trans waiting⟩

/-- What changes neither the store nor the notices of what was told takes no step. -/
theorem stepwise_id : Stepwise (id : Bench ω → Bench ω) := fun _ _ shows _ => ⟨[], shows, rfl⟩

/-- Changes that are made step by step can be made for one item after another. -/
theorem stepwise_foldl {ι : Type} {change : Bench ω → ι → Bench ω}
    (each : ∀ item, Stepwise (change · item)) (items : List ι) :
    Stepwise fun bench => items.foldl change bench := by
  induction items with
  | nil => exact stepwise_id
  | cons item rest ih => exact (each item).comp ih

/-- A log line takes no step. -/
theorem stepwise_log (text : String) : Stepwise (note · (.log text) : Bench ω → Bench ω) :=
  fun _ _ shows _ => ⟨[], ⟨shows.store, shows.places, shows.known, shows.told⟩, rfl⟩

/-- Removing an observer is one step, if there is one to remove. -/
theorem stepwise_drop (name : String) : Stepwise (drop · name : Bench ω → Bench ω) := by
  intro bench relay shows sound
  dsimp only [drop]
  -- A name that nobody observes under is given up silently.
  split
  · exact ⟨[], shows, rfl⟩
  next id _ =>
    exact ⟨[.unobserve id], ⟨congrArg (Store.unobserve · id) shows.store, shows.places, shows.known,
      shows.told⟩, rfl⟩

variable {act : Action → Bench ω → Bench ω}

/-- A script is followed step by step if its actions happen so. -/
theorem stepwise_follow (acting : ∀ action, Stepwise (act action)) (place : Nat)
    (script : List (Nat × Action)) : Stepwise (follow act place script) := by
  refine stepwise_foldl (fun entry => ?_) script
  intro bench relay shows sound
  dsimp only
  -- Actions that are due at another time are left out, and the relay takes no step for them.
  split
  · exact acting entry.2 bench relay shows sound
  · exact ⟨[], shows, rfl⟩

/-- The bench after the observer at a place was told a value, before it does anything itself. -/
def tell (bench : Bench ω) (place : Nat) (observer : Scripted) (value : Value) : Bench ω :=
  ({ bench with scripts := bench.scripts.set place { observer with calls := observer.calls + 1 } } :
    Bench ω).note (.told observer.name value)

/-- Telling an observer is the step in which the innermost delivery goes on. -/
theorem shows_tell {bench : Bench ω} {relay : Relay} (shows : bench.Shows relay) {key : String}
    {value : Value} {place : Nat} {rest : List Nat} {outer : List Delivery}
    (innermost : relay.deliveries = ⟨key, value, place :: rest⟩ :: outer) {observer : Scripted}
    (present : bench.scripts[place]? = some observer) :
    (bench.tell place observer value).Shows (relay.step .goOn) ∧
      (relay.step .goOn).deliveries = ⟨key, value, rest⟩ :: outer := by
  obtain ⟨store, deliveries, tellings⟩ := relay
  obtain rfl : deliveries = ⟨key, value, place :: rest⟩ :: outer := innermost
  have within : place < bench.scripts.length := (List.getElem?_eq_some_iff.mp present).1
  have named : bench.nameAt place = observer.name := by rw [nameAt, present]; rfl
  -- Only the number of its calls changes in the observer's script.
  have names : ∀ other, (bench.tell place observer value).nameAt other = bench.nameAt other := by
    intro other
    by_cases here : place = other
    · rw [← here, named]
      simp [nameAt, tell, note, within]
    · simp [nameAt, tell, note, here]
  refine ⟨⟨shows.store, ?_, ?_, ?_⟩, rfl⟩
  · simpa [tell, note] using shows.places
  · simpa [Relay.step, tell, note, within] using shows.known
  · have told : (bench.tell place observer value).notices.filterMap Notice.told? =
        (observer.name, value) :: bench.notices.filterMap Notice.told? := rfl
    rw [told, shows.told]
    simp only [Relay.step, List.map_cons, names, named]

/-- Observers are told step by step, and with the last of them the delivery is over. -/
theorem stepwise_tellAll (acting : ∀ action, Stepwise (act action)) (key : String) (value : Value)
    (places : List Nat) {bench : Bench ω} {relay : Relay} {outer : List Delivery}
    (shows : bench.Shows relay) (sound : relay.Sound)
    (innermost : relay.deliveries = ⟨key, value, places⟩ :: outer) :
    ∃ acts, (tellAll act value places bench).Shows (relay.after acts) ∧
      (relay.after acts).deliveries = outer := by
  induction places generalizing bench relay with
  | nil =>
    obtain ⟨store, deliveries, tellings⟩ := relay
    obtain rfl : deliveries = ⟨key, value, []⟩ :: outer := innermost
    exact ⟨[.goOn], ⟨shows.store, shows.places, shows.known, shows.told⟩, rfl⟩
  | cons place rest ih =>
    -- The observer is there, because whoever is to be told has come before.
    have waits := (sound.meant _ (innermost ▸ List.mem_cons_self) place List.mem_cons_self).1
    rw [shows.store, shows.places] at waits
    have present : bench.scripts[place]? = some bench.scripts[place] := List.getElem?_eq_getElem waits
    generalize bench.scripts[place] = observer at present
    -- It is told, it follows its script, and then the others are told.
    obtain ⟨told, others⟩ := shows_tell shows innermost present
    obtain ⟨acts, followed, waiting⟩ := stepwise_follow acting place observer.script _ _ told
      (sound.step .goOn)
    obtain ⟨more, after, settled⟩ := ih followed ((sound.step .goOn).after acts) (waiting.trans others)
    have joined : relay.after (.goOn :: (acts ++ more)) = ((relay.step .goOn).after acts).after more :=
      List.foldl_append
    refine ⟨.goOn :: (acts ++ more), ?_, joined ▸ settled⟩
    rw [joined, tellAll, present]
    exact after

/-- Setting a setting is a step, after which its observers are told. -/
theorem stepwise_assign (acting : ∀ action, Stepwise (act action)) (key : String) (value : Value) :
    Stepwise (assign act key value) := by
  intro bench relay shows sound
  have same : relay.store.set key value = bench.store.set key value := by rw [shows.store]
  have stored : ({ bench with store := (bench.store.set key value).1 } : Bench ω).Shows
      (relay.step (.set key value)) :=
    ⟨congrArg Prod.fst same, (Store.nextId_set ..).trans shows.places, shows.known, shows.told⟩
  have innermost : (relay.step (.set key value)).deliveries =
      ⟨key, value, (bench.store.set key value).2⟩ :: relay.deliveries := by rw [← same]; rfl
  -- The observers are told in the delivery that the step has just put in front of the others.
  obtain ⟨acts, after, settled⟩ := stepwise_tellAll acting key value _ stored (sound.step _) innermost
  exact ⟨.set key value :: acts, after, settled⟩

/-- Adding an observer is a step, after which it is told the present value. -/
theorem stepwise_observe (acting : ∀ action, Stepwise (act action)) (name key : String)
    (script : List (Nat × Action)) : Stepwise fun bench : Bench ω =>
      let store := (bench.store.observe key bench.scripts.length).1
      tellAll act (store.get key) [bench.scripts.length]
        { bench with store := store, scripts := bench.scripts ++ [⟨name, 0, script⟩] } := by
  intro bench relay shows sound
  -- The number of the new observer is its place.
  have place : bench.store.nextId = bench.scripts.length := shows.places
  have names : ∀ telling ∈ relay.tellings,
      nameAt { bench with scripts := bench.scripts ++ [⟨name, 0, script⟩] } telling.observer =
        bench.nameAt telling.observer := by
    intro telling listed
    simp only [nameAt, List.getElem?_append_left (shows.known telling listed)]
  have observed : ({ bench with
      store := (bench.store.observe key bench.scripts.length).1
      scripts := bench.scripts ++ [⟨name, 0, script⟩] } : Bench ω).Shows (relay.step (.observe key)) := by
    refine ⟨?_, ?_, fun telling listed => ?_, ?_⟩
    · simp only [Relay.step, shows.store, place]
    · simp [Store.observe, place]
    · simpa using Nat.lt_succ_of_lt (shows.known telling listed)
    · refine shows.told.trans (List.map_congr_left fun telling listed => ?_)
      rw [← names telling listed]
      rfl
  -- The new observer alone is told of the present value.
  have innermost : (relay.step (.observe key)).deliveries =
      ⟨key, bench.store.get key, [bench.scripts.length]⟩ :: relay.deliveries := by
    simp [Relay.step, Store.observe, shows.store, place, Store.get]
  obtain ⟨acts, after, settled⟩ := stepwise_tellAll acting key _ _ observed (sound.step _) innermost
  exact ⟨.observe key :: acts, after, settled⟩

/-- Setting several settings is done step by step. -/
theorem stepwise_assignAll (acting : ∀ action, Stepwise (act action)) (entries : List (String × Value)) :
    Stepwise (assignAll act entries) := by
  refine stepwise_foldl (fun entry => ?_) entries
  exact stepwise_assign acting entry.1 entry.2

/-- What is logged about the keys of a file takes no step. -/
theorem stepwise_logUnknown (path : Path) (keys : List String) :
    Stepwise (logUnknown · path keys : Bench ω → Bench ω) := by
  intro bench relay shows sound
  -- By induction on the keys; each is logged, or known and not mentioned.
  refine stepwise_foldl (fun key => ?_) _ bench relay shows sound
  intro bench relay shows sound
  dsimp only
  split
  · exact stepwise_log _ bench relay shows sound
  · exact ⟨[], shows, rfl⟩

/-- To remember an observer by its name takes no step. -/
theorem stepwise_subscribe (entry : Bench ω → String × Nat) :
    Stepwise fun bench : Bench ω => { bench with subscriptions := entry bench :: bench.subscriptions } :=
  fun _ _ shows _ => ⟨[], ⟨shows.store, shows.places, shows.known, shows.told⟩, rfl⟩

variable [World ω]

/-- Every action is performed step by step, with all the actions that it causes. -/
theorem stepwise_perform (depth : Nat) (action : Action) :
    Stepwise fun bench : Bench ω => (perform depth action bench).1 := by
  -- By induction on the depth: the actions of a script are performed one level further down.
  induction depth generalizing action with
  | zero => exact stepwise_id
  | succ depth ih =>
    have acting : ∀ action, Stepwise fun bench : Bench ω => (perform depth action bench).1 := ih
    cases action with
    | get key => exact stepwise_id
    | isKnown key => exact stepwise_id
    | set key value => exact stepwise_assign acting key value
    | toggle key =>
      exact fun bench relay shows sound => stepwise_assign acting key _ bench relay shows sound
    | loadText text =>
      intro bench relay shows sound
      simp only [perform]
      split
      · exact ⟨[], shows, rfl⟩
      next entries _ => exact stepwise_assignAll acting entries bench relay shows sound
    | loadFile path =>
      intro bench relay shows sound
      simp only [perform]
      split
      · exact ⟨[], shows, rfl⟩
      next entries _ =>
        exact (stepwise_assignAll acting entries).comp (stepwise_logUnknown path _) bench relay shows sound
    | unobserve name => exact stepwise_drop name
    | observe name key script =>
      intro bench relay shows sound
      -- An observer of the same name is dropped between the first call and the new entry in the list.
      exact ((stepwise_observe acting name key script).comp (stepwise_drop name)).comp
        (stepwise_subscribe fun _ => (name, bench.store.nextId)) bench relay shows sound

/-- What several actions lead to. -/
def performed (depth : Nat) (actions : List Action) (bench : Bench ω) : Bench ω :=
  actions.foldl (fun bench action => (perform depth action bench).1) bench

/-- Several actions are performed step by step, with all the actions that they cause. -/
theorem stepwise_performed (depth : Nat) (actions : List Action) :
    Stepwise (performed depth actions : Bench ω → Bench ω) :=
  stepwise_foldl (stepwise_perform depth) actions

end Bench

/-! ## What was told last -/

/-- An observer has its key's value in the end if the key had the value when the observer was told last. -/
theorem Relay.lastTelling_run {store : Store Nat} (unobserved : store.observers = []) (acts : List Relay.Act)
    (settled : ((ofStore store).after acts).deliveries = []) {observer : Observer Nat}
    (live : observer ∈ ((ofStore store).after acts).store.observers) :
    ∃ last, ((ofStore store).after acts).lastTelling? observer.id = some last ∧
      last.present = ((ofStore store).after acts).store.get observer.key ∧
      (last.value.equal (((ofStore store).after acts).store.get observer.key) ↔ last.isCurrent) ∧
      ((ofStore store).Undisturbed acts →
        last.value = ((ofStore store).after acts).store.get observer.key) := by
  obtain ⟨last, latest, present⟩ := ((sound_ofStore unobserved).after acts).exists_lastTelling settled live
  refine ⟨last, latest, present, by rw [← present, Telling.isCurrent], fun undisturbed => ?_⟩
  -- Undisturbed, everyone is told what the key has.
  have prompt : (ofStore store).Prompt := ⟨by simp [ofStore], by simp [ofStore]⟩
  rw [← present]
  exact (prompt.after undisturbed).tellings last (List.mem_of_find?_eq_some latest)

/-- Two observers come, and the second one changes the key when it is told about a change. -/
def sampleActs : List Relay.Act := [
  .observe "k", .goOn, .goOn, .observe "k", .goOn, .goOn,
  .set "k" (.ofNat 5), .goOn, .goOn, .set "k" (.ofNat 9), .goOn, .goOn, .goOn, .goOn]

/-- In the sample the first observer ends up with the value that the second one has set. -/
theorem Relay.lastTelling_sample :
    ∃ last, ((ofStore (.ofDefaults [])).after sampleActs).lastTelling? 0 = some last ∧
      last.value = .ofNat 9 := by
  have live : (⟨0, "k", 0⟩ : Observer Nat) ∈ ((ofStore (.ofDefaults [])).after sampleActs).store.observers :=
    List.mem_cons_self
  obtain ⟨last, latest, -, -, same⟩ := lastTelling_run rfl sampleActs rfl live
  exact ⟨last, latest, same (by decide)⟩

/-- Two observers come, and the first one changes the key when it is told about a change. -/
def sampleActions : List Action :=
  [.observe "a" "k" [(2, .set "k" (.ofNat 9))], .observe "b" "k" [], .set "k" (.ofNat 5)]

/-- In this sample the second observer is told last what the first one was told before. -/
theorem Bench.lastTold_stale :
    let bench := performed 3 sampleActions ⟨Scripted.sample [], .silent, .ofDefaults [], [], [], []⟩
    bench.store.observers = [⟨0, "k", 0⟩, ⟨1, "k", 1⟩] ∧ bench.nameAt 1 = "b" ∧
    ∃ value, (bench.notices.filterMap Notice.told?).find? (·.1 == "b") = some ("b", value) ∧
      value.equal (bench.store.get "k") = false :=
  ⟨rfl, rfl, .ofNat 5, rfl, rfl⟩

end FormatPipeline.Settings
