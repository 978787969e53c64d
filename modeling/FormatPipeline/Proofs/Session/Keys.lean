import FormatPipeline.Proofs.Session.DefaultSettings
import FormatPipeline.Proofs.Session.Parts
import Mathlib.Data.List.Nodup

/-! Every setting that has a default value has one key of its own, under which one target is told. -/

namespace FormatPipeline

open Json (putMember)
open Schedule (DebouncedTimeline Timeline Turn Work)
open Settings (ErrorHandling Observer Slot Store)

namespace Json

/-- Putting a value under a name that is new adds the name behind the others. -/
theorem keys_putMember (name : String) (value : Value) (members : List (String × Value)) :
    (putMember name value members).map (·.1) =
      if name ∈ members.map (·.1) then members.map (·.1) else members.map (·.1) ++ [name] := by
  induction members with
  | nil => rfl
  | cons entry rest ih =>
    unfold putMember
    by_cases here : entry.1 = name
    · simp [here]
    · -- The name is looked for behind the first entry.
      rw [if_neg here, List.map_cons, ih]
      by_cases later : name ∈ rest.map (·.1) <;> simp [later, Ne.symm here]

/-- Values that are put one after another are found under the names they were put under, each once. -/
theorem keys_foldl_putMember (entries members : List (String × Value))
    (different : (members.map (·.1)).Nodup) :
    let all := (entries.foldl (fun members entry => putMember entry.1 entry.2 members) members).map (·.1)
    all.Nodup ∧ ∀ key, key ∈ all ↔ key ∈ members.map (·.1) ∨ key ∈ entries.map (·.1) := by
  induction entries generalizing members with
  | nil => simpa using different
  | cons entry rest ih =>
    have keys := keys_putMember entry.1 entry.2 members
    by_cases known : entry.1 ∈ members.map (·.1)
    · rw [if_pos known] at keys
      obtain ⟨once, listed⟩ := ih (putMember entry.1 entry.2 members) (keys ▸ different)
      refine ⟨once, fun key => (listed key).trans ?_⟩
      rw [keys, List.map_cons, List.mem_cons]
      -- A name that is known is no news.
      refine or_congr_right' fun new => ⟨.inr, fun among => among.resolve_left ?_⟩
      rintro rfl
      exact new known
    · rw [if_neg known] at keys
      have longer : ((putMember entry.1 entry.2 members).map (·.1)).Nodup := by
        rw [keys, List.nodup_append]
        refine ⟨different, List.nodup_singleton _, fun one first other second same => known ?_⟩
        rwa [← List.mem_singleton.mp second, ← same]
      obtain ⟨once, listed⟩ := ih (putMember entry.1 entry.2 members) longer
      refine ⟨once, fun key => (listed key).trans ?_⟩
      rw [keys, List.mem_append, List.mem_singleton, List.map_cons, List.mem_cons, or_assoc]

end Json

namespace Settings

/-- The keys of the default settings are the general ones, and those of each profile's formatter. -/
theorem keys_defaults (profiles : List Profile) :
    ((defaults profiles).map (·.1)).Nodup ∧ ∀ key, key ∈ (defaults profiles).map (·.1) ↔
      key ∈ generalKeys ∨ ∃ profile ∈ profiles, ∃ slot : Slot, slot.keyOf profile.name = key := by
  -- The defaults are put one after the other, so that each key is there once.
  obtain ⟨once, listed⟩ := Json.keys_foldl_putMember
    (generalDefaults profiles ++ profiles.flatMap formatterDefaults) [] .nil
  refine ⟨once, fun key => (listed key).trans ?_⟩
  -- The general keys are listed one by one on both sides.
  have general : key ∈ (generalDefaults profiles).map (·.1) ↔ key ∈ generalKeys := by
    simp only [generalDefaults, generalKeys, List.map_cons, List.map_nil, List.mem_cons]
    grind
  -- A formatter has a default for each of its slots, and no other.
  have ofProfile : ∀ profile : Profile, key ∈ (formatterDefaults profile).map (·.1) ↔
      ∃ slot : Slot, slot.keyOf profile.name = key := by
    intro profile
    constructor
    · intro among
      simp only [formatterDefaults, List.map_cons, List.map_nil, List.mem_cons, List.not_mem_nil,
        or_false] at among
      rcases among with rfl | rfl | rfl | rfl | rfl | rfl
      all_goals exact ⟨_, rfl⟩
    · rintro ⟨slot, rfl⟩
      cases slot <;> simp [formatterDefaults]
  rw [List.map_append, List.mem_append, general, List.map_flatMap, List.mem_flatMap]
  simp only [List.map_nil, List.not_mem_nil, false_or, ofProfile]

end Settings

namespace Target

/-- The targets for formatters of some names have the general keys, and those of each formatter. -/
theorem keys_all {names : List String} (different : names.Nodup) :
    ((all names).map key).Nodup ∧ ∀ text, text ∈ (all names).map key ↔
      text ∈ Settings.generalKeys ∨ ∃ name ∈ names, ∃ slot : Slot, slot.keyOf name = text := by
  -- Different targets have different keys.
  refine ⟨(nodup_all different).map fun _ _ => key_injective, fun text => ?_⟩
  constructor
  -- A target is a general one, or a slot of a formatter that is named.
  · intro among
    obtain ⟨target, member, rfl⟩ := List.mem_map.mp among
    rcases mem_general_or_slot target with belongs | ⟨name, slot, rfl⟩
    · exact .inl (key_mem_generalKeys target belongs)
    · exact .inr ⟨name, slot_mem_all.mp member, slot, rfl⟩
  · rintro (belongs | ⟨name, listed, slot, rfl⟩)
    · have keys : Settings.generalKeys = general.map key := rfl
      rw [keys] at belongs
      obtain ⟨target, member, rfl⟩ := List.mem_map.mp belongs
      exact List.mem_map_of_mem (List.mem_append_left _ member)
    · exact List.mem_map.mpr ⟨.slot name slot, slot_mem_all.mpr listed, rfl⟩

/-- The keys of the targets for the formatters of some profiles are those of the default settings. -/
theorem perm_keys_defaults {profiles : List Profile} {names : List String} (different : names.Nodup)
    (registered : ∀ name, name ∈ names ↔ ∃ profile ∈ profiles, profile.name = name) :
    ((all names).map key).Perm ((Settings.defaults profiles).map (·.1)) := by
  obtain ⟨once, listed⟩ := keys_all different
  obtain ⟨defaultOnce, defaultListed⟩ := Settings.keys_defaults profiles
  -- Both lists have each of their keys once, so that it is enough to compare membership.
  refine (List.perm_ext_iff_of_nodup once defaultOnce).mpr fun text => ?_
  rw [listed, defaultListed]
  simp [registered]

end Target

namespace Workspace

variable {ω : Type} [World ω]

/-- Those who observe settings come behind those who observed any before. -/
theorem observers_foldl_observe (targets : List Target) (w : Workspace ω) :
    let number := (w.debouncer.map (·.1)).getD 0
    ∃ own, (targets.foldl observe w).store.observers = w.store.observers ++ own ∧
      own.map (fun observer => (observer.key, observer.reaction)) =
        targets.map fun target => (target.key, target.subscription number) := by
  intro number
  -- The induction is on the targets; taking a value leaves the store and its observers.
  induction targets generalizing w with
  | nil => exact ⟨[], (List.append_nil _).symm, rfl⟩
  | cons target rest ih =>
    obtain ⟨later, observers, keys⟩ := ih (w.observe target)
    have stores : (w.observe target).store = (w.store.observe target.key _).1 := store_apply _ _
    have same : (w.observe target).debouncer = w.debouncer :=
      (congrArg Settled.debouncer (settled_apply _ _)).trans (Settled.debouncer_take _ _)
    rw [same] at keys
    rw [stores] at observers
    refine ⟨⟨w.store.nextId, target.key, target.subscription number⟩ :: later, ?_, ?_⟩
    · rw [List.foldl_cons, observers, Store.observe, List.append_assoc, List.singleton_append]
    · rw [List.map_cons, List.map_cons, keys]

end Workspace

namespace Session

variable {ω : Type} {s next : Session ω} {key : String}

/-- What waits for its turn, and what sleeps, apart from what is delayed under a key. -/
def besides (key : String) (s : Session ω) : List (Work Update Errand) × List (Nat × Work Update Sleeper) :=
  (s.ready.filter (!·.isFor key), s.sleeping.filter (!·.2.isFor key))

/-- Only what belongs to a key changes: all other work stays, and what other settings have made. -/
structure OnlyConcerns (key : String) (s next : Session ω) : Prop where
  work : next.besides key = s.besides key
  part : ∀ target : Target, target.key ≠ key →
    next.state.applied.part target = s.state.applied.part target

/-- Giving up what is delayed under a key leaves all other work. -/
theorem besides_giveUp (key : String) (s : Session ω) :
    besides key (DebouncedTimeline.giveUp key s) = s.besides key := by
  rw [besides, DebouncedTimeline.ready_giveUp, DebouncedTimeline.sleeping_giveUp]
  refine Prod.ext ?_ ?_ <;>
    exact (List.filter_filter ..).trans (List.filter_congr fun _ _ => Bool.and_self _)

variable [World ω]

/-- Telling an observer about a change of a key leaves all work that is not for the key. -/
theorem besides_notify (key : String) (value : Json.Value) (s : Session ω) (subscription : Subscription) :
    (s.notify key value subscription).besides key = s.besides key := by
  unfold notify
  dsimp only
  split
  · rfl
  · split
    · split
      · -- The debouncer forgets what is delayed under the key, and delays something under it.
        have dropped := besides_giveUp key s
        unfold DebouncedTimeline.call
        split
        · exact dropped
        · refine Eq.trans ?_ dropped
          simp [besides, DebouncedTimeline.arm, Timeline.spawn, Work.isFor]
      · rfl
    · rfl

/-- Setting a setting leaves all work that is not for its key. -/
theorem besides_set (key : String) (value : Json.Value) (s : Session ω) :
    (s.set key value).besides key = s.besides key := by
  -- Those who are told are told one after the other, each without touching other keys.
  have told : ∀ (told : List Subscription) (s : Session ω),
      (told.foldl (notify key value) s).besides key = s.besides key := by
    intro told
    induction told with
    | nil => exact fun _ => rfl
    | cons subscription rest ih => exact fun s => (ih _).trans (besides_notify key value s subscription)
  exact (told _ _).trans rfl

/-- A change of a key concerns nothing but what belongs to it. -/
theorem onlyConcerns_set {targets : List Target} {number delay : Nat} {handed : List Update}
    (current : s.IsUpToDate targets number delay handed) (different : targets.Nodup) (key : String)
    (value : Json.Value) : s.OnlyConcerns key (s.set key value) := by
  refine ⟨besides_set key value s, fun target apart => ?_⟩
  rw [state_set]
  -- Only targets with the key are handed a value, and each key has one target.
  refine Workspace.part_foldl_apply_of_ne (fun update member same => apart ?_) _
  rw [← same]
  exact key_of_mem_handsOut current different member

/-- An update that has waited long enough concerns nothing but what belongs to its key. -/
theorem onlyConcerns_wake {targets : List Target} {number delay : Nat} {handed : List Update}
    (current : s.IsUpToDate targets number delay handed) {now : Nat} {task : Schedule.Task Update}
    (taken : DebouncedTimeline.Takes machine s (.wake now (.delayed task)) next) :
    s.OnlyConcerns task.key next := by
  -- What waits is for the target whose key it waits under.
  have member : task.toDelayed ∈ DebouncedTimeline.pending s := by
    rcases DebouncedTimeline.pending_takes taken with ⟨_, _, same, waiting, -⟩ | ⟨other, -⟩
    · cases same
      exact waiting.mem_iff.mpr List.mem_cons_self
    · exact absurd rfl (other now task)
  obtain ⟨target, -, same⟩ := current.delayed_of_waiting member
  refine ⟨?_, fun other apart => ?_⟩
  · -- The task leaves its place among the sleepers, and does not lie down again.
    cases taken.shifts with
    | wake asleep _ _ _ ready sleeping =>
      simp [besides, asleep, ready, sleeping, Schedule.DebouncedMachine.wake, Work.isFor, Work.delayed?]
  · rw [taken.state_eq]
    refine Workspace.part_apply_of_ne (fun same' => apart ?_) s.state
    rw [← same', same]
    rfl

/-- After the start those who observe the targets have come behind those who observed any before. -/
theorem observers_start (profiles : List Profile) (delay : Nat) (s : Session ω) :
    let targets := Target.all (s.register profiles).state.formatterNames
    let number := (s.prepared profiles delay).debouncerNumber
    ∃ own, (s.start profiles delay).state.store.observers = s.state.store.observers ++ own ∧
      own.map (fun observer => (observer.key, observer.reaction)) =
        targets.map fun target => (target.key, target.subscription number) := by
  intro targets number
  -- Greeting the editor changes no observer, and neither does registering formatters.
  obtain ⟨own, observers, same⟩ := Workspace.observers_foldl_observe targets
    (s.prepared profiles delay).state
  have started : (s.start profiles delay).state.store =
      (targets.foldl Workspace.observe (s.prepared profiles delay).state).store := by
    rw [start_eq, ← state_observeTargets]
    exact congrArg Workspace.Settled.store (quiet_greeting _).settled
  have before : (s.prepared profiles delay).state.store = s.state.store :=
    (Workspace.calm_register profiles s.state).2
  rw [before] at observers
  exact ⟨own, by rw [started, observers], same⟩

variable {profiles : List Profile} {delay : Nat} {first : Session ω}

/-- Each default setting is observed once for one target, and its changes concern nothing else. -/
theorem distinctKeys_run (fresh : first.state.formatters = [])
    (quiet : ∀ observer ∈ first.state.store.observers,
      observer.reaction.isQuiet (first.prepared profiles delay).debouncerNumber) :
    ∃ own : List (Observer Subscription),
      (first.start profiles delay).state.store.observers = first.state.store.observers ++ own ∧
      (own.map (·.key)).Perm ((Settings.defaults profiles).map (·.1)) ∧ (own.map (·.key)).Nodup ∧
      ((own.filter (·.reaction.debouncer.isSome)).map (·.key)).Nodup ∧
      (∀ observer ∈ own, observer.reaction.target.key = observer.key) ∧
      ∀ {handed s}, Run Moves hands (first.startHands profiles) (first.start profiles delay) handed s →
        (∀ key value, s.OnlyConcerns key (s.set key value)) ∧
        ∀ {now entry next}, DebouncedTimeline.Takes machine s (.wake now (.delayed entry)) next →
          s.OnlyConcerns entry.key next := by
  have different : (first.register profiles).state.formatterNames.Nodup :=
    Workspace.nodup_register profiles (by simp [Workspace.formatterNames, fresh])
  have registered : ∀ name, name ∈ (first.register profiles).state.formatterNames ↔
      ∃ profile ∈ profiles, profile.name = name := by
    intro name
    have listed := Workspace.mem_register profiles first.state name
    simp only [Workspace.formatterNames, fresh, List.map_nil, List.not_mem_nil, false_or] at listed
    exact listed
  -- The observers are those of the targets, the keys of which are the ones with default values.
  obtain ⟨own, observers, same⟩ := observers_start profiles delay first
  have keys : own.map (·.key) =
      (Target.all (first.register profiles).state.formatterNames).map Target.key := by
    simpa [Function.comp_def] using congrArg (List.map Prod.fst) same
  have once := (Target.keys_all different).1
  refine ⟨own, observers, ?_, by rwa [keys], ?_, ?_, ?_⟩
  · rw [keys]
    exact Target.perm_keys_defaults different registered
  -- The keys that are debounced are some of the keys, each of which is there once.
  · rw [← keys] at once
    exact once.sublist (List.filter_sublist.map _)
  · intro observer member
    -- What observes a key reacts for the target that has it.
    have among := List.mem_map_of_mem (f := fun observer : Observer Subscription =>
      (observer.key, observer.reaction)) member
    rw [same] at among
    obtain ⟨target, -, pair⟩ := List.mem_map.mp among
    obtain ⟨key, reaction⟩ := Prod.mk.inj pair
    rw [← key, ← reaction]
    rfl
  · intro handed s ran
    -- What goes on in a run concerns a single target, and targets are told apart by their keys.
    have current := (isUpToDate_run fresh quiet ran).1
    exact ⟨onlyConcerns_set current (Target.nodup_all different), onlyConcerns_wake current⟩

/-- Profiles whose names are empty, end like a part of a key, or are there twice. -/
def sampleOddities : List Profile :=
  ["", "a", "a.local", ""].map fun name => { Scripted.sampleProfile with name := name }

/-- A session with odd names in which one list of binaries was changed a moment ago. -/
def sampleOdd : Session Scripted.Tables :=
  (sampleFirst.start sampleOddities 250).answer (.set "a.local.bins" (.array [.string "bin/a"]))

/-- In the sample the change of a key that looks alike leaves the update that waits. -/
theorem distinctKeys_sample :
    (sampleOdd.state.store.observers.map (·.key)).length = 25 ∧
    (DebouncedTimeline.pending sampleOdd).map (·.key) = ["a.local.bins"] ∧
    sampleOdd.OnlyConcerns "a.local.local.bins"
      (sampleOdd.set "a.local.local.bins" (.array [.string "bin/b"])) := by
  -- The general statement is applied behind one call of the run.
  obtain ⟨own, observers, -, -, -, -, apart⟩ :=
    @distinctKeys_run _ _ sampleOddities 250 sampleFirst rfl (by decide +kernel)
  exact ⟨by decide +kernel, by decide +kernel,
    (apart (.move .start (.call (.set "a.local.bins" (.array [.string "bin/a"]))))).1 _ _⟩

end Session

end FormatPipeline
