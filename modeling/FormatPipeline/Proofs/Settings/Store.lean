import FormatPipeline.Settings.Defaults
import FormatPipeline.Settings.Key
import FormatPipeline.Settings.Store

/-! Settings: different ones have different keys, a store gives back what was set, and of several profiles
with one name the last one gives the default values. -/

/-! ## Keys -/

namespace FormatPipeline.Settings

/-- The end of a key, which is as long as the shortest part behind a formatter's name. -/
def endingOf (key : String) : List Char := key.toList.reverse.take 11

/-- The end of a formatter's key does not depend on the formatter. -/
theorem endingOf_keyOf (slot : Slot) (formatter : String) :
    endingOf (slot.keyOf formatter) = endingOf ("." ++ slot.key) := by
  -- The part behind the name is long enough.
  have long : 11 ≤ ("." ++ slot.key).toList.reverse.length := by cases slot <;> decide
  have apart : (slot.keyOf formatter).toList.reverse =
      ("." ++ slot.key).toList.reverse ++ formatter.toList.reverse := by
    simp [Slot.keyOf, formatterKey]
  rw [endingOf, apart, List.take_append_of_le_length long]
  rfl

/-- The key of a formatter's setting tells the formatter and the setting. -/
theorem keyOf_injective {one other : Slot} {formatter another : String}
    (same : one.keyOf formatter = other.keyOf another) : one = other ∧ formatter = another := by
  -- The two endings are equal, and the endings of different settings are not.
  have endings : endingOf ("." ++ one.key) = endingOf ("." ++ other.key) := by
    rw [← endingOf_keyOf one formatter, same, endingOf_keyOf]
  have slots : one = other := by
    cases one <;> cases other <;> first | rfl | exact absurd endings (by decide)
  subst slots
  refine ⟨rfl, String.toList_inj.mp ?_⟩
  -- With the same ending, what stands in front of it is the same too.
  have texts := congrArg String.toList same
  simpa [Slot.keyOf, formatterKey] using texts

/-- The keys that belong to no formatter. -/
def generalKeys : List String :=
  [errorHandlingKey, busySignalKey, statusBarKey, onSaveEnabledKey, formatOrderKey, saveOrderKey]

/-- A key that belongs to no formatter belongs to none of a formatter's settings. -/
theorem keyOf_ne_general {key : String} (general : key ∈ generalKeys) (slot : Slot)
    (formatter : String) : slot.keyOf formatter ≠ key := by
  -- The keys end in different ways.
  intro same
  have endings : endingOf ("." ++ slot.key) = endingOf key := by rw [← endingOf_keyOf slot formatter, same]
  have different : ∀ key ∈ generalKeys, endingOf ("." ++ slot.key) ≠ endingOf key := by
    cases slot <;> decide
  exact different key general endings

end FormatPipeline.Settings

/-! ## Values and observers -/

namespace FormatPipeline

open Json (Value putMember)

namespace Json

/-- What was put last under a name is found there. -/
theorem member?_putMember_self (name : String) (value : Value) (members : List (String × Value)) :
    Value.member? name (putMember name value members) = some value := by
  -- A member of the name is replaced where it stands, and otherwise a new one comes last.
  induction members with
  | nil => simp [putMember, Value.member?]
  | cons entry rest ih =>
    unfold putMember
    split
    next same => simp [Value.member?, same]
    next different => simpa [Value.member?, different] using ih

/-- What is put under one name changes nothing under another. -/
theorem member?_putMember_of_ne {name other : String} (different : other ≠ name) (value : Value)
    (members : List (String × Value)) :
    Value.member? other (putMember name value members) = Value.member? other members := by
  -- Only a member of the name is touched on the way.
  induction members with
  | nil => simp [putMember, Value.member?, Ne.symm different]
  | cons entry rest ih =>
    unfold putMember
    split
    next same => simp [Value.member?, same, Ne.symm different]
    next => simp only [Value.member?, ih]

end Json

namespace Settings.Store

variable {β : Type}

/-- Setting a key stores the value unless the key has an equal one already. -/
theorem set_of_changed {store : Store β} {key : String} {value : Value}
    (changed : ¬ (store.get key).equal value) :
    store.set key value = ({ store with values := putMember key value store.values },
      (store.observers.filter (·.key == key)).map (·.reaction)) := by
  unfold set
  rw [if_neg changed]

/-- A key has the value that was put there. -/
theorem get_put_self (store : Store β) (key : String) (value : Value) :
    ({ store with values := putMember key value store.values } : Store β).get key = value := by
  simp [get, Json.member?_putMember_self]

/-- Other keys keep their values. -/
theorem get_put_of_ne (store : Store β) {key other : String} (different : other ≠ key)
    (value : Value) :
    ({ store with values := putMember key value store.values } : Store β).get other =
      store.get other := by
  simp only [get, Json.member?_putMember_of_ne different]

/-- Setting a setting changes no other one. -/
theorem get_set_of_ne (store : Store β) {key other : String} (different : other ≠ key) (value : Value) :
    (store.set key value).1.get other = store.get other := by
  unfold set
  split
  · rfl
  · exact get_put_of_ne store different value

/-- A new observer changes no value. -/
@[simp] theorem get_observe (store : Store β) (observed : String) (reaction : β) (key : String) :
    (store.observe observed reaction).1.get key = store.get key := rfl

/-- Setting a setting changes no observer. -/
theorem observers_set (store : Store β) (key : String) (value : Value) :
    (store.set key value).1.observers = store.observers := by
  unfold set
  split <;> rfl

/-- Setting a setting uses up no number. -/
theorem nextId_set (store : Store β) (key : String) (value : Value) :
    (store.set key value).1.nextId = store.nextId := by
  unfold set
  split <;> rfl

/-- Only observers are told about a change. -/
theorem exists_observer_of_told {store : Store β} {key : String} {value : Value} {reaction : β}
    (told : reaction ∈ (store.set key value).2) : ∃ observer ∈ store.observers, observer.reaction = reaction := by
  unfold set at told
  split at told
  · cases told
  · obtain ⟨observer, among, same⟩ := List.mem_map.mp told
    exact ⟨observer, (List.mem_filter.mp among).1, same⟩

/-- Removing observers leaves everything else, and all observers that have other numbers. -/
theorem foldl_unobserve (numbers : List Nat) (store : Store β) :
    numbers.foldl unobserve store =
      { store with observers := store.observers.filter (!numbers.contains ·.id) } := by
  induction numbers generalizing store with
  | nil =>
    have all : store.observers.filter (!([] : List Nat).contains ·.id) = store.observers :=
      List.filter_eq_self.mpr fun _ _ => rfl
    rw [all]
    rfl
  | cons number rest ih =>
    -- Who is left has neither the first number nor one of the others.
    rw [List.foldl_cons, ih]
    simp only [unobserve, List.filter_filter, List.contains_cons, Bool.not_or, bne, Bool.and_comm]

end Settings.Store

end FormatPipeline

/-! ## Default values -/

namespace FormatPipeline

namespace Json

/-- What is found after a value was put is that value under its name, and as before under others. -/
theorem member?_putMember (name other : String) (value : Value) (members : List (String × Value)) :
    Value.member? other (putMember name value members) =
      if other = name then some value else Value.member? other members := by
  split
  next same => rw [same, member?_putMember_self]
  next different => exact member?_putMember_of_ne different value members

end Json

namespace Settings

open Json (Value putMember)

/-- The default value of a setting of a formatter that has the profile. -/
def slotDefault (profile : Profile) : Slot → Value
  | .localBins => .ofStrings profile.localBins
  | .localConfigs => .ofStrings profile.localConfigs
  | .globalBinPath => .string ""
  | .localArguments | .globalArguments | .globalConfigs => .ofStrings []

/-- Two formatters' settings have one key just if they are the same. -/
theorem keyOf_inj {one other : Slot} {formatter another : String} :
    one.keyOf formatter = other.keyOf another ↔ one = other ∧ formatter = another :=
  ⟨keyOf_injective, fun ⟨slots, names⟩ => by rw [slots, names]⟩

/-- The default values of a profile replace those of an earlier profile of its name. -/
theorem member?_formatterDefaults (profile : Profile) (slot : Slot) (name : String)
    (members : List (String × Value)) :
    Value.member? (slot.keyOf name) ((formatterDefaults profile).foldl
        (fun entries entry => putMember entry.1 entry.2 entries) members) =
      if profile.name = name then some (slotDefault profile slot)
      else Value.member? (slot.keyOf name) members := by
  simp only [formatterDefaults, List.foldl_cons, List.foldl_nil, Json.member?_putMember, keyOf_inj]
  -- The six keys of a profile are told apart by their slots, and those of another one by the name.
  by_cases same : profile.name = name
  · cases slot <;> simp [same, slotDefault]
  · simp [same, Ne.symm same]

/-- Of the default values of profiles with one name, those of the last one stay. -/
theorem member?_flatMap_formatterDefaults (profiles : List Profile) (slot : Slot) (name : String)
    (members : List (String × Value)) :
    Value.member? (slot.keyOf name) ((profiles.flatMap formatterDefaults).foldl
        (fun entries entry => putMember entry.1 entry.2 entries) members) =
      ((profiles.findRev? (·.name == name)).map (slotDefault · slot)).or
        (Value.member? (slot.keyOf name) members) := by
  induction profiles generalizing members with
  | nil => rfl
  | cons profile rest ih =>
    rw [List.flatMap_cons, List.foldl_append, ih, member?_formatterDefaults, List.findRev?]
    -- A later profile of the name comes after this one.
    cases rest.findRev? (·.name == name) with
    | some last => rfl
    | none => by_cases same : profile.name = name <;> simp [same]

/-- The last profile of a formatter's name gives the default values of its settings. -/
theorem member?_defaults (profiles : List Profile) (slot : Slot) (name : String) :
    Value.member? (slot.keyOf name) (defaults profiles) =
      (profiles.findRev? (·.name == name)).map (slotDefault · slot) := by
  -- No setting of a formatter is among the general ones.
  have general : Value.member? (slot.keyOf name) ((generalDefaults profiles).foldl
      (fun entries entry => putMember entry.1 entry.2 entries) []) = none := by
    have apart : ∀ key ∈ generalKeys, slot.keyOf name ≠ key := fun key listed =>
      keyOf_ne_general listed slot name
    simp only [generalKeys, List.forall_mem_cons] at apart
    simp [generalDefaults, Json.member?_putMember, apart, Value.member?]
  rw [defaults, List.foldl_append, member?_flatMap_formatterDefaults, general, Option.or_none]

/-- A store in which nothing was set has the default values of the last profile of a formatter's name. -/
theorem get_defaults {β : Type} (profiles : List Profile) (slot : Slot) (name : String) :
    (Store.ofDefaults (defaults profiles) : Store β).get (slot.keyOf name) =
      ((profiles.findRev? (·.name == name)).map (slotDefault · slot)).getD .null := by
  rw [← member?_defaults]
  rfl

/-- A list of texts is read back from its value without its empty texts. -/
theorem stringList_ofStrings (texts : List String) :
    stringList (.ofStrings texts) = texts.filter (!·.isEmpty) := by
  have kept : (fun item : Value => item.string?.filter (!·.isEmpty)) ∘ Value.string =
      Option.guard (!·.isEmpty) := rfl
  simp only [stringList, Value.ofStrings, List.filterMap_map, kept, List.filterMap_eq_filter]

end Settings

end FormatPipeline
