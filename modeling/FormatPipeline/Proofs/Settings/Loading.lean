import FormatPipeline.Proofs.Json.Accepting
import FormatPipeline.Proofs.Json.Leaves
import FormatPipeline.Proofs.Json.Writing
import FormatPipeline.Proofs.World.Scripted
import FormatPipeline.Settings.Reentrant
import Mathlib.Logic.Relation

/-! Loading settings from a text: every leaf is set under the names on the way to it, or nothing is. -/

namespace FormatPipeline.Settings

open Json (Value)

/-! ## Leaves and keys -/

/-- The settings that leaves are: names one inside the other are joined by dots. -/
def settingsOf (leaves : List (List String × Value)) : List (String × Value) :=
  leaves.map fun leaf => (".".intercalate leaf.1, leaf.2)

mutual
/-- A value under a key has its leaves behind the key. -/
theorem flatten_eq : ∀ (key : String) (value : Value),
    flatten key value = settingsOf (value.leaves.map fun leaf => (key :: leaf.1, leaf.2))
  | key, .object members => flattenMembers_some key members
  | _, .null | _, .bool _ | _, .number _ | _, .string _ | _, .array _ => by
    simp [flatten, settingsOf, Value.leaves]

/-- Members behind a key have their leaves behind the key. -/
theorem flattenMembers_some : ∀ (key : String) (members : List (String × Value)),
    flattenMembers (some key) members =
      settingsOf ((Value.leavesOf members).map fun leaf => (key :: leaf.1, leaf.2))
  | _, [] => rfl
  -- The first member gives its own leaves, and the others follow.
  | key, (name, value) :: rest => by
    rw [flattenMembers, flatten_eq, flattenMembers_some key rest]
    simp [settingsOf, Value.leavesOf, Function.comp_def, String.append_assoc]
end

/-- The settings in an object are its leaves. -/
theorem flattenMembers_none (members : List (String × Value)) :
    flattenMembers none members = settingsOf (Value.leavesOf members) := by
  -- The induction is on the members; without a key in front nothing is put before a name.
  induction members with
  | nil => rfl
  | cons member rest ih =>
    obtain ⟨name, value⟩ := member
    rw [flattenMembers, flatten_eq, ih, Value.leavesOf]
    simp only [settingsOf, List.map_append]

/-! ## Dotted names -/

/-- In the place of one member that is an object, at any depth, its own members stand with their names
behind its name and a dot. -/
inductive Dotted : List (String × Value) → List (String × Value) → Prop
  | here (before : List (String × Value)) (name : String) (inner after : List (String × Value)) :
    Dotted (before ++ (name, .object inner) :: after)
      (before ++ (inner.map fun member => (name ++ "." ++ member.1, member.2)) ++ after)
  | within (before : List (String × Value)) (name : String) {inner dotted : List (String × Value)}
      (after : List (String × Value)) : Dotted inner dotted →
    Dotted (before ++ (name, .object inner) :: after) (before ++ (name, .object dotted) :: after)

/-- The settings of members come one after another. -/
theorem flattenMembers_append (key : Option String) (first second : List (String × Value)) :
    flattenMembers key (first ++ second) = flattenMembers key first ++ flattenMembers key second := by
  induction first with
  | nil => rfl
  | cons member rest ih =>
    obtain ⟨name, value⟩ := member
    simp only [List.cons_append, flattenMembers, ih, List.append_assoc]

/-- Members with dotted names hold the settings of the object whose members they are. -/
theorem flattenMembers_dotted (key : Option String) (name : String) (inner : List (String × Value)) :
    flattenMembers key (inner.map fun member => (name ++ "." ++ member.1, member.2)) =
      flattenMembers key [(name, .object inner)] := by
  simp only [flattenMembers, flatten, List.append_nil]
  -- Both sides go through the members of the inner object one by one.
  induction inner with
  | nil => rfl
  | cons member rest ih =>
    obtain ⟨last, value⟩ := member
    simp only [List.map_cons, flattenMembers, ih]
    cases key <;> simp only [String.append_assoc]

/-- Dotted names change none of the settings and not their order. -/
theorem Dotted.flattenMembers_eq {first second : List (String × Value)} (dotted : Dotted first second) :
    ∀ key, flattenMembers key first = flattenMembers key second := by
  -- A member can be looked at alone, since members are flattened one behind the other.
  have split : ∀ (key : Option String) (before : List (String × Value)) (name : String) (value : Value)
      (after : List (String × Value)), flattenMembers key (before ++ (name, value) :: after) =
        flattenMembers key before ++ flattenMembers key [(name, value)] ++ flattenMembers key after := by
    intro key before name value after
    rw [← flattenMembers_append, ← flattenMembers_append, List.append_assoc, List.singleton_append]
  induction dotted with
  -- The rewritten member holds the same settings, and its neighbours are not touched.
  | here before name inner after =>
    intro key
    rw [split, flattenMembers_append, flattenMembers_append, flattenMembers_dotted]
  -- Inside a member the names in front of it are the same on both sides.
  | within before name after _ ih =>
    intro key
    rw [split, split]
    simp only [flattenMembers, flatten, ih]

/-- An object has its leaves as settings. -/
theorem readSettings_object {text : String} {members : List (String × Value)}
    (parsed : Json.parse text = .ok (.object members)) :
    readSettings text = .ok (settingsOf (Value.object members).leaves) := by
  simp only [readSettings, parsed, flattenMembers_none, Value.leaves]

/-- Settings are read from objects alone. -/
theorem exists_error_readSettings {text : String}
    (other : ∀ members, Json.parse text ≠ .ok (.object members)) :
    ∃ error, readSettings text = .error error := by
  unfold readSettings
  -- Only an object passes both the parser and the test behind it.
  cases parsed : Json.parse text with
  | error fault => exact ⟨_, rfl⟩
  | ok value =>
    cases value with
    | object members => exact absurd parsed (other members)
    | _ => exact ⟨_, rfl⟩

/-- What a text holds is what its members are, if no object in it has two members of one name. -/
theorem readSettings_of_isDistinct {text : String} {members : List (String × Value)}
    (read : Json.readText Json.depthLimit text = .ok (.object members))
    (distinct : (Value.object members).IsDistinct) :
    readSettings text = .ok (flattenMembers none members) := by
  -- With one name each there is nothing to merge.
  have parsed : Json.parse text = .ok (.object members) := by
    rw [Json.parse, read]
    exact congrArg Except.ok (Value.merge_of_isDistinct _ distinct)
  simp [readSettings, parsed]

/-- Texts that differ by dotted names hold the same settings. -/
theorem readSettings_dotted {text other : String} {first second : List (String × Value)}
    (read : Json.readText Json.depthLimit text = .ok (.object first))
    (readOther : Json.readText Json.depthLimit other = .ok (.object second))
    (distinct : (Value.object first).IsDistinct) (distinctOther : (Value.object second).IsDistinct)
    (dotted : Relation.ReflTransGen Dotted first second) : readSettings text = readSettings other := by
  rw [readSettings_of_isDistinct read distinct, readSettings_of_isDistinct readOther distinctOther]
  -- On the way names may meet, which does not matter to the settings.
  have same : flattenMembers none first = flattenMembers none second := by
    clear distinct distinctOther read readOther
    induction dotted with
    | refl => rfl
    | tail _ step ih => exact ih.trans (step.flattenMembers_eq none)
  rw [same]

/-! ## Observers that set nothing -/

mutual
/-- An action that sets no setting, and lets no observer come that would set one. -/
def Action.IsQuiet : Action → Prop
  -- Observers count with what their scripts would do.
  | .get _ | .isKnown _ | .unobserve _ => True
  | .observe _ _ script => Action.AreQuiet script
  | .set .. | .toggle _ | .loadText _ | .loadFile _ => False

/-- Whether all actions of a script are such. -/
def Action.AreQuiet : List (Nat × Action) → Prop
  | [] => True
  | (_, action) :: rest => action.IsQuiet ∧ Action.AreQuiet rest
end

/-- A key that was set has a value that is equal to the given one, whether it had one before or not. -/
theorem Store.equal_get_set {β : Type} (store : Store β) (key : String) {value : Value}
    (reflexive : value.equal value) : ((store.set key value).1.get key).equal value := by
  by_cases same : (store.get key).equal value
  · simp [Store.set, same]
  · rw [Store.set_of_changed same, Store.get_put_self]
    exact reflexive

namespace Bench

variable {ω : Type}

/-- No observer sets settings. -/
def IsQuiet (bench : Bench ω) : Prop := ∀ observer ∈ bench.scripts, Action.AreQuiet observer.script

/-- All settings keep their values, and no observer has come that would set one. -/
structure Rests (bench later : Bench ω) : Prop where
  values : ∀ key, later.store.get key = bench.store.get key
  quiet : later.IsQuiet

/-- Settings keep their values one time after another. -/
theorem Rests.trans {bench mid later : Bench ω} (before : bench.Rests mid) (after : mid.Rests later) :
    bench.Rests later :=
  ⟨fun key => (after.values key).trans (before.values key), after.quiet⟩

/-- Removing an observer sets nothing. -/
theorem rests_drop {bench : Bench ω} (quiet : bench.IsQuiet) (name : String) :
    bench.Rests (bench.drop name) := by
  unfold drop
  split <;> exact ⟨fun _ => rfl, quiet⟩

/-- Whether performing actions that set nothing sets nothing. -/
def ActsQuietly (act : Action → Bench ω → Bench ω) : Prop :=
  ∀ {action : Action} {bench : Bench ω}, action.IsQuiet → bench.IsQuiet → bench.Rests (act action bench)

variable {act : Action → Bench ω → Bench ω}

/-- A script that sets nothing can be followed. -/
theorem rests_follow (acting : ActsQuietly act) (place : Nat) {script : List (Nat × Action)}
    (silent : Action.AreQuiet script) {bench : Bench ω} (quiet : bench.IsQuiet) :
    bench.Rests (follow act place script bench) := by
  -- The induction is on the script, and each of its actions leaves the bench quiet.
  induction script generalizing bench with
  | nil => exact ⟨fun _ => rfl, quiet⟩
  | cons entry rest ih =>
    obtain ⟨call, action⟩ := entry
    rw [follow, List.foldl_cons]
    split
    · have first := acting silent.1 quiet
      exact first.trans (ih silent.2 first.quiet)
    · exact ih silent.2 quiet

/-- Observers that set nothing can be told. -/
theorem rests_tellAll (acting : ActsQuietly act) (value : Value) (places : List Nat) {bench : Bench ω}
    (quiet : bench.IsQuiet) :
    bench.Rests (tellAll act value places bench) := by
  induction places generalizing bench with
  | nil => exact ⟨fun _ => rfl, quiet⟩
  | cons place rest ih =>
    rw [tellAll]
    split
    · exact ih quiet
    next observer present =>
      -- Only the number of its calls changes in the observer's script.
      have silent := quiet observer (List.mem_of_getElem? present)
      let called := bench.scripts.set place { observer with calls := observer.calls + 1 }
      have told : (note { bench with scripts := called } (.told observer.name value)).IsQuiet := by
        intro other member
        rcases List.mem_or_eq_of_mem_set member with old | rfl
        · exact quiet other old
        · exact silent
      have followed := rests_follow acting place silent told
      exact Rests.trans ⟨followed.values, followed.quiet⟩ (ih followed.quiet)

/-- Setting a setting has no effect on others where observers set nothing. -/
theorem get_assign (acting : ActsQuietly act) (key : String) (value : Value) {bench : Bench ω}
    (quiet : bench.IsQuiet) :
    (assign act key value bench).IsQuiet ∧
      ∀ other, (assign act key value bench).store.get other = (bench.store.set key value).1.get other := by
  have silent : ({ bench with store := (bench.store.set key value).1 } : Bench ω).IsQuiet := quiet
  have told := rests_tellAll acting value (bench.store.set key value).2 silent
  exact ⟨told.quiet, told.values⟩

/-- Settings that are not among those that are set keep their values. -/
theorem get_assignAll_of_not_mem (acting : ActsQuietly act) {entries : List (String × Value)}
    {key : String} (other : key ∉ entries.map (·.1)) {bench : Bench ω} (quiet : bench.IsQuiet) :
    (assignAll act entries bench).IsQuiet ∧
      (assignAll act entries bench).store.get key = bench.store.get key := by
  -- The induction is on the entries; no one reacts, so that each sets its own key only.
  induction entries generalizing bench with
  | nil => exact ⟨quiet, rfl⟩
  | cons entry rest ih =>
    obtain ⟨first, value⟩ := entry
    simp only [List.map_cons, List.mem_cons, not_or] at other
    obtain ⟨still, values⟩ := get_assign acting first value quiet
    obtain ⟨later, kept⟩ := ih other.2 still
    exact ⟨later, kept.trans ((values key).trans (Store.get_set_of_ne _ other.1 value))⟩

/-- No observer that sets something comes while settings are set. -/
theorem isQuiet_assignAll (acting : ActsQuietly act) (entries : List (String × Value)) {bench : Bench ω}
    (quiet : bench.IsQuiet) :
    (assignAll act entries bench).IsQuiet := by
  induction entries generalizing bench with
  | nil => exact quiet
  | cons entry rest ih => exact ih (get_assign acting entry.1 entry.2 quiet).1

/-- What is set last under a key is its value afterwards. -/
theorem equal_get_assignAll (acting : ActsQuietly act) {entries before after : List (String × Value)}
    {key : String} {value : Value} (split : entries = before ++ (key, value) :: after)
    (last : key ∉ after.map (·.1)) (reflexive : value.equal value) {bench : Bench ω} (quiet : bench.IsQuiet) :
    ((assignAll act entries bench).store.get key).equal value := by
  -- The entries are those before the last one of the key, that one, and those behind it.
  have early := isQuiet_assignAll acting before quiet
  obtain ⟨still, values⟩ := get_assign acting key value early
  have same : assignAll act entries bench =
      assignAll act after (assign act key value (assignAll act before bench)) := by
    rw [split]
    exact List.foldl_append
  rw [same, (get_assignAll_of_not_mem acting last still).2, values]
  exact Store.equal_get_set _ key reflexive

variable [World ω]

/-- Actions that set nothing can be performed, with all the actions that they cause. -/
theorem rests_perform (depth : Nat) {action : Action} (silent : action.IsQuiet) {bench : Bench ω}
    (quiet : bench.IsQuiet) : bench.Rests (perform depth action bench).1 := by
  induction depth generalizing action bench with
  | zero => exact ⟨fun _ => rfl, quiet⟩
  | succ depth ih =>
    have acting : ActsQuietly fun action (bench : Bench ω) => (perform depth action bench).1 :=
      fun silent quiet => ih silent quiet
    cases action with
    | get key => exact ⟨fun _ => rfl, quiet⟩
    | isKnown key => exact ⟨fun _ => rfl, quiet⟩
    | unobserve name => exact rests_drop quiet name
    | observe name key script =>
      -- The new observer sets nothing, and it is told at once.
      have come : ({ bench with
          store := (bench.store.observe key bench.scripts.length).1
          scripts := bench.scripts ++ [⟨name, 0, script⟩] } : Bench ω).IsQuiet := by
        intro observer member
        rcases List.mem_append.mp member with old | new
        · exact quiet observer old
        · rw [List.mem_singleton.mp new]
          exact silent
      have told := rests_tellAll acting
        ((bench.store.observe key bench.scripts.length).1.get key) [bench.scripts.length] come
      have dropped := told.trans (rests_drop told.quiet name)
      exact ⟨dropped.values, dropped.quiet⟩
    -- Actions that set something are not quiet.
    | set | toggle | loadText | loadFile => cases silent

/-! ## Loading -/

/-- After all leaves are set, the last one of a key is its value, and other settings are as before. -/
theorem get_assignAll_leaves (depth : Nat) {value : Value} (distinct : value.IsDistinct) {bench : Bench ω}
    (quiet : bench.IsQuiet) :
    let later := assignAll (fun action bench => (perform depth action bench).1)
      (settingsOf value.leaves) bench
    (∀ before path leaf after, value.leaves = before ++ (path, leaf) :: after →
      (∀ other ∈ after, ".".intercalate other.1 ≠ ".".intercalate path) →
      (later.store.get (".".intercalate path)).equal leaf) ∧
    ∀ key, key ∉ value.leaves.map (fun leaf => ".".intercalate leaf.1) →
      later.store.get key = bench.store.get key := by
  -- Quiet observers set nothing themselves, at any depth.
  have acting : ActsQuietly fun action (bench : Bench ω) => (perform depth action bench).1 :=
    fun silent quiet => rests_perform depth silent quiet
  refine ⟨fun before path leaf after split last => ?_, fun key other => ?_⟩
  -- The leaf is the last one of its key among the settings as well.
  · have reflexive := leaf.equal_self
      (Value.isDistinct_of_mem_leaves _ distinct (path, leaf) (by simp [split]))
    have cut : settingsOf value.leaves =
        settingsOf before ++ (".".intercalate path, leaf) :: settingsOf after := by simp [split, settingsOf]
    have gone : ".".intercalate path ∉ (settingsOf after).map (·.1) := by simpa [settingsOf] using last
    exact equal_get_assignAll acting cut gone reflexive quiet
  · exact (get_assignAll_of_not_mem acting (by simpa [settingsOf] using other) quiet).2

/-- A text with an object sets the leaves of the object one after another, and dotted names do not
matter; any other text changes nothing. Texts are read just as their grammar says. -/
theorem loadText_run (depth : Nat) (bench : Bench ω) (text : String) :
    (∀ members, Json.parse text = .ok (.object members) →
      let leaves := (Value.object members).leaves
      let keys := leaves.map fun leaf => ".".intercalate leaf.1
      ((∀ path leaf, (path, leaf) ∈ leaves ↔
          (Value.object members).at? path = some leaf ∧ leaf.isObject = false) ∧
        (leaves.map (·.1)).Nodup) ∧
      ∃ later, perform (depth + 1) (.loadText text) bench = (later, .keys keys) ∧
        (bench.IsQuiet →
          (∀ before path leaf after, leaves = before ++ (path, leaf) :: after →
            (∀ other ∈ after, ".".intercalate other.1 ≠ ".".intercalate path) →
            (later.store.get (".".intercalate path)).equal leaf) ∧
          ∀ key, key ∉ keys → later.store.get key = bench.store.get key)) ∧
    ((∀ members, Json.parse text ≠ .ok (.object members)) →
      ∃ error, perform (depth + 1) (.loadText text) bench = (bench, .textError error)) ∧
    (∀ other first second, Json.readText Json.depthLimit text = .ok (.object first) →
      Json.readText Json.depthLimit other = .ok (.object second) →
      (Value.object first).IsDistinct → (Value.object second).IsDistinct →
      Relation.ReflTransGen Dotted first second →
      perform (depth + 1) (.loadText text) bench = perform (depth + 1) (.loadText other) bench) ∧
    ∀ value : Value,
      (Json.readText Json.depthLimit text = .ok value ↔
        value.IsText text.toList ∧ value.nesting < Json.depthLimit) ∧
      (Json.readText Json.depthLimit text = .ok value → Json.parse text = .ok value.merge) ∧
      (value.IsDistinct → value.merge = value) := by
  refine ⟨fun members parsed => ?_, fun other => ?_, fun other first second read readOther distinct
    distinctOther dotted => ?_, fun value => ⟨Json.readText_eq_ok_iff (by decide), fun read => ?_,
      Value.merge_of_isDistinct value⟩⟩
  -- An object is loaded by setting its leaves in their order.
  · have distinct := Json.isDistinct_of_parse parsed
    refine ⟨⟨fun path leaf => (Value.object members).mem_leaves_iff distinct, Value.nodup_leaves _ distinct⟩,
      _, ?_, get_assignAll_leaves depth distinct⟩
    simp only [perform, readSettings_object parsed, settingsOf, List.map_map, Function.comp_def]
  -- Anything but an object is refused before anything is set.
  · obtain ⟨error, failed⟩ := exists_error_readSettings other
    exact ⟨error, by simp only [perform, failed]⟩
  · simp only [perform, readSettings_dotted read readOther distinct distinctOther dotted]
  · rw [Json.parse, read]
    rfl

/-- Settings in nested objects. -/
def sampleNested : List (String × Value) :=
  [("black", .object [("local", .object [("bins", .array [.string "venv/bin/black"])]), ("", .null)]),
    ("statusBar", .bool true)]

/-- The same settings under dotted names. -/
def sampleDotted : List (String × Value) :=
  [("black.local", .object [("bins", .array [.string "venv/bin/black"])]), ("black.", .null),
    ("statusBar", .bool true)]

/-- The text of an object. -/
def sampleText (members : List (String × Value)) : String := (Value.object members).compact

/-- Settings with an observer that only asks for a value. -/
def sampleQuiet : Bench Scripted.Tables :=
  (perform 3 (.observe "a" "statusBar" [(1, .get "black.")])
    ⟨Scripted.sample [], .silent, .ofDefaults [], [], [], []⟩).1

/-- The sample's settings are loaded from either text, and none from a list. -/
theorem loadText_sample :
    (∃ later, perform 4 (.loadText (sampleText sampleNested)) sampleQuiet =
        (later, .keys ["black.local.bins", "black.", "statusBar"]) ∧
      (later.store.get "statusBar").equal (.bool true) ∧ later.store.get "black" = .null) ∧
    perform 4 (.loadText (sampleText sampleNested)) sampleQuiet =
      perform 4 (.loadText (sampleText sampleDotted)) sampleQuiet ∧
    ∃ error, perform 4 (.loadText (Value.array []).compact) sampleQuiet =
      (sampleQuiet, .textError error) := by
  -- The one observer of the sample only listens.
  have quiet : sampleQuiet.IsQuiet := by
    intro observer member
    rw [List.mem_singleton.mp member]
    exact ⟨trivial, trivial⟩
  have distinct : (Value.object sampleNested).IsDistinct ∧ (Value.object sampleDotted).IsDistinct := by
    simp [sampleNested, sampleDotted, Value.IsDistinct, Value.AreDistinctMembers, Value.AreDistinct]
  have whole : (Value.object sampleNested).IsWhole ∧ (Value.object sampleDotted).IsWhole := by
    simp [sampleNested, sampleDotted, Value.IsWhole, Value.AreWholeMembers, Value.AreWhole]
  -- The nested text is read, parsed and merged to the object itself.
  obtain ⟨loaded, -, same, written⟩ := loadText_run 3 sampleQuiet (sampleText sampleNested)
  obtain ⟨spelled, merged, -⟩ := written (.object sampleNested)
  have nested := spelled.mpr ⟨Value.isText_compact whole.1, by decide⟩
  have parsed := merged nested
  rw [Value.merge_of_isDistinct _ distinct.1] at parsed
  obtain ⟨-, later, performed, kept⟩ := loaded sampleNested parsed
  obtain ⟨set, others⟩ := kept quiet
  refine ⟨⟨later, performed, ?_, ?_⟩, ?_, ?_⟩
  · exact set _ ["statusBar"] (.bool true) [] rfl (by simp)
  · exact others "black" (by decide +kernel)
  -- The dotted text is read as well, and one rewriting step leads to it.
  · obtain ⟨-, -, -, written⟩ := loadText_run 3 sampleQuiet (sampleText sampleDotted)
    have dotted := (written (.object sampleDotted)).1.mpr ⟨Value.isText_compact whole.2, by decide⟩
    exact same _ sampleNested sampleDotted nested dotted distinct.1 distinct.2
      (.single (.here [] "black" _ _))
  -- A list is read, but it is no object.
  · obtain ⟨-, failed, -, written⟩ := loadText_run 3 sampleQuiet (Value.array []).compact
    refine failed fun members parsed => ?_
    obtain ⟨spelled, merged, -⟩ := written (.array [])
    rw [merged (spelled.mpr ⟨Value.isText_compact trivial, by decide⟩)] at parsed
    cases parsed

end Bench

end FormatPipeline.Settings
