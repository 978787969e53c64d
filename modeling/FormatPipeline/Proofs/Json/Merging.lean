import FormatPipeline.Json.Reader
import FormatPipeline.Proofs.Settings.Store

/-! Values whose objects have one member per name: merging makes them, and leaves them as they are. -/

namespace FormatPipeline.Json

mutual
/-- Whether no object in a value has two members of one name. -/
def Value.IsDistinct : Value → Prop
  | .array items => Value.AreDistinct items
  | .object members => (members.map (·.1)).Nodup ∧ Value.AreDistinctMembers members
  -- No other value holds objects.
  | _ => True

/-- Whether this holds of all items. -/
def Value.AreDistinct : List Value → Prop
  | [] => True
  | item :: rest => item.IsDistinct ∧ Value.AreDistinct rest

/-- Whether this holds of the values of all members. -/
def Value.AreDistinctMembers : List (String × Value) → Prop
  | [] => True
  | (_, value) :: rest => value.IsDistinct ∧ Value.AreDistinctMembers rest
end

/-- Under a name that is not there a value is put at the end. -/
theorem putMember_of_not_mem {α : Type} {name : String} {members : List (String × α)}
    (new : name ∉ members.map (·.1)) (value : α) :
    putMember name value members = members ++ [(name, value)] := by
  -- The induction is on the members, none of which has the name.
  induction members with
  | nil => rfl
  | cons entry rest ih =>
    obtain ⟨key, old⟩ := entry
    simp only [List.map_cons, List.mem_cons, not_or] at new
    rw [putMember, if_neg (Ne.symm new.1), ih new.2, List.cons_append]

/-- Putting a value leaves the names there are, and adds its own. -/
theorem mem_names_putMember {α : Type} {name other : String} {value : α} {members : List (String × α)} :
    other ∈ (putMember name value members).map (·.1) ↔ other = name ∨ other ∈ members.map (·.1) := by
  -- The value replaces that of an equal name, or it comes last.
  induction members with
  | nil => simp [putMember]
  | cons entry rest ih =>
    obtain ⟨key, old⟩ := entry
    rw [putMember]
    split
    next same => simp [same]
    next => simp only [List.map_cons, List.mem_cons, ih, or_left_comm]

/-- Putting a value makes no name come twice. -/
theorem nodup_putMember {α : Type} {members : List (String × α)} (distinct : (members.map (·.1)).Nodup)
    (name : String) (value : α) : ((putMember name value members).map (·.1)).Nodup := by
  -- A replaced value keeps its name, and a new name differs from the others.
  induction members with
  | nil => simp [putMember]
  | cons entry rest ih =>
    obtain ⟨key, old⟩ := entry
    obtain ⟨new, others⟩ := List.nodup_cons.mp distinct
    rw [putMember]
    split
    next => exact List.nodup_cons.mpr ⟨new, others⟩
    -- In the rest only the new name could come twice.
    next different =>
      refine List.nodup_cons.mpr ⟨fun member => ?_, ih others⟩
      rcases mem_names_putMember.mp member with same | listed
      · exact different same
      · exact new listed

/-- Where every value is distinct, one more may be put. -/
theorem Value.areDistinctMembers_putMember {name : String} {value : Value} {members : List (String × Value)}
    (one : value.IsDistinct) (others : Value.AreDistinctMembers members) :
    Value.AreDistinctMembers (putMember name value members) := by
  -- The value takes the place of another, or it comes last.
  induction members with
  | nil => exact ⟨one, trivial⟩
  | cons entry rest ih =>
    obtain ⟨key, old⟩ := entry
    rw [putMember]
    split
    · exact ⟨one, others.2⟩
    · exact ⟨others.1, ih others.2⟩

mutual
/-- A merged value has no object with two members of one name. -/
theorem Value.isDistinct_merge : ∀ value : Value, value.merge.IsDistinct
  | .null | .bool _ | .number _ | .string _ => trivial
  | .array items => Value.areDistinct_mergeItems items
  | .object members => Value.isDistinct_mergeMembers members List.nodup_nil trivial

/-- Merged items have none either. -/
theorem Value.areDistinct_mergeItems : ∀ items : List Value, Value.AreDistinct (Value.mergeItems items)
  | [] => trivial
  | item :: rest => ⟨item.isDistinct_merge, Value.areDistinct_mergeItems rest⟩

/-- Merged members are added to an object without such members, and it stays one. -/
theorem Value.isDistinct_mergeMembers : ∀ (members : List (String × Value)) {merged : List (String × Value)},
    (merged.map (·.1)).Nodup → Value.AreDistinctMembers merged →
    (Value.object (Value.mergeMembers members merged)).IsDistinct
  | [], _, names, values => ⟨names, values⟩
  | (name, value) :: rest, _, names, values =>
    Value.isDistinct_mergeMembers rest (nodup_putMember names name _)
      (Value.areDistinctMembers_putMember value.isDistinct_merge values)
end

/-- Whatever is parsed was merged. -/
theorem isDistinct_of_parse {text : String} {value : Value} (parsed : parse text = .ok value) :
    value.IsDistinct := by
  -- The parser reads a raw value and merges it before it gives it out.
  unfold parse at parsed
  cases read : readText depthLimit text with
  | error fault =>
    rw [read] at parsed
    cases parsed
  | ok raw =>
    rw [read] at parsed
    cases parsed
    exact raw.isDistinct_merge

mutual
/-- Merging changes nothing where no object has two members of one name. -/
theorem Value.merge_of_isDistinct : ∀ value : Value, value.IsDistinct → value.merge = value
  | .null, _ | .bool _, _ | .number _, _ | .string _, _ => rfl
  | .array items, distinct => congrArg Value.array (Value.mergeItems_of_areDistinct items distinct)
  | .object members, distinct =>
    congrArg Value.object (Value.mergeMembers_of_areDistinct members distinct.2 distinct.1)

/-- Merging changes no items of which this holds. -/
theorem Value.mergeItems_of_areDistinct : ∀ items : List Value, Value.AreDistinct items →
    Value.mergeItems items = items
  | [], _ => rfl
  | item :: rest, distinct => by
    rw [Value.mergeItems, item.merge_of_isDistinct distinct.1, Value.mergeItems_of_areDistinct rest distinct.2]

/-- Members with other names than those already there are added as they are. -/
theorem Value.mergeMembers_of_areDistinct : ∀ (members : List (String × Value))
    {merged : List (String × Value)}, Value.AreDistinctMembers members →
    ((merged ++ members).map (·.1)).Nodup → Value.mergeMembers members merged = merged ++ members
  | [], _, _, _ => (List.append_nil _).symm
  | (name, value) :: rest, merged, distinct, names => by
    -- What was merged before has other names, so that nothing is replaced.
    have new : name ∉ merged.map (·.1) := by
      simp only [List.map_append, List.map_cons, List.nodup_append, List.mem_cons] at names
      exact fun listed => names.2.2 name listed name (.inl rfl) rfl
    have added : merged ++ [(name, value)] ++ rest = merged ++ (name, value) :: rest := by simp
    rw [Value.mergeMembers, value.merge_of_isDistinct distinct.1, putMember_of_not_mem new,
      Value.mergeMembers_of_areDistinct rest distinct.2 (by rwa [added]), added]
end

/-- The only member of a name is found under it. -/
theorem member?_eq_some_iff {name : String} {value : Value} {members : List (String × Value)}
    (distinct : (members.map (·.1)).Nodup) :
    Value.member? name members = some value ↔ (name, value) ∈ members := by
  -- The search stops at the first member of the name, which is the only one.
  induction members with
  | nil => simp [Value.member?]
  | cons entry rest ih =>
    obtain ⟨key, first⟩ := entry
    obtain ⟨new, others⟩ := List.nodup_cons.mp distinct
    rw [Value.member?]
    split
    next same =>
      subst same
      have once : (key, value) ∉ rest := fun listed => new (List.mem_map_of_mem (f := (·.1)) listed)
      simp [once, eq_comm]
    next different => simp [ih others, Ne.symm different]

mutual
/-- Every value is equal to itself, in which each member finds only itself. -/
theorem Value.equal_self : ∀ value : Value, value.IsDistinct → value.equal value
  | .null, _ => rfl
  | .bool value, _ => beq_self_eq_true value
  | .number (.integer value), _ => beq_self_eq_true value
  | .number (.float value), _ => by simp [Value.equal, Number.equal, Binary64.equal]
  | .string text, _ => beq_self_eq_true text
  | .array items, distinct => Value.equalItems_self items distinct
  -- In an object each member looks for itself under its own name.
  | .object members, distinct => by
    have found : ∀ member ∈ members, Value.member? member.1 members = some member.2 :=
      fun member listed => (member?_eq_some_iff distinct.1).mpr listed
    simp [Value.equal, Value.equalMembers_of_member? members distinct.2 found]

/-- Every list of such values is equal to itself. -/
theorem Value.equalItems_self : ∀ items : List Value, Value.AreDistinct items →
    Value.equalItems items items
  | [], _ => rfl
  | item :: rest, distinct => by
    simp [Value.equalItems, item.equal_self distinct.1, Value.equalItems_self rest distinct.2]

/-- Members are equal to those of an object in which they are found. -/
theorem Value.equalMembers_of_member? : ∀ (members : List (String × Value)) {all : List (String × Value)},
    Value.AreDistinctMembers members →
    (∀ member ∈ members, Value.member? member.1 all = some member.2) → Value.equalMembers members all
  | [], _, _, _ => rfl
  | (name, value) :: rest, _, distinct, found => by
    -- The first member is found with its own value, and so are the others.
    have here := found (name, value) (.head _)
    have others := Value.equalMembers_of_member? rest distinct.2 fun member listed =>
      found member (.tail _ listed)
    simp [Value.equalMembers, here, value.equal_self distinct.1, others]
end

end FormatPipeline.Json
