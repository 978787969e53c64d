import FormatPipeline.Proofs.Json.Merging
import Mathlib.Data.List.Nodup

/-! The leaves of a value: what it holds that is no object, in the order of the text. -/

namespace FormatPipeline.Json

mutual
/-- The values inside a value that are no objects, each with the names on the way to it. -/
def Value.leaves : Value → List (List String × Value)
  | .object members => Value.leavesOf members
  | value => [([], value)]

/-- The leaves of the members one after another, behind their names. -/
def Value.leavesOf : List (String × Value) → List (List String × Value)
  | [] => []
  | (name, value) :: rest =>
    value.leaves.map (fun leaf => (name :: leaf.1, leaf.2)) ++ Value.leavesOf rest
end

/-- Whether a value is an object. -/
def Value.isObject : Value → Bool
  | .object _ => true
  | .null | .bool _ | .number _ | .string _ | .array _ => false

/-- What a value has under names one inside the other. -/
def Value.at? : List String → Value → Option Value
  | [], value => some value
  | name :: path, value => (value.get? name).bind (Value.at? path)

/-- A value that is no object is its only leaf. -/
theorem Value.leaves_of_scalar {value : Value} (scalar : value.isObject = false) :
    value.leaves = [([], value)] := by
  cases value <;> first | rfl | cases scalar

/-- Nothing is found inside a value that is no object. -/
theorem Value.get?_of_scalar {value : Value} (scalar : value.isObject = false) (name : String) :
    value.get? name = none := by
  cases value <;> first | rfl | cases scalar

/-- The only thing inside a value that is no object is the value. -/
theorem Value.mem_leaves_of_scalar {value : Value} (scalar : value.isObject = false) {path : List String}
    {leaf : Value} : (path, leaf) ∈ value.leaves ↔ value.at? path = some leaf ∧ leaf.isObject = false := by
  rw [Value.leaves_of_scalar scalar, List.mem_singleton, Prod.mk.injEq]
  -- The path to the value itself is empty, and no other path leads anywhere.
  cases path with
  | nil =>
    simp only [true_and, Value.at?, Option.some.injEq]
    constructor
    · rintro rfl
      exact ⟨rfl, scalar⟩
    · exact fun ⟨same, _⟩ => same.symm
  | cons name rest => simp [Value.at?, Value.get?_of_scalar scalar]

/-- A leaf of members is a leaf of one of them, behind its name. -/
theorem Value.mem_leavesOf_iff {members : List (String × Value)} {path : List String} {leaf : Value} :
    (path, leaf) ∈ Value.leavesOf members ↔
      ∃ name value rest, (name, value) ∈ members ∧ (rest, leaf) ∈ value.leaves ∧ path = name :: rest := by
  -- The induction is on the members, the first of which adds leaves behind its own name.
  induction members with
  | nil => simp [Value.leavesOf]
  | cons member others ih =>
    obtain ⟨name, value⟩ := member
    rw [Value.leavesOf, List.mem_append, ih]
    constructor
    · rintro (own | ⟨key, inner, rest, listed, there, rfl⟩)
      · obtain ⟨⟨rest, inner⟩, there, same⟩ := List.mem_map.mp own
        cases same
        exact ⟨name, value, rest, .head _, there, rfl⟩
      · exact ⟨key, inner, rest, .tail _ listed, there, rfl⟩
    · rintro ⟨key, inner, rest, listed, there, rfl⟩
      rcases List.mem_cons.mp listed with same | later
      · cases same
        exact .inl (List.mem_map.mpr ⟨(rest, leaf), there, rfl⟩)
      · exact .inr ⟨key, inner, rest, later, there, rfl⟩

mutual
/-- The leaves are all that is found inside a value and is no object. -/
theorem Value.mem_leaves_iff : ∀ value : Value, value.IsDistinct → ∀ {path : List String} {leaf : Value},
    (path, leaf) ∈ value.leaves ↔ value.at? path = some leaf ∧ leaf.isObject = false
  | .object members, distinct, path, leaf => by
    rw [Value.leaves, Value.mem_leavesOf_iff]
    cases path with
    | nil =>
      -- The object itself is no leaf.
      simp only [reduceCtorEq, and_false, exists_const, false_iff, not_and, Value.at?, Option.some.injEq]
      rintro rfl scalar
      cases scalar
    | cons name rest =>
      simp only [Value.at?, Value.get?, Option.bind_eq_some_iff, List.cons.injEq]
      constructor
      · rintro ⟨key, value, _, listed, there, rfl, rfl⟩
        obtain ⟨found, scalar⟩ :=
          (Value.mem_leaves_of_mem members distinct.2 (name, value) listed).mp there
        exact ⟨⟨value, (member?_eq_some_iff distinct.1).mpr listed, found⟩, scalar⟩
      · rintro ⟨⟨value, found, there⟩, scalar⟩
        have listed := (member?_eq_some_iff distinct.1).mp found
        exact ⟨name, value, rest, listed,
          (Value.mem_leaves_of_mem members distinct.2 (name, value) listed).mpr ⟨there, scalar⟩, rfl, rfl⟩
  | .null, _, _, _ | .bool _, _, _, _ | .number _, _, _, _ | .string _, _, _, _ | .array _, _, _, _ =>
    Value.mem_leaves_of_scalar rfl

/-- This holds of the value of every member. -/
theorem Value.mem_leaves_of_mem : ∀ members : List (String × Value), Value.AreDistinctMembers members →
    ∀ member ∈ members, ∀ {path : List String} {leaf : Value},
      (path, leaf) ∈ member.2.leaves ↔ member.2.at? path = some leaf ∧ leaf.isObject = false
  | (_, value) :: rest, distinct, member, listed, _, _ => by
    -- The member is the first one, or it is among the others.
    rcases List.mem_cons.mp listed with rfl | later
    · exact value.mem_leaves_iff distinct.1
    · exact Value.mem_leaves_of_mem rest distinct.2 member later
end

mutual
/-- No two leaves are reached in one way. -/
theorem Value.nodup_leaves : ∀ value : Value, value.IsDistinct → (value.leaves.map (·.1)).Nodup
  | .object members, distinct => Value.nodup_leavesOf members distinct.1 distinct.2
  | .null, _ | .bool _, _ | .number _, _ | .string _, _ | .array _, _ => by
    simp [Value.leaves]

/-- Leaves of members with different names are reached in different ways. -/
theorem Value.nodup_leavesOf : ∀ members : List (String × Value), (members.map (·.1)).Nodup →
    Value.AreDistinctMembers members → ((Value.leavesOf members).map (·.1)).Nodup
  | [], _, _ => List.nodup_nil
  | (name, value) :: rest, names, distinct => by
    obtain ⟨new, others⟩ := List.nodup_cons.mp names
    rw [Value.leavesOf, List.map_append, List.map_map, List.nodup_append]
    refine ⟨?_, Value.nodup_leavesOf rest others distinct.2, ?_⟩
    · have own := value.nodup_leaves distinct.1
      have behind : value.leaves.map ((·.1) ∘ fun leaf => (name :: leaf.1, leaf.2)) =
          (value.leaves.map (·.1)).map (name :: ·) := by simp
      rw [behind]
      exact own.map List.cons_injective
    · -- The names in front differ.
      intro path first other second same
      obtain ⟨leaf, -, rfl⟩ := List.mem_map.mp first
      obtain ⟨later, listed, rfl⟩ := List.mem_map.mp second
      obtain ⟨key, inner, _, there, -, named⟩ := Value.mem_leavesOf_iff.mp listed
      have front := (List.cons.inj (same.trans named)).1
      exact new (front ▸ List.mem_map_of_mem (f := (·.1)) there)
end

mutual
/-- No object inside a leaf has two members of one name. -/
theorem Value.isDistinct_of_mem_leaves : ∀ value : Value, value.IsDistinct →
    ∀ leaf ∈ value.leaves, leaf.2.IsDistinct
  | .object members, distinct, leaf, listed => Value.isDistinct_of_mem_leavesOf members distinct.2 leaf listed
  | .null, distinct, leaf, listed | .bool _, distinct, leaf, listed | .number _, distinct, leaf, listed
  | .string _, distinct, leaf, listed | .array _, distinct, leaf, listed => by
    -- A value that is no object is its only leaf.
    rw [Value.leaves_of_scalar rfl, List.mem_singleton] at listed
    rw [listed]
    exact distinct

/-- This holds of the leaves of members. -/
theorem Value.isDistinct_of_mem_leavesOf : ∀ members : List (String × Value),
    Value.AreDistinctMembers members → ∀ leaf ∈ Value.leavesOf members, leaf.2.IsDistinct
  | (_, value) :: rest, distinct, leaf, listed => by
    -- A leaf belongs to the first member, or to one of the others.
    rcases List.mem_append.mp listed with own | later
    · obtain ⟨inner, there, rfl⟩ := List.mem_map.mp own
      exact value.isDistinct_of_mem_leaves distinct.1 inner there
    · exact Value.isDistinct_of_mem_leavesOf rest distinct.2 leaf later
end

end FormatPipeline.Json
