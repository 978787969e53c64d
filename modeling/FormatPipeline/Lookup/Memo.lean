/-! A bounded memory of earlier results. -/

namespace FormatPipeline

/-- Results by key; when the memory is full it starts over before the next result goes in. -/
structure Memo (κ α : Type) where
  entries : List (κ × α)

namespace Memo

variable {κ α : Type}

/-- The most results that are remembered. -/
def capacity : Nat := 1024

/-- Nothing is remembered. -/
def empty : Memo κ α := ⟨[]⟩

/-- The number of results that are remembered. -/
def size (memo : Memo κ α) : Nat := memo.entries.length

/-- The result remembered under the key. -/
def find? [DecidableEq κ] (memo : Memo κ α) (key : κ) : Option α :=
  (memo.entries.find? (·.1 == key)).map (·.2)

/-- Remembers a result under a key that has none yet. -/
def remember (memo : Memo κ α) (key : κ) (result : α) : Memo κ α :=
  -- Nothing is kept of a full memory.
  if capacity ≤ memo.size then ⟨[(key, result)]⟩ else ⟨(key, result) :: memo.entries⟩

/-- However many results come, at most `capacity` are remembered. -/
theorem size_remember_le (memo : Memo κ α) (key : κ) (result : α) :
    (memo.remember key result).size ≤ capacity := by
  -- A full memory starts over, and any other has room for one more.
  unfold remember
  split
  next => simp [size, capacity]
  next room =>
    have smaller : memo.entries.length < capacity := Nat.lt_of_not_le room
    simpa [size] using Nat.succ_le_of_lt smaller

/-- What was remembered last is found. -/
theorem find?_remember [DecidableEq κ] (memo : Memo κ α) (key : κ) (result : α) :
    (memo.remember key result).find? key = some result := by
  -- The entry stands in front in both cases.
  unfold remember
  split <;> simp [find?]

/-- Nothing is found in an empty memory. -/
@[simp] theorem find?_empty [DecidableEq κ] (key : κ) : (empty : Memo κ α).find? key = none := rfl

/-- What is found after remembering a result is that result or was there before. -/
theorem find?_remember_eq_some [DecidableEq κ] {memo : Memo κ α} {key other : κ} {result found : α}
    (present : (memo.remember key result).find? other = some found) :
    (other = key ∧ found = result) ∨ memo.find? other = some found := by
  -- The new entry stands in front of the old ones, or of nothing when the memory started over.
  by_cases same : key = other
  · subst same
    rw [find?_remember] at present
    exact .inl ⟨rfl, (Option.some.inj present).symm⟩
  · right
    unfold remember at present
    split at present
    · simp [find?, same] at present
    · simpa [find?, same] using present

end Memo

end FormatPipeline
