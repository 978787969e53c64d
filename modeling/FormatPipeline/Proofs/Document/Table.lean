import FormatPipeline.Document.Table

/-! Which documents are known by which numbers, and tables that differ in texts only. -/

namespace FormatPipeline

/-- Entries under another key are found no matter which ones are removed. -/
theorem lookup_filter_of_ne {α : Type} (entries : List (Nat × α)) {key other : Nat}
    (different : other ≠ key) :
    (entries.filter (·.1 != key)).lookup other = entries.lookup other := by
  induction entries with
  | nil => rfl
  | cons entry rest ih =>
    obtain ⟨first, value⟩ := entry
    -- Whether or not the first entry is removed, its key is not `other`: the search goes on to the rest.
    by_cases removed : first = key
    · simp [List.lookup_cons, removed, ih, beq_eq_false_iff_ne.mpr different]
    · simp [List.lookup_cons, removed, ih]

/-- Entries under a key are not found when they are removed. -/
theorem lookup_filter_self {α : Type} (entries : List (Nat × α)) (key : Nat) :
    (entries.filter (·.1 != key)).lookup key = none := by
  refine List.lookup_eq_none_iff.mpr fun entry member => ?_
  have kept : entry.1 ≠ key := by simpa using (List.mem_filter.mp member).2
  exact bne_iff_ne.mpr kept.symm

/-- A document without what is written in it. -/
def Document.blank (document : Document) : Document := { document with text := "", cursor := ⟨0, 0⟩ }

/-- Documents that differ in what is written in them only have all else in common. -/
theorem Document.blank_eq_iff {one other : Document} :
    one.blank = other.blank ↔ one.id = other.id ∧ one.path = other.path ∧
      one.displayPath = other.displayPath ∧ one.inScope = other.inScope := by
  simp [blank]

namespace DocumentTable

/-! ## Numbers and handles -/

/-- A document that is opened is known by its number, and others are known as before. -/
theorem handle?_insert (table : DocumentTable) (document : Document) (id : Nat) :
    (table.insert document).1.handle? id =
      if id = document.id then some table.documents.length else table.handle? id := by
  simp only [insert, add, handle?, List.lookup_cons]
  by_cases same : id = document.id
  · simp [same]
  · simp [same, beq_eq_false_iff_ne.mpr same, lookup_filter_of_ne]

/-- A document that is closed is not known any more, and others are known as before. -/
theorem handle?_close (table : DocumentTable) (id other : Nat) :
    (table.close id).handle? other = if other = id then none else table.handle? other := by
  by_cases same : other = id
  · simp [close, handle?, same, lookup_filter_self]
  · simp [close, handle?, same, lookup_filter_of_ne]

/-- A document that is opened comes behind all that were ever opened. -/
theorem get?_insert (table : DocumentTable) (document : Document) (handle : Handle) :
    (table.insert document).1.get? handle =
      if handle = table.documents.length then some document else table.get? handle := by
  simp only [insert, add, get?, List.getElem?_append]
  -- Behind the new document there is none.
  split
  next inside => simp [Nat.ne_of_lt inside]
  next outside =>
    by_cases last : handle = table.documents.length
    · simp [last]
    · have beyond := Nat.lt_of_le_of_ne (Nat.le_of_not_lt outside) (Ne.symm last)
      simp [last, Nat.le_of_lt beyond, Nat.sub_ne_zero_of_lt beyond]

/-- A document that is there has its place among all that were ever opened. -/
theorem ne_length_of_get? {table : DocumentTable} {handle : Handle} {document : Document}
    (present : table.get? handle = some document) : handle ≠ table.documents.length :=
  Nat.ne_of_lt (List.getElem?_eq_some_iff.mp present).1

/-- Only the document of the handle is changed. -/
theorem get?_modify (table : DocumentTable) (handle other : Handle) (change : Document → Document) :
    (table.modify handle change).get? other =
      (table.get? other).map fun document => if other = handle then change document else document := by
  simp only [modify, get?, List.getElem?_modify]
  by_cases same : handle = other
  · simp [same]
  · simp [same, Ne.symm same]

/-- A document is made active if it is open, and nothing else changes. -/
theorem activate?_eq_some {table later : DocumentTable} {id : Option Nat}
    (activated : table.activate? id = some later) : later = { table with activeId := id } := by
  cases id with
  | none => exact (Option.some.inj activated).symm
  | some id =>
    simp only [activate?, Option.ite_none_right_eq_some, Option.some.injEq] at activated
    exact activated.2.symm

/-! ## Sound tables -/

/-- Whoever is known by a number is there and has that number. -/
def Sound (table : DocumentTable) : Prop :=
  ∀ id handle, table.handle? id = some handle →
    ∃ document, table.get? handle = some document ∧ document.id = id

namespace Sound

variable {table : DocumentTable}

/-- A document that is active is there. -/
theorem isSome_get? (sound : table.Sound) {handle : Handle} (active : table.active? = some handle) :
    (table.get? handle).isSome := by
  obtain ⟨id, -, known⟩ := Option.bind_eq_some_iff.mp active
  obtain ⟨document, present, -⟩ := sound id handle known
  simp [present]

/-- Opening a document leaves the table sound. -/
theorem insert (sound : table.Sound) (document : Document) : (table.insert document).1.Sound := by
  intro id handle known
  rw [handle?_insert] at known
  -- Either the new document is meant, or one that was known before.
  split at known
  next same =>
    cases known
    exact ⟨document, by simp [get?_insert], same.symm⟩
  next =>
    obtain ⟨other, present, named⟩ := sound id handle known
    exact ⟨other, by simp [get?_insert, ne_length_of_get? present, present], named⟩

/-- Closing a document leaves the table sound. -/
theorem close (sound : table.Sound) (id : Nat) : (table.close id).Sound := by
  intro other handle known
  rw [handle?_close] at known
  split at known
  · cases known
  · exact sound other handle known

/-- Changing a document but not its number leaves the table sound. -/
theorem modify (sound : table.Sound) (handle : Handle) {change : Document → Document}
    (same : ∀ document, (change document).id = document.id) : (table.modify handle change).Sound := by
  intro id other known
  obtain ⟨document, present, named⟩ := sound id other known
  refine ⟨_, by rw [get?_modify, present]; rfl, ?_⟩
  split
  · exact (same document).trans named
  · exact named

end Sound

/-! ## Tables without texts -/

/-- The documents without what is written in them. -/
def blank (table : DocumentTable) : DocumentTable :=
  { table with documents := table.documents.map Document.blank }

/-- A document is found as it is without its text. -/
theorem get?_blank (table : DocumentTable) (handle : Handle) :
    table.blank.get? handle = (table.get? handle).map Document.blank := by
  simp [get?, blank]

/-- Tables that differ in texts only do so after the same change, if it does not read texts. -/
theorem blank_modify_congr {table other : DocumentTable} (same : other.blank = table.blank)
    (handle : Handle) {change changed : Document → Document}
    (alike : ∀ one another, one.blank = another.blank → (change one).blank = (changed another).blank) :
    (other.modify handle change).blank = (table.modify handle changed).blank := by
  obtain ⟨documents, handles, activeId⟩ := table
  obtain ⟨others, handles, activeId⟩ := other
  simp only [blank, mk.injEq] at same
  obtain ⟨same, rfl, rfl⟩ := same
  -- Place by place, documents with the same changes are as blank as each other.
  refine congrArg (mk · _ _) (List.ext_getElem? fun place => ?_)
  have found := congrArg (·[place]?) same
  simp only [List.getElem?_map] at found
  simp only [modify, List.getElem?_map, List.getElem?_modify]
  by_cases here : handle = place
  · cases one : others[place]? with
    | none =>
      rw [one, Option.map_none, eq_comm, Option.map_eq_none_iff] at found
      simp [found]
    | some document =>
      rw [one, Option.map_some, eq_comm, Option.map_eq_some_iff] at found
      obtain ⟨written, another, differs⟩ := found
      simpa [another, here] using alike document written differs.symm
  · simpa [here] using found

/-- Tables that differ in texts only do so after the same document is opened. -/
theorem blank_insert {table other : DocumentTable} (same : other.blank = table.blank)
    (document : Document) : (other.insert document).1.blank = (table.insert document).1.blank := by
  obtain ⟨documents, handles, activeId⟩ := table
  obtain ⟨others, handles, activeId⟩ := other
  simp only [blank, mk.injEq] at same
  obtain ⟨same, rfl, rfl⟩ := same
  -- There are as many documents in both tables, so that the new one gets the same handle.
  have length : others.length = documents.length := by simpa using congrArg List.length same
  simp [insert, add, blank, same, length]

/-- What is written in a document changes nothing else. -/
theorem blank_modify (table : DocumentTable) (handle : Handle) {change : Document → Document}
    (same : ∀ document, (change document).blank = document.blank) :
    (table.modify handle change).blank = table.blank := by
  have unchanged : (table.modify handle change).blank = (table.modify handle id).blank :=
    blank_modify_congr rfl handle fun one _ alike => (same one).trans alike
  rw [unchanged]
  exact congrArg (mk · _ _) (congrArg _ (List.modify_id _ _))

/-- A document is in every table that differs in texts only, up to what is written in it. -/
theorem get?_of_blank {table other : DocumentTable} (same : other.blank = table.blank)
    {handle : Handle} {document : Document} (present : table.get? handle = some document) :
    ∃ written, other.get? handle = some written ∧ written.blank = document.blank := by
  have found := congrArg (get? · handle) same
  simpa only [get?_blank, present, Option.map_some, Option.map_eq_some_iff] using found

/-- Whether a document is there does not depend on texts. -/
theorem isSome_get?_of_blank {table other : DocumentTable} (same : other.blank = table.blank)
    (handle : Handle) : (other.get? handle).isSome = (table.get? handle).isSome := by
  have found := congrArg (fun table => (get? table handle).isSome) same
  simpa [get?_blank] using found

/-- Whether a table is sound does not depend on texts. -/
theorem Sound.of_blank {table other : DocumentTable} (sound : table.Sound)
    (same : other.blank = table.blank) : other.Sound := by
  intro id handle known
  have handles : other.handle? id = table.handle? id := congrArg (·.handle? id) same
  obtain ⟨document, present, rfl⟩ := sound id handle (handles ▸ known)
  obtain ⟨written, there, differs⟩ := get?_of_blank same present
  exact ⟨written, there, (Document.blank_eq_iff.mp differs).1⟩

end DocumentTable

end FormatPipeline
