import FormatPipeline.Document.Table

/-! Which positions exist in a text: clamping leads to them and leaves them as they are. -/

namespace FormatPipeline

/-- There is always a first line. -/
theorem length_linesOf_pos (text : String) : 0 < (linesOf text).length :=
  List.length_pos_iff.mpr (Text.pieces_ne_nil '\n' text.toList)

namespace Position

/-- A position is in one of the lines of a text, at most behind its last character. -/
structure IsIn (position : Position) (text : String) : Prop where
  row : position.row < (linesOf text).length
  column : position.column ≤ lineWidth ((linesOf text).getD position.row [])

/-- Clamping leads into the text. -/
theorem isIn_clamp (text : String) (position : Position) : (position.clamp text).IsIn text := by
  -- The last line bounds the row, and the line of the bounded row bounds the column.
  have lines := length_linesOf_pos text
  refine ⟨?_, Nat.min_le_right _ _⟩
  have bounded : (position.clamp text).row ≤ (linesOf text).length - 1 := Nat.min_le_right _ _
  omega

/-- Clamping never leads further. -/
theorem clamp_le (text : String) (position : Position) :
    (position.clamp text).row ≤ position.row ∧ (position.clamp text).column ≤ position.column :=
  ⟨Nat.min_le_left _ _, Nat.min_le_left _ _⟩

/-- Clamping leaves a position where it is if it is in the text. -/
theorem IsIn.clamp {position : Position} {text : String} (inside : position.IsIn text) :
    position.clamp text = position := by
  have row : min position.row ((linesOf text).length - 1) = position.row := by
    have := inside.row
    omega
  unfold Position.clamp
  simp only [row, Nat.min_eq_left inside.column]

/-- The positions that clamping leaves where they are are exactly those in the text. -/
theorem clamp_eq_self_iff {position : Position} {text : String} :
    position.clamp text = position ↔ position.IsIn text :=
  ⟨fun same => same ▸ isIn_clamp text position, IsIn.clamp⟩

/-- Clamping twice is clamping once. -/
theorem clamp_clamp (text : String) (position : Position) :
    (position.clamp text).clamp text = position.clamp text :=
  (isIn_clamp text position).clamp

end Position

namespace Document

/-- The cursor of a document is in its text. -/
def IsSighted (document : Document) : Prop := document.cursor.IsIn document.text

/-- A document is opened with its cursor in its text. -/
theorem isSighted_opened (id : Nat) (path : Path) (displayPath : Option String) (text : String)
    (cursor : Position) (inScope : Bool) :
    (opened id path displayPath text cursor inScope).IsSighted := Position.isIn_clamp text cursor

/-- An edit leaves the cursor in the new text, whether it comes with a cursor or not. -/
theorem isSighted_edited (document : Document) (text : String) (cursor : Option Position) :
    (document.edited text cursor).IsSighted := Position.isIn_clamp text _

end Document

namespace DocumentTable

/-- The cursor of every document that was ever opened is in its text. -/
def IsSighted (table : DocumentTable) : Prop := ∀ document ∈ table.documents, document.IsSighted

variable {table : DocumentTable}

/-- A document that is found has its cursor in its text. -/
theorem IsSighted.get? (sighted : table.IsSighted) {handle : Handle} {document : Document}
    (present : table.get? handle = some document) : document.IsSighted :=
  sighted document (List.mem_of_getElem? present)

/-- A document with its cursor in its text can be opened. -/
theorem IsSighted.insert (sighted : table.IsSighted) {document : Document}
    (own : document.IsSighted) : (table.insert document).1.IsSighted := by
  intro other member
  rcases List.mem_append.mp member with earlier | last
  · exact sighted other earlier
  · rwa [List.mem_singleton.mp last]

/-- A document can be changed if the cursor is in its text behind the change. -/
theorem IsSighted.modify (sighted : table.IsSighted) (handle : Handle) {change : Document → Document}
    (kept : ∀ document, document.IsSighted → (change document).IsSighted) :
    (table.modify handle change).IsSighted := by
  intro other member
  obtain ⟨place, found⟩ := List.mem_iff_getElem?.mp member
  simp only [DocumentTable.modify, List.getElem?_modify, Option.map_eq_map,
    Option.map_eq_some_iff] at found
  obtain ⟨earlier, present, rfl⟩ := found
  -- Only the document in the place of the handle changes.
  have before := sighted earlier (List.mem_of_getElem? present)
  split
  · exact kept earlier before
  · exact before

end DocumentTable

end FormatPipeline
