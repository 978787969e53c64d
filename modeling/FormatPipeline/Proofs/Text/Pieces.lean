import FormatPipeline.Text.Pieces

/-! Cutting a text at a separator undoes putting pieces together, piece by piece. -/

namespace FormatPipeline.Text

/-- A separator between two texts cuts them apart. -/
theorem pieces_append (separator : Char) (first second : List Char) :
    pieces separator (first ++ separator :: second) =
      pieces separator first ++ pieces separator second := by
  -- The recursion goes through the first text, whose last piece ends at the separator.
  induction first with
  | nil => simp [pieces]
  | cons c rest ih =>
    -- A separator begins a new piece on both sides, and any other character joins the first one.
    simp only [List.cons_append, pieces, ih]
    split
    · rfl
    · cases cut : pieces separator rest with
      | nil => exact absurd cut (pieces_ne_nil separator rest)
      | cons piece others => rfl

/-- A text without separators is a single piece. -/
theorem pieces_of_notMem {separator : Char} {cs : List Char} (free : separator ∉ cs) :
    pieces separator cs = [cs] := by
  -- Every character joins the only piece.
  induction cs with
  | nil => rfl
  | cons c rest ih =>
    -- Neither this character nor any behind it is the separator.
    obtain ⟨different, free⟩ := List.ne_and_not_mem_of_not_mem_cons free
    simp [pieces, Ne.symm different, ih free]

/-- No piece holds the separator. -/
theorem notMem_of_mem_pieces {separator : Char} {cs piece : List Char}
    (member : piece ∈ pieces separator cs) : separator ∉ piece := by
  -- A character joins a piece only if it is no separator.
  induction cs generalizing piece with
  | nil => simp_all [pieces]
  | cons c rest ih =>
    simp only [pieces] at member
    -- The separator itself only opens an empty piece, which holds nothing.
    split at member
    · rcases List.mem_cons.mp member with rfl | member
      · simp
      · exact ih member
    next different =>
      -- Otherwise the first piece is one of the rest with a harmless character in front.
      cases cut : pieces separator rest with
      | nil => exact absurd cut (pieces_ne_nil separator rest)
      | cons head others =>
        rw [cut] at member ih
        rcases List.mem_cons.mp member with rfl | member
        · have free := ih List.mem_cons_self
          simp [Ne.symm different, free]
        · exact ih (List.mem_cons_of_mem head member)

/-- Pieces without separators are found again in the text that they are put together to. -/
theorem pieces_glue {separator : Char} {parts : List (List Char)} (some : parts ≠ [])
    (free : ∀ part ∈ parts, separator ∉ part) : pieces separator (glue separator parts) = parts := by
  -- Each separator that was put in cuts off the part in front of it.
  induction parts with
  | nil => exact absurd rfl some
  | cons part others ih =>
    -- A single piece was put together without any separator.
    cases others with
    | nil => simpa [glue] using pieces_of_notMem (free part List.mem_cons_self)
    | cons next rest =>
      have later := ih (by simp) fun part member => free part (List.mem_cons_of_mem _ member)
      rw [glue, pieces_append, pieces_of_notMem (free part List.mem_cons_self), later]
      · rfl
      · simp

end FormatPipeline.Text
