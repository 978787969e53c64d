/-! Cutting texts at a separator and replacing one text by another. -/

namespace FormatPipeline.Text

/-- The pieces between the separators, which number one more than the separators. -/
def pieces (separator : Char) : List Char → List (List Char)
  | [] => [[]]
  | c :: rest =>
    -- A separator opens a new piece, and any other character joins the piece that follows it.
    if c = separator then [] :: pieces separator rest
    else match pieces separator rest with
      | [] => [[c]]
      | piece :: others => (c :: piece) :: others

/-- The pieces put together again, with the separator between neighbours. -/
def glue (separator : Char) : List (List Char) → List Char
  | [] => []
  | [piece] => piece
  | piece :: others => piece ++ separator :: glue separator others

/-- There is always a first piece. -/
theorem pieces_ne_nil (separator : Char) (cs : List Char) : pieces separator cs ≠ [] := by
  -- Both branches of the recursion produce at least one piece.
  cases cs with
  | nil => simp [pieces]
  | cons c rest =>
    simp only [pieces]
    split
    · simp
    · split <;> simp

/-- Cutting a text and putting its pieces together gives the text back. -/
theorem glue_pieces (separator : Char) (cs : List Char) : glue separator (pieces separator cs) = cs := by
  -- The recursion adds one character in front of whatever the rest was cut into.
  induction cs with
  | nil => simp [pieces, glue]
  | cons c rest ih =>
    simp only [pieces]
    split
    next isSeparator =>
      subst isSeparator
      cases cut : pieces c rest with
      | nil => exact absurd cut (pieces_ne_nil c rest)
      | cons piece others => rw [cut] at ih; simp [glue, ih]
    next =>
      cases cut : pieces separator rest with
      | nil => exact absurd cut (pieces_ne_nil separator rest)
      | cons piece others =>
        rw [cut] at ih
        cases others <;> simp_all [glue]

/-- Whether the needle occurs somewhere in the text. -/
def occursIn (needle : List Char) : List Char → Bool
  | [] => needle.isEmpty
  | c :: rest => needle.isPrefixOf (c :: rest) || occursIn needle rest

/-- Replaces every occurrence, from the left and without overlaps. -/
def replaceFrom (wanted substitute : List Char) (skip : Nat) : List Char → List Char
  | [] => if wanted.isEmpty then substitute else []
  | c :: rest =>
    -- The characters of an occurrence that was replaced are passed over one at a time.
    if 0 < skip then replaceFrom wanted substitute (skip - 1) rest
    else if wanted.isEmpty then substitute ++ c :: replaceFrom wanted substitute 0 rest
    else if wanted.isPrefixOf (c :: rest) then
      substitute ++ replaceFrom wanted substitute (wanted.length - 1) rest
    else c :: replaceFrom wanted substitute 0 rest

/-- The text with every occurrence of `wanted` replaced; an empty `wanted` occurs between all characters. -/
def replaceAll (text wanted substitute : String) : String :=
  .ofList (replaceFrom wanted.toList substitute.toList 0 text.toList)

/-- The texts one after another with the separator between neighbours. -/
def joinWith (separator : String) (texts : List String) : String :=
  separator.intercalate texts

end FormatPipeline.Text
