import FormatPipeline.Path.Basic
import FormatPipeline.Proofs.Text.Pieces

/-! The components of a path decide what is around it and what lies in it, however it is spelled. -/

namespace FormatPipeline.Path

/-- The components that the text behind a leading slash or dot names. -/
def namesIn (cs : List Char) : List Component :=
  -- Idle pieces name nothing.
  ((Text.pieces '/' cs).filter (!isIdle ·)).map Component.ofPiece

/-- A slash in the middle separates the names in front of it from those behind it. -/
theorem namesIn_append (first second : List Char) :
    namesIn (first ++ '/' :: second) = namesIn first ++ namesIn second := by
  simp [namesIn, Text.pieces_append]

/-- Nothing names nothing. -/
@[simp] theorem namesIn_nil : namesIn [] = [] := rfl

/-- A leading slash names the root. -/
theorem componentsOf_slash (cs : List Char) : componentsOf ('/' :: cs) = .root :: namesIn cs := rfl

/-- A dot in front of a slash names the current directory. -/
theorem componentsOf_dotSlash (cs : List Char) :
    componentsOf ('.' :: '/' :: cs) = .current :: namesIn cs := by
  -- The slash stays with the text behind the dot, where it names nothing.
  show .current :: namesIn ([] ++ '/' :: cs) = _
  rw [namesIn_append, namesIn_nil, List.nil_append]

/-- Whether a text begins with neither a slash nor a dot that stands for the current directory. -/
def IsPlain (cs : List Char) : Prop := splitAnchor cs = ([], cs)

/-- A text is plain, or it begins with a slash, or with a dot on its own. -/
theorem isPlain_or (cs : List Char) :
    IsPlain cs ∨ (∃ rest, cs = '/' :: rest) ∨ cs = ['.'] ∨ ∃ rest, cs = '.' :: '/' :: rest := by
  -- These are the cases of the definition.
  unfold IsPlain
  unfold splitAnchor
  split <;> simp_all

/-- All pieces of a plain text are names. -/
theorem componentsOf_plain {cs : List Char} (plain : IsPlain cs) : componentsOf cs = namesIn cs := by
  simp [componentsOf, show splitAnchor cs = ([], cs) from plain, Component.ofAnchor, namesIn]

/-- A text stays plain when something is added behind a slash at its end. -/
theorem IsPlain.append {cs : List Char} (plain : IsPlain cs) (some : cs ≠ []) (rest : List Char) :
    IsPlain (cs ++ '/' :: rest) := by
  -- The first two characters decide, and a dot on its own is not plain.
  rcases cs with _ | ⟨c, _ | ⟨d, others⟩⟩
  · exact absurd rfl some
  · by_cases slash : c = '/'
    · subst slash; simp [IsPlain, splitAnchor] at plain
    · by_cases dot : c = '.'
      · subst dot; simp [IsPlain, splitAnchor] at plain
      · simp [IsPlain, splitAnchor, slash, dot]
  · by_cases slash : c = '/'
    · subst slash; simp [IsPlain, splitAnchor] at plain
    · by_cases dot : c = '.'
      · subst dot
        by_cases second : d = '/'
        · subst second; simp [IsPlain, splitAnchor] at plain
        · simp [IsPlain, splitAnchor, second]
      · simp [IsPlain, splitAnchor, slash, dot]

/-- A name is plain. -/
theorem isPlain_piece {piece : List Char} (free : '/' ∉ piece) (busy : isIdle piece = false) :
    IsPlain piece := by
  -- Both other beginnings of several characters hold a slash, and a dot on its own is idle.
  rcases isPlain_or piece with plain | ⟨rest, rfl⟩ | rfl | ⟨rest, rfl⟩
  · exact plain
  · simp at free
  · simp [isIdle] at busy
  · simp at free

/-- What stands behind a slash adds its names to the components in front of it. -/
theorem componentsOf_append {first : List Char} (some : first ≠ []) (second : List Char) :
    componentsOf (first ++ '/' :: second) = componentsOf first ++ namesIn second := by
  -- The beginning of the first text is the beginning of the whole.
  rcases isPlain_or first with plain | ⟨rest, rfl⟩ | rfl | ⟨rest, rfl⟩
  · rw [componentsOf_plain plain, componentsOf_plain (plain.append some second), namesIn_append]
  · -- The root is there already, and only names follow it.
    simp [componentsOf_slash, namesIn_append]
  · exact componentsOf_dotSlash second
  · simp [componentsOf_dotSlash, namesIn_append]

/-- A plain text that is not empty begins with a name. -/
theorem pieces_of_plain {cs : List Char} (plain : IsPlain cs) (some : cs ≠ []) :
    ∃ first others, Text.pieces '/' cs = first :: others ∧ isIdle first = false := by
  -- What stands in front of the first slash is neither empty nor a dot.
  by_cases slash : '/' ∈ cs
  · -- The first piece ends at the first slash.
    obtain ⟨first, second, rfl, free⟩ := List.eq_append_cons_of_mem slash
    refine ⟨first, Text.pieces '/' second, ?_, ?_⟩
    · rw [Text.pieces_append, Text.pieces_of_notMem free, List.singleton_append]
    · rcases first with _ | ⟨c, _ | ⟨d, others⟩⟩
      · simp [IsPlain, splitAnchor] at plain
      · have noDot : c ≠ '.' := fun dot => by subst dot; simp [IsPlain, splitAnchor] at plain
        simp [isIdle, noDot]
      · simp [isIdle]
  · -- Without a slash the text is its own only piece.
    have noDot : cs ≠ ['.'] := fun dot => by subst dot; simp [IsPlain, splitAnchor] at plain
    exact ⟨cs, [], Text.pieces_of_notMem slash, by simp [isIdle, some, noDot]⟩

/-- Only the empty text has no components. -/
theorem componentsOf_eq_nil {cs : List Char} : componentsOf cs = [] ↔ cs = [] := by
  refine ⟨fun nothing => ?_, fun empty => by subst empty; rfl⟩
  -- Every beginning names something, and a plain text begins with a name.
  rcases isPlain_or cs with plain | ⟨rest, rfl⟩ | rfl | ⟨rest, rfl⟩
  · by_cases empty : cs = []
    · exact empty
    · obtain ⟨first, others, cut, busy⟩ := pieces_of_plain plain empty
      simp [componentsOf_plain plain, namesIn, cut, busy] at nothing
  · simp [componentsOf_slash] at nothing
  · simp [componentsOf, splitAnchor, Component.ofAnchor] at nothing
  · simp [componentsOf_dotSlash] at nothing

/-! ## What lies in a directory -/

/-- A name inside a directory adds its names to the components of the directory. -/
theorem components_join {directory : Path} {name : String} (relative : name.toList.head? ≠ some '/')
    (named : directory.components ≠ []) :
    (directory.join name).components = directory.components ++ namesIn name.toList := by
  -- A slash is put in between unless the directory ends in one already.
  have some : directory.text.toList ≠ [] := fun empty => named (componentsOf_eq_nil.mpr empty)
  have present : directory.text.isEmpty = false := by
    simpa [String.isEmpty_iff] using some
  unfold join components
  rw [if_neg relative]
  split
  next ends =>
    -- The slash at the end of the directory separates the two already.
    have ends : directory.text.toList.getLast? = Option.some '/' := by simpa [present] using ends
    obtain ⟨first, spelled⟩ := List.getLast?_eq_some_iff.mp ends
    rw [String.toList_append, spelled, List.append_assoc, List.singleton_append]
    -- Without anything in front of it, that slash is the root.
    by_cases empty : first = []
    · subst empty
      simp [componentsOf_slash]
    · simp [componentsOf_append empty]
  next =>
    have spelled : (directory.text ++ "/" ++ name).toList =
        directory.text.toList ++ '/' :: name.toList := by simp
    rw [spelled, componentsOf_append some]

/-- Equal directories hold equal paths under equal names. -/
theorem components_join_congr {one other : Path} (equal : one.components = other.components)
    (name : String) : (one.join name).components = (other.join name).components := by
  -- An absolute name stands for itself, and only the empty path has no components.
  by_cases relative : name.toList.head? = some '/'
  · simp [join, relative]
  -- The empty path is joined without a slash, so that its spelling has to be compared.
  by_cases named : one.components = []
  · have first : one.text.toList = [] := componentsOf_eq_nil.mp named
    have second : other.text.toList = [] := componentsOf_eq_nil.mp (equal.symm.trans named)
    have same : one.text = other.text := String.toList_inj.mp (first.trans second.symm)
    simp [join, same]
  · rw [components_join relative named, components_join relative (equal ▸ named), equal]

/-! ## What is around a path -/

/-- The components of everything around a path, whose own components come in reverse order. -/
def outerOf : List Component → List (List Component)
  | [] => []
  -- Nothing is around a root.
  | .root :: _ => []
  | _ :: outer => outer.reverse :: outerOf outer

/-- Whether pieces can follow a leading slash or dot, or stand without one. -/
def Leads (anchor : List Char) (parts : List (List Char)) : Prop :=
  -- A dot is followed by a slash, and without an anchor the first piece is one that counts.
  anchor = ['/'] ∨
    (anchor = ['.'] ∧ ∀ first, parts.head? = some first → first = []) ∨
    (anchor = [] ∧ ∀ first, parts.head? = some first → isIdle first = false)

/-- The first pieces can follow whatever all of them can follow. -/
theorem Leads.take {anchor : List Char} {parts whole : List (List Char)} (leads : Leads anchor whole)
    (beginning : parts <+: whole) : Leads anchor parts := by
  -- The first piece of a beginning is the first piece of the whole.
  have first : ∀ part, parts.head? = some part → whole.head? = some part := by
    obtain ⟨rest, rfl⟩ := beginning
    intro part found
    simp [List.head?_append, found]
  rcases leads with slash | ⟨dot, leads⟩ | ⟨bare, leads⟩
  · exact .inl slash
  · exact .inr (.inl ⟨dot, fun part found => leads part (first part found)⟩)
  · exact .inr (.inr ⟨bare, fun part found => leads part (first part found)⟩)

/-- Pieces put together behind a leading slash or dot name what they name one by one. -/
theorem componentsOf_glue {anchor : List Char} {parts : List (List Char)} (leads : Leads anchor parts)
    (free : ∀ part ∈ parts, '/' ∉ part) :
    componentsOf (anchor ++ Text.glue '/' parts) =
      Component.ofAnchor anchor ++ (parts.filter (!isIdle ·)).map Component.ofPiece := by
  -- The pieces are found again, so only the beginning of the text has to be looked at.
  cases parts with
  | nil => rcases leads with rfl | ⟨rfl, -⟩ | ⟨rfl, -⟩ <;> rfl
  | cons part others =>
    have found : namesIn (Text.glue '/' (part :: others)) =
        ((part :: others).filter (!isIdle ·)).map Component.ofPiece := by
      rw [namesIn, Text.pieces_glue (by simp) free]
    -- The first piece cannot be taken for a slash or a dot that it does not follow.
    rcases leads with rfl | ⟨rfl, leads⟩ | ⟨rfl, leads⟩
    · simp [componentsOf_slash, found, Component.ofAnchor]
    · obtain rfl := leads part rfl
      cases others with
      | nil => rfl
      | cons next rest =>
        rw [← found]
        simp [Text.glue, componentsOf_dotSlash, Component.ofAnchor, namesIn, Text.pieces, isIdle]
    · have busy := leads part rfl
      have plain : IsPlain (Text.glue '/' (part :: others)) := by
        have alone := isPlain_piece (free part List.mem_cons_self) busy
        cases others with
        | nil => exact alone
        | cons next rest => exact alone.append (fun empty => by simp [empty, isIdle] at busy) _
      rw [List.nil_append, componentsOf_plain plain, found]
      rfl

/-- A piece between slashes is never a root. -/
theorem Component.ofPiece_ne_root (piece : List Char) : Component.ofPiece piece ≠ .root := by
  unfold ofPiece
  split <;> simp

/-- Dropping idle pieces at one end loses no names. -/
theorem filter_dropWhile_isIdle (parts : List (List Char)) :
    (parts.dropWhile isIdle).filter (!isIdle ·) = parts.filter (!isIdle ·) := by
  -- What is dropped would not have passed the filter.
  induction parts with
  | nil => rfl
  | cons part rest ih =>
    by_cases idle : isIdle part
    · simp [idle, ih]
    · simp [idle]

/-- The directories around pieces, which come in reverse order, have the components around theirs. -/
theorem map_components_outwardPieces {anchor : List Char} {parts : List (List Char)}
    (leads : Leads anchor parts.reverse) (free : ∀ part ∈ parts, '/' ∉ part) :
    (outwardPieces anchor parts).map components =
      outerOf ((parts.filter (!isIdle ·)).map Component.ofPiece ++
        (Component.ofAnchor anchor).reverse) := by
  -- Each name that is dropped leaves one directory, and idle pieces are passed over.
  induction parts with
  | nil => rcases leads with rfl | ⟨rfl, -⟩ | ⟨rfl, -⟩ <;> rfl
  | cons part outer ih =>
    -- The outer pieces are a beginning of all of them, so that they follow the same anchor.
    rw [List.reverse_cons] at leads
    have around := ih (leads.take (List.prefix_append _ _))
      fun other member => free other (List.mem_cons_of_mem _ member)
    by_cases idle : isIdle part
    · simp [outwardPieces, idle, around]
    · -- A name stops the passing over, and what is left is spelled out of fewer pieces.
      have shorter : (outer.dropWhile isIdle).reverse <+: outer.reverse ++ [part] :=
        (List.reverse_prefix.mpr (List.dropWhile_suffix isIdle)).trans (List.prefix_append _ _)
      have spelled := componentsOf_glue (leads.take shorter) fun other member =>
        free other (List.mem_cons_of_mem _
          ((List.dropWhile_suffix isIdle).mem (List.mem_reverse.mp member)))
      have named := Component.ofPiece_ne_root part
      simp [outwardPieces, idle, around, components, spelled, outerOf, filter_dropWhile_isIdle]

/-- A text that is not empty has a beginning that its pieces can follow. -/
theorem leads_splitAnchor {cs : List Char} (some : cs ≠ []) :
    Leads (splitAnchor cs).1 (Text.pieces '/' (splitAnchor cs).2) := by
  -- A plain text begins with a name, and behind a dot the pieces begin with an empty one.
  rcases isPlain_or cs with plain | ⟨rest, rfl⟩ | rfl | ⟨rest, rfl⟩
  · obtain ⟨first, others, cut, busy⟩ := pieces_of_plain plain some
    rw [show splitAnchor cs = ([], cs) from plain, cut]
    exact .inr (.inr ⟨rfl, by simp [busy]⟩)
  · exact .inl rfl
  · exact .inr (.inl ⟨rfl, by simp [splitAnchor, Text.pieces]⟩)
  · exact .inr (.inl ⟨rfl, by simp [splitAnchor, Text.pieces]⟩)

/-- The directories around a path have the components around its own. -/
theorem map_components_outward (p : Path) :
    p.outward.map components = outerOf p.components.reverse := by
  -- The empty path has nothing around it, and any other one is put together of its pieces.
  by_cases empty : p.text.toList = []
  · simp [outward, components, componentsOf, empty, splitAnchor, Text.pieces, outwardPieces, isIdle,
      Component.ofAnchor, outerOf]
  · have leads : Leads (splitAnchor p.text.toList).1
        (Text.pieces '/' (splitAnchor p.text.toList).2).reverse.reverse := by
      simpa using leads_splitAnchor empty
    have around := map_components_outwardPieces leads
      fun part member => Text.notMem_of_mem_pieces (List.mem_reverse.mp member)
    simpa [outward, components, componentsOf] using around

/-- Equal paths have equal paths around them. -/
theorem map_components_ancestors_congr {one other : Path}
    (equal : one.components = other.components) :
    one.ancestors.map components = other.ancestors.map components := by
  simp [ancestors, map_components_outward, equal]

/-- Equal paths have equal parents, if they have any. -/
theorem map_components_parent?_congr {one other : Path}
    (equal : one.components = other.components) :
    one.parent?.map components = other.parent?.map components := by
  -- The parent is the innermost of the directories around.
  simp only [parent?, ← List.head?_map, map_components_outward, equal]

end FormatPipeline.Path
