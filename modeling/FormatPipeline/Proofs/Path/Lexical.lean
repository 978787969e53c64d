import FormatPipeline.Proofs.Path.Components

/-! Paths with their double dots resolved, and the names that never lead out of a directory. -/

namespace FormatPipeline.Path

/-! ## Resolving double dots -/

/-- One step further; the place is given by its components, the innermost one first. -/
def walk (place : List Component) : Component → List Component
  | .root => [.root]
  | .current => place
  | .name text => .name text :: place
  | .up =>
    match place with
    | .name _ :: outer => outer
    -- Nothing is above the root.
    | .root :: _ => [.root]
    | outside => .up :: outside

/-- The place that a path leads to, the innermost component first. -/
def place (p : Path) : List Component := p.components.foldl walk []

/-- Whether a path leads to a directory or to something below it, once double dots are resolved. -/
def LiesIn (p directory : Path) : Prop := directory.place <:+ p.place

instance (p directory : Path) : Decidable (p.LiesIn directory) :=
  inferInstanceAs (Decidable (directory.place <:+ p.place))

/-- Every path lies in itself. -/
theorem LiesIn.rfl {p : Path} : p.LiesIn p := List.suffix_rfl

/-- What lies in a directory lies in everything that the directory lies in. -/
theorem LiesIn.trans {p inner outer : Path} (one : p.LiesIn inner) (other : inner.LiesIn outer) :
    p.LiesIn outer := List.IsSuffix.trans other one

/-- Where a path leads does not depend on its spelling. -/
theorem place_congr {one other : Path} (equal : one.components = other.components) :
    one.place = other.place := by
  rw [place, place, equal]

/-! ## Staying inside -/

/-- Whether a way never leads out of where it begins, when it begins so many names inside. -/
def staysFrom (depth : Nat) : List Component → Bool
  | [] => true
  -- A root begins the way anew, from outside.
  | .root :: _ => false
  | .current :: rest => staysFrom depth rest
  | .name _ :: rest => staysFrom (depth + 1) rest
  | .up :: rest =>
    -- At the beginning a way up leads out.
    match depth with
    | 0 => false
    | depth + 1 => staysFrom depth rest

/-- Whether a name is relative, and none of its beginnings has more double dots than names. -/
def staysInside (name : String) : Bool :=
  name.toList.head? != some '/' && staysFrom 0 (namesIn name.toList)

/-- A way that stays inside ends in front of the place where it began. -/
theorem suffix_of_staysFrom {way : List Component} {inside base : List Component}
    (named : ∀ component ∈ inside, ∃ text, component = .name text)
    (stays : staysFrom inside.length way) : base <:+ way.foldl walk (inside ++ base) := by
  -- The induction carries the names that have been entered and not been left again.
  induction way generalizing inside with
  | nil => exact List.suffix_append inside base
  | cons component rest ih =>
    cases component with
    | root => exact absurd stays (by simp [staysFrom])
    | current => exact ih named stays
    | name text =>
      have deeper : ∀ component ∈ Component.name text :: inside, ∃ text, component = .name text := by
        intro component member
        rcases List.mem_cons.mp member with rfl | behind
        · exact ⟨text, rfl⟩
        · exact named component behind
      exact ih deeper stays
    | up =>
      cases inside with
      | nil => exact absurd stays (by simp [staysFrom])
      | cons last others =>
        obtain ⟨text, rfl⟩ := named last List.mem_cons_self
        exact ih (fun component member => named component (List.mem_cons_of_mem _ member)) stays

/-- A way of names alone stays inside. -/
theorem staysFrom_of_names {way : List Component}
    (named : ∀ component ∈ way, ∃ text, component = .name text) (depth : Nat) : staysFrom depth way := by
  induction way generalizing depth with
  | nil => rfl
  | cons component rest ih =>
    obtain ⟨text, rfl⟩ := named component List.mem_cons_self
    exact ih (fun other member => named other (List.mem_cons_of_mem _ member)) (depth + 1)

/-- A name is at no place that a way does not enter. -/
theorem notMem_foldl_walk {way base : List Component} {text : List Char}
    (absent : Component.name text ∉ base) (avoided : Component.name text ∉ way) :
    Component.name text ∉ way.foldl walk base := by
  induction way generalizing base with
  | nil => exact absent
  | cons component rest ih =>
    obtain ⟨other, avoided⟩ := List.ne_and_not_mem_of_not_mem_cons avoided
    refine ih ?_ avoided
    cases component with
    | root => simp [walk]
    | current => exact absent
    | name name => exact fun member => (List.mem_cons.mp member).elim other absent
    | up =>
      -- Going up takes a name away or adds another component.
      simp only [walk]
      split
      · exact fun member => absent (List.mem_cons_of_mem _ member)
      · simp
      · simpa using absent

/-- A way that leads out of a directory of the root never enters it again without naming it. -/
theorem notMem_of_not_staysFrom {way inside : List Component} {text : List Char}
    (named : ∀ component ∈ inside, ∃ text, component = .name text)
    (leaves : staysFrom inside.length way = false) (avoided : Component.name text ∉ way) :
    Component.name text ∉ way.foldl walk (inside ++ [.name text, .root]) := by
  -- Up to the step that leads out, the names that have been entered lie in front of the directory.
  induction way generalizing inside with
  | nil => exact absurd leaves (by simp [staysFrom])
  | cons component rest ih =>
    have later := (List.ne_and_not_mem_of_not_mem_cons avoided).2
    have outside : Component.name text ∉ rest.foldl walk [.root] := notMem_foldl_walk (by simp) later
    cases component with
    | root => exact outside
    | current => exact ih named leaves later
    -- A name leads one directory deeper, so it may be left once more.
    | name name =>
      have deeper : ∀ component ∈ Component.name name :: inside, ∃ text, component = .name text := by
        intro component member
        rcases List.mem_cons.mp member with rfl | behind
        · exact ⟨name, rfl⟩
        · exact named component behind
      exact ih deeper leaves later
    -- A way up leaves the innermost name, or the directory itself when there is none.
    | up =>
      cases inside with
      | nil => exact outside
      | cons last others =>
        obtain ⟨name, rfl⟩ := named last List.mem_cons_self
        exact ih (fun component member => named component (List.mem_cons_of_mem _ member)) leaves later

/-- A path lies in a directory if the way from there stays inside. -/
theorem liesIn_of_staysFrom {p directory : Path} {way : List Component}
    (spelled : p.components = directory.components ++ way) (stays : staysFrom 0 way) :
    p.LiesIn directory := by
  -- Both places are found by folding, and the way is what is folded last.
  unfold LiesIn place
  rw [spelled, List.foldl_append]
  have nothing : ∀ component ∈ ([] : List Component), ∃ text, component = .name text :=
    fun _ member => absurd member List.not_mem_nil
  exact suffix_of_staysFrom nothing stays

/-! ## Names in directories -/

/-- A name that stays inside lies in the directory that it is joined to. -/
theorem liesIn_join {directory : Path} {name : String} (some : directory.components ≠ [])
    (stays : staysInside name) : (directory.join name).LiesIn directory := by
  obtain ⟨relative, stays⟩ : name.toList.head? ≠ Option.some '/' ∧
      staysFrom 0 (namesIn name.toList) = true := by
    simpa [staysInside] using stays
  exact liesIn_of_staysFrom (components_join relative some) stays

/-- A piece of a text is not longer than the text. -/
theorem length_le_of_mem_pieces {separator : Char} {cs piece : List Char}
    (member : piece ∈ Text.pieces separator cs) : piece.length ≤ cs.length := by
  -- The pieces with their separators are the text again, so that no piece can be longer.
  have whole := congrArg List.length (Text.glue_pieces separator cs)
  generalize Text.pieces separator cs = parts at member whole
  rw [← whole]
  clear whole
  -- The induction is on the pieces, the first of which stands in front of the others.
  induction parts with
  | nil => exact absurd member List.not_mem_nil
  | cons first others ih =>
    cases others with
    | nil =>
      obtain rfl := List.mem_singleton.mp member
      exact Nat.le_refl _
    | cons next rest =>
      simp only [Text.glue, List.length_append, List.length_cons]
      rcases List.mem_cons.mp member with rfl | behind
      · omega
      · have shorter := ih behind
        omega

/-- No text names anything that is longer than itself. -/
theorem notMem_namesIn {cs text : List Char} (longer : cs.length < text.length) :
    Component.name text ∉ namesIn cs := by
  intro member
  -- A name comes from a piece, and the text of the piece is the name.
  obtain ⟨piece, isPiece, same⟩ := List.mem_map.mp member
  have short := length_le_of_mem_pieces (List.mem_filter.mp isPiece).1
  unfold Component.ofPiece at same
  split at same
  · simp at same
  · obtain rfl := Component.name.inj same
    omega

/-- No spelling has a component that is longer than itself. -/
theorem notMem_componentsOf {cs text : List Char} (longer : cs.length < text.length) :
    Component.name text ∉ componentsOf cs := by
  -- The names are those of the spelling without its front, which is no longer.
  rcases isPlain_or cs with plain | ⟨rest, rfl⟩ | rfl | ⟨rest, rfl⟩
  · rw [componentsOf_plain plain]
    exact notMem_namesIn longer
  · have shorter : rest.length < text.length := Nat.lt_trans (Nat.lt_succ_self _) longer
    simp [componentsOf_slash, notMem_namesIn shorter]
  · simp [componentsOf, splitAnchor, Component.ofAnchor, Text.pieces, isIdle]
  · have shorter : rest.length < text.length := by
      simp only [List.length_cons] at longer
      omega
    simp [componentsOf_dotSlash, notMem_namesIn shorter]

section

variable {text : List Char} (free : '/' ∉ text) (busy : isIdle text = false) (plain : text ≠ ['.', '.'])

include free

/-- A name without slashes is relative. -/
theorem head?_ne_slash : text.head? ≠ some '/' :=
  fun slash => free (List.mem_of_mem_head? slash)

include busy plain

/-- A name without slashes names itself. -/
theorem namesIn_name : namesIn text = [.name text] := by
  simp [namesIn, Text.pieces_of_notMem free, busy, Component.ofPiece, plain]

/-- A name without slashes stays inside. -/
theorem staysInside_name : staysInside (.ofList text) := by
  simp [staysInside, namesIn_name free busy plain, staysFrom, head?_ne_slash free]

/-- What has a long name in a directory is outside of everything that the directory is outside of. -/
theorem not_liesIn_join_name {directory outer : Path} (some : directory.components ≠ [])
    (longer : outer.text.toList.length < text.length) (outside : ¬ directory.LiesIn outer) :
    ¬ (directory.join (.ofList text)).LiesIn outer := by
  have below : (directory.join (.ofList text)).place = .name text :: directory.place := by
    have relative : (String.ofList text).toList.head? ≠ Option.some '/' := by
      simpa using head?_ne_slash free
    rw [place, components_join relative some, String.toList_ofList, namesIn_name free busy plain,
      List.foldl_append]
    rfl
  intro inside
  rw [LiesIn, below] at inside
  rcases List.suffix_cons_iff.mp inside with itself | further
  · -- The other path would have to have the long name.
    have absent : Component.name text ∉ outer.place :=
      notMem_foldl_walk List.not_mem_nil (notMem_componentsOf longer)
    exact absent (itself ▸ List.mem_cons_self)
  · exact outside further

end

/-- A name that does not stay inside leads out of a directory of the root with a longer name. -/
theorem not_liesIn_join {directory : Path} {name : String} {text : List Char}
    (spelled : directory.components = [.root, .name text]) (longer : name.toList.length < text.length)
    (leaves : staysInside name = false) : ¬ (directory.join name).LiesIn directory := by
  have start : directory.place = [.name text, .root] := by
    simp [place, spelled, walk]
  have avoided := notMem_namesIn longer
  -- The name of the directory would have to be on the way.
  suffices absent : Component.name text ∉ (directory.join name).place by
    intro inside
    -- An absolute name starts again at the root; any other one goes on from the directory.
    rw [LiesIn, start] at inside
    exact absent (inside.subset List.mem_cons_self)
  by_cases relative : name.toList.head? = some '/'
  · obtain ⟨rest, slash⟩ : ∃ rest, name.toList = '/' :: rest := by
      cases chars : name.toList with
      | nil => simp [chars] at relative
      | cons c rest =>
        obtain rfl : c = '/' := by simpa [chars] using relative
        exact ⟨rest, rfl⟩
    have itself : directory.join name = ⟨name⟩ := if_pos relative
    rw [slash] at longer
    have avoided : Component.name text ∉ namesIn rest :=
      notMem_namesIn (Nat.lt_trans (Nat.lt_succ_self _) longer)
    rw [itself, place, components, slash, componentsOf_slash]
    exact notMem_foldl_walk (by simp) (by simp [avoided])
  · have leaves : staysFrom 0 (namesIn name.toList) = false := by
      simpa [staysInside, relative] using leaves
    have nothing : ∀ component ∈ ([] : List Component), ∃ text, component = .name text :=
      fun _ member => absurd member List.not_mem_nil
    have outside := notMem_of_not_staysFrom nothing leaves avoided
    rw [place, components_join relative (by simp [spelled]), List.foldl_append]
    rw [place] at start
    rw [start]
    exact outside

end FormatPipeline.Path
