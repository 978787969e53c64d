import FormatPipeline.Proofs.Path.Components

/-! The directories around a file: each begins the more inner ones, and all those of an absolute path
are absolute. -/

namespace FormatPipeline.Path

/-- The directories around the one that holds a file, from the inside to the outside. -/
def around (file : Path) : List Path := (file.parent?.map ancestors).getD []

/-! ## Absolute paths -/

/-- An absolute path begins with the root, and what follows is no root and no current directory. -/
theorem components_of_isAbsolute {p : Path} (absolute : p.isAbsolute) :
    ∃ rest, p.components = .root :: namesIn rest := by
  unfold isAbsolute at absolute
  unfold components
  cases chars : p.text.toList with
  -- The empty text is no absolute path.
  | nil => simp [chars] at absolute
  | cons c rest =>
    obtain rfl : c = '/' := by simpa [chars] using absolute
    exact ⟨rest, rfl⟩

/-- Between slashes there are only names and double dots. -/
theorem isName_or_up_of_mem {component : Component} {cs : List Char} (member : component ∈ namesIn cs) :
    (∃ text, component = .name text) ∨ component = .up := by
  obtain ⟨piece, -, rfl⟩ := List.mem_map.mp member
  unfold Component.ofPiece
  split
  · exact .inr rfl
  · exact .inl ⟨piece, rfl⟩

/-- The absolute paths are those whose components begin with the root. -/
theorem isAbsolute_iff_head? {p : Path} : p.isAbsolute ↔ p.components.head? = some .root := by
  constructor
  · intro absolute
    obtain ⟨rest, spelled⟩ := components_of_isAbsolute absolute
    simp [spelled]
  · intro rooted
    unfold components at rooted
    -- No other beginning of a text names the root.
    rcases isPlain_or p.text.toList with plain | ⟨rest, slash⟩ | dot | ⟨rest, dotSlash⟩
    · rw [componentsOf_plain plain] at rooted
      rcases isName_or_up_of_mem (List.mem_of_mem_head? rooted) with ⟨text, name⟩ | up
      · cases name
      · cases up
    · simp [isAbsolute, slash]
    · rw [dot] at rooted
      exact absurd rooted (by decide)
    · simp [dotSlash, componentsOf_dotSlash] at rooted

/-- What is joined to an absolute path is absolute. -/
theorem isAbsolute_join {directory : Path} (absolute : directory.isAbsolute) (name : String) :
    (directory.join name).isAbsolute := by
  have first : directory.text.toList.head? = some '/' := by simpa [isAbsolute] using absolute
  unfold join
  split
  next slash => simpa [isAbsolute] using slash
  next => split <;> simp [isAbsolute, List.head?_append, first]

/-- Around components other than the root there are those without the last one. -/
theorem outerOf_cons {component : Component} (inner : component ≠ .root) (outer : List Component) :
    outerOf (component :: outer) = outer.reverse :: outerOf outer := by
  cases component <;> first | rfl | exact absurd rfl inner

/-- What is around components that begin with the root begins with it as well. -/
theorem head?_of_mem_outerOf {reversed outer : List Component}
    (rooted : reversed.reverse.head? = some .root) (member : outer ∈ outerOf reversed) :
    outer.head? = some .root := by
  induction reversed with
  | nil => exact absurd member List.not_mem_nil
  | cons component others ih =>
    by_cases root : component = .root
    · subst root
      exact absurd member List.not_mem_nil
    · -- The last of several components is not the root, so that the root is among the others.
      have deeper : others.reverse.head? = some .root := by
        rw [List.reverse_cons, List.head?_append] at rooted
        cases first : others.reverse.head? with
        | none => simp [first, root] at rooted
        | some head => simpa [first] using rooted
      rw [outerOf_cons root] at member
      rcases List.mem_cons.mp member with rfl | behind
      · exact deeper
      · exact ih deeper behind

/-- The directories around an absolute path are absolute. -/
theorem head?_components_of_mem_outward {p directory : Path} (rooted : p.components.head? = some .root)
    (member : directory ∈ p.outward) : directory.components.head? = some .root := by
  have outside : directory.components ∈ outerOf p.components.reverse := by
    rw [← map_components_outward]
    exact List.mem_map_of_mem member
  exact head?_of_mem_outerOf (by simpa using rooted) outside

/-- So are the directories around the one that holds a file. -/
theorem head?_components_of_mem_around {file directory : Path} (absolute : file.isAbsolute)
    (member : directory ∈ file.around) : directory.components.head? = some .root := by
  obtain ⟨rest, spelled⟩ := components_of_isAbsolute absolute
  have rooted : file.components.head? = some .root := by rw [spelled]; rfl
  unfold around at member
  cases found : file.parent? with
  | none => simp [found] at member
  | some parent =>
    -- Directories outside a rooted one are rooted, so it is enough that the file is.
    have parentRooted := head?_components_of_mem_outward rooted (List.mem_of_mem_head? found)
    simp only [found, Option.map_some, Option.getD_some, ancestors] at member
    rcases List.mem_cons.mp member with rfl | outside
    · exact parentRooted
    · exact head?_components_of_mem_outward parentRooted outside

/-! ## Directories in each other -/

/-- The components of everything around a path begin its own, and each the more inner ones. -/
theorem pairwise_outerOf (reversed : List Component) :
    (reversed.reverse :: outerOf reversed).Pairwise fun inner outer => outer <+: inner := by
  induction reversed with
  | nil => simp [outerOf]
  | cons component outer ih =>
    by_cases root : component = .root
    · subst root
      simp [outerOf]
    · rw [outerOf_cons root, List.reverse_cons, List.pairwise_cons]
      refine ⟨fun outside member => ?_, ih⟩
      -- What begins the outer components begins them with a further one behind.
      have begins : outside <+: outer.reverse := by
        rcases List.mem_cons.mp member with rfl | behind
        · exact List.prefix_rfl
        · exact List.rel_of_pairwise_cons ih behind
      exact begins.trans (List.prefix_append _ _)

/-- Each directory around a file begins the file, and the more inner directories. -/
theorem pairwise_around (file : Path) :
    (file.components :: (around file).map components).Pairwise fun inner outer => outer <+: inner := by
  unfold around
  cases found : file.parent? with
  | none => simp
  | some parent =>
    have outside := pairwise_outerOf file.components.reverse
    have further := pairwise_outerOf parent.components.reverse
    rw [List.reverse_reverse] at outside further
    have begins : parent.components <+: file.components := by
      refine List.rel_of_pairwise_cons outside ?_
      -- Both lists are outer directories of one path, so only the step from the file to its parent is new.
      rw [← map_components_outward]
      exact List.mem_map_of_mem (List.mem_of_mem_head? found)
    simp only [Option.map_some, Option.getD_some, ancestors, List.map_cons, map_components_outward]
    refine List.pairwise_cons.mpr ⟨fun other member => ?_, further⟩
    rcases List.mem_cons.mp member with rfl | behind
    · exact begins
    · exact (List.rel_of_pairwise_cons further behind).trans begins

end FormatPipeline.Path
