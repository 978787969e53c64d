import FormatPipeline.Lookup.Config
import FormatPipeline.Proofs.Path.Components

/-! Searches find equal paths for equal files, as long as the file system does not see spellings. -/

namespace FormatPipeline

/-- Equal paths get equal answers, however they are spelled. -/
structure FileSystem.IgnoresSpelling (files : FileSystem) : Prop where
  pathExists : ∀ {one other : Path}, one.components = other.components →
    files.pathExists one = files.pathExists other
  isReadable : ∀ {one other : Path}, one.components = other.components →
    files.isReadable one = files.isReadable other
  isExecutable : ∀ {one other : Path}, one.components = other.components →
    files.isExecutable one = files.isExecutable other

/-- Two findings are the same path up to its spelling, or both are nothing. -/
def SameFinding (one other : Option Path) : Prop :=
  one.map Path.components = other.map Path.components

/-- Every finding is the same as itself. -/
@[simp] theorem SameFinding.rfl {found : Option Path} : SameFinding found found := Eq.refl _

/-- The same finding is nothing on one side only if it is nothing on the other. -/
theorem SameFinding.eq_none {one other : Option Path} (same : SameFinding one other) :
    one = none ↔ other = none := by
  -- Taking the components keeps nothing apart from something.
  unfold SameFinding at same
  cases one <;> cases other <;> simp_all

namespace Lookup

variable {files : FileSystem}

/-- Equal directories hold the same of several names. -/
theorem inDirectory_congr (ignores : files.IgnoresSpelling) {one other : Path}
    (equal : one.components = other.components) (names : List String) :
    SameFinding (inDirectory files one names).value (inDirectory files other names).value := by
  -- Each name is asked for in both directories, with the same answer.
  induction names with
  | nil => rfl
  | cons name rest ih =>
    have joined := Path.components_join_congr equal name
    have answer := ignores.isReadable joined
    simp only [inDirectory, Probed.value_bind, Probed.value_ask, answer]
    -- A readable file is found on both sides, and otherwise the next name decides.
    by_cases readable : files.isReadable (other.join name)
    · simpa [readable, SameFinding] using joined
    · simpa [readable] using ih

/-- Equal directories one after another give the same finding. -/
theorem inDirectories_congr (ignores : files.IgnoresSpelling) (names : List String)
    {ones others : List Path} (equal : ones.map Path.components = others.map Path.components) :
    SameFinding (inDirectories files names ones).value (inDirectories files names others).value := by
  -- Neither the finding in a directory nor the end of the repository depends on the spelling.
  induction ones generalizing others with
  | nil => rw [List.map_eq_nil_iff.mp equal.symm]; rfl
  | cons one ones ih =>
    cases others with
    | nil => simp at equal
    | cons other others =>
      simp only [List.map_cons, List.cons.injEq] at equal
      -- Both directories hold the same, and both end a repository or neither does.
      have here := inDirectory_congr ignores equal.1 names
      have marker := ignores.pathExists (Path.components_join_congr equal.1 repositoryMarker)
      simp only [inDirectories, Probed.value_bind]
      cases first : (inDirectory files one names).value with
      | some found =>
        cases second : (inDirectory files other names).value with
        | some also => simpa [first, second] using here
        | none => simp [SameFinding, first, second] at here
      | none =>
        have second := here.eq_none.mp first
        simp only [second, Probed.value_bind, Probed.value_ask, marker]
        by_cases last : files.pathExists (other.join repositoryMarker)
        · -- The end of the repository is the end of the search on both sides.
          simp [last]
        · simpa [last] using ih equal.2

/-- Equal files have the same findings around them. -/
theorem firstAround_congr (ignores : files.IgnoresSpelling) {one other : Path}
    (equal : one.components = other.components) (names : List String) :
    SameFinding (firstAround files one names).value (firstAround files other names).value := by
  have parents := Path.map_components_parent?_congr equal
  unfold firstAround
  -- Without a parent there is nowhere to search, and a parent has an equal counterpart.
  cases first : one.parent? with
  | none =>
    have second : other.parent? = none := by simpa [first] using parents.symm
    simp [second]
  | some directory =>
    obtain ⟨also, second, same⟩ : ∃ also, other.parent? = some also ∧
        also.components = directory.components := by
      simpa [first] using parents.symm
    simp only [second, firstUpward]
    split
    · rfl
    · exact inDirectories_congr ignores names (Path.map_components_ancestors_congr same.symm)

end Lookup

/-- Equal files have the same configuration file. -/
theorem ConfigFinder.search_congr {files : FileSystem} (ignores : files.IgnoresSpelling)
    {one other : Path} (equal : one.components = other.components) (candidates : List String) :
    SameFinding (search files one candidates).value (search files other candidates).value := by
  -- A path stands for itself, and a name is searched for around both files.
  induction candidates with
  | nil => rfl
  | cons entry rest ih =>
    -- A bare name is a search of its own for a list of one name.
    have around := Lookup.firstAround_congr ignores equal [entry]
    unfold search
    split
    · exact .rfl
    · simp only [Probed.value_bind]
      cases first : (Lookup.firstAround files one [entry]).value with
      | some found =>
        cases second : (Lookup.firstAround files other [entry]).value with
        | some also => simpa [first, second] using around
        | none => simp [SameFinding, first, second] at around
      | none => simpa [around.eq_none.mp first] using ih

end FormatPipeline
