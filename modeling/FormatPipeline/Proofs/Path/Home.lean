import FormatPipeline.Path.Basic
import FormatPipeline.Proofs.Path.Around

/-! Entries with a tilde in front: which of them spell a path in the home directory. -/

namespace FormatPipeline.Path

/-- Whether the path lies in the directory, and its further components are the names in the text. -/
def Continues (p directory : Path) (cs : List Char) : Prop :=
  p.startsWith directory ∧ p.components.drop directory.components.length = namesIn cs

instance (p directory : Path) (cs : List Char) : Decidable (p.Continues directory cs) :=
  inferInstanceAs (Decidable (_ ∧ _))

/-- A path continues a directory by what its components add to those of the directory. -/
theorem continues_iff {p directory : Path} {cs : List Char} :
    p.Continues directory cs ↔ p.components = directory.components ++ namesIn cs := by
  -- Starting with the directory means that its components are a prefix.
  simp only [Continues, startsWith, List.isPrefixOf_iff_prefix]
  constructor
  · rintro ⟨⟨added, whole⟩, rest⟩
    rw [← whole, List.drop_left] at rest
    rw [← whole, rest]
  · intro whole
    rw [whole]
    exact ⟨List.prefix_append _ _, List.drop_left⟩

/-- What is joined to a directory continues it by its names, unless it begins with a slash and so
stands for itself. -/
theorem continues_join_iff {directory : Path} (absolute : directory.isAbsolute) (name : String) :
    (directory.join name).Continues directory name.toList ↔
      name.toList.head? ≠ some '/' ∨ directory.components = [.root] := by
  obtain ⟨rest, spelled⟩ := components_of_isAbsolute absolute
  rw [continues_iff]
  by_cases slash : name.toList.head? = some '/'
  · -- The name brings a root of its own, so that nothing else may stand in front of its names.
    obtain ⟨others, chars⟩ := List.head?_eq_some_iff.mp slash
    have itself : directory.join name = ⟨name⟩ := if_pos slash
    have names : namesIn ('/' :: others) = namesIn others := namesIn_append [] others
    rw [itself, components, chars, componentsOf_slash, names, spelled]
    simp
  · have named : directory.components ≠ [] := by simp [spelled]
    simp [components_join slash named, slash]

/-- An entry that is a tilde spells the home directory. -/
theorem expandHome_tilde {entry : String} (alone : (Text.trim entry).toList = ['~']) (home : Path) :
    expandHome home entry = home := by
  unfold expandHome
  dsimp only
  rw [alone]
  rfl

/-- An entry with a tilde in front of a slash spells what is joined to the home directory. -/
theorem expandHome_slash {entry : String} {rest : List Char}
    (tilde : (Text.trim entry).toList = '~' :: '/' :: rest) (home : Path) :
    expandHome home entry = home.join (.ofList rest) := by
  unfold expandHome
  dsimp only
  rw [tilde]
  rfl

/-- Without a home directory every entry stands for itself. -/
theorem expandHome_homeless (entry : String) : expandHome none entry = ⟨Text.trim entry⟩ := by
  unfold expandHome
  rfl

/-- An entry stands for itself if no separator follows a tilde in front of it. -/
theorem expandHome_itself {entry : String}
    (apart : ∀ rest, (Text.trim entry).toList = '~' :: rest →
      rest ≠ [] ∧ rest.head? ≠ some '/' ∧ rest.head? ≠ some '\\') (home : Option Path) :
    expandHome home entry = ⟨Text.trim entry⟩ := by
  unfold expandHome
  dsimp only
  -- Each of the expanded forms has a tilde that is ruled out.
  split
  next alone => exact absurd rfl (apart [] alone).1
  next tilde => exact absurd rfl (apart _ tilde).2.1
  next tilde => exact absurd rfl (apart _ tilde).2.2
  next => rfl

/-- A tilde on its own or in front of a slash stands for the home directory just if no second slash
follows, in any home directory but the root; all other entries without a backslash there, and all
entries without a home directory, stand for themselves. -/
theorem continues_expandHome {home : Path} (absolute : home.isAbsolute) :
    (∀ entry rest, (Text.trim entry).toList = '~' :: rest → rest = [] ∨ rest.head? = some '/' →
      ((expandHome home entry).Continues home rest ↔
        ¬ ['/', '/'] <+: rest ∨ home.components = [.root])) ∧
    (∀ entry, (∀ rest, (Text.trim entry).toList = '~' :: rest →
        rest ≠ [] ∧ rest.head? ≠ some '/' ∧ rest.head? ≠ some '\\') →
      expandHome home entry = ⟨Text.trim entry⟩) ∧
    ∀ entry, expandHome none entry = ⟨Text.trim entry⟩ := by
  refine ⟨fun entry rest tilde opens => ?_, fun entry apart => expandHome_itself apart home,
    expandHome_homeless⟩
  rcases opens with rfl | slash
  · rw [expandHome_tilde tilde, continues_iff]
    simp
  · -- The first slash separates the tilde from what is joined, and names nothing itself.
    obtain ⟨name, rfl⟩ := List.head?_eq_some_iff.mp slash
    have names : namesIn ('/' :: name) = namesIn name := namesIn_append [] name
    have joined := continues_join_iff absolute (.ofList name)
    rw [continues_iff, String.toList_ofList] at joined
    rw [expandHome_slash tilde, continues_iff, names, joined]
    cases name <;> simp [eq_comm]

/-- Blanks, idle pieces and two dots keep no entry from the home directory, and a name does. -/
theorem continues_expandHome_sample :
    Path.isAbsolute ⟨"/home/user"⟩ ∧
      (Text.trim " ~/.config//./x/../a.toml ").toList = '~' :: "/.config//./x/../a.toml".toList ∧
      (expandHome (some ⟨"/home/user"⟩) " ~/.config//./x/../a.toml ").Continues ⟨"/home/user"⟩
        "/.config//./x/../a.toml".toList ∧
      expandHome (some ⟨"/home/user"⟩) "~other/black" = ⟨"~other/black"⟩ := by
  -- The general statement is applied to an entry behind the tilde and to one that only looks so.
  obtain ⟨tilded, others, -⟩ := @continues_expandHome ⟨"/home/user"⟩ (by decide)
  refine ⟨by decide, by decide, (tilded _ _ (by decide) (.inr rfl)).mpr (.inl (by decide)),
    others _ fun rest tilde => ?_⟩
  have name : (Text.trim "~other/black").toList = '~' :: "other/black".toList := by decide
  obtain rfl : "other/black".toList = rest := List.tail_eq_of_cons_eq (name.symm.trans tilde)
  decide

/-- Behind a second slash the home directory is lost. -/
theorem expandHome_doubled :
    Path.isAbsolute ⟨"/home/user"⟩ ∧
      (Text.trim "~//etc/black.toml").toList = '~' :: "//etc/black.toml".toList ∧
      expandHome (some ⟨"/home/user"⟩) "~//etc/black.toml" = ⟨"/etc/black.toml"⟩ ∧
      ¬ (expandHome (some ⟨"/home/user"⟩) "~//etc/black.toml").Continues ⟨"/home/user"⟩
        "//etc/black.toml".toList := by
  decide

end FormatPipeline.Path
