import FormatPipeline.Proofs.Formatter.Answers
import FormatPipeline.Proofs.Lookup.Choice
import FormatPipeline.Proofs.Workspace.Applied

/-! What is run for a file, said by the settings and the files and not by how it is looked for. -/

namespace FormatPipeline

/-- What a configuration file adds to the arguments: the flag and the path, unless that is empty. -/
inductive Profile.Mentions (profile : Profile) : Option Path → List String → Prop
  | nothing : Mentions profile none []
  | empty {path : Path} : path.text = "" → Mentions profile (some path) []
  | flag {path : Path} : path.text ≠ "" →
    Mentions profile (some path) [profile.configFlag, Shell.quoteIfNeeded path]

/-- What a formatter is told to format: its input, or the file itself. -/
def Mode.target (file : Path) : Mode → String
  | .buffer => "-"
  | .file => Shell.quote file

/-- What a formatter is to run for a file, and with which configuration file. -/
inductive Formatter.Picks (formatter : Formatter) (files : FileSystem) (file : Path) (mode : Mode) :
    Option (Invocation × Option Path) → Prop
  /-- A binary in the repository comes with the settings for repositories. -/
  | inRepository {binary : Path} {config : Option Path} {mention : List String} :
    files.Chooses (files.searched file) formatter.binaries.localBins binary →
    files.ChoosesConfig (files.searched file) formatter.localConfigs.candidates config →
    formatter.profile.Mentions config mention →
    Picks formatter files file mode (some (⟨binary, .inRepository, formatter.localArguments ++
      (formatter.profile.arguments mode ++ mention ++ [mode.target file])⟩, config))
  /-- Otherwise the binary of the user comes with the other settings. -/
  | anywhere {binary : Path} {config : Option Path} {mention : List String} :
    files.Lacks (files.searched file) formatter.binaries.localBins →
    formatter.binaries.globalBin = some binary →
    files.ChoosesConfig (files.searched file) formatter.globalConfigs.candidates config →
    formatter.profile.Mentions config mention →
    Picks formatter files file mode (some (⟨binary, .anywhere, formatter.globalArguments ++
      (formatter.profile.arguments mode ++ mention ++ [mode.target file])⟩, config))
  | nothing : files.Lacks (files.searched file) formatter.binaries.localBins →
    formatter.binaries.globalBin = none → Picks formatter files file mode none

/-- Every configuration file is mentioned in some way. -/
theorem Profile.exists_mentions (profile : Profile) (config : Option Path) :
    ∃ mention, profile.Mentions config mention := by
  cases config with
  | none => exact ⟨[], .nothing⟩
  | some path =>
    -- The empty path is mentioned by nothing, although there is a file.
    by_cases empty : path.text = ""
    · exact ⟨[], .empty empty⟩
    · exact ⟨_, .flag empty⟩

/-- The arguments are those of the mode, the mention of the configuration file, and the target. -/
theorem Profile.argumentsFor_of_mentions {profile : Profile} {config : Option Path}
    {mention : List String} (mentions : profile.Mentions config mention) (file : Path) (mode : Mode) :
    profile.argumentsFor file config mode =
      profile.arguments mode ++ mention ++ [mode.target file] := by
  cases mentions with
  | nothing => cases mode <;> rfl
  | empty empty => cases mode <;> simp [argumentsFor, Mode.target, stdinMarker, empty]
  | flag some => cases mode <;> simp [argumentsFor, Mode.target, stdinMarker, some]

namespace Formatter

/-- What is run when the binary is known, and with which configuration file. -/
def answer (formatter : Formatter) (files : FileSystem) (file : Path) (mode : Mode)
    (source : Path × Scope) : Invocation × Option Path :=
  -- The scope decides where the configuration file is searched for, and which arguments go in front.
  let config := (ConfigFinder.search files file (formatter.configs source.2).candidates).value
  (⟨source.1, source.2,
    formatter.ownArguments source.2 ++ formatter.profile.argumentsFor file config mode⟩, config)

/-- Without memories, the binary that is found decides about the rest. -/
theorem value_resolve_blank (formatter : Formatter) (files : FileSystem) (file : Path) (mode : Mode) :
    (formatter.blank.resolve files file mode).value.1 =
      (formatter.binaries.found files file).map (formatter.answer files file mode) := by
  unfold resolve blank BinaryFinder.resolve BinaryFinder.found
  simp only [Probed.value_bind, SearchMemo.findOr, Memo.find?_empty, Probed.value_pure]
  cases (Lookup.firstAround files file formatter.binaries.localBins).value with
  -- A hit inside the repository ends the search, so the global binary matters only in the other case.
  | some path => rfl
  | none =>
    simp only [Probed.value_pure]
    cases formatter.binaries.globalBin <;> rfl

/-- The answer about a binary is that of its scope. -/
theorem answer_eq_iff {formatter : Formatter} {files : FileSystem} {file : Path} {mode : Mode}
    {binary : Path} {scope : Scope} {found : Invocation × Option Path} :
    formatter.answer files file mode (binary, scope) = found ↔ ∃ config mention,
      files.ChoosesConfig (files.searched file) (formatter.configs scope).candidates config ∧
      formatter.profile.Mentions config mention ∧
      found = (⟨binary, scope, formatter.ownArguments scope ++
        (formatter.profile.arguments mode ++ mention ++ [mode.target file])⟩, config) := by
  unfold answer
  constructor
  · rintro rfl
    -- Only the configuration file is searched for; its mention is a function of the file found.
    obtain ⟨mention, mentions⟩ := formatter.profile.exists_mentions
      (ConfigFinder.search files file (formatter.configs scope).candidates).value
    have written := Profile.argumentsFor_of_mentions mentions file mode
    exact ⟨_, mention, ConfigFinder.value_search_eq_iff.mp rfl, mentions, by simp only [written]⟩
  · rintro ⟨config, mention, chosen, mentions, rfl⟩
    have found := ConfigFinder.value_search_eq_iff.mpr chosen
    have written := Profile.argumentsFor_of_mentions mentions file mode
    simp only [found, written]

/-- A formatter without memories answers what the settings and the files pick, and nothing else. -/
theorem resolve_blank_eq_iff (formatter : Formatter) (files : FileSystem) (file : Path) (mode : Mode)
    (result : Option (Invocation × Option Path)) :
    (formatter.blank.resolve files file mode).value.1 = result ↔
      formatter.Picks files file mode result := by
  rw [value_resolve_blank]
  unfold BinaryFinder.found
  rw [Lookup.value_firstAround]
  constructor
  · rintro rfl
    -- The cases are the three answers of `Picks`: a local binary, the global one, or none at all.
    cases inside : (files.searched file).findSome? (files.named? formatter.binaries.localBins) with
    | some path =>
      obtain ⟨config, mention, chosen, mentions, same⟩ := answer_eq_iff.mp
        (Eq.refl (formatter.answer files file mode (path, .inRepository)))
      simp only [Option.map_some, same]
      exact .inRepository (FileSystem.chooses_iff.mpr inside) chosen mentions
    | none =>
      have lacks := FileSystem.lacks_iff.mpr inside
      cases user : formatter.binaries.globalBin with
      | none => exact .nothing lacks user
      | some path =>
        obtain ⟨config, mention, chosen, mentions, same⟩ := answer_eq_iff.mp
          (Eq.refl (formatter.answer files file mode (path, .anywhere)))
        simp only [Option.map_some, same]
        exact .anywhere lacks user chosen mentions
  · rintro (⟨binary, config, mentions⟩ | ⟨lacks, user, config, mentions⟩ | ⟨lacks, user⟩)
    -- A local binary hides the global one, whatever that is set to.
    · rw [FileSystem.chooses_iff.mp binary]
      exact congrArg some (answer_eq_iff.mpr ⟨_, _, config, mentions, rfl⟩)
    · rw [FileSystem.lacks_iff.mp lacks, user]
      exact congrArg some (answer_eq_iff.mpr ⟨_, _, config, mentions, rfl⟩)
    · rw [FileSystem.lacks_iff.mp lacks, user]
      rfl

end Formatter

end FormatPipeline
