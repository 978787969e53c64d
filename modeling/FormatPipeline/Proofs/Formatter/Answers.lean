import FormatPipeline.Formatter.Basic
import FormatPipeline.Proofs.Lookup.Memory

/-! Formatters with the same settings answer alike, whatever they remember. -/

namespace FormatPipeline

/-- Arguments that are written for some spelling of the file and of the configuration file. -/
def Profile.Writes (profile : Profile) (file : Path) (config : Option Path) (mode : Mode)
    (arguments : List String) : Prop :=
  -- The spelling may differ in both paths, but the same arguments go with it.
  ∃ spelled configured, spelled.components = file.components ∧ SameFinding configured config ∧
    arguments = profile.argumentsFor spelled configured mode

namespace ArgumentMemo

/-- Whatever is remembered was written for paths of its key. -/
def Recalls (memo : ArgumentMemo) (profile : Profile) : Prop :=
  ∀ {file config mode known},
    memo.find? (file.components, config.map Path.components, mode) = some known →
    profile.Writes file config mode known

/-- An empty memory recalls every profile. -/
theorem recalls_empty (profile : Profile) : Recalls .empty profile := by
  intro file config mode known present
  simp at present

variable {memo : ArgumentMemo} {profile : Profile}

/-- Arguments from a memory that recalls a profile are written for the paths. -/
theorem writes_build (recalls : memo.Recalls profile) (file : Path) (config : Option Path)
    (mode : Mode) : profile.Writes file config mode (memo.build profile file config mode).1 := by
  unfold build
  dsimp only
  -- New arguments are written for the very paths that were asked for.
  split
  next known present => exact recalls present
  next => exact ⟨file, config, rfl, .rfl, rfl⟩

/-- A memory goes on recalling a profile when it remembers what is written for it. -/
theorem recalls_build (recalls : memo.Recalls profile) (file : Path) (config : Option Path)
    (mode : Mode) : Recalls (memo.build profile file config mode).2 profile := by
  unfold build
  dsimp only
  -- Remembered arguments change nothing in the memory.
  split
  next => exact recalls
  next =>
    intro other configured otherMode known present
    -- Only a request with an equal key can meet the new entry.
    rcases Memo.find?_remember_eq_some present with ⟨same, rfl⟩ | earlier
    · simp only [Prod.mk.injEq] at same
      obtain ⟨sameFile, sameConfig, rfl⟩ := same
      exact ⟨file, config, sameFile.symm, sameConfig.symm, rfl⟩
    · exact recalls earlier

end ArgumentMemo

/-- Two invocations differ at most in how the same binary, file and configuration file are spelled. -/
structure Invocation.Alike (profile : Profile) (file : Path) (mode : Mode) (one other : Invocation) :
    Prop where
  scope : one.scope = other.scope
  binary : one.binary.components = other.binary.components
  arguments : ∃ own config ones others,
    profile.Writes file config mode ones ∧ profile.Writes file config mode others ∧
    one.arguments = own ++ ones ∧ other.arguments = own ++ others

namespace Formatter

/-- Two formatters are set in the same way. -/
structure SetAlike (one other : Formatter) : Prop where
  profile : one.profile = other.profile
  localBins : one.binaries.localBins = other.binaries.localBins
  globalBin : SameFinding one.binaries.globalBin other.binaries.globalBin
  localConfigs : one.localConfigs.candidates = other.localConfigs.candidates
  globalConfigs : one.globalConfigs.candidates = other.globalConfigs.candidates
  localArguments : one.localArguments = other.localArguments
  globalArguments : one.globalArguments = other.globalArguments

/-- Every memory of the formatter is right about its settings. -/
structure Sound (files : FileSystem) (formatter : Formatter) : Prop where
  binaries : formatter.binaries.Sound files
  localConfigs : formatter.localConfigs.Sound files
  globalConfigs : formatter.globalConfigs.Sound files
  arguments : formatter.arguments.Recalls formatter.profile

/-- A formatter without any settings is sound. -/
theorem sound_ofProfile (files : FileSystem) (profile : Profile) :
    (ofProfile profile).Sound files :=
  ⟨BinaryFinder.sound_ofFormatter files _, ConfigFinder.sound_ofFormatter files _,
    ConfigFinder.sound_ofFormatter files _, ArgumentMemo.recalls_empty profile⟩

variable {files : FileSystem}

/-- A sound finder of binaries can be put into a sound formatter. -/
theorem Sound.withBinaries {formatter : Formatter} (sound : formatter.Sound files)
    {finder : BinaryFinder} (binaries : finder.Sound files) :
    Sound files { formatter with binaries := finder } :=
  { sound with binaries := binaries }

/-- The configuration files that go with binaries of the scope. -/
def configs (formatter : Formatter) : Scope → ConfigFinder
  | .inRepository => formatter.localConfigs
  | .anywhere => formatter.globalConfigs

/-- Both finders of configuration files of a sound formatter are sound. -/
theorem Sound.configs {formatter : Formatter} (sound : formatter.Sound files) (scope : Scope) :
    (formatter.configs scope).Sound files := by
  cases scope with
  | inRepository => exact sound.localConfigs
  | anywhere => exact sound.globalConfigs

/-- Finding a configuration file changes only memories of formatters. -/
theorem setAlike_resolveConfig (files : FileSystem) (formatter : Formatter) (file : Path) (scope : Scope) :
    formatter.SetAlike (formatter.resolveConfig files file scope).value.2 := by
  cases scope <;> exact ⟨rfl, rfl, .rfl, rfl, rfl, rfl, rfl⟩

/-- Finding a configuration file keeps a formatter sound. -/
theorem sound_resolveConfig (ignores : files.IgnoresSpelling) {formatter : Formatter}
    (sound : formatter.Sound files) (file : Path) (scope : Scope) :
    (formatter.resolveConfig files file scope).value.2.Sound files := by
  cases scope with
  -- One of the two memories of configuration files changes; the other fields stay sound as they are.
  | inRepository =>
    exact { sound with localConfigs := ConfigFinder.sound_resolve ignores sound.localConfigs file }
  | anywhere =>
    exact { sound with globalConfigs := ConfigFinder.sound_resolve ignores sound.globalConfigs file }

/-- Two formatters that are set in the same way look for configuration files in the same way. -/
theorem SetAlike.candidates {one other : Formatter} (alike : one.SetAlike other) (scope : Scope) :
    (one.configs scope).candidates = (other.configs scope).candidates := by
  cases scope with
  | inRepository => exact alike.localConfigs
  | anywhere => exact alike.globalConfigs

/-- Two formatters that are set in the same way add the same arguments of the user. -/
theorem SetAlike.ownArguments {one other : Formatter} (alike : one.SetAlike other) (scope : Scope) :
    one.ownArguments scope = other.ownArguments scope := by
  cases scope with
  | inRepository => exact alike.localArguments
  | anywhere => exact alike.globalArguments

/-- Being set in the same way is transitive. -/
theorem SetAlike.trans {one other third : Formatter} (first : one.SetAlike other)
    (second : other.SetAlike third) : one.SetAlike third where
  profile := first.profile.trans second.profile
  localBins := first.localBins.trans second.localBins
  globalBin := Eq.trans first.globalBin second.globalBin
  localConfigs := first.localConfigs.trans second.localConfigs
  globalConfigs := first.globalConfigs.trans second.globalConfigs
  localArguments := first.localArguments.trans second.localArguments
  globalArguments := first.globalArguments.trans second.globalArguments

/-- What is run for a file is made of the binary, the configuration file and the arguments. -/
theorem value_resolve (formatter : Formatter) (file : Path) (mode : Mode) :
    ((formatter.resolve files file mode).value.1).map (·.1) =
      (formatter.binaries.resolve files file).value.1.map fun (path, scope) =>
        ⟨path, scope, formatter.ownArguments scope ++
          (formatter.arguments.build formatter.profile file
            ((formatter.configs scope).resolve files file).value.1 mode).1⟩ := by
  unfold resolve
  simp only [Probed.value_bind]
  -- Without a binary nothing else is asked for, and the scope decides about the rest.
  cases found : (formatter.binaries.resolve files file).value.1 with
  | none => rfl
  | some answer =>
    obtain ⟨path, scope⟩ := answer
    cases scope <;> rfl

/-- Resolving changes only memories. -/
theorem setAlike_resolve (files : FileSystem) (formatter : Formatter) (file : Path) (mode : Mode) :
    formatter.SetAlike (formatter.resolve files file mode).value.2 := by
  -- The search for a binary comes first and changes only what its finder remembers.
  have found : formatter.SetAlike
      { formatter with binaries := (formatter.binaries.resolve files file).value.2 } := by
    rw [BinaryFinder.finder_resolve]
    exact ⟨rfl, rfl, .rfl, rfl, rfl, rfl, rfl⟩
  unfold resolve
  simp only [Probed.value_bind]
  split
  next => exact found
  -- With a binary, the configuration file and the arguments are looked up as well.
  next path scope _ =>
    have configured := found.trans (setAlike_resolveConfig files _ file scope)
    exact ⟨configured.profile, configured.localBins, configured.globalBin, configured.localConfigs,
      configured.globalConfigs, configured.localArguments, configured.globalArguments⟩

/-- Resolving keeps a formatter sound. -/
theorem sound_resolve (ignores : files.IgnoresSpelling) {formatter : Formatter}
    (sound : formatter.Sound files) (file : Path) (mode : Mode) :
    (formatter.resolve files file mode).value.2.Sound files := by
  -- Each of the three memories learns from an answer that is right.
  have found : Sound files
      { formatter with binaries := (formatter.binaries.resolve files file).value.2 } :=
    sound.withBinaries (BinaryFinder.sound_resolve ignores sound.binaries file)
  unfold resolve
  simp only [Probed.value_bind]
  split
  next => exact found
  next path scope _ =>
    have configured := sound_resolveConfig ignores found file scope
    exact { configured with
      arguments := ArgumentMemo.recalls_build configured.arguments file _ mode }

/-- Sound formatters that are set in the same way find the same binary. -/
theorem sameAnswer_binaries {one other : Formatter} (alike : one.SetAlike other)
    (soundOne : one.Sound files) (soundOther : other.Sound files) (file : Path) :
    BinaryFinder.SameAnswer (one.binaries.resolve files file).value.1
      (other.binaries.resolve files file).value.1 := by
  -- Both find what a finder without a memory finds.
  have first := BinaryFinder.value_resolve soundOne.binaries file
  have second := BinaryFinder.value_resolve soundOther.binaries file
  have between : BinaryFinder.SameAnswer (one.binaries.found files file)
      (other.binaries.found files file) := by
    have globals := alike.globalBin
    unfold BinaryFinder.found
    rw [alike.localBins]
    -- A binary in the repository is the same one, and otherwise the binaries of the user are compared.
    split
    · rfl
    · unfold BinaryFinder.SameAnswer SameFinding at *
      cases ones : one.binaries.globalBin <;> cases others : other.binaries.globalBin <;> simp_all
  exact (Eq.trans first between).trans (Eq.symm second)

/-- Sound formatters that are set in the same way find the same configuration file. -/
theorem sameFinding_configs {one other : Formatter} (alike : one.SetAlike other)
    (soundOne : one.Sound files) (soundOther : other.Sound files) (file : Path) (scope : Scope) :
    SameFinding ((one.configs scope).resolve files file).value.1
      ((other.configs scope).resolve files file).value.1 := by
  -- Both memories are right about searches for the same candidates.
  have first := ConfigFinder.value_resolve (soundOne.configs scope) file
  have second := ConfigFinder.value_resolve (soundOther.configs scope) file
  rw [alike.candidates scope] at first
  exact Eq.trans first (Eq.symm second)

/-- Sound formatters that are set in the same way answer alike. -/
theorem resolve_alike {one other : Formatter} (alike : one.SetAlike other)
    (soundOne : one.Sound files) (soundOther : other.Sound files) (file : Path) (mode : Mode) :
    Option.Rel (Invocation.Alike one.profile file mode)
      (((one.resolve files file mode).value.1).map (·.1))
      (((other.resolve files file mode).value.1).map (·.1)) := by
  have binaries := sameAnswer_binaries alike soundOne soundOther file
  rw [value_resolve, value_resolve]
  unfold BinaryFinder.SameAnswer at binaries
  -- The binaries decide whether there is anything to run at all.
  cases first : (one.binaries.resolve files file).value.1 with
  | none =>
    have second : (other.binaries.resolve files file).value.1 = none := by
      simpa [first] using binaries.symm
    rw [second]
    exact .none
  | some answer =>
    obtain ⟨path, scope⟩ := answer
    -- The other formatter finds the same binary, in the same scope.
    obtain ⟨also, second, same⟩ : ∃ also, (other.binaries.resolve files file).value.1 =
        some (also, scope) ∧ also.components = path.components := by
      cases second : (other.binaries.resolve files file).value.1 with
      | none => simp [first, second] at binaries
      | some pair =>
        obtain ⟨also, otherScope⟩ := pair
        obtain ⟨same, rfl⟩ : path.components = also.components ∧ scope = otherScope := by
          simpa [first, second] using binaries
        exact ⟨also, rfl, same.symm⟩
    -- From here on only the scope matters, which both share.
    have configs := sameFinding_configs alike soundOne soundOther file scope
    have ones := ArgumentMemo.writes_build soundOne.arguments file
      ((one.configs scope).resolve files file).value.1 mode
    obtain ⟨spelled, configured, sameFile, sameConfig, written⟩ :=
      ArgumentMemo.writes_build soundOther.arguments file
        ((other.configs scope).resolve files file).value.1 mode
    rw [← alike.profile] at written
    simp only [second, Option.map_some]
    -- The other arguments are written for the same file and configuration file.
    refine .some ⟨rfl, same.symm, one.ownArguments scope, _, _,
      one.profile.argumentsFor spelled configured mode, ones,
      ⟨spelled, configured, sameFile, Eq.trans sameConfig (Eq.symm configs), rfl⟩, rfl, ?_⟩
    rw [alike.ownArguments scope, ← alike.profile, written]

end Formatter

end FormatPipeline
