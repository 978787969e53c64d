import FormatPipeline.Proofs.Formatter.Checking
import FormatPipeline.Proofs.Lookup.Choice
import FormatPipeline.Proofs.Lookup.Repeating
import FormatPipeline.Proofs.World.Scripted
import FormatPipeline.Sandbox.Job

/-! When the shell runs the very binary that was found, and does not look for a command of its name. -/

namespace FormatPipeline

/-- Commands stand for absolute paths. -/
def FileSystem.RootsCommands (files : FileSystem) : Prop :=
  ∀ command binary, files.which command = some binary → binary.isAbsolute

/-- Whether a value spells an executable file without a slash in its path. -/
structure FileSystem.SpellsBare (files : FileSystem) (value : String) : Prop where
  present : (Text.trim value).isEmpty = false
  executable : files.isExecutable (Path.expandHome files.home (Text.trim value))
  bare : '/' ∉ (Path.expandHome files.home (Text.trim value)).text.toList

/-- In front of a command line the binary has a slash in its word, and so it stands for itself. -/
structure Path.NamesFile (binary : Path) : Prop where
  slash : '/' ∈ (Shell.quoteIfNeeded binary).toList
  itself : ∀ job : Sandbox.Job, job.program? binary.text = some binary.text

namespace Path

/-- The word of a binary has a slash exactly if its path has one. -/
theorem namesFile_iff {binary : Path} : binary.NamesFile ↔ '/' ∈ binary.text.toList := by
  constructor
  · intro names
    have slash := names.slash
    unfold Shell.quoteIfNeeded at slash
    split at slash
    next =>
      -- Quotes and backslashes are no slashes.
      simp only [Shell.quote, String.toList_ofList, Shell.quoteChars, List.mem_cons, List.mem_append,
        List.mem_flatMap, List.not_mem_nil] at slash
      obtain ⟨c, member, written⟩ : ∃ c ∈ binary.text.toList, '/' ∈ Shell.escapeChar c := by
        simpa using slash
      have same : '/' = c := by
        unfold Shell.escapeChar at written
        split at written <;> simpa using written
      exact same ▸ member
    next => exact slash
  · intro slash
    -- Quoting keeps the slash, and the shell asks for nothing but a slash in a text that is not empty.
    refine ⟨?_, fun job => ?_⟩
    · unfold Shell.quoteIfNeeded
      split
      next =>
        have written : '/' ∈ Shell.escapeChar '/' := by decide
        simp only [Shell.quote, String.toList_ofList, Shell.quoteChars]
        exact List.mem_cons_of_mem _ (List.mem_append_left _ (List.mem_flatMap.mpr ⟨_, slash, written⟩))
      next => exact slash
    · have present : binary.text.isEmpty = false := by
        by_contra empty
        simp_all
      simp [Sandbox.Job.program?, present, slash]

/-- An absolute path has a slash. -/
theorem slash_of_isAbsolute {p : Path} (absolute : p.isAbsolute) : '/' ∈ p.text.toList :=
  List.mem_of_mem_head? (by simpa [isAbsolute] using absolute)

end Path

/-- What a search around an absolute path finds is absolute. -/
theorem Lookup.isAbsolute_of_firstAround {files : FileSystem} {file binary : Path} {names : List String}
    (rooted : file.isAbsolute) (found : (firstAround files file names).value = some binary) :
    binary.isAbsolute := by
  -- What is found is joined to a directory around the file, and that directory is absolute.
  rw [value_firstAround] at found
  obtain ⟨directory, searched, name, -, rfl⟩ := (FileSystem.chooses_iff.mpr found).exists_join
  have around := FileSystem.mem_of_mem_upToMarked searched
  exact Path.isAbsolute_join
    (Path.isAbsolute_iff_head?.mpr (Path.head?_components_of_mem_around rooted around)) name

namespace BinaryFinder

/-- What is remembered for absolute paths is absolute, and the binary of the user has a slash. -/
structure IsSlashed (finder : BinaryFinder) : Prop where
  remembered : ∀ (file binary : Path), file.isAbsolute →
    finder.memo.find? file.components = some (some binary) → binary.isAbsolute
  globalBin : ∀ binary, finder.globalBin = some binary → '/' ∈ binary.text.toList

/-- Without any settings there is no binary at all. -/
theorem isSlashed_ofFormatter (formatter : String) : (ofFormatter formatter).IsSlashed :=
  ⟨fun _ _ _ found => by simp [ofFormatter] at found, fun _ used => by simp [ofFormatter] at used⟩

variable {files : FileSystem} {finder : BinaryFinder}

/-- Other names to search for make the memory empty, at most. -/
theorem IsSlashed.setLocalBins (slashed : finder.IsSlashed) (names : List String) :
    (finder.setLocalBins names).1.IsSlashed := by
  unfold BinaryFinder.setLocalBins
  -- The names are the old ones, or the memory starts anew.
  split
  next => exact slashed
  next =>
    split <;>
      exact ⟨fun _ _ _ found => by simp at found, slashed.globalBin⟩

/-- A binary that is accepted has a slash unless the value spells it without one. -/
theorem slash_of_acceptedBinary (rooted : files.RootsCommands) {value : String} {binary : Path}
    (spelled : ¬ files.SpellsBare value) (accepted : acceptedBinary files value = some binary) :
    '/' ∈ binary.text.toList := by
  -- The value spells the binary itself, or it is a command that the world has found.
  rcases leadsTo_of_acceptedBinary accepted with ⟨rfl, executable⟩ | ⟨-, command⟩
  -- A blank value would not have been accepted.
  · have present : (Text.trim value).isEmpty = false := by
      by_contra blank
      rw [(acceptedBinary_eq_none files value).mpr (.inl (by simpa using blank))] at accepted
      cases accepted
    by_contra bare
    exact spelled ⟨present, executable, bare⟩
  · exact Path.slash_of_isAbsolute (rooted _ _ command)

/-- Another binary of the user has a slash unless the value spells it without one. -/
theorem IsSlashed.setGlobalBin (slashed : finder.IsSlashed) (rooted : files.RootsCommands) {value : String}
    (spelled : ¬ files.SpellsBare value) : (finder.setGlobalBin files value).value.1.IsSlashed := by
  rw [value_setGlobalBin]
  refine ⟨slashed.remembered, fun binary used => ?_⟩
  -- Either the binary in use stays, or the value is accepted.
  dsimp only at used
  split at used
  next => exact slashed.globalBin binary used
  next => exact slash_of_acceptedBinary rooted spelled used

/-- What is found for absolute paths is remembered as an absolute path. -/
theorem IsSlashed.resolve (slashed : finder.IsSlashed) (files : FileSystem) (file : Path) :
    (finder.resolve files file).value.2.IsSlashed := by
  rw [finder_resolve]
  refine ⟨fun other binary absolute known => ?_, slashed.globalBin⟩
  unfold SearchMemo.findOr at known
  split at known
  next => exact slashed.remembered other binary absolute known
  next =>
    rcases Memo.find?_remember_eq_some known with ⟨same, found⟩ | before
    · -- The file that is looked for is absolute if its components are those of an absolute path.
      have rooted : file.isAbsolute := by
        rw [Path.isAbsolute_iff_head?, ← same]
        exact Path.isAbsolute_iff_head?.mp absolute
      exact Lookup.isAbsolute_of_firstAround rooted found.symm
    · exact slashed.remembered other binary absolute before

/-- A binary that is found for an absolute path has a slash. -/
theorem IsSlashed.slash_of_resolve (slashed : finder.IsSlashed) {file binary : Path} {scope : Scope}
    (absolute : file.isAbsolute)
    (resolved : (finder.resolve files file).value.1 = some (binary, scope)) :
    '/' ∈ binary.text.toList := by
  have later := slashed.resolve files file
  have known := SearchMemo.find?_findOr finder.memo file
    (Lookup.firstAround files file finder.localBins)
  rw [finder_resolve] at later
  unfold BinaryFinder.resolve at resolved
  simp only [Probed.value_bind] at resolved
  -- What is found in the repository is remembered, and otherwise the binary of the user is taken.
  split at resolved
  next path found =>
    obtain ⟨rfl, -⟩ : path = binary ∧ .inRepository = scope := by simpa using resolved
    rw [found] at known
    exact Path.slash_of_isAbsolute (later.remembered file _ absolute known)
  next =>
    obtain ⟨used, -⟩ : finder.globalBin = some binary ∧ .anywhere = scope := by simpa using resolved
    exact slashed.globalBin binary used

/-- Without names to search for, the binary of the user is found for every file. -/
theorem resolve_nameless (files : FileSystem) (formatter : String) (binary : Option Path) (file : Path) :
    (BinaryFinder.resolve ⟨formatter, [], binary, .empty⟩ files file).value.1 =
      binary.map (·, .anywhere) := by
  -- Without names no directory is looked at.
  have nothing : (Lookup.firstAround files file []).value = none := by
    unfold Lookup.firstAround
    split <;> rfl
  unfold BinaryFinder.resolve
  simp only [SearchMemo.findOr, Memo.find?_empty, Probed.value_bind, Probed.value_pure, nothing]

end BinaryFinder

namespace Formatter

variable {files : FileSystem} {formatter : Formatter}

/-- The binary that is run for a file is the one that is found for it. -/
theorem binary_of_resolve {file : Path} {mode : Mode} {invocation : Invocation} {config : Option Path}
    (answered : (formatter.resolve files file mode).value.1 = some (invocation, config)) :
    (formatter.binaries.resolve files file).value.1 = some (invocation.binary, invocation.scope) := by
  have made := @value_resolve files formatter file mode
  rw [answered] at made
  obtain ⟨⟨binary, scope⟩, found, rfl⟩ := Option.map_eq_some_iff.mp made.symm
  exact found

/-- Finding out what to run changes the finder of binaries as finding the binary does. -/
theorem binaries_resolve (files : FileSystem) (formatter : Formatter) (file : Path) (mode : Mode) :
    (formatter.resolve files file mode).value.2.binaries =
      (formatter.binaries.resolve files file).value.2 := by
  unfold resolve
  simp only [Probed.value_bind]
  -- Only the configuration is looked for afterwards, which leaves the binaries alone.
  split
  next => rfl
  next path scope _ => cases scope <;> rfl

/-- Every call keeps slashes where no value spells a binary without one. -/
theorem isSlashed_after (slashed : formatter.binaries.IsSlashed) (rooted : files.RootsCommands)
    (spelled : ∀ value, ¬ files.SpellsBare value) (call : Call) :
    (formatter.after files call).binaries.IsSlashed := by
  -- Only the setting of the binary itself could bring in one without a slash.
  cases call with
  | resolve file mode =>
    rw [after, binaries_resolve]
    exact slashed.resolve files file
  | set setting =>
    cases setting with
    | localBins names =>
      simp only [after]
      exact slashed.setLocalBins names
    | globalBin value =>
      simp only [after]
      exact slashed.setGlobalBin rooted (spelled value)
    | localConfigs | globalConfigs | localArguments | globalArguments =>
      simp only [after]
      exact slashed

/-- Where commands stand for absolute paths, all binaries that are found for absolute paths, after any
history of calls, are run as the files that they are, exactly if no value ever spells an executable
file without a slash in its path. -/
theorem namesFile_resolve_iff {environments : FileSystem → Prop}
    (rooted : ∀ files, environments files → files.RootsCommands) :
    (∀ (profile : Profile) (history : List (FileSystem × Call)) (files : FileSystem) (file : Path)
        (mode : Mode) (invocation : Invocation) (config : Option Path),
      (∀ entry ∈ history, environments entry.1) → environments files → file.isAbsolute →
      ((afterAll profile history).resolve files file mode).value.1 = some (invocation, config) →
      invocation.binary.NamesFile) ↔
    ∀ files, environments files → ∀ value, ¬ files.SpellsBare value := by
  constructor
  · -- The value is set for a formatter without other settings, which then runs that file.
    intro named files usual value spelled
    let binary := Path.expandHome files.home (Text.trim value)
    have accepted : acceptedBinary files value = some binary := by
      simp [acceptedBinary, spelled.present, spelled.executable, binary]
    let history : List (FileSystem × Call) := [(files, .set (.globalBin value))]
    have stored : (afterAll default history).binaries = ⟨Profile.name default, [], some binary, .empty⟩ := by
      show ((ofProfile default).after files (.set (.globalBin value))).binaries = _
      rw [after_globalBin, accepted]
      rfl
    have made := @value_resolve files (afterAll default history) ⟨"/main.py"⟩ .buffer
    rw [stored, BinaryFinder.resolve_nameless] at made
    obtain ⟨⟨invocation, config⟩, answered, same⟩ := Option.map_eq_some_iff.mp made
    have names := named default history files ⟨"/main.py"⟩ .buffer invocation config
      (by simpa [history] using usual) usual (by decide) answered
    -- It is the binary of the user, and no other.
    have running : invocation.binary = binary := congrArg Invocation.binary same
    rw [running] at names
    exact spelled.bare (Path.namesFile_iff.mp names)
  · intro spelled profile history files file mode invocation config usual here absolute answered
    have slashed : (afterAll profile history).binaries.IsSlashed :=
      @afterAll_keeps (fun _ formatter => formatter.binaries.IsSlashed) profile
        (BinaryFinder.isSlashed_ofFormatter profile.name) history fun member slashed =>
          isSlashed_after slashed (rooted _ (usual _ member)) (spelled _ (usual _ member)) _
    exact Path.namesFile_iff.mpr (slashed.slash_of_resolve absolute (binary_of_resolve answered))

end Formatter

namespace Scripted

/-- In tables of absolute paths commands stand for absolute paths. -/
theorem Tables.rootsCommands {tables : Tables}
    (absolute : tables.commands.all fun command => command.2.isAbsolute) :
    tables.files.RootsCommands := by
  intro command binary found
  obtain ⟨entry, listed, rfl⟩ := Option.map_eq_some_iff.mp found
  exact List.all_eq_true.mp absolute entry (List.mem_of_find?_eq_some listed)

/-- In tables of absolute paths no value spells an executable file without a slash in its path. -/
theorem Tables.not_spellsBare {tables : Tables}
    (absolute : tables.entries.all fun entry => entry.1.isAbsolute) (value : String) :
    ¬ tables.files.SpellsBare value := by
  intro spelled
  obtain ⟨access, found, -⟩ : ∃ access,
      find? (Path.expandHome tables.home (Text.trim value)) tables.entries = some access ∧
        access.executable := by
    have executable := spelled.executable
    simp only [files] at executable
    cases found : find? (Path.expandHome tables.home (Text.trim value)) tables.entries with
    | none => simp [found] at executable
    | some access => exact ⟨access, rfl, by simpa [found] using executable⟩
  -- The entry has the components of the path, which are those of an absolute one.
  obtain ⟨entry, listed, -⟩ := Option.map_eq_some_iff.mp found
  have same : entry.1.components = (Path.expandHome tables.home (Text.trim value)).components := by
    simpa [Path.same] using List.find?_some listed
  have rooted := List.all_eq_true.mp absolute entry (List.mem_of_find?_eq_some listed)
  rw [Path.isAbsolute_iff_head?, same, ← Path.isAbsolute_iff_head?] at rooted
  exact spelled.bare (Path.slash_of_isAbsolute rooted)

end Scripted

namespace Formatter

/-- In a world of absolute paths a command is run as the file that it stands for. -/
theorem namesFile_resolve_sample :
    let files := (Scripted.sample []).files
    ∃ invocation config,
      ((afterAll Scripted.sampleProfile [(files, .set (.globalBin " black "))]).resolve files
        ⟨"/main.py"⟩ .buffer).value.1 = some (invocation, config) ∧
      invocation.binary = ⟨"/usr/bin/black"⟩ ∧ invocation.binary.NamesFile := by
  intro files
  -- No value spells a binary without a slash there, so that the condition holds.
  have usual := (@namesFile_resolve_iff (· = files)
    (by rintro _ rfl; exact @Scripted.Tables.rootsCommands (Scripted.sample []) (by decide))).mpr
    (by rintro _ rfl; exact @Scripted.Tables.not_spellsBare (Scripted.sample []) (by decide))
  let invocation : Invocation := ⟨⟨"/usr/bin/black"⟩, .anywhere, ["-q", "-"]⟩
  -- The command is found on the path, whatever blanks surround its name.
  have answered : ((afterAll Scripted.sampleProfile [(files, .set (.globalBin " black "))]).resolve files
      ⟨"/main.py"⟩ .buffer).value.1 = some (invocation, none) := by decide
  have names := usual Scripted.sampleProfile [(files, .set (.globalBin " black "))] files ⟨"/main.py"⟩
    .buffer invocation none (by simp) rfl (by decide) answered
  exact ⟨invocation, none, answered, rfl, names⟩

/-- The sample with an executable file in the working directory, too. -/
def sampleNearby : Scripted.Tables :=
  { Scripted.sample [] with
    home := some ⟨"/home/user"⟩
    entries := (⟨"black"⟩, Scripted.runnable) :: (Scripted.sample []).entries }

/-- An executable file in the working directory is found, and its word has no slash, so that the shell
looks for a command of its name. -/
theorem namesFile_resolve_nearby :
    let files := sampleNearby.files
    (∀ home, files.home = some home → home.isAbsolute) ∧ files.RootsCommands ∧
      ∃ invocation config,
        ((afterAll Scripted.sampleProfile [(files, .set (.globalBin "black"))]).resolve files
          ⟨"/main.py"⟩ .buffer).value.1 = some (invocation, config) ∧
        invocation.binary = ⟨"black"⟩ ∧ '/' ∉ (Shell.quoteIfNeeded invocation.binary).toList ∧
        ¬ invocation.binary.NamesFile := by
  intro files
  -- The relative name is an executable file, so that it is accepted as it is spelled.
  have answered : ((afterAll Scripted.sampleProfile [(files, .set (.globalBin "black"))]).resolve files
      ⟨"/main.py"⟩ .buffer).value.1 = some (⟨⟨"black"⟩, .anywhere, ["-q", "-"]⟩, none) := by decide
  have bare : '/' ∉ (Shell.quoteIfNeeded ⟨"black"⟩).toList := by decide
  refine ⟨?_, Scripted.Tables.rootsCommands (by decide), _, _, answered, rfl, bare, fun names => ?_⟩
  · rintro home same
    obtain rfl : ⟨"/home/user"⟩ = home := Option.some.inj same
    decide
  · exact bare names.slash

end Formatter

end FormatPipeline
