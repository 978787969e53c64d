import FormatPipeline.Proofs.Lookup.Spelling

/-! Finders that remember find what a search without a memory finds. -/

namespace FormatPipeline

/-- Whether a search finds the same for equal files. -/
def SearchIgnoresSpelling (search : Path → Option Path) : Prop :=
  ∀ one other : Path, one.components = other.components → SameFinding (search one) (search other)

namespace SearchMemo

/-- Whatever is remembered is what the search finds now. -/
def Recalls (memo : SearchMemo) (search : Path → Option Path) : Prop :=
  ∀ file found, memo.find? file.components = some found → SameFinding found (search file)

/-- An empty memory recalls every search. -/
theorem recalls_empty (search : Path → Option Path) : Recalls .empty search := by
  intro file found present
  simp at present

variable {memo : SearchMemo}

/-- A memory that recalls a search gives what the search finds. -/
theorem value_findOr (search : Path → Probed (Option Path))
    (recalls : Recalls memo fun file => (search file).value) (file : Path) :
    SameFinding (memo.findOr file (search file)).value.1 (search file).value := by
  unfold findOr
  -- A remembered finding is right by assumption, and a new one is the search itself.
  split
  next known found => exact recalls file known found
  next => exact .rfl

/-- A memory goes on recalling a search when it remembers what the search finds. -/
theorem recalls_findOr (search : Path → Probed (Option Path))
    (recalls : Recalls memo fun file => (search file).value)
    (ignores : SearchIgnoresSpelling fun file => (search file).value) (file : Path) :
    Recalls (memo.findOr file (search file)).value.2 fun file => (search file).value := by
  unfold findOr
  -- Only a file that was not remembered adds anything.
  split
  next => exact recalls
  next unknown =>
    intro other found present
    -- What is found later is the new entry, maybe for another spelling, or an older one.
    rcases Memo.find?_remember_eq_some present with ⟨same, rfl⟩ | earlier
    · exact ignores file other same.symm
    · exact recalls other found earlier

end SearchMemo

/-! ## Binaries -/

/-- The names that are searched for when a list of names is set. -/
def acceptedNames (names : List String) : List String :=
  if names.all isValidFileName then names else []

/-- The binary that is used when a value is set for it. -/
def acceptedBinary (files : FileSystem) (value : String) : Option Path :=
  let value := Text.trim value
  let path := Path.expandHome files.home value
  if value.isEmpty then none
  else if files.isExecutable path then some path
  -- A bare name may still stand for a command.
  else if BinaryFinder.isCommandName value then files.which value
  else none

/-- Whether every binary that a command stands for can be run. -/
def FileSystem.RunsCommands (files : FileSystem) : Prop :=
  ∀ command binary, files.which command = some binary → files.isExecutable binary

namespace BinaryFinder

/-- Only accepted settings are kept, and the memory is right about them. -/
structure Sound (files : FileSystem) (finder : BinaryFinder) : Prop where
  accepted : acceptedNames finder.localBins = finder.localBins
  recalls : finder.memo.Recalls fun file => (Lookup.firstAround files file finder.localBins).value
  runs : ∀ path, finder.globalBin = some path → files.isExecutable path

/-- A finder without settings is sound. -/
theorem sound_ofFormatter (files : FileSystem) (formatter : String) :
    (ofFormatter formatter).Sound files :=
  ⟨rfl, SearchMemo.recalls_empty _, by simp [ofFormatter]⟩

variable {files : FileSystem} {finder : BinaryFinder}

/-- A list of names that is set is searched for as far as it is accepted. -/
theorem localBins_setLocalBins (sound : finder.Sound files) (names : List String) :
    (finder.setLocalBins names).1.localBins = acceptedNames names := by
  -- A list that is set already was accepted before.
  unfold setLocalBins
  split
  next same => rw [same, sound.accepted]
  next =>
    split
    next entry invalid =>
      -- One invalid name rejects the whole list.
      have member := List.mem_of_find?_eq_some invalid
      have refused := List.find?_some invalid
      have some : names.all isValidFileName = false :=
        List.all_eq_false.mpr ⟨entry, member, by simpa using refused⟩
      simp [acceptedNames, some]
    next valid =>
      -- Without an invalid name the list is taken over as it is.
      have all : names.all isValidFileName := by simpa using valid
      simp [acceptedNames, all]

/-- Setting names to search for keeps a finder sound. -/
theorem sound_setLocalBins (sound : finder.Sound files) (names : List String) :
    (finder.setLocalBins names).1.Sound files := by
  -- The memory is emptied whenever the names change.
  have after := localBins_setLocalBins sound names
  have accepted : acceptedNames (acceptedNames names) = acceptedNames names := by
    unfold acceptedNames
    split <;> simp_all
  refine ⟨by rw [after, accepted], ?_, ?_⟩
  · -- An equal list keeps the memory, and every other one begins an empty one.
    unfold setLocalBins
    split
    · exact sound.recalls
    · split <;> exact SearchMemo.recalls_empty _
  · unfold setLocalBins
    split
    · exact sound.runs
    · split <;> exact sound.runs

/-- Setting names to search for does not change the binary of the user. -/
theorem globalBin_setLocalBins (finder : BinaryFinder) (names : List String) :
    (finder.setLocalBins names).1.globalBin = finder.globalBin := by
  unfold setLocalBins
  split
  · rfl
  · split <;> rfl

/-- Whether the binary of the user is the one that a value spells out. -/
def isSpelledBy (finder : BinaryFinder) (files : FileSystem) (value : String) : Bool :=
  !(Text.trim value).isEmpty &&
    finder.globalBin.any (·.same (Path.expandHome files.home (Text.trim value)))

/-- Setting the binary of the user changes nothing else, and not even that if the value spells it. -/
theorem value_setGlobalBin (value : String) :
    (finder.setGlobalBin files value).value.1 =
      { finder with globalBin := if finder.isSpelledBy files value then finder.globalBin
          else acceptedBinary files value } := by
  -- These are the tests of the definition, one after another.
  unfold setGlobalBin acceptedBinary isSpelledBy
  -- A blank value removes the binary.
  by_cases blank : (Text.trim value).isEmpty
  · simp [blank]
  -- The path of the binary in use keeps that binary.
  by_cases known : finder.globalBin.any (·.same (Path.expandHome files.home (Text.trim value)))
  · simp [blank, known]
  -- An executable path is taken, and a bare name may still be a command.
  by_cases executable : files.isExecutable (Path.expandHome files.home (Text.trim value))
  · simp [blank, known, executable]
  by_cases bare : isCommandName (Text.trim value)
  · cases found : files.which (Text.trim value) <;> simp [blank, known, executable, bare, found]
  · simp [blank, known, executable, bare]

/-- Setting the binary of the user does not change where repositories are searched. -/
theorem localBins_setGlobalBin (finder : BinaryFinder) (files : FileSystem) (value : String) :
    (finder.setGlobalBin files value).value.1.localBins = finder.localBins := by
  simp only [value_setGlobalBin]

/-- The binary that a value stands for is used, up to its spelling. -/
theorem globalBin_setGlobalBin (ignores : files.IgnoresSpelling) (sound : finder.Sound files)
    (value : String) :
    SameFinding (finder.setGlobalBin files value).value.1.globalBin (acceptedBinary files value) := by
  rw [value_setGlobalBin]
  by_cases spelled : finder.isSpelledBy files value
  · -- A binary that is in use can be run, and so can the same one in another spelling.
    simp only [isSpelledBy, Bool.and_eq_true, Bool.not_eq_true', Option.any_eq_true, Path.same,
      beq_iff_eq] at spelled
    obtain ⟨present, path, used, equal⟩ := spelled
    have executable := sound.runs path used
    rw [ignores.isExecutable equal] at executable
    simp [isSpelledBy, present, used, Path.same, equal, acceptedBinary, executable, SameFinding]
  · simp [spelled]

/-- Whatever is accepted as the binary of the user can be run. -/
theorem isExecutable_of_acceptedBinary (commands : files.RunsCommands) {value : String} {path : Path}
    (accepted : acceptedBinary files value = some path) : files.isExecutable path := by
  unfold acceptedBinary at accepted
  dsimp only at accepted
  -- A path was tried before it was accepted, and the binary of a command is promised to run.
  split at accepted
  · simp at accepted
  · split at accepted
    next executable => exact Option.some.inj accepted ▸ executable
    next =>
      split at accepted
      · exact commands _ _ accepted
      · simp at accepted

/-- Setting the binary of the user keeps a finder sound. -/
theorem sound_setGlobalBin (commands : files.RunsCommands) (sound : finder.Sound files)
    (value : String) : (finder.setGlobalBin files value).value.1.Sound files := by
  rw [value_setGlobalBin]
  -- Only the binary of the user can differ, and either it stays or it was accepted now.
  refine ⟨sound.accepted, sound.recalls, fun path used => ?_⟩
  simp only at used
  split at used
  · exact sound.runs path used
  · exact isExecutable_of_acceptedBinary commands used

/-- What a finder without a memory of earlier searches finds. -/
def found (finder : BinaryFinder) (files : FileSystem) (file : Path) : Option (Path × Scope) :=
  -- The binary of the user is there for all files, wherever they are.
  match (Lookup.firstAround files file finder.localBins).value with
  | some path => some (path, .inRepository)
  | none => finder.globalBin.map (·, .anywhere)

/-- Two answers name the same binary of the same scope, or none. -/
def SameAnswer (one other : Option (Path × Scope)) : Prop :=
  one.map (fun answer => (answer.1.components, answer.2)) =
    other.map fun answer => (answer.1.components, answer.2)

/-- A sound finder finds what it would find without its memory. -/
theorem value_resolve (sound : finder.Sound files) (file : Path) :
    SameAnswer (finder.resolve files file).value.1 (finder.found files file) := by
  have same := SearchMemo.value_findOr (fun file => Lookup.firstAround files file finder.localBins)
    sound.recalls file
  unfold resolve found
  simp only [Probed.value_bind]
  -- The memory decides between the two kinds of binaries exactly as the search does.
  cases first : (finder.memo.findOr file (Lookup.firstAround files file finder.localBins)).value.1 with
  | none => simp [SameAnswer, same.eq_none.mp first]
  | some path =>
    cases second : (Lookup.firstAround files file finder.localBins).value with
    | none => simp [SameFinding, first, second] at same
    | some other => simpa [SameAnswer, SameFinding, first, second] using same

/-- Finding a binary changes nothing but the memory. -/
theorem finder_resolve (file : Path) :
    (finder.resolve files file).value.2 =
      { finder with memo := (finder.memo.findOr file
          (Lookup.firstAround files file finder.localBins)).value.2 } := by
  unfold resolve
  simp only [Probed.value_bind]
  split <;> rfl

/-- Finding a binary keeps a finder sound. -/
theorem sound_resolve (ignores : files.IgnoresSpelling) (sound : finder.Sound files) (file : Path) :
    (finder.resolve files file).value.2.Sound files := by
  -- The memory only learns what the search finds now.
  have learned := SearchMemo.recalls_findOr
    (fun file => Lookup.firstAround files file finder.localBins) sound.recalls
    (fun _ _ equal => Lookup.firstAround_congr ignores equal _) file
  rw [finder_resolve]
  exact ⟨sound.accepted, learned, sound.runs⟩

end BinaryFinder

/-! ## Configuration files -/

/-- Whether an entry can stand in a list of candidates. -/
def isUsableCandidate (files : FileSystem) (entry : String) : Bool :=
  if isPathEntry entry then files.isReadable (Path.expandHome files.home entry)
  else isValidFileName entry

/-- The candidates that are searched for when a list of candidates is set. -/
def acceptedCandidates (files : FileSystem) (candidates : List String) : List String :=
  if candidates.all (isUsableCandidate files) then candidates else []

namespace ConfigFinder

/-- Only accepted candidates are kept, and the memory is right about them. -/
structure Sound (files : FileSystem) (finder : ConfigFinder) : Prop where
  accepted : acceptedCandidates files finder.candidates = finder.candidates
  recalls : finder.memo.Recalls fun file => (search files file finder.candidates).value

/-- A finder without candidates is sound. -/
theorem sound_ofFormatter (files : FileSystem) (formatter : String) :
    (ofFormatter formatter).Sound files :=
  ⟨rfl, SearchMemo.recalls_empty _⟩

variable {files : FileSystem} {finder : ConfigFinder}

/-- There is no invalid entry exactly if every entry is usable. -/
theorem value_firstInvalid_eq_none (files : FileSystem) (formatter : String) (candidates : List String) :
    (firstInvalid formatter files candidates).value = none ↔
      candidates.all (isUsableCandidate files) := by
  -- The first entry that is not usable is the one that is reported.
  induction candidates with
  | nil => simp [firstInvalid]
  | cons entry rest ih =>
    unfold firstInvalid
    rw [List.all_cons, Bool.and_eq_true, ← ih, isUsableCandidate]
    by_cases path : isPathEntry entry
    · by_cases readable : files.isReadable (Path.expandHome files.home entry)
      · simp [path, readable]
      · simp [path, readable]
    · by_cases valid : isValidFileName entry
      · simp [path, valid]
      · simp [path, valid]

/-- Candidates that are set are searched for as far as they are accepted, without a memory. -/
theorem value_setCandidates (candidates : List String) (changed : candidates ≠ finder.candidates) :
    (finder.setCandidates files candidates).value.1 =
      { finder with candidates := acceptedCandidates files candidates, memo := .empty } := by
  have usable := value_firstInvalid_eq_none files finder.formatter candidates
  unfold setCandidates acceptedCandidates
  simp only [changed, if_false, Probed.value_bind]
  -- The list is taken over exactly if no entry is reported.
  cases invalid : (firstInvalid finder.formatter files candidates).value with
  | none => simp [usable.mp invalid]
  | some error =>
    have refused : ¬ candidates.all (isUsableCandidate files) := by
      rw [← usable, invalid]
      simp
    simp [refused]

/-- Candidates that are set already stay with their memory. -/
theorem value_setCandidates_self :
    (finder.setCandidates files finder.candidates).value.1 = finder := by
  simp [setCandidates]

/-- Candidates that are set are searched for as far as they are accepted. -/
theorem candidates_setCandidates (sound : finder.Sound files) (candidates : List String) :
    (finder.setCandidates files candidates).value.1.candidates =
      acceptedCandidates files candidates := by
  by_cases same : candidates = finder.candidates
  · rw [same, value_setCandidates_self, sound.accepted]
  · rw [value_setCandidates candidates same]

/-- Setting candidates keeps a finder sound. -/
theorem sound_setCandidates (sound : finder.Sound files) (candidates : List String) :
    (finder.setCandidates files candidates).value.1.Sound files := by
  -- An equal list keeps its memory, which is right about it already.
  by_cases same : candidates = finder.candidates
  · rw [same, value_setCandidates_self]
    exact sound
  · have accepted : acceptedCandidates files (acceptedCandidates files candidates) =
        acceptedCandidates files candidates := by
      unfold acceptedCandidates
      split <;> simp_all
    rw [value_setCandidates candidates same]
    exact ⟨accepted, SearchMemo.recalls_empty _⟩

/-- A sound finder finds what it would find without its memory. -/
theorem value_resolve (sound : finder.Sound files) (file : Path) :
    SameFinding (finder.resolve files file).value.1 (search files file finder.candidates).value :=
  SearchMemo.value_findOr (fun file => search files file finder.candidates)
    sound.recalls file

/-- Finding a configuration file keeps a finder sound. -/
theorem sound_resolve (ignores : files.IgnoresSpelling) (sound : finder.Sound files) (file : Path) :
    (finder.resolve files file).value.2.Sound files :=
  ⟨sound.accepted, SearchMemo.recalls_findOr
    (fun file => search files file finder.candidates) sound.recalls
    (fun _ _ equal => search_congr ignores equal _) file⟩

end ConfigFinder

end FormatPipeline
