import FormatPipeline.Proofs.Formatter.History
import Mathlib.Data.List.Induction

/-! What is checked of the settings of a formatter, and what is said of a value that is refused. -/

namespace FormatPipeline

/-- Something in a history applies, and everything behind it lets that be. -/
def Since {ν : Type} (applies spares : ν → Prop) (history : List ν) : Prop :=
  ∃ earlier entry later, history = earlier ++ entry :: later ∧ applies entry ∧
    ∀ next ∈ later, spares next

/-- What applies last has nothing behind it. -/
theorem since_append {ν : Type} {applies spares : ν → Prop} (history : List ν) {entry : ν}
    (applied : applies entry) : Since applies spares (history ++ [entry]) :=
  ⟨history, entry, [], rfl, applied, by simp⟩

/-- What is spared once more still has happened. -/
theorem Since.append {ν : Type} {applies spares : ν → Prop} {history : List ν}
    (since : Since applies spares history) {entry : ν} (spared : spares entry) :
    Since applies spares (history ++ [entry]) := by
  -- The new entry comes behind everything that has spared it so far.
  obtain ⟨earlier, one, later, rfl, applied, kept⟩ := since
  refine ⟨earlier, one, later ++ [entry], by simp, applied, fun next member => ?_⟩
  rcases List.mem_append.mp member with old | new
  · exact kept next old
  · rwa [List.mem_singleton.mp new]

/-- What is wrong with a candidate that is neither a readable path nor a valid name. -/
def candidateError (files : FileSystem) (formatter entry : String) : ConfigurationError :=
  if isPathEntry entry then .invalidConfigPath formatter (Path.expandHome files.home entry)
  else .invalidConfigName formatter entry

/-- The entry that is reported is the first one that cannot be used. -/
theorem ConfigFinder.value_firstInvalid (files : FileSystem) (formatter : String)
    (candidates : List String) :
    (firstInvalid formatter files candidates).value =
      (candidates.find? (!isUsableCandidate files ·)).map (candidateError files formatter) := by
  induction candidates with
  | nil => rfl
  | cons entry rest ih =>
    unfold firstInvalid
    -- A path is probed and a name is read, and either of them ends the search if it is refused.
    by_cases path : isPathEntry entry
    · by_cases readable : files.isReadable (Path.expandHome files.home entry)
      · simp [isUsableCandidate, path, readable, ih]
      · simp [isUsableCandidate, candidateError, path, readable]
    · by_cases valid : isValidFileName entry
      · simp [isUsableCandidate, path, valid, ih]
      · simp [isUsableCandidate, candidateError, path, valid]

/-- Whether a value that is not blank spells out a binary. -/
def spellsBinary (files : FileSystem) (value : String) (binary : Path) : Bool :=
  !(Text.trim value).isEmpty && binary.same (Path.expandHome files.home (Text.trim value))

/-- A value leads to a binary: to an executable file, or to what a bare name stands for. -/
def LeadsTo (files : FileSystem) (value : String) (binary : Path) : Prop :=
  (binary = Path.expandHome files.home (Text.trim value) ∧ files.isExecutable binary) ∨
    (BinaryFinder.isCommandName (Text.trim value) ∧ files.which (Text.trim value) = some binary)

/-- A value leads nowhere: it is no executable file, and no bare name that stands for a binary. -/
structure LeadsNowhere (files : FileSystem) (value : String) : Prop where
  file : files.isExecutable (Path.expandHome files.home (Text.trim value)) = false
  command : ¬ (BinaryFinder.isCommandName (Text.trim value) ∧
    (files.which (Text.trim value)).isSome)

/-- What is accepted as a binary is what the value leads to. -/
theorem leadsTo_of_acceptedBinary {files : FileSystem} {value : String} {binary : Path}
    (accepted : acceptedBinary files value = some binary) : LeadsTo files value binary := by
  unfold acceptedBinary at accepted
  dsimp only at accepted
  -- The value was blank, an executable file, a bare name on the path, or nothing of use.
  split at accepted
  · simp at accepted
  · split at accepted
    next executable =>
      obtain rfl := Option.some.inj accepted
      exact .inl ⟨rfl, executable⟩
    next =>
      split at accepted
      next bare => exact .inr ⟨bare, accepted⟩
      next => simp at accepted

/-- Nothing is accepted exactly of blank values and of those that lead nowhere. -/
theorem acceptedBinary_eq_none (files : FileSystem) (value : String) :
    acceptedBinary files value = none ↔
      (Text.trim value).isEmpty ∨ LeadsNowhere files value := by
  unfold acceptedBinary
  dsimp only
  by_cases blank : (Text.trim value).isEmpty
  · simp [blank]
  by_cases executable : files.isExecutable (Path.expandHome files.home (Text.trim value))
  · -- An executable file is accepted.
    have leads : ¬ LeadsNowhere files value := fun nowhere => by
      simp [nowhere.file] at executable
    simp [blank, executable, leads]
  · -- Only a command can help now.
    have nowhere : LeadsNowhere files value ↔ ¬ (BinaryFinder.isCommandName (Text.trim value) ∧
        (files.which (Text.trim value)).isSome) :=
      ⟨LeadsNowhere.command, fun command => ⟨by simpa using executable, command⟩⟩
    by_cases bare : BinaryFinder.isCommandName (Text.trim value)
    · cases found : files.which (Text.trim value) <;> simp [blank, executable, bare, nowhere, found]
    · simp [blank, executable, bare, nowhere]

/-- Nothing is wrong with blank values, those that spell the binary in use, and accepted ones. -/
theorem BinaryFinder.error_setGlobalBin (finder : BinaryFinder) (files : FileSystem)
    (value : String) :
    (finder.setGlobalBin files value).value.2 =
      if (Text.trim value).isEmpty || finder.globalBin.any (spellsBinary files value ·) ||
        (acceptedBinary files value).isSome then none
      else some (.invalidGlobalBinPath finder.formatter
        (Path.expandHome files.home (Text.trim value))) := by
  unfold setGlobalBin
  -- These are the tests of the definition, one after another.
  by_cases blank : (Text.trim value).isEmpty
  · simp [blank]
  by_cases known : finder.globalBin.any (·.same (Path.expandHome files.home (Text.trim value)))
  · simp [spellsBinary, blank, known]
  by_cases executable : files.isExecutable (Path.expandHome files.home (Text.trim value))
  · simp [acceptedBinary, spellsBinary, blank, known, executable]
  by_cases bare : isCommandName (Text.trim value)
  · have accepted : acceptedBinary files value = files.which (Text.trim value) := by
      simp [acceptedBinary, blank, executable, bare]
    cases found : files.which (Text.trim value) <;>
      simp [spellsBinary, accepted, blank, known, executable, bare, found]
  · simp [acceptedBinary, spellsBinary, blank, known, executable, bare]

/-- Names that are in use stay in use, with everything that is remembered. -/
theorem BinaryFinder.setLocalBins_self (finder : BinaryFinder) :
    finder.setLocalBins finder.localBins = (finder, none) := if_pos rfl

/-- Other names are taken over without a memory, unless one of them is refused. -/
theorem BinaryFinder.setLocalBins_of_ne {finder : BinaryFinder} {names : List String}
    (changed : names ≠ finder.localBins) :
    finder.setLocalBins names =
      ({ finder with localBins := acceptedNames names, memo := .empty },
        (names.find? (!isValidFileName ·)).map (.invalidLocalBinName finder.formatter ·)) := by
  unfold setLocalBins acceptedNames
  rw [if_neg changed]
  -- Either all names are valid, or the first that is not is reported and nothing is kept.
  cases refused : names.find? (!isValidFileName ·) with
  | none =>
    have all : names.all isValidFileName := by simpa using refused
    simp [all]
  | some entry =>
    have some : ¬ names.all isValidFileName := fun all => by
      have none : names.find? (!isValidFileName ·) = none := by simpa using all
      simp [none] at refused
    simp [some]

/-- What is reported of other candidates is the first one that cannot be used. -/
theorem ConfigFinder.error_setCandidates {finder : ConfigFinder} {files : FileSystem}
    {candidates : List String} (changed : candidates ≠ finder.candidates) :
    (finder.setCandidates files candidates).value.2 =
      (candidates.find? (!isUsableCandidate files ·)).map
        (candidateError files finder.formatter) := by
  rw [← value_firstInvalid]
  unfold setCandidates
  simp only [changed, if_false, Probed.value_bind]
  -- The first invalid entry decides, whatever was asked to find it.
  cases (firstInvalid finder.formatter files candidates).value <;> rfl

namespace Formatter

/-- The lists of a formatter whose entries are checked whenever they are set. -/
inductive Checked where
  | localBins
  | localConfigs
  | globalConfigs
  deriving DecidableEq

namespace Checked

/-- The entries that are in use. -/
def entries (formatter : Formatter) : Checked → List String
  | localBins => formatter.binaries.localBins
  | localConfigs => formatter.localConfigs.candidates
  | globalConfigs => formatter.globalConfigs.candidates

/-- The setting that gives the list its entries. -/
def setting (entries : List String) : Checked → Setting
  | localBins => .localBins entries
  | localConfigs => .localConfigs entries
  | globalConfigs => .globalConfigs entries

/-- Whether an entry can stand in the list. -/
def accepts (files : FileSystem) (entry : String) : Checked → Bool
  | localBins => isValidFileName entry
  | localConfigs | globalConfigs => isUsableCandidate files entry

/-- What is wrong with an entry that cannot stand in the list. -/
def error (files : FileSystem) (formatter entry : String) : Checked → ConfigurationError
  | localBins => .invalidLocalBinName formatter entry
  | localConfigs | globalConfigs => candidateError files formatter entry

/-- The formatter with other entries in the list, and nothing remembered of the earlier ones. -/
def renew (formatter : Formatter) (entries : List String) : Checked → Formatter
  -- The memory holds results of searches with the earlier entries, so it goes with them.
  | localBins =>
    { formatter with
      binaries := { formatter.binaries with localBins := entries, memo := .empty } }
  | localConfigs =>
    { formatter with
      localConfigs := { formatter.localConfigs with candidates := entries, memo := .empty } }
  | globalConfigs =>
    { formatter with
      globalConfigs := { formatter.globalConfigs with candidates := entries, memo := .empty } }

/-- The first entry that cannot stand in the list. -/
def offender? (files : FileSystem) (entries : List String) (list : Checked) : Option String :=
  entries.find? (!list.accepts files ·)

/-- What is left of entries that are set. -/
def accepted (files : FileSystem) (entries : List String) : Checked → List String
  | localBins => acceptedNames entries
  | localConfigs | globalConfigs => acceptedCandidates files entries

/-- Entries are accepted all together, or none of them is. -/
theorem accepted_eq (files : FileSystem) (entries : List String) (list : Checked) :
    list.accepted files entries = if entries.all (list.accepts files ·) then entries else [] := by
  cases list <;> rfl

/-- Entries of which one is refused are dropped. -/
theorem accepted_of_offender {files : FileSystem} {entries : List String} {list : Checked}
    {entry : String} (refused : list.offender? files entries = some entry) :
    list.accepted files entries = [] := by
  have failing : list.accepts files entry = false := by simpa using List.find?_some refused
  have member := List.mem_of_find?_eq_some refused
  -- A refused entry cannot be among those that are all accepted.
  have some : ¬ entries.all (list.accepts files ·) := fun all => by
    simp [List.all_eq_true.mp all entry member] at failing
  rw [accepted_eq, if_neg some]

/-- Entries that are renewed are in use, and the other lists stay as they are. -/
theorem entries_renew (formatter : Formatter) (entries : List String) (list other : Checked) :
    other.entries (list.renew formatter entries) =
      if other = list then entries else other.entries formatter := by
  cases list <;> cases other <;> rfl

/-- Renewing entries keeps the binary of the user. -/
@[simp] theorem globalBin_renew (formatter : Formatter) (entries : List String) (list : Checked) :
    (list.renew formatter entries).binaries.globalBin = formatter.binaries.globalBin := by
  cases list <;> rfl

end Checked

/-- The finders of a formatter speak of it by its name. -/
structure Named (formatter : Formatter) (name : String) : Prop where
  own : formatter.name = name
  binaries : formatter.binaries.formatter = name
  localConfigs : formatter.localConfigs.formatter = name
  globalConfigs : formatter.globalConfigs.formatter = name

/-- A formatter without any settings speaks of itself by its name. -/
theorem named_ofProfile (profile : Profile) : (ofProfile profile).Named profile.name :=
  ⟨rfl, rfl, rfl, rfl⟩

/-- Renewing entries keeps the name. -/
theorem Named.renew {formatter : Formatter} {name : String} (named : formatter.Named name)
    (entries : List String) (list : Checked) : (list.renew formatter entries).Named name := by
  cases list <;> exact ⟨named.own, named.binaries, named.localConfigs, named.globalConfigs⟩

/-- The formatter with another binary of the user. -/
def withGlobalBin (formatter : Formatter) (binary : Option Path) : Formatter :=
  { formatter with binaries := { formatter.binaries with globalBin := binary } }

variable {files : FileSystem}

/-- Setting the list in use changes nothing. -/
theorem after_checked_self (formatter : Formatter) (list : Checked) :
    formatter.after files (.set (list.setting (list.entries formatter))) = formatter := by
  cases list <;> simp only [Checked.setting, Checked.entries, after,
    BinaryFinder.setLocalBins_self, ConfigFinder.value_setCandidates_self]

/-- Setting another list renews it, as far as its entries are accepted. -/
theorem after_checked_of_ne (files : FileSystem) {formatter : Formatter} {entries : List String}
    {list : Checked} (changed : entries ≠ list.entries formatter) :
    formatter.after files (.set (list.setting entries)) =
      list.renew formatter (list.accepted files entries) := by
  -- Both kinds of lists are replaced by what was accepted, without a memory.
  cases list with
  | localBins =>
    simp only [Checked.setting, after, BinaryFinder.setLocalBins_of_ne changed]
    rfl
  | localConfigs | globalConfigs =>
    simp only [Checked.setting, after, ConfigFinder.value_setCandidates entries changed]
    rfl

/-- A list that is set is in use if it was that already, or if all its entries are accepted. -/
theorem entries_after_checked (files : FileSystem) (formatter : Formatter) (entries : List String)
    (list : Checked) :
    list.entries (formatter.after files (.set (list.setting entries))) =
      if entries = list.entries formatter ∨ entries.all (list.accepts files ·) then entries else [] := by
  -- A list that is set again is left alone, and otherwise its check decides.
  by_cases same : entries = list.entries formatter
  · rw [same, after_checked_self, if_pos (.inl rfl)]
  · rw [after_checked_of_ne files same, Checked.entries_renew, if_pos rfl, Checked.accepted_eq]
    simp only [same, false_or]

/-- What is reported when a list is set. -/
def Checked.refusal (files : FileSystem) (formatter : Formatter) (entries : List String) :
    Checked → Option ConfigurationError
  | localBins => (formatter.binaries.setLocalBins entries).2
  | localConfigs => (formatter.localConfigs.setCandidates files entries).value.2
  | globalConfigs => (formatter.globalConfigs.setCandidates files entries).value.2

/-- How many questions about files are asked when a list is set. -/
def Checked.questions (files : FileSystem) (formatter : Formatter) (entries : List String) :
    Checked → Nat
  -- Whether a text is a file name can be seen from the text.
  | localBins => 0
  | localConfigs => (formatter.localConfigs.setCandidates files entries).probes
  | globalConfigs => (formatter.globalConfigs.setCandidates files entries).probes

/-- Nothing is reported or asked of the list in use. -/
theorem Checked.untouched_self (files : FileSystem) (formatter : Formatter) (list : Checked) :
    list.refusal files formatter (list.entries formatter) = none ∧
      list.questions files formatter (list.entries formatter) = 0 := by
  -- The setters look at the old list first, and ask nothing if it is the same.
  cases list with
  | localBins => exact ⟨congrArg Prod.snd (BinaryFinder.setLocalBins_self _), rfl⟩
  | localConfigs | globalConfigs =>
    simp only [refusal, questions, entries, ConfigFinder.setCandidates, if_true]
    exact ⟨rfl, rfl⟩

/-- What is reported of another list is its first entry that is refused. -/
theorem Checked.refusal_of_ne (files : FileSystem) {formatter : Formatter} {name : String}
    (named : formatter.Named name) {entries : List String} {list : Checked}
    (changed : entries ≠ list.entries formatter) :
    list.refusal files formatter entries =
      (list.offender? files entries).map (list.error files name) := by
  -- The names of the finders are those of the formatter, which the report carries.
  cases list with
  | localBins =>
    rw [refusal, BinaryFinder.setLocalBins_of_ne changed, named.binaries]
    rfl
  | localConfigs =>
    rw [refusal, ConfigFinder.error_setCandidates changed, named.localConfigs]
    rfl
  | globalConfigs =>
    rw [refusal, ConfigFinder.error_setCandidates changed, named.globalConfigs]
    rfl

/-- Setting the binary of the user keeps the one that the value spells. -/
theorem after_globalBin (formatter : Formatter) (value : String) :
    formatter.after files (.set (.globalBin value)) =
      formatter.withGlobalBin
        (if formatter.binaries.globalBin.any (spellsBinary files value ·)
          then formatter.binaries.globalBin else acceptedBinary files value) := by
  -- Whether the old binary is kept depends on what the value spells now.
  have spelled : formatter.binaries.isSpelledBy files value =
      formatter.binaries.globalBin.any (spellsBinary files value ·) := by
    unfold BinaryFinder.isSpelledBy spellsBinary
    cases formatter.binaries.globalBin <;> simp
  rw [← spelled, after, BinaryFinder.value_setGlobalBin]
  rfl

/-- A formatter differs from an earlier one only in what it remembers. -/
structure OnlyRemembers (earlier later : Formatter) : Prop where
  profile : later.profile = earlier.profile
  binaries : later.binaries = { earlier.binaries with memo := later.binaries.memo }
  localConfigs : later.localConfigs = { earlier.localConfigs with memo := later.localConfigs.memo }
  globalConfigs :
    later.globalConfigs = { earlier.globalConfigs with memo := later.globalConfigs.memo }

/-- Asking for an invocation is only remembered. -/
theorem onlyRemembers_resolve (files : FileSystem) (formatter : Formatter) (file : Path) (mode : Mode) :
    formatter.OnlyRemembers (formatter.after files (.resolve file mode)) := by
  unfold after resolve
  simp only [Probed.value_bind]
  rw [BinaryFinder.finder_resolve]
  -- Without a binary only its search is remembered, and the scope decides about the other one.
  split
  next => exact ⟨rfl, rfl, rfl, rfl⟩
  next path scope _ => cases scope <;> exact ⟨rfl, rfl, rfl, rfl⟩

/-- What is only remembered is neither an entry of a list nor the binary of the user. -/
theorem OnlyRemembers.kept {earlier later : Formatter} (only : earlier.OnlyRemembers later) :
    (∀ list : Checked, list.entries later = list.entries earlier) ∧
      later.binaries.globalBin = earlier.binaries.globalBin := by
  refine ⟨fun list => ?_, by rw [only.binaries]⟩
  -- No list is part of what is remembered.
  cases list with
  | localBins => simp only [Checked.entries]; rw [only.binaries]
  | localConfigs => simp only [Checked.entries]; rw [only.localConfigs]
  | globalConfigs => simp only [Checked.entries]; rw [only.globalConfigs]

/-- A formatter keeps its name however it is used. -/
theorem Named.after {formatter : Formatter} {name : String} (named : formatter.Named name)
    (files : FileSystem) (call : Call) : (formatter.after files call).Named name := by
  -- A list that is set keeps the name whether it changes or not.
  have checked : ∀ (entries : List String) (list : Checked),
      (formatter.after files (.set (list.setting entries))).Named name := by
    intro entries list
    by_cases same : entries = list.entries formatter
    · rw [same, after_checked_self]
      exact named
    · rw [after_checked_of_ne files same]
      exact named.renew _ list
  cases call with
  -- Resolving changes memories only, and every setting keeps the profile.
  | resolve file mode =>
    have only := onlyRemembers_resolve files formatter file mode
    refine ⟨(congrArg Profile.name only.profile).trans named.own, ?_, ?_, ?_⟩
    · rw [only.binaries]; exact named.binaries
    · rw [only.localConfigs]; exact named.localConfigs
    · rw [only.globalConfigs]; exact named.globalConfigs
  | set setting =>
    cases setting with
    | localBins names => exact checked names .localBins
    | localConfigs candidates => exact checked candidates .localConfigs
    | globalConfigs candidates => exact checked candidates .globalConfigs
    | globalBin value =>
      rw [after_globalBin]
      exact ⟨named.own, named.binaries, named.localConfigs, named.globalConfigs⟩
    | localArguments | globalArguments =>
      exact ⟨named.own, named.binaries, named.localConfigs, named.globalConfigs⟩

/-! ## Histories of calls -/

/-- What a formatter holds was valid when it was set, at a call of the history behind which nothing
else was set. -/
structure Holds (history : List (FileSystem × Call)) (formatter : Formatter) : Prop where
  lists : ∀ list : Checked, list.entries formatter = [] ∨
    Since (fun (files, call) => call = .set (list.setting (list.entries formatter)) ∧
        ∀ entry ∈ list.entries formatter, list.accepts files entry)
      (fun (_, call) => ∀ entries, call = .set (list.setting entries) →
        entries = list.entries formatter) history
  binary : ∀ binary, formatter.binaries.globalBin = some binary →
    Since (fun (files, call) => ∃ value, call = .set (.globalBin value) ∧ LeadsTo files value binary)
      (fun (files, call) => ∀ value, call = .set (.globalBin value) →
        spellsBinary files value binary) history

/-- A formatter without any settings holds nothing. -/
theorem holds_ofProfile (profile : Profile) : (ofProfile profile).Holds [] :=
  ⟨fun list => .inl (by cases list <;> rfl), fun binary stored => by cases stored⟩

/-- A list changes only when it is set. -/
theorem entries_after_of_ne {formatter : Formatter} {call : Call} {list : Checked}
    (other : ∀ entries, call ≠ .set (list.setting entries)) :
    list.entries (formatter.after files call) = list.entries formatter := by
  -- A call that sets another list renews only that one.
  have apart : ∀ (entries : List String) (also : Checked), call = .set (also.setting entries) →
      list.entries (formatter.after files (.set (also.setting entries))) = list.entries formatter := by
    intro entries also set
    have different : list ≠ also := fun same => other entries (same ▸ set)
    by_cases same : entries = also.entries formatter
    · rw [same, after_checked_self]
    · rw [after_checked_of_ne files same, Checked.entries_renew, if_neg different]
  cases call with
  | resolve file mode => exact (onlyRemembers_resolve files formatter file mode).kept.1 list
  | set setting =>
    cases setting with
    | localBins names => exact apart names .localBins rfl
    | localConfigs candidates => exact apart candidates .localConfigs rfl
    | globalConfigs candidates => exact apart candidates .globalConfigs rfl
    | globalBin value =>
      rw [after_globalBin]
      cases list <;> rfl
    | localArguments | globalArguments => cases list <;> rfl

/-- The binary of the user changes only when it is set. -/
theorem globalBin_after_of_ne {formatter : Formatter} {call : Call}
    (other : ∀ value, call ≠ .set (.globalBin value)) :
    (formatter.after files call).binaries.globalBin = formatter.binaries.globalBin := by
  -- A list that is set leaves the binary alone whether it changes or not.
  have apart : ∀ (entries : List String) (list : Checked),
      (formatter.after files (.set (list.setting entries))).binaries.globalBin =
        formatter.binaries.globalBin := by
    intro entries list
    by_cases same : entries = list.entries formatter
    · rw [same, after_checked_self]
    · rw [after_checked_of_ne files same, Checked.globalBin_renew]
  cases call with
  -- Of the settings only one is about the binary.
  | resolve file mode => exact (onlyRemembers_resolve files formatter file mode).kept.2
  | set setting =>
    cases setting with
    | localBins names => exact apart names .localBins
    | localConfigs candidates => exact apart candidates .localConfigs
    | globalConfigs candidates => exact apart candidates .globalConfigs
    | globalBin value => exact absurd rfl (other value)
    | localArguments | globalArguments => rfl

/-- After a call a formatter holds what the longer history gave it. -/
theorem Holds.after {history : List (FileSystem × Call)} {formatter : Formatter}
    (holds : formatter.Holds history) (call : Call) :
    (formatter.after files call).Holds (history ++ [(files, call)]) := by
  refine ⟨fun list => ?_, fun binary used => ?_⟩
  · by_cases set : ∃ entries, call = .set (list.setting entries)
    · obtain ⟨entries, rfl⟩ := set
      by_cases same : entries = list.entries formatter
      · -- The list in use stays, and setting it again spares it.
        rw [same, after_checked_self]
        refine (holds.lists list).imp_right fun since => since.append fun others again => ?_
        cases list <;> simpa [Checked.setting] using again.symm
      · -- A new list is taken over now, or it leaves nothing.
        rw [after_checked_of_ne files same, Checked.entries_renew, if_pos rfl, Checked.accepted_eq]
        split
        next all => exact .inr (since_append _ ⟨rfl, by simpa using all⟩)
        next => exact .inl rfl
    · rw [not_exists] at set
      rw [entries_after_of_ne set]
      exact (holds.lists list).imp_right fun since =>
        since.append fun entries again => absurd again (set entries)
  · by_cases set : ∃ value, call = .set (.globalBin value)
    · obtain ⟨value, rfl⟩ := set
      rw [after_globalBin] at used
      change (if formatter.binaries.globalBin.any (spellsBinary files value ·)
        then formatter.binaries.globalBin else acceptedBinary files value) = some binary at used
      split at used
      next spelled =>
        -- The binary in use stays, and a value that spells it spares it.
        refine (holds.binary binary used).append fun other again => ?_
        cases again
        simpa [used] using spelled
      next => exact since_append _ ⟨value, rfl, leadsTo_of_acceptedBinary used⟩
    · rw [not_exists] at set
      rw [globalBin_after_of_ne set] at used
      exact (holds.binary binary used).append fun value again => absurd again (set value)

/-- The formatter of a profile after a history of calls, each with the files at its moment. -/
def afterAll (profile : Profile) (history : List (FileSystem × Call)) : Formatter :=
  history.foldl (fun formatter (files, call) => formatter.after files call) (ofProfile profile)

/-- One more call is made of the formatter that the earlier ones have left. -/
theorem afterAll_append (profile : Profile) (history : List (FileSystem × Call)) (files : FileSystem)
    (call : Call) : afterAll profile (history ++ [(files, call)]) =
      (afterAll profile history).after files call := by
  simp [afterAll]

/-- What holds of a formatter without settings, and is kept by each call of a history, holds of the
formatter after the history. -/
theorem afterAll_keeps {holds : List (FileSystem × Call) → Formatter → Prop} {profile : Profile}
    (begins : holds [] (ofProfile profile)) (history : List (FileSystem × Call))
    (keeps : ∀ {earlier formatter files call}, (files, call) ∈ history → holds earlier formatter →
      holds (earlier ++ [(files, call)]) (formatter.after files call)) :
    holds history (afterAll profile history) := by
  -- The induction takes calls from the end, where the last one was made.
  induction history using List.reverseRecOn with
  | nil => exact begins
  | append_singleton earlier entry ih =>
    obtain ⟨files, call⟩ := entry
    rw [afterAll_append]
    exact keeps (by simp) (ih fun member => keeps (by simp [member]))

end Formatter

end FormatPipeline
