import FormatPipeline.Proofs.Formatter.Answers

/-! What a formatter answers depends on the last values of its settings, and on no earlier history. -/

namespace FormatPipeline

open Settings (Slot)

namespace Formatter

/-- One of the settings of a formatter with the value that it is given. -/
inductive Setting where
  | localBins (names : List String)
  | localArguments (arguments : List String)
  | localConfigs (candidates : List String)
  | globalBin (value : String)
  | globalArguments (arguments : List String)
  | globalConfigs (candidates : List String)

/-- Which setting is given a value. -/
def Setting.slot : Setting → Slot
  | localBins _ => .localBins
  | localArguments _ => .localArguments
  | localConfigs _ => .localConfigs
  | globalBin _ => .globalBinPath
  | globalArguments _ => .globalArguments
  | globalConfigs _ => .globalConfigs

/-- The value as a list of texts. -/
def Setting.texts : Setting → List String
  | localBins names => names
  | localArguments arguments => arguments
  | localConfigs candidates => candidates
  | globalBin value => [value]
  | globalArguments arguments => arguments
  | globalConfigs candidates => candidates

/-- One use of a formatter: a setting is given a value, or an invocation is asked for. -/
inductive Call where
  | set (setting : Setting)
  | resolve (file : Path) (mode : Mode)

/-- The setting that a call gives a value. -/
def Call.setting? : Call → Option Setting
  | set setting => some setting
  | resolve .. => none

/-- All settings of a formatter. -/
def slots : List Slot :=
  [.localBins, .localArguments, .localConfigs, .globalBinPath, .globalArguments, .globalConfigs]

/-- The last value that a setting is given in a history. -/
def latest? (slot : Slot) (history : List Call) : Option Setting :=
  (history.filterMap Call.setting?).findRev? (·.slot == slot)

/-- The last values of all settings that are given one in a history. -/
def lastSettings (history : List Call) : List Setting := slots.filterMap (latest? · history)

variable {files : FileSystem}

/-- The formatter after a call. -/
def after (files : FileSystem) (formatter : Formatter) : Call → Formatter
  | .set (.localBins names) =>
    { formatter with binaries := (formatter.binaries.setLocalBins names).1 }
  | .set (.localArguments arguments) => { formatter with localArguments := arguments }
  | .set (.localConfigs candidates) =>
    { formatter with localConfigs := (formatter.localConfigs.setCandidates files candidates).value.1 }
  | .set (.globalBin value) =>
    { formatter with binaries := (formatter.binaries.setGlobalBin files value).value.1 }
  | .set (.globalArguments arguments) => { formatter with globalArguments := arguments }
  | .set (.globalConfigs candidates) =>
    { formatter with globalConfigs := (formatter.globalConfigs.setCandidates files candidates).value.1 }
  -- What was found out about the file is remembered.
  | .resolve file mode => (formatter.resolve files file mode).value.2

/-- A formatter keeps its profile. -/
theorem profile_after (formatter : Formatter) (call : Call) :
    (formatter.after files call).profile = formatter.profile := by
  cases call with
  | resolve file mode => exact (setAlike_resolve _ formatter file mode).profile.symm
  | set setting => cases setting <;> simp only [after]

/-- The arguments of the user for binaries in repositories change only when they are set. -/
theorem localArguments_after (formatter : Formatter) (setting : Setting) :
    (formatter.after files (.set setting)).localArguments =
      if setting.slot = .localArguments then setting.texts else formatter.localArguments := by
  cases setting <;> simp [after, Setting.slot, Setting.texts]

/-- The arguments of the user for other binaries change only when they are set. -/
theorem globalArguments_after (formatter : Formatter) (setting : Setting) :
    (formatter.after files (.set setting)).globalArguments =
      if setting.slot = .globalArguments then setting.texts else formatter.globalArguments := by
  cases setting <;> simp [after, Setting.slot, Setting.texts]

/-- Every use of a sound formatter leaves a sound formatter. -/
theorem sound_after (ignores : files.IgnoresSpelling) (commands : files.RunsCommands)
    {formatter : Formatter} (sound : formatter.Sound files) (call : Call) :
    (formatter.after files call).Sound files := by
  -- Each setting has its own finder or its own arguments.
  cases call with
  | resolve file mode => exact sound_resolve ignores sound file mode
  | set setting =>
    cases setting with
    | localBins names =>
      exact sound.withBinaries (BinaryFinder.sound_setLocalBins sound.binaries names)
    | localArguments => exact { sound with }
    | localConfigs candidates =>
      exact { sound with
        localConfigs := ConfigFinder.sound_setCandidates sound.localConfigs candidates }
    | globalBin value =>
      have binaries := BinaryFinder.sound_setGlobalBin commands sound.binaries value
      exact sound.withBinaries binaries
    | globalArguments => exact { sound with }
    | globalConfigs candidates =>
      exact { sound with
        globalConfigs := ConfigFinder.sound_setCandidates sound.globalConfigs candidates }

/-! ## The last values -/

/-- The last value of a setting is a value of that setting. -/
theorem slot_of_latest? {slot : Slot} {history : List Call} {setting : Setting}
    (last : latest? slot history = some setting) : setting.slot = slot := by
  -- Searching from the end is searching the reversed history from its beginning.
  rw [latest?, List.findRev?_eq_find?_reverse] at last
  simpa using List.find?_some last

/-- The last values are exactly the values that some setting was given last. -/
theorem mem_lastSettings {history : List Call} {setting : Setting} :
    setting ∈ lastSettings history ↔ latest? setting.slot history = some setting := by
  constructor
  · -- A last value is listed under its own setting.
    intro member
    obtain ⟨slot, -, last⟩ := List.mem_filterMap.mp member
    rwa [slot_of_latest? last]
  · -- All settings are asked for their last value, so that none is left out.
    intro last
    refine List.mem_filterMap.mpr ⟨setting.slot, ?_, last⟩
    cases setting.slot <;> simp [slots]

/-- Giving the settings only their last values, in any order, gives them the same last values. -/
theorem latest?_of_perm {history : List Call} {applied : List Setting}
    (last : applied.Perm (lastSettings history)) (slot : Slot) :
    latest? slot (applied.map .set) = latest? slot history := by
  -- No setting is given two values, so that the order does not matter.
  have given : (applied.map Call.set).filterMap Call.setting? = applied := by
    rw [List.filterMap_map]
    simp [Function.comp_def, Call.setting?]
  have unique : ∀ setting, setting ∈ applied ↔ latest? setting.slot history = some setting :=
    fun setting => last.mem_iff.trans mem_lastSettings
  rw [latest?, given, List.findRev?_eq_find?_reverse]
  -- Whatever is found was the last value of its setting in the history.
  cases found : applied.reverse.find? (·.slot == slot) with
  | some setting =>
    have member : setting ∈ applied := by simpa using List.mem_of_find?_eq_some found
    have same : setting.slot = slot := by simpa using List.find?_some found
    rw [← same, (unique setting).mp member]
  | none =>
    -- Nothing is found only if the history gave the setting no value.
    cases present : latest? slot history with
    | none => rfl
    | some setting =>
      have same := slot_of_latest? present
      have member : setting ∈ applied := (unique setting).mpr (same ▸ present)
      have missing := List.find?_eq_none.mp found setting (by simpa using member)
      simp [same] at missing

/-! ## What a history leaves behind -/

/-- The values that the settings of a formatter were given last. -/
structure Values where
  localBins : List String
  localArguments : List String
  localConfigs : List String
  globalBin : String
  globalArguments : List String
  globalConfigs : List String

/-- The texts that a setting was given last; without any it is empty. -/
def lastTexts (slot : Slot) (history : List Call) : List String :=
  ((latest? slot history).map Setting.texts).getD []

/-- The values after a history. -/
def Values.ofHistory (history : List Call) : Values where
  localBins := lastTexts .localBins history
  localArguments := lastTexts .localArguments history
  localConfigs := lastTexts .localConfigs history
  -- Without any value the setting is as good as empty.
  globalBin := (lastTexts .globalBinPath history).headD ""
  globalArguments := lastTexts .globalArguments history
  globalConfigs := lastTexts .globalConfigs history

/-- The values after one more setting is given one. -/
def Values.give (values : Values) : Setting → Values
  | .localBins names => { values with localBins := names }
  | .localArguments arguments => { values with localArguments := arguments }
  | .localConfigs candidates => { values with localConfigs := candidates }
  | .globalBin value => { values with globalBin := value }
  | .globalArguments arguments => { values with globalArguments := arguments }
  | .globalConfigs candidates => { values with globalConfigs := candidates }

/-- One more value replaces the last one of its setting. -/
theorem lastTexts_append (slot : Slot) (history : List Call) (setting : Setting) :
    lastTexts slot (history ++ [.set setting]) =
      if setting.slot = slot then setting.texts else lastTexts slot history := by
  unfold lastTexts latest?
  -- The new value is looked at first, and it counts only for its own setting.
  by_cases same : setting.slot = slot
  · simp [Call.setting?, same]
  · simp [Call.setting?, same]

/-- The values after a longer history are those before with the new one among them. -/
theorem ofHistory_set (history : List Call) (setting : Setting) :
    Values.ofHistory (history ++ [.set setting]) = (Values.ofHistory history).give setting := by
  cases setting <;> simp [Values.ofHistory, Values.give, lastTexts_append, Setting.slot, Setting.texts]

/-- Asking for an invocation gives no setting a value. -/
theorem ofHistory_resolve (history : List Call) (file : Path) (mode : Mode) :
    Values.ofHistory (history ++ [.resolve file mode]) = Values.ofHistory history := by
  -- An invocation is no value of any setting.
  have kept : ∀ slot, lastTexts slot (history ++ [.resolve file mode]) = lastTexts slot history := by
    intro slot
    have ignored : [Call.resolve file mode].filterMap Call.setting? = [] := rfl
    unfold lastTexts latest?
    rw [List.filterMap_append, ignored, List.append_nil]
  simp only [Values.ofHistory, kept]

/-- The formatter is set to what is accepted of some values. -/
structure Shows (files : FileSystem) (values : Values) (formatter : Formatter) : Prop where
  localBins : formatter.binaries.localBins = acceptedNames values.localBins
  globalBin : SameFinding formatter.binaries.globalBin (acceptedBinary files values.globalBin)
  localConfigs : formatter.localConfigs.candidates = acceptedCandidates files values.localConfigs
  globalConfigs : formatter.globalConfigs.candidates = acceptedCandidates files values.globalConfigs
  localArguments : formatter.localArguments = values.localArguments
  globalArguments : formatter.globalArguments = values.globalArguments

/-- A formatter without any settings shows the empty history. -/
theorem shows_ofProfile (files : FileSystem) (profile : Profile) :
    (ofProfile profile).Shows files (.ofHistory []) where
  localBins := rfl
  globalBin := rfl
  localConfigs := rfl
  globalConfigs := rfl
  localArguments := rfl
  globalArguments := rfl

/-- A formatter that is set in the same way as another one shows the same values. -/
theorem Shows.of_setAlike {values : Values} {one other : Formatter} (shows : one.Shows files values)
    (alike : one.SetAlike other) : other.Shows files values where
  localBins := alike.localBins ▸ shows.localBins
  globalBin := Eq.trans (Eq.symm alike.globalBin) shows.globalBin
  localConfigs := alike.localConfigs ▸ shows.localConfigs
  globalConfigs := alike.globalConfigs ▸ shows.globalConfigs
  localArguments := alike.localArguments ▸ shows.localArguments
  globalArguments := alike.globalArguments ▸ shows.globalArguments

/-- Formatters for one profile that show the same values are set in the same way. -/
theorem setAlike_of_shows {values : Values} {one other : Formatter}
    (profile : one.profile = other.profile) (ones : one.Shows files values)
    (others : other.Shows files values) : one.SetAlike other where
  -- Each setting is what was accepted of the same value.
  profile := profile
  localBins := ones.localBins.trans others.localBins.symm
  globalBin := Eq.trans ones.globalBin (Eq.symm others.globalBin)
  localConfigs := ones.localConfigs.trans others.localConfigs.symm
  globalConfigs := ones.globalConfigs.trans others.globalConfigs.symm
  localArguments := ones.localArguments.trans others.localArguments.symm
  globalArguments := ones.globalArguments.trans others.globalArguments.symm

/-- A formatter that is given a value shows it among the values that it showed before. -/
theorem shows_set (ignores : files.IgnoresSpelling) {formatter : Formatter}
    (sound : formatter.Sound files) {values : Values} (shows : formatter.Shows files values)
    (setting : Setting) : (formatter.after files (.set setting)).Shows files (values.give setting) := by
  -- A setting belongs to one part of the formatter, and the other parts stay as they are.
  cases setting with
  | localBins names =>
    -- The names and the binary of the user share a finder, so that the one keeps the other.
    have kept := BinaryFinder.globalBin_setLocalBins formatter.binaries names
    have searched := BinaryFinder.localBins_setLocalBins sound.binaries names
    show Shows files _ { formatter with binaries := (formatter.binaries.setLocalBins names).1 }
    generalize (formatter.binaries.setLocalBins names).1 = finder at kept searched
    have used := shows.globalBin
    rw [← kept] at used
    exact { shows with localBins := searched, globalBin := used }
  | localArguments => exact { shows with localArguments := rfl }
  | localConfigs candidates =>
    exact { shows with
      localConfigs := ConfigFinder.candidates_setCandidates sound.localConfigs candidates }
  | globalBin value =>
    have kept := BinaryFinder.localBins_setGlobalBin formatter.binaries files value
    have used := BinaryFinder.globalBin_setGlobalBin ignores sound.binaries value
    -- How the finder comes to its binary does not matter any more.
    show Shows files _ { formatter with binaries := (formatter.binaries.setGlobalBin files value).value.1 }
    generalize (formatter.binaries.setGlobalBin files value).value.1 = finder at kept used
    exact { shows with localBins := kept.trans shows.localBins, globalBin := used }
  | globalArguments => exact { shows with globalArguments := rfl }
  | globalConfigs candidates =>
    exact { shows with
      globalConfigs := ConfigFinder.candidates_setCandidates sound.globalConfigs candidates }

/-- After one more call a formatter shows the longer history. -/
theorem shows_after (ignores : files.IgnoresSpelling) {formatter : Formatter}
    (sound : formatter.Sound files) {history : List Call}
    (shows : formatter.Shows files (.ofHistory history)) (call : Call) :
    (formatter.after files call).Shows files (.ofHistory (history ++ [call])) := by
  -- A question about a file sets nothing, so it leaves what is shown as it was.
  cases call with
  | set setting =>
    rw [ofHistory_set]
    exact shows_set ignores sound shows setting
  | resolve file mode =>
    rw [ofHistory_resolve]
    exact shows.of_setAlike (setAlike_resolve _ formatter file mode)

/-- After any history a formatter is sound, has its profile, and shows the values given last. -/
theorem shows_history (ignores : files.IgnoresSpelling) (commands : files.RunsCommands)
    (profile : Profile) (history : List Call) :
    let formatter := history.foldl (after files) (ofProfile profile)
    formatter.Sound files ∧ formatter.profile = profile ∧
      formatter.Shows files (.ofHistory history) := by
  -- What holds after an earlier part of the history goes on to hold call by call.
  have goesOn : ∀ (rest earlier : List Call) (formatter : Formatter), formatter.Sound files →
      formatter.profile = profile → formatter.Shows files (.ofHistory earlier) →
      (rest.foldl (after files) formatter).Sound files ∧
        (rest.foldl (after files) formatter).profile = profile ∧
        (rest.foldl (after files) formatter).Shows files (.ofHistory (earlier ++ rest)) := by
    -- The history grows to the right while the induction takes calls from the left.
    intro rest
    induction rest with
    | nil =>
      intro earlier formatter sound profiled shows
      exact ⟨sound, profiled, by simpa using shows⟩
    | cons call rest ih =>
      intro earlier formatter sound profiled shows
      have later := ih (earlier ++ [call]) (formatter.after files call)
        (sound_after ignores commands sound call) ((profile_after formatter call).trans profiled)
        (shows_after ignores sound shows call)
      simpa using later
  exact goesOn history [] _ (sound_ofProfile files profile) rfl (shows_ofProfile files profile)

end Formatter

end FormatPipeline
