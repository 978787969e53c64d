import FormatPipeline.Proofs.Session.Applying
import FormatPipeline.Proofs.Settings.Store

/-! Which of several profiles of one name a formatter has, and from which one its default settings come. -/

namespace FormatPipeline

open Settings (Slot Store)

/-- The settings of a formatter with their values, in the order in which they are observed. -/
def Formatter.settingsOf (values : String → Json.Value) (name : String) : List Formatter.Setting :=
  Session.observedSlots.map fun (slot, _) => Workspace.settingOf (values (slot.keyOf name)) slot

/-- A formatter of which settings are given values one after another. -/
def Formatter.given (files : FileSystem) (settings : List Formatter.Setting) (formatter : Formatter) :
    Formatter :=
  settings.foldl (fun formatter setting => formatter.after files (.set setting)) formatter

/-- Of all targets, those of a formatter give its settings their values, once for each name. -/
theorem Target.filterMap_setting?_all {names : List String} (different : names.Nodup) {name : String}
    (listed : name ∈ names) (values : String → Json.Value) :
    (Target.all names).filterMap (fun target => (Update.mk target (values target.key)).setting? name) =
      Formatter.settingsOf values name := by
  -- The targets of a formatter set those of its name, and none of another formatter.
  have ofFormatter : ∀ other, (Target.ofFormatter other).filterMap
      (fun target => (Update.mk target (values target.key)).setting? name) =
        if other = name then Formatter.settingsOf values name else [] := by
    intro other
    by_cases same : other = name
    · simp [Target.ofFormatter, Update.setting?, same, Formatter.settingsOf, Session.observedSlots,
        Target.key]
    · simp [Target.ofFormatter, Update.setting?, same, Session.observedSlots]
  have general : Target.general.filterMap
      (fun target => (Update.mk target (values target.key)).setting? name) = [] := rfl
  rw [Target.all, List.filterMap_append, general, List.nil_append, List.filterMap_flatMap]
  simp only [ofFormatter]
  -- The name is listed once, so that the settings come once.
  induction names with
  | nil => cases listed
  | cons first rest ih =>
    obtain ⟨new, apart⟩ := List.nodup_cons.mp different
    rw [List.flatMap_cons]
    by_cases here : first = name
    · have none : ∀ other ∈ rest, (if other = name then Formatter.settingsOf values name else []) = [] :=
        fun other member => if_neg fun same => new (by rwa [here, ← same])
      rw [if_pos here, List.flatMap_eq_nil_iff.mpr none, List.append_nil]
    · have later : name ∈ rest := (List.mem_cons.mp listed).resolve_left (Ne.symm here)
      rw [if_neg here, List.nil_append, ih apart later]

namespace Workspace

variable {ω : Type}

/-- Registering a profile adds its formatter unless its name is taken. -/
theorem formatter?_registerOne (w : Workspace ω) (profile : Profile) (name : String) :
    (w.registerOne profile).formatter? name =
      (w.formatter? name).or (if profile.name = name then some (.ofProfile profile) else none) := by
  unfold registerOne
  split
  next taken =>
    have kept : (w.warn ("Ignoring duplicate formatter profile: " ++ profile.name)).formatter? name =
      w.formatter? name := rfl
    rw [kept]
    by_cases same : profile.name = name
    · -- The formatter that has the name keeps it.
      obtain ⟨formatter, present⟩ := Option.isSome_iff_exists.mp taken
      rw [← same, present, Option.some_or]
    · rw [if_neg same, Option.or_none]
  next free =>
    simp only [formatter?, List.find?_append, List.find?_singleton]
    by_cases same : profile.name = name
    · simp [Formatter.ofProfile, Formatter.name, same]
    · simp [Formatter.ofProfile, Formatter.name, same]

/-- The formatter of a name is the one that has it already, or that of the first profile of the name. -/
theorem formatter?_register (profiles : List Profile) (w : Workspace ω) (name : String) :
    (profiles.foldl registerOne w).formatter? name =
      (w.formatter? name).or ((profiles.find? (·.name == name)).map Formatter.ofProfile) := by
  -- The induction is on the profiles; a second one of a name is left out.
  induction profiles generalizing w with
  | nil => simp
  | cons profile rest ih =>
    rw [List.foldl_cons, ih, formatter?_registerOne, Option.or_assoc]
    by_cases same : profile.name = name
    · rw [List.find?_cons_of_pos (by simpa using same), if_pos same, Option.some_or, Option.map_some]
    · rw [List.find?_cons_of_neg (by simpa using same), if_neg same, Option.none_or]

variable [World ω]

/-- A formatter whose settings are observed is given their values one after another. -/
theorem formatter?_foldl_observe (targets : List Target) (w : Workspace ω) (name : String) :
    (targets.foldl observe w).formatter? name =
      (w.formatter? name).map (Formatter.given (World.files w.world) (targets.filterMap fun target =>
        (Update.mk target (w.store.get target.key)).setting? name)) := by
  induction targets generalizing w with
  | nil => exact Option.map_id'.symm
  | cons target rest ih =>
    obtain ⟨values, world⟩ := values_observe w target
    have first : (w.observe target).formatter? name = (w.formatter? name).map fun formatter =>
        ((Update.mk target (w.store.get target.key)).setting? name).elim formatter fun setting =>
          formatter.after (World.files w.world) (.set setting) := formatter?_apply _ _ name
    rw [List.foldl_cons, ih, values, world, first, Option.map_map]
    -- The first value is given before the others, if it is one for this formatter.
    cases given : (Update.mk target (w.store.get target.key)).setting? name with
    | none => simp only [List.filterMap_cons, given]; rfl
    | some setting => simp only [List.filterMap_cons, given]; rfl

end Workspace

/-- Whether a text is a name of a file to search for, and neither empty nor a path of its own. -/
def isBareName (entry : String) : Bool := !entry.isEmpty && !isPathEntry entry && isValidFileName entry

/-- A bare name can stand in a list of candidates, whatever files there are. -/
theorem isUsableCandidate_of_isBareName {entry : String} (bare : isBareName entry) (files : FileSystem) :
    isUsableCandidate files entry := by
  simp only [isBareName, Bool.and_eq_true, Bool.not_eq_true'] at bare
  simp [isUsableCandidate, bare.1.2, bare.2]

/-- A list of bare names is what is accepted of another list if it is that list, or if both leave nothing. -/
theorem acceptedCandidates_eq_iff {files : FileSystem} {bare : List String}
    (names : ∀ entry ∈ bare, isBareName entry) (candidates : List String) :
    acceptedCandidates files candidates = bare ↔
      candidates = bare ∨ bare = [] ∧ ∃ entry ∈ candidates, ¬ isUsableCandidate files entry := by
  unfold acceptedCandidates
  split
  next all =>
    have none : ¬ ∃ entry ∈ candidates, ¬ isUsableCandidate files entry := fun ⟨entry, listed, refused⟩ =>
      refused (List.all_eq_true.mp all entry listed)
    exact ⟨.inl, fun same => same.resolve_right fun nothing => none nothing.2⟩
  next some =>
    -- A list that is rejected cannot be one of bare names only.
    have refused : ∃ entry ∈ candidates, ¬ isUsableCandidate files entry := by
      simpa using some
    have other : candidates ≠ bare := by
      rintro rfl
      obtain ⟨entry, listed, refused⟩ := refused
      exact refused (isUsableCandidate_of_isBareName (names entry listed) files)
    exact ⟨fun nothing => .inr ⟨nothing.symm, refused⟩, fun same => (same.resolve_left other).1.symm⟩

namespace Formatter

/-- After all its settings were given values, a formatter has its profile and what was accepted of them. -/
theorem given_settingsOf (files : FileSystem) (profile : Profile) (values : String → Json.Value)
    (name : String) :
    let formatter := (ofProfile profile).given files (settingsOf values name)
    formatter.profile = profile ∧ formatter.localConfigs.candidates =
      acceptedCandidates files (Settings.stringList (values (Slot.localConfigs.keyOf name))) := by
  -- Only one of the settings is about the configuration files of repositories.
  refine ⟨rfl, ?_⟩
  exact ConfigFinder.candidates_setCandidates (ConfigFinder.sound_ofFormatter files profile.name) _

end Formatter

namespace Session

variable {ω : Type} [World ω] {profiles : List Profile} {delay : Nat} {first : Session ω}

/-- After the start, a formatter has the first profile of its name and was given the values of its settings. -/
theorem formatter?_start (profiles : List Profile) (delay : Nat) (fresh : first.state.formatters = [])
    (name : String) :
    ((first.start profiles delay).state.formatter? name).map Formatter.blank =
      (profiles.find? (·.name == name)).map fun profile => Formatter.blank
        ((Formatter.ofProfile profile).given (World.files first.state.world)
          (Formatter.settingsOf first.state.store.get name)) := by
  let registered := profiles.foldl Workspace.registerOne first.state
  have nobody : first.state.formatter? name = none := by simp [Workspace.formatter?, fresh]
  have present : registered.formatter? name =
      (profiles.find? (·.name == name)).map Formatter.ofProfile := by
    rw [Workspace.formatter?_register, nobody, Option.none_or]
  have values : registered.store = first.state.store :=
    (Workspace.calm_register profiles first.state).2
  have world : registered.world = first.state.world := Workspace.world_register profiles first.state
  have greeted : ∀ w : Workspace ω, ((greeting w).formatter? name).map Formatter.blank =
      (w.formatter? name).map Formatter.blank := fun w =>
    congrFun (congrArg Workspace.Applied.formatter? (Workspace.applied_greeting w)) name
  rw [state_start, greeted, Workspace.formatter?_foldl_observe]
  -- A debouncer is no part of what formatters are given.
  show ((registered.formatter? name).map (Formatter.given (World.files registered.world)
    ((Target.all registered.formatterNames).filterMap fun target =>
      (Update.mk target (registered.store.get target.key)).setting? name))).map Formatter.blank = _
  rw [present, world, values]
  -- A formatter is there just if a profile has its name, and the first of those made it.
  cases found : profiles.find? (·.name == name) with
  | none => rfl
  | some profile =>
    have listed : name ∈ registered.formatterNames :=
      (Workspace.isSome_formatter? registered name).mp (by rw [present, found]; rfl)
    have different : registered.formatterNames.Nodup :=
      Workspace.nodup_register profiles (by simp [Workspace.formatterNames, fresh])
    rw [Target.filterMap_setting?_all different listed first.state.store.get]
    rfl

/-- A formatter has the first profile of its name, and the configuration files of the last one by default. -/
theorem defaultConfigs_start (fresh : first.state.formatters = [])
    (only : first.state.store.get =
      (Store.ofDefaults (Settings.defaults profiles) : Store Subscription).get)
    {name : String} {formatter : Formatter}
    (registered : (first.start profiles delay).state.formatter? name = some formatter) :
    ∃ own last, profiles.find? (·.name == name) = some own ∧
      profiles.findRev? (·.name == name) = some last ∧ formatter.profile = own ∧
      formatter.localConfigs.candidates =
        acceptedCandidates (World.files first.state.world) (last.localConfigs.filter (!·.isEmpty)) ∧
      -- Candidates that are bare names come from its own profile only if the last one has the same.
      ((∀ entry ∈ own.localConfigs, isBareName entry) →
        (formatter.localConfigs.candidates = own.localConfigs ↔
          last.localConfigs.filter (!·.isEmpty) = own.localConfigs ∨
          own.localConfigs = [] ∧ ∃ entry ∈ last.localConfigs.filter (!·.isEmpty),
            ¬ isUsableCandidate (World.files first.state.world) entry)) := by
  have started := formatter?_start profiles delay fresh name
  rw [registered, Option.map_some, eq_comm, Option.map_eq_some_iff] at started
  obtain ⟨own, found, alike⟩ := started
  obtain ⟨profiled, candidates⟩ := Formatter.given_settingsOf (World.files first.state.world)
    own first.state.store.get name
  -- There is a first profile of the name, and so there is a last one.
  obtain ⟨last, latest⟩ : ∃ last, profiles.findRev? (·.name == name) = some last := by
    rw [List.findRev?_eq_find?_reverse, ← Option.isSome_iff_exists, List.find?_isSome]
    have named : (own.name == name) = true := by simpa using List.find?_some found
    exact ⟨own, List.mem_reverse.mpr (List.mem_of_find?_eq_some found), named⟩
  have value : first.state.store.get (Slot.localConfigs.keyOf name) = .ofStrings last.localConfigs := by
    rw [only, Settings.get_defaults, latest]
    rfl
  rw [value, Settings.stringList_ofStrings] at candidates
  -- Memories aside, the formatter is the one that was given its values.
  generalize (Formatter.ofProfile own).given _ _ = given at alike profiled candidates
  have profile : given.profile = formatter.profile := congrArg (·.profile) alike
  have kept : given.localConfigs.candidates = formatter.localConfigs.candidates :=
    congrArg (·.localConfigs.candidates) alike
  rw [profile] at profiled
  rw [kept] at candidates
  refine ⟨own, last, found, latest, profiled, candidates, fun bare => ?_⟩
  rw [candidates]
  exact acceptedCandidates_eq_iff bare _

/-- A session that has not started, in which no settings but the default ones of some profiles were set. -/
def sampleDefaults (profiles : List Profile) : Session Scripted.Tables :=
  .initial (Scripted.sample []) .silent (.ofDefaults (Settings.defaults profiles))

/-- Two profiles of one name that have the same configuration files, apart from an empty one. -/
def sampleTwins : List Profile :=
  [Scripted.sampleProfile, ⟨"black", [], [], "--settings-path", ["", "pyproject.toml"]⟩]

/-- The formatter of the twins has the configuration files of both. -/
theorem defaultConfigs_twins :
    ∃ formatter, ((sampleDefaults sampleTwins).start sampleTwins 250).state.formatter? "black" =
        some formatter ∧
      formatter.profile = Scripted.sampleProfile ∧ formatter.localConfigs.candidates = ["pyproject.toml"] := by
  obtain ⟨formatter, present⟩ := Option.isSome_iff_exists.mp (show
    (((sampleDefaults sampleTwins).start sampleTwins 250).state.formatter? "black").isSome by
      decide +kernel)
  -- The first profile of the name gives the formatter, and the last one its configuration files.
  obtain ⟨own, last, found, latest, profiled, -, bare⟩ := defaultConfigs_start rfl rfl present
  obtain rfl : Scripted.sampleProfile = own := Option.some.inj found
  obtain rfl : ⟨"black", [], [], "--settings-path", ["", "pyproject.toml"]⟩ = last := Option.some.inj latest
  -- The empty name is dropped from what is set, and the other one is valid.
  exact ⟨formatter, present, profiled, (bare (by decide)).mpr (.inl rfl)⟩

/-- Two profiles of one name that have different configuration files. -/
def sampleRivals : List Profile :=
  [⟨"black", ["-q"], ["-q"], "--config", ["first.toml"]⟩,
    ⟨"black", ["-q"], ["-q"], "--config", ["second.toml"]⟩]

/-- The formatter of the rivals has the first profile, and the configuration file of the second one. -/
theorem defaultConfigs_rivals :
    (∀ profile ∈ sampleRivals, ∀ entry ∈ profile.localConfigs, isBareName entry) ∧
    (((sampleDefaults sampleRivals).start sampleRivals 250).state.formatter? "black").map
        (fun formatter => (formatter.profile.localConfigs, formatter.localConfigs.candidates)) =
      some (["first.toml"], ["second.toml"]) :=
  ⟨by decide, by decide +kernel⟩

end Session

end FormatPipeline
