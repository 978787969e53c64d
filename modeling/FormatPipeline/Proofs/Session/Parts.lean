import FormatPipeline.Proofs.Formatter.Checking
import FormatPipeline.Proofs.Session.Applying

/-! What each setting has made is what its setter makes of the values that were handed to it. -/

namespace FormatPipeline

open Schedule (DebouncedTimeline)
open Settings (ErrorHandling OrderKind Slot)

/-! ## Setters -/

/-- The part of the work that one setting alone decides. -/
inductive Part where
  | handling (handling : ErrorHandling)
  | switch (on : Bool)
  | list (texts : List String)
  | path (binary : Option Path)
  /-- No formatter has the name that the setting belongs to. -/
  | missing
  deriving DecidableEq, Repr

namespace Part

/-- A list is given: it is taken over if it is in use or all of it is accepted, and else dropped. -/
def takeList (given : List String) (accepts : String → Bool) : Part → Part
  | .list current => .list (if given = current ∨ given.all accepts then given else [])
  | other => other

/-- A binary is given: the one in use stays if the value spells it, and else the value decides. -/
def takePath (files : FileSystem) (value : String) : Part → Part
  | .path binary =>
    .path (if binary.any (spellsBinary files value ·) then binary else acceptedBinary files value)
  | other => other

end Part

/-- What a setting has made of a formatter. -/
def Formatter.part (formatter : Formatter) : Slot → Part
  | .localBins => .list formatter.binaries.localBins
  | .localArguments => .list formatter.localArguments
  | .localConfigs => .list formatter.localConfigs.candidates
  | .globalBinPath => .path formatter.binaries.globalBin
  | .globalArguments => .list formatter.globalArguments
  | .globalConfigs => .list formatter.globalConfigs.candidates

/-- What the setting of a target has made of it. -/
def Workspace.Applied.part (applied : Workspace.Applied) : Target → Part
  | .errorHandling => .handling applied.handling
  | .busySignal => .switch applied.busyEnabled
  | .statusBar => .switch applied.statusBar
  | .onSaveEnabled => .switch applied.onSaveEnabled
  | .order kind => .list (applied.order kind)
  | .slot name slot => (applied.formatter? name).elim .missing (·.part slot)

namespace Target

/-- What the setter of a target makes of a part when it is given a value. -/
def install (names : List String) (files : FileSystem) (value : Json.Value) (before : Part) :
    Target → Part
  | .errorHandling => .handling (.ofValue value)
  | .busySignal | .statusBar | .onSaveEnabled => .switch (Settings.isTrue value)
  | .order _ => before.takeList (Settings.stringList value) (names.contains ·)
  | .slot _ .localBins => before.takeList (Settings.stringList value) isValidFileName
  | .slot _ .localConfigs | .slot _ .globalConfigs =>
    before.takeList (Settings.stringList value) (isUsableCandidate files ·)
  | .slot _ .localArguments | .slot _ .globalArguments =>
    before.takeList (Settings.stringList value) fun _ => true
  | .slot _ .globalBinPath => before.takePath files (Settings.text value)

/-- What the setter of a target makes of what is handed to it, each value with the files at its moment. -/
def made (target : Target) (names : List String) (handed : List (FileSystem × Update)) (before : Part) :
    Part :=
  handed.foldl (fun part (files, update) =>
    if update.target = target then target.install names files update.value part else part) before

/-- What is handed over later is given to what the earlier values have made. -/
theorem made_append (target : Target) (names : List String) (handed more : List (FileSystem × Update))
    (before : Part) : target.made names (handed ++ more) before =
      target.made names more (target.made names handed before) :=
  List.foldl_append

end Target

/-! ## Formatters -/

/-- A setting of a formatter changes nothing that another setting has made of it. -/
theorem Formatter.part_after_of_ne (files : FileSystem) (formatter : Formatter) {setting : Setting}
    {slot : Slot} (different : setting.slot ≠ slot) :
    (formatter.after files (.set setting)).part slot = formatter.part slot := by
  -- The names to search for and the binary of the user are two parts of one finder.
  cases setting <;> cases slot <;>
    simp [part, after, Setting.slot, BinaryFinder.globalBin_setLocalBins,
      BinaryFinder.localBins_setGlobalBin] at different ⊢

/-- A setting of a formatter makes what the setter of its target makes of the value. -/
theorem Formatter.part_after_self (names : List String) (files : FileSystem) (formatter : Formatter)
    (name : String) (value : Json.Value) (slot : Slot) :
    (formatter.after files (.set (Workspace.settingOf value slot))).part slot =
      (Target.slot name slot).install names files value (formatter.part slot) := by
  cases slot with
  | localBins =>
    exact congrArg Part.list (entries_after_checked files formatter (Settings.stringList value) .localBins)
  | localConfigs =>
    exact congrArg Part.list
      (entries_after_checked files formatter (Settings.stringList value) .localConfigs)
  | globalConfigs =>
    exact congrArg Part.list
      (entries_after_checked files formatter (Settings.stringList value) .globalConfigs)
  | globalBinPath =>
    simp only [Workspace.settingOf, after_globalBin]
    rfl
  | localArguments | globalArguments =>
    -- Any arguments are accepted.
    simp [Workspace.settingOf, after, part, Target.install, Part.takeList]

/-! ## Values that take effect -/

namespace Workspace

variable {ω : Type} [World ω]

/-- The setting of a slot is given its value. -/
theorem slot_settingOf (value : Json.Value) (slot : Slot) : (settingOf value slot).slot = slot := by
  cases slot <;> rfl

omit [World ω] in
/-- What a setting has made of a formatter does not depend on what the formatter remembers. -/
theorem part_applied_slot (w : Workspace ω) (name : String) (slot : Slot) :
    w.applied.part (.slot name slot) = (w.formatter? name).elim .missing (·.part slot) := by
  cases present : w.formatter? name with
  | none => simp [applied, Applied.part, present]
  | some formatter => cases slot <;> simp [applied, Applied.part, present] <;> rfl

/-- A setting that takes effect on one target changes nothing that other settings have made. -/
theorem part_apply_of_ne {update : Update} {target : Target} (different : update.target ≠ target)
    (w : Workspace ω) : (update.apply w).applied.part target = w.applied.part target := by
  have only : ∀ {mid later : Workspace ω}, mid.OnlySays later →
      mid.applied.part target = w.applied.part target →
      later.applied.part target = w.applied.part target := fun speech same =>
    (congrArg (Applied.part · target) (unaffected_applied.onlySays speech)).trans same
  obtain ⟨changed, value⟩ := update
  cases changed with
  | errorHandling => cases target <;> first | exact absurd rfl different | rfl
  | busySignal => cases target <;> first | exact absurd rfl different | rfl
  | statusBar =>
    refine only (onlySays_setStatusBar w _) ?_
    cases target <;> first | exact absurd rfl different | rfl
  | onSaveEnabled =>
    refine only (onlySays_renderStatus _) ?_
    cases target <;> first | exact absurd rfl different | rfl
  | order kind =>
    -- The other order stands beside the one that is set.
    obtain ⟨order, speech⟩ := onlySays_setOrder w kind (Settings.stringList value)
    refine only speech ?_
    cases target with
    | order other => cases kind <;> cases other <;> first | exact absurd rfl different | rfl
    | errorHandling | busySignal | statusBar | onSaveEnabled | slot => cases kind <;> rfl
  | slot name slot =>
    cases target with
    | slot other which =>
      rw [part_applied_slot, part_applied_slot, formatter?_apply]
      cases present : w.formatter? other with
      | none => rfl
      | some formatter =>
        by_cases here : name = other
        · -- The formatter of the setting is given the value of another of its settings.
          have apart : (settingOf value slot).slot ≠ which := fun same =>
            different (by rw [here, ← same, slot_settingOf])
          simpa [Update.setting?, here] using Formatter.part_after_of_ne _ formatter apart
        · simp [Update.setting?, here]
    | errorHandling | busySignal | statusBar | onSaveEnabled | order =>
      -- Only a formatter is replaced.
      simp only [Update.apply, applyTarget]
      cases present : w.formatter? name with
      | none => rfl
      | some formatter =>
        dsimp only
        rw [applySlot_eq_call present]
        obtain ⟨probes, outlet, -, replaced⟩ := replaces_call present (.set (settingOf value slot))
        rw [replaced]
        rfl

/-- Settings that take effect on one target after another change nothing that other settings have made. -/
theorem part_foldl_apply_of_ne {updates : List Update} {target : Target}
    (different : ∀ update ∈ updates, update.target ≠ target) (w : Workspace ω) :
    (updates.foldl (fun w update => update.apply w) w).applied.part target = w.applied.part target := by
  -- The induction is on the updates; what was handed to other targets leaves the part alone.
  induction updates generalizing w with
  | nil => rfl
  | cons update rest ih =>
    obtain ⟨first, later⟩ := List.forall_mem_cons.mp different
    exact (ih later (update.apply w)).trans (part_apply_of_ne first w)

omit [World ω] in
/-- An order that is set becomes the list if it is that already, or if all its formatters are known. -/
theorem order_setOrder (w : Workspace ω) (kind : OrderKind) (names : List String) :
    (w.setOrder kind names).coordination.order kind =
      if names = w.coordination.order kind ∨ names.all (w.formatterNames.contains ·) then names
      else [] := by
  by_cases same : names = w.coordination.order kind
  · -- The order that was set already stays.
    simp [setOrder, same]
  · have listed : names.all (w.formatterNames.contains ·) ↔ ∀ name ∈ names, (w.formatter? name).isSome := by
      simp [isSome_formatter?]
    cases found : names.find? fun name => (w.formatter? name).isNone with
    | none =>
      have known : ∀ name ∈ names, (w.formatter? name).isSome := by
        simpa [← Option.isSome_iff_ne_none] using found
      obtain ⟨outlet, -, taken⟩ := onlySays_setOrder_of_known kind known
      rw [taken, if_pos (.inr (listed.mpr known))]
      simp [Coordination.order_withOrder]
    | some name =>
      have unknown : ¬ names.all (w.formatterNames.contains ·) := fun all => by
        have missing : (w.formatter? name).isNone := by simpa using List.find?_some found
        have present := listed.mp all name (List.mem_of_find?_eq_some found)
        simp [Option.isNone_iff_eq_none.mp missing] at present
      obtain ⟨outlet, -, dropped⟩ := onlySays_setOrder_of_unknown (Ne.symm same) found
      rw [dropped, if_neg (not_or.mpr ⟨same, unknown⟩)]
      simp [Coordination.order_withOrder]

/-- A setting that takes effect makes of its target what the setter makes of the value. -/
theorem part_apply_self (update : Update) (w : Workspace ω) :
    (update.apply w).applied.part update.target =
      update.target.install w.formatterNames (World.files w.world) update.value
        (w.applied.part update.target) := by
  obtain ⟨target, value⟩ := update
  -- Each target is compared with its own setter.
  cases target with
  | errorHandling => rfl
  | busySignal => exact congrArg Part.switch (congrArg Settled.busyEnabled (settled_setBusyEnabled w _))
  | statusBar => exact congrArg (Applied.part · .statusBar) (unaffected_applied.onlySays (onlySays_setStatusBar w _))
  | onSaveEnabled =>
    exact congrArg (Applied.part · .onSaveEnabled) (unaffected_applied.onlySays (onlySays_renderStatus _))
  | order kind => exact congrArg Part.list (order_setOrder w kind _)
  -- A formatter that is not registered has no part, and its setter is not called.
  | slot name slot =>
    rw [part_applied_slot, part_applied_slot, formatter?_apply]
    cases present : w.formatter? name with
    | none => cases slot <;> rfl
    | some formatter =>
      simpa [Update.setting?] using
        Formatter.part_after_self w.formatterNames (World.files w.world) formatter name value slot

/-- What is handed over one after another makes of a target what its setter makes of the values. -/
theorem part_foldl_apply (target : Target) (updates : List Update) (w : Workspace ω) :
    (updates.foldl (fun w update => update.apply w) w).applied.part target =
      target.made w.formatterNames (updates.map fun update => (World.files w.world, update))
        (w.applied.part target) := by
  induction updates generalizing w with
  | nil => rfl
  | cons update rest ih =>
    -- The first value leaves the names and the files that the others are checked against.
    obtain ⟨names, world⟩ := formatterNames_apply update w
    have later := ih (update.apply w)
    rw [names, world] at later
    refine later.trans ?_
    simp only [Target.made, List.map_cons, List.foldl_cons]
    by_cases own : update.target = target
    · subst own
      rw [if_pos rfl, part_apply_self]
    · rw [if_neg own, part_apply_of_ne own]

/-- Settings that are observed from now on are given the values that they have. -/
theorem part_foldl_observe (target : Target) (targets : List Target) (w : Workspace ω) :
    (targets.foldl observe w).applied.part target =
      target.made w.formatterNames
        (targets.map fun target => (World.files w.world, ⟨target, w.store.get target.key⟩))
        (w.applied.part target) := by
  induction targets generalizing w with
  | nil => rfl
  | cons first rest ih =>
    obtain ⟨values, world⟩ := values_observe w first
    have names : (w.observe first).formatterNames = w.formatterNames := (formatterNames_apply _ _).1
    have later := ih (w.observe first)
    rw [names, world, values] at later
    refine later.trans ?_
    -- The first of the settings takes effect after it was observed, which makes nothing of it.
    have taken := part_foldl_apply target
      [⟨first, w.store.get first.key⟩] { w with
        store := (w.store.observe first.key (first.subscription ((w.debouncer.map (·.1)).getD 0))).1
        subscriptions := w.subscriptions ++
          [(w.store.observe first.key (first.subscription ((w.debouncer.map (·.1)).getD 0))).2] }
    simp only [Target.made, List.map_cons, List.foldl_cons]
    exact congrArg (Target.made target w.formatterNames _) taken

end Workspace

namespace Session

variable {ω : Type} [World ω] {s next : Session ω}

/-! ## Runs -/

/-- What a move hands over, with the files at that moment. -/
def handings (s : Session ω) (move : Move ω) : List (FileSystem × Update) :=
  (s.hands move).map fun update => (World.files s.state.world, update)

/-- What the first values hand to all targets, with the files at the start. -/
def startHandings (profiles : List Profile) (s : Session ω) : List (FileSystem × Update) :=
  (s.startHands profiles).map fun update => (World.files s.state.world, update)

/-- The start gives each setter the first value of its setting. -/
theorem part_start (profiles : List Profile) (delay : Nat) (s : Session ω) (target : Target) :
    (s.start profiles delay).state.applied.part target =
      target.made (s.register profiles).state.formatterNames (s.startHandings profiles)
        ((s.register profiles).state.applied.part target) := by
  -- Registering the formatters touches neither the files nor the store.
  have registered := Workspace.calm_register profiles s.state
  have world : (s.prepared profiles delay).state.world = s.state.world :=
    Workspace.world_register profiles s.state
  have store : (s.prepared profiles delay).state.store = s.state.store := registered.2
  rw [start_eq]
  -- Greeting the editor changes nothing that settings have made.
  refine (congrArg (Workspace.Applied.part · target) (Workspace.applied_greeting _)).trans ?_
  rw [state_observeTargets, Workspace.part_foldl_observe, world, store]
  simp only [startHandings, startHands, List.map_map]
  rfl

/-- A move gives each setter what it hands over, and changes nothing else that settings have made. -/
theorem part_moves {move : Move ω} (moved : Moves s move next) (target : Target) :
    next.state.applied.part target =
      target.made s.state.formatterNames (s.handings move) (s.state.applied.part target) := by
  obtain ⟨w, same, world, state⟩ := applied_moves moved
  have names : w.formatterNames = s.state.formatterNames := congrArg Workspace.Applied.names same
  rw [state, Workspace.part_foldl_apply, same, names]
  -- The files matter only if something is handed over, and then they are those before the move.
  by_cases something : s.hands move = []
  · simp [handings, something]
  · rw [world something]
    rfl

/-- What was handed over since the start has made all that settings have made. -/
theorem part_run {profiles : List Profile} {delay : Nat} {first : Session ω}
    {handed : List (FileSystem × Update)}
    (ran : Run Moves handings (first.startHandings profiles) (first.start profiles delay) handed s) :
    s.state.formatterNames = (first.register profiles).state.formatterNames ∧
      ∀ target : Target, s.state.applied.part target =
        target.made (first.register profiles).state.formatterNames handed
          ((first.register profiles).state.applied.part target) := by
  -- The induction is on the run, and each move adds its own updates to the fold.
  induction ran with
  | start => exact ⟨formatterNames_start profiles delay first, part_start profiles delay first⟩
  | move _ moved ih =>
    obtain ⟨names, parts⟩ := ih
    refine ⟨(formatterNames_lasts (.happens (.move moved))).trans names, fun target => ?_⟩
    rw [part_moves moved, names, parts, Target.made_append]

/-- No change of a setting is ever lost between the start of a session and its end. -/
theorem nothingLost_run {profiles : List Profile} {delay : Nat} {first s : Session ω}
    {handed : List (FileSystem × Update)} (fresh : first.state.formatters = [])
    (quiet : ∀ observer ∈ first.state.store.observers,
      observer.reaction.isQuiet (first.prepared profiles delay).debouncerNumber)
    (ran : Run Moves handings (first.startHandings profiles) (first.start profiles delay) handed s) :
    s.NothingLost delay (handed.map (·.2)) ∧
      (∀ name, (s.state.formatter? name).isSome ↔ ∃ profile ∈ profiles, profile.name = name) ∧
      ∀ target : Target, s.state.applied.part target =
        target.made s.state.formatterNames handed
          ((first.register profiles).state.applied.part target) := by
  obtain ⟨names, parts⟩ := part_run ran
  -- The files play no part in what is handed over.
  have values : (first.startHandings profiles).map (·.2) = first.startHands profiles := by
    simp [startHandings, Function.comp_def]
  have plain : Run Moves hands (first.startHands profiles) (first.start profiles delay)
      (handed.map (·.2)) s := values ▸ ran.map (·.2) fun s move => by simp [handings, Function.comp_def]
  obtain ⟨current, -⟩ := isUpToDate_run fresh quiet plain
  -- Formatters are found under the names that were registered at the start.
  have registered : ∀ name, (s.state.formatter? name).isSome ↔
      name ∈ (first.register profiles).state.formatterNames := fun name => by
    rw [Workspace.isSome_formatter?, names]
  refine ⟨current.nothingLost fun name => (registered name).mp, fun name => ?_, by rwa [names]⟩
  have listed := Workspace.mem_register profiles first.state name
  simp only [Workspace.formatterNames, fresh, List.map_nil, List.not_mem_nil, false_or] at listed
  exact (registered name).trans listed

/-- A session in which the binaries of a formatter were set and the busy signal was turned over. -/
def sampleChanged : Session Scripted.Tables :=
  ((sampleFirst.start [Scripted.sampleProfile] 250).answer
    (.set (Slot.localBins.keyOf "black") (.array [.string "bin/black"]))).answer
    (.toggle Settings.busySignalKey)

/-- In the sample the binaries wait for the end of the quiet period, and are in use when it is over. -/
theorem nothingLost_sample :
    (DebouncedTimeline.pending sampleChanged).map (·.key) = [Slot.localBins.keyOf "black"] ∧
    sampleChanged.state.applied.part (.slot "black" .localBins) = .list [] ∧
    DebouncedTimeline.pending (sampleChanged.wait 250) = [] ∧
    (sampleChanged.wait 250).state.applied.part (.slot "black" .localBins) = .list ["bin/black"] ∧
    ∃ handed, (sampleChanged.wait 250).NothingLost 250 handed := by
  have started : Run Moves handings (sampleFirst.startHandings [Scripted.sampleProfile])
    (sampleFirst.start [Scripted.sampleProfile] 250) _ _ := .start
  -- The binaries are set first, and then a setting that takes effect at once.
  have changed := (started.move (.call (.set (Slot.localBins.keyOf "black")
    (.array [.string "bin/black"])))).move (.call (.toggle Settings.busySignalKey))
  obtain ⟨later, waited⟩ := run_wait .turn changed 250
  refine ⟨by decide +kernel, by decide +kernel, ?_, by decide +kernel, _,
    (nothingLost_run rfl (by decide +kernel) waited).1⟩
  -- Nothing waits any more, which the sample itself shows.
  exact List.isEmpty_iff.mp (by decide +kernel)

end Session

end FormatPipeline
