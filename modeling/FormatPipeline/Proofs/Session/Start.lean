import FormatPipeline.Proofs.Session.Updates
import FormatPipeline.Proofs.World.Scripted

/-! Everything is up to date from the start of a session on. -/

namespace FormatPipeline

open Schedule (DebouncedTimeline)
open Settings (Slot Store)
open Workspace (Settled)

/-- The targets of a formatter are among those for some names exactly if its name is. -/
theorem Target.slot_mem_all {names : List String} {name : String} {which : Slot} :
    .slot name which ∈ Target.all names ↔ name ∈ names := by
  cases which <;> simp [Target.all, Target.general, Target.ofFormatter, Session.observedSlots]

/-- The targets that belong to no formatter are always among all targets. -/
theorem Target.mem_all {names : List String} {target : Target}
    (registered : ∀ name which, target = .slot name which → name ∈ names) :
    target ∈ Target.all names := by
  rcases Target.mem_general_or_slot target with general | ⟨name, which, rfl⟩
  · exact List.mem_append_left _ general
  · exact Target.slot_mem_all.mpr (registered name which rfl)

/-- Targets for formatters of different names are different. -/
theorem Target.nodup_all {names : List String} (different : names.Nodup) :
    (Target.all names).Nodup := by
  have ofGeneral : Target.general.Nodup := by decide
  have ofOne : ∀ name, (Target.ofFormatter name).Nodup := by
    intro name
    simp [Target.ofFormatter, Session.observedSlots]
  refine List.nodup_append.mpr ⟨ofGeneral, List.pairwise_flatMap.mpr ⟨fun name _ => ofOne name, ?_⟩, ?_⟩
  · -- The targets of two formatters differ by the formatter's name.
    refine different.imp fun apart one first other second same => ?_
    simp only [Target.ofFormatter, List.mem_map] at first second
    obtain ⟨slot, -, rfl⟩ := first
    obtain ⟨another, -, rfl⟩ := second
    simp [apart] at same
  · -- No target of a formatter is one of those that belong to none.
    intro target first other second same
    simp only [List.mem_flatMap, Target.ofFormatter, List.mem_map] at second
    obtain ⟨name, -, slot, -, rfl⟩ := second
    subst same
    simp [Target.general] at first

/-- The error handling is the first of all targets, and it is none of the others. -/
theorem Target.all_eq_cons (names : List String) : ∃ rest, Target.all names = .errorHandling :: rest ∧
    ∀ target ∈ rest, target ≠ .errorHandling := by
  refine ⟨_, rfl, ?_⟩
  rintro target member rfl
  simp [Target.ofFormatter, Session.observedSlots] at member

namespace Workspace

variable {ω : Type}

/-- Registers the formatter of a profile unless its name is taken. -/
def registerOne (w : Workspace ω) (profile : Profile) : Workspace ω :=
  -- The first profile of a name stays.
  if (w.formatter? profile.name).isSome then
    w.warn ("Ignoring duplicate formatter profile: " ++ profile.name)
  else { w with formatters := w.formatters ++ [Formatter.ofProfile profile] }

/-- A formatter is found exactly under the registered names. -/
theorem isSome_formatter? (w : Workspace ω) (name : String) :
    (w.formatter? name).isSome ↔ name ∈ w.formatterNames := by
  simp [formatter?, formatterNames]

/-- A formatter has arguments of the user exactly under the registered names. -/
theorem isSome_ownArguments_iff (w : Workspace ω) (name : String) :
    (w.settled.ownArguments name).isSome ↔ name ∈ w.formatterNames := by
  rw [← isSome_formatter?]
  simp [settled]

/-- Registering a profile adds its name unless it is taken. -/
theorem formatterNames_registerOne (w : Workspace ω) (profile : Profile) :
    (w.registerOne profile).formatterNames =
      if profile.name ∈ w.formatterNames then w.formatterNames
      else w.formatterNames ++ [profile.name] := by
  have found := isSome_formatter? w profile.name
  unfold registerOne
  -- A name that is taken is only warned about.
  by_cases taken : profile.name ∈ w.formatterNames
  · rw [if_pos (found.mpr taken), if_pos taken]
    rfl
  · rw [if_neg (mt found.mp taken), if_neg taken]
    simp [formatterNames, Formatter.ofProfile, Formatter.name]

/-- Registering a profile is calm and changes no setting. -/
theorem calm_registerOne (w : Workspace ω) (profile : Profile) :
    w.Calm (w.registerOne profile) ∧ (w.registerOne profile).store = w.store := by
  unfold registerOne
  split
  · exact ⟨.of_onlySays (onlySays_warn w _), rfl⟩
  · exact ⟨⟨rfl, rfl, rfl, rfl, .refl _⟩, rfl⟩

/-- Registering profiles is calm and changes no setting. -/
theorem calm_register (profiles : List Profile) (w : Workspace ω) :
    w.Calm (profiles.foldl registerOne w) ∧ (profiles.foldl registerOne w).store = w.store := by
  -- By induction on the profiles: calm steps make a calm whole.
  induction profiles generalizing w with
  | nil => exact ⟨⟨rfl, rfl, rfl, rfl, .refl _⟩, rfl⟩
  | cons profile rest ih =>
    have first := calm_registerOne w profile
    have later := ih (w.registerOne profile)
    exact ⟨first.1.trans later.1, later.2.trans first.2⟩

/-- Registering profiles leaves the world as it is. -/
theorem world_register (profiles : List Profile) (w : Workspace ω) :
    (profiles.foldl registerOne w).world = w.world := by
  induction profiles generalizing w with
  | nil => rfl
  | cons profile rest ih =>
    rw [List.foldl_cons, ih, registerOne]
    split <;> rfl

/-- Registering profiles keeps the names of formatters different. -/
theorem nodup_register (profiles : List Profile) {w : Workspace ω}
    (different : w.formatterNames.Nodup) :
    (profiles.foldl registerOne w).formatterNames.Nodup := by
  induction profiles generalizing w with
  | nil => exact different
  | cons profile rest ih =>
    refine ih ?_
    rw [formatterNames_registerOne]
    split
    · exact different
    -- A free name is added, which none of the others can be.
    next free =>
      refine List.nodup_append.mpr ⟨different, by simp, fun name first other second same => ?_⟩
      obtain rfl : other = profile.name := by simpa using second
      exact free (same ▸ first)

/-- Every profile that is registered has a formatter of its name. -/
theorem mem_register (profiles : List Profile) (w : Workspace ω) (name : String) :
    name ∈ (profiles.foldl registerOne w).formatterNames ↔
      name ∈ w.formatterNames ∨ ∃ profile ∈ profiles, profile.name = name := by
  induction profiles generalizing w with
  | nil => simp
  | cons profile rest ih =>
    rw [List.foldl_cons, ih, formatterNames_registerOne]
    -- A profile whose name is taken adds nothing, but a formatter of its name is there.
    by_cases taken : profile.name ∈ w.formatterNames
    · simp only [taken, if_true, List.mem_cons, exists_eq_or_imp]
      constructor
      · exact fun known => known.imp_right .inr
      · rintro (known | rfl | later)
        · exact .inl known
        · exact .inl taken
        · exact .inr later
    · simp [taken, or_assoc, eq_comm]

end Workspace

namespace Session

variable {ω : Type} [World ω]

/-- Lets the settings of targets take effect, one after another. -/
def observeTargets (targets : List Target) (s : Session ω) : Session ω :=
  targets.foldl (fun s target => s.observe target.key (target.subscription s.debouncerNumber)) s

/-- Letting a setting take effect neither adds nor removes a formatter. -/
theorem isSome_ownArguments_observe (s : Session ω) (key : String) (subscription : Subscription)
    (name : String) :
    ((s.observe key subscription).state.settled.ownArguments name).isSome =
      (s.state.settled.ownArguments name).isSome :=
  (congrArg (fun settled : Settled => (settled.ownArguments name).isSome)
    (Workspace.settled_apply _ _)).trans (Settled.isSome_ownArguments_take _ _ name)

/-- Observing targets one after another keeps everything up to date. -/
theorem isUpToDate_observeTargets (targets : List Target) {done : List Target} {number delay : Nat}
    {handed : List Update} {s : Session ω} (current : s.IsUpToDate done number delay handed)
    (idle : DebouncedTimeline.pending s = []) (different : (done ++ targets).Nodup)
    (known : ∀ name which, .slot name which ∈ targets → (s.state.settled.ownArguments name).isSome) :
    (s.observeTargets targets).IsUpToDate (done ++ targets) number delay
        (handed ++ targets.map fun target => ⟨target, s.state.store.get target.key⟩) ∧
      DebouncedTimeline.pending (s.observeTargets targets) = [] := by
  induction targets generalizing done handed s with
  | nil => simpa [observeTargets] using ⟨current, idle⟩
  | cons target rest ih =>
    have same : s.debouncerNumber = number := by
      have debouncer : s.state.debouncer = some (number, delay) := current.debouncer
      simp [debouncerNumber, debouncer]
    -- Each target is observed once.
    have new : target ∉ done := by
      intro member
      exact (List.nodup_append.mp different).2.2 target member target (by simp) rfl
    -- The first of the targets is handed the present value of its setting.
    let next := s.observe target.key (target.subscription s.debouncerNumber)
    have taken : next.state.settled = _ := Workspace.settled_apply _ _
    have observed : next.IsUpToDate (done ++ [target]) number delay
        (handed ++ [⟨target, s.state.store.get target.key⟩]) := by
      have current : UpToDate done number delay handed s.state.settled [] := idle ▸ current
      have step := current.observe new fun name which same => known name which (by simp [same])
      refine .of_eq step ?_ idle
      rw [taken, same]
      rfl
    -- No value changes on the way, so that the later ones are the values from the beginning.
    have kept : next.state.store.get = s.state.store.get := by
      have stores : next.state.store = (s.state.store.observe target.key _).1 :=
        Workspace.store_apply _ _
      funext key
      rw [stores]
      exact Store.get_observe ..
    have later := ih observed idle (by simpa using different) fun name which member => by
      have before := known name which (List.mem_cons_of_mem _ member)
      rw [isSome_ownArguments_observe]
      exact before
    rw [kept] at later
    simpa [observeTargets] using later

/-- The general settings are those of the general targets. -/
theorem observeGeneral_eq (s : Session ω) : s.observeGeneral = s.observeTargets Target.general := rfl

/-- The settings of a formatter are those of its targets. -/
theorem observeFormatter_eq (name : String) (s : Session ω) :
    s.observeFormatter name = s.observeTargets (Target.ofFormatter name) := rfl

/-- The targets of formatters are observed formatter by formatter. -/
theorem foldl_observeFormatter (names : List String) (s : Session ω) :
    names.foldl (fun s name => s.observeFormatter name) s =
      s.observeTargets (names.flatMap Target.ofFormatter) := by
  -- By induction on the names, with the targets of the first formatter in front of the others.
  induction names generalizing s with
  | nil => rfl
  | cons name rest ih =>
    rw [List.foldl_cons, ih, observeFormatter_eq]
    simp only [observeTargets, List.flatMap_cons, List.foldl_append]

omit [World ω] in
/-- A session whose formatters are registered and that observes nothing yet. -/
def prepared (profiles : List Profile) (delay : Nat) (s : Session ω) : Session ω :=
  (s.register profiles).replaceDebouncer delay

omit [World ω] in
/-- Nothing takes effect before the start, so nothing is out of date. -/
theorem isUpToDate_prepared (profiles : List Profile) (delay : Nat) {s : Session ω}
    (quiet : ∀ observer ∈ s.state.store.observers,
      observer.reaction.isQuiet (s.prepared profiles delay).debouncerNumber) :
    (s.prepared profiles delay).IsUpToDate [] (s.prepared profiles delay).debouncerNumber delay [] ∧
      DebouncedTimeline.pending (s.prepared profiles delay) = [] := by
  -- Preparing cancels whatever waited, and registering formatters changes no setting.
  have nothing : DebouncedTimeline.pending (s.prepared profiles delay) = [] :=
    DebouncedTimeline.pending_cancelAll (s.register profiles)
  have store : (s.prepared profiles delay).state.store = s.state.store :=
    (Workspace.calm_register profiles s.state).2
  refine ⟨⟨?_, rfl, by simp, fun entry waits => ?_, by simp⟩, nothing⟩
  · have observers : (s.prepared profiles delay).state.settled.store.observers =
        s.state.store.observers := congrArg Store.observers store
    rw [observers]
    simpa using quiet
  · rw [nothing] at waits
    simp at waits

omit [World ω] in
/-- What the first values hand to all targets. -/
def startHands (profiles : List Profile) (s : Session ω) : List Update :=
  (Target.all (s.register profiles).state.formatterNames).map fun target =>
    ⟨target, s.state.store.get target.key⟩

omit [World ω] in
/-- What is done in the end of a start, when all settings have taken effect. -/
def greeting (w : Workspace ω) : Workspace ω :=
  let w := match w.documents.active? with
    | none => w.renderStatus
    | some handle =>
      let w := match w.document? handle with
        | some document => w.documentOpened document
        | none => w
      w.activeChanged (some handle)
  w.debug ("Initialized with formatters: " ++ Text.joinWith ", " w.formatterNames)

/-- A start lets all settings take effect, target by target. -/
theorem start_eq (profiles : List Profile) (delay : Nat) (s : Session ω) :
    s.start profiles delay =
      ((s.prepared profiles delay).observeTargets
        (Target.all (s.register profiles).state.formatterNames)).modify greeting := by
  -- Settings are observed in the order of the targets: the general ones, then formatter by formatter.
  have observed : (s.register profiles).state.formatterNames.foldl
      (fun s name => s.observeFormatter name) (s.prepared profiles delay).observeGeneral =
      (s.prepared profiles delay).observeTargets
        (Target.all (s.register profiles).state.formatterNames) := by
    rw [foldl_observeFormatter, observeGeneral_eq]
    simp only [observeTargets, Target.all, List.foldl_append]
  rw [← observed]
  rfl

omit [World ω] in
/-- In the end of a start nothing is set. -/
theorem quiet_greeting (s : Session ω) : s.Quiet (s.modify greeting : Session ω) := by
  refine ⟨?_, rfl⟩
  refine (Workspace.settled_of_onlySays (Workspace.onlySays_debug _ _)).trans ?_
  -- An active document is announced and watched, which sets nothing.
  cases s.state.documents.active? with
  | none => exact Workspace.settled_of_onlySays (Workspace.onlySays_renderStatus _)
  | some handle =>
    dsimp only
    refine (Workspace.calm_activeChanged _ (some handle)).2.trans ?_
    cases s.state.document? handle <;> rfl

/-- Everything is up to date after the start. -/
theorem isUpToDate_start (profiles : List Profile) (delay : Nat) {s : Session ω}
    (fresh : s.state.formatters = [])
    (quiet : ∀ observer ∈ s.state.store.observers,
      observer.reaction.isQuiet (s.prepared profiles delay).debouncerNumber) :
    (s.start profiles delay).IsUpToDate (Target.all (s.register profiles).state.formatterNames)
      (s.prepared profiles delay).debouncerNumber delay (s.startHands profiles) := by
  obtain ⟨current, idle⟩ := isUpToDate_prepared profiles delay quiet
  -- Names are registered once, so that all targets are different.
  have different : (s.register profiles).state.formatterNames.Nodup :=
    Workspace.nodup_register profiles (by simp [Workspace.formatterNames, fresh])
  have store : (s.prepared profiles delay).state.store = s.state.store :=
    (Workspace.calm_register profiles s.state).2
  have observed := isUpToDate_observeTargets
    (Target.all (s.register profiles).state.formatterNames) current idle
    (by simpa using Target.nodup_all different) ?known
  case known =>
    -- The formatters whose settings are observed are registered.
    intro name which listed
    have member : name ∈ (s.register profiles).state.formatterNames :=
      Target.slot_mem_all.mp listed
    have settled := Workspace.isSome_ownArguments_iff (s.prepared profiles delay).state name
    exact settled.mpr member
  rw [store] at observed
  rw [start_eq]
  exact observed.1.quiet (quiet_greeting _)

/-- Every setting has taken effect, or waits for the end of its quiet period. -/
structure NothingLost (delay : Nat) (handed : List Update) (s : Session ω) : Prop where
  handling : s.state.handling = .ofValue (s.state.store.get Settings.errorHandlingKey)
  busySignal : s.state.busy.enabled = Settings.isTrue (s.state.store.get Settings.busySignalKey)
  statusBar :
    s.state.coordination.statusBar = Settings.isTrue (s.state.store.get Settings.statusBarKey)
  onSaveEnabled :
    s.state.coordination.onSaveEnabled = Settings.isTrue (s.state.store.get Settings.onSaveEnabledKey)
  localArguments : ∀ name formatter, s.state.formatter? name = some formatter →
    formatter.localArguments = Settings.stringList (s.state.store.get (Slot.localArguments.keyOf name))
  globalArguments : ∀ name formatter, s.state.formatter? name = some formatter →
    formatter.globalArguments = Settings.stringList (s.state.store.get (Slot.globalArguments.keyOf name))
  /-- Exactly one update waits and has the present value, or the present value was handed over last. -/
  debounced : ∀ target : Target, target.isDebounced →
    (∀ name which, target = .slot name which → (s.state.formatter? name).isSome) →
    Arrives delay handed s.state.store (DebouncedTimeline.pending s) target

omit [World ω] in
/-- Nothing is lost when everything is up to date. -/
theorem IsUpToDate.nothingLost {names : List String} {number delay : Nat} {handed : List Update}
    {s : Session ω} (current : s.IsUpToDate (Target.all names) number delay handed)
    (registered : ∀ name, (s.state.formatter? name).isSome → name ∈ names) :
    s.NothingLost delay handed := by
  -- Each part of the statement is what one of the targets shows, or what arrives there.
  have general : ∀ target ∈ Target.general,
      s.state.settled.Shows (s.state.store.get target.key) target :=
    fun target member => (current.fine target (List.mem_append_left _ member)).shows
  have ofFormatter : ∀ {name formatter}, s.state.formatter? name = some formatter → ∀ which,
      s.state.settled.Shows (s.state.store.get (which.keyOf name)) (.slot name which) := by
    intro name formatter present which
    have known := registered name (by simp [present])
    exact (current.fine (.slot name which) (Target.slot_mem_all.mpr known)).shows
  refine ⟨general .errorHandling (by decide), general .busySignal (by decide),
    general .statusBar (by decide), general .onSaveEnabled (by decide), ?_, ?_, ?_⟩
  · intro name formatter present
    simpa [Settled.Shows, Workspace.settled, present] using ofFormatter present .localArguments
  · intro name formatter present
    simpa [Settled.Shows, Workspace.settled, present] using ofFormatter present .globalArguments
  · intro target debounced present
    have member := Target.mem_all fun name which same => registered name (present name which same)
    exact (current.fine target member).arrives debounced

/-- Everything is up to date at any time of a run, and the formatters stay those that were registered. -/
theorem isUpToDate_run {profiles : List Profile} {delay : Nat} {first s : Session ω}
    {handed : List Update} (fresh : first.state.formatters = [])
    (quiet : ∀ observer ∈ first.state.store.observers,
      observer.reaction.isQuiet (first.prepared profiles delay).debouncerNumber)
    (ran : Run Moves hands (first.startHands profiles) (first.start profiles delay) handed s) :
    s.IsUpToDate (Target.all (first.register profiles).state.formatterNames)
        (first.prepared profiles delay).debouncerNumber delay handed ∧
      ∀ name, (s.state.settled.ownArguments name).isSome =
        ((first.start profiles delay).state.settled.ownArguments name).isSome := by
  have different : (first.register profiles).state.formatterNames.Nodup :=
    Workspace.nodup_register profiles (by simp [Workspace.formatterNames, fresh])
  -- The start makes everything up to date, and every move keeps it so.
  induction ran with
  | start => exact ⟨isUpToDate_start profiles delay fresh quiet, fun _ => rfl⟩
  | move before moved ih =>
    exact ⟨isUpToDate_moves ih.1 (Target.nodup_all different) moved, fun name =>
      (isSome_ownArguments_moves moved name).trans (ih.2 name)⟩

/-- A session that has nothing to do yet, in the sample; somebody else observes a setting as well. -/
def sampleFirst : Session Scripted.Tables :=
  Session.initial (Scripted.sample []) .silent
    ((Store.ofDefaults []).observe Settings.busySignalKey ⟨.busySignal, some 1⟩).1

end Session

end FormatPipeline
