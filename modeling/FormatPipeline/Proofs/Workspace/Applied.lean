import FormatPipeline.Proofs.Workspace.Errands
import FormatPipeline.Proofs.Workspace.Settling

/-! All that settings have made of a workspace and of its formatters; work in progress changes none of it. -/

namespace FormatPipeline

open Settings (ErrorHandling OrderKind)

namespace Formatter

/-- The formatter without anything that it remembers of earlier questions. -/
def blank (formatter : Formatter) : Formatter :=
  { formatter with
    binaries := { formatter.binaries with memo := .empty }
    localConfigs := { formatter.localConfigs with memo := .empty }
    globalConfigs := { formatter.globalConfigs with memo := .empty }
    arguments := .empty }

/-- What to run for a file is found without a change of anything but memories. -/
theorem blank_resolve (files : FileSystem) (formatter : Formatter) (file : Path) (mode : Mode) :
    (formatter.resolve files file mode).value.2.blank = formatter.blank := by
  unfold resolve
  simp only [Probed.value_bind]
  split
  next => simp [BinaryFinder.finder_resolve, blank]
  -- With a binary, one of the two finders of configuration files is asked as well.
  next path scope _ =>
    cases scope with
    | inRepository => simp [resolveConfig, ConfigFinder.resolve, BinaryFinder.finder_resolve, blank]
    | anywhere => simp [resolveConfig, ConfigFinder.resolve, BinaryFinder.finder_resolve, blank]

end Formatter

/-- The setting of the formatter of a name that an update gives a value, if it gives one. -/
def Update.setting? (update : Update) (name : String) : Option Formatter.Setting :=
  match update.target with
  | .slot other slot => if other = name then some (Workspace.settingOf update.value slot) else none
  | _ => none

namespace Workspace

variable {ω : Type}

/-- All that settings have made of a workspace. -/
structure Applied where
  handling : ErrorHandling
  busyEnabled : Bool
  statusBar : Bool
  onSaveEnabled : Bool
  order : OrderKind → List String
  names : List String
  /-- The formatters by their names, without what they remember. -/
  formatter? : String → Option Formatter

/-- All that settings have made of a workspace. -/
def applied (w : Workspace ω) : Applied where
  handling := w.handling
  busyEnabled := w.busy.enabled
  statusBar := w.coordination.statusBar
  onSaveEnabled := w.coordination.onSaveEnabled
  order := w.coordination.order
  names := w.formatterNames
  formatter? name := (w.formatter? name).map Formatter.blank

/-! ## Work in progress -/

/-- A view of a workspace in which work in progress cannot be seen. -/
structure Unaffected {α : Type} [World ω] (view : Workspace ω → α) : Prop where
  outlet : ∀ w outlet, view { w with outlet := outlet } = view w
  entries : ∀ w entries, view { w with busy := { w.busy with entries := entries } } = view w
  documents : ∀ w documents, view { w with documents := documents } = view w
  world : ∀ w world, view { w with world := world } = view w
  finished : ∀ w finished, view { w with finished := finished } = view w
  resolved : ∀ {w name formatter}, w.formatter? name = some formatter →
    ∀ file mode, view (w.resolve formatter file mode).1 = view w

variable [World ω] {α : Type} {view : Workspace ω → α}

namespace Unaffected

/-- What is only said cannot be seen. -/
theorem onlySays (unaffected : Unaffected view) {w later : Workspace ω} (speech : w.OnlySays later) :
    view later = view w := by
  obtain ⟨outlet, -, rfl⟩ := speech
  exact unaffected.outlet w outlet

/-- The labels of work in progress cannot be seen. -/
theorem busy (unaffected : Unaffected view) (w : Workspace ω) (entries : List BusyEntry) (outlet : Outlet) :
    view { w with busy := { w.busy with entries := entries }, outlet := outlet } = view w :=
  (unaffected.outlet { w with busy := { w.busy with entries := entries } } outlet).trans
    (unaffected.entries w entries)

/-- That a piece of work begins cannot be seen. -/
theorem beginBusy (unaffected : Unaffected view) (w : Workspace ω) (now : Nat) (label : String) :
    view (w.beginBusy now label) = view w :=
  unaffected.busy w _ _

/-- That a piece of work ends cannot be seen. -/
theorem endBusy (unaffected : Unaffected view) (w : Workspace ω) (now : Nat) (label : String) :
    view (w.endBusy now label).1 = view w := by
  -- If the label is not there the log is told, and otherwise the signal changes.
  unfold Workspace.endBusy BusySignal.remove
  split
  next busy messages duration removed =>
    split at removed
    next => cases removed; exact unaffected.outlet w _
    next => cases removed; exact unaffected.busy w _ _

/-- How long a piece of work took cannot be seen. -/
theorem endBusyLogged (unaffected : Unaffected view) (w : Workspace ω) (now : Nat) (label : String) :
    view (w.endBusyLogged now label) = view w := by
  have ended := unaffected.endBusy w now label
  unfold Workspace.endBusyLogged
  -- The label may be gone before, and then nothing more is logged.
  split
  next later same => rwa [same] at ended
  next later duration same =>
    rw [same] at ended
    exact (unaffected.onlySays (onlySays_debug later _)).trans ended

/-- A text that is put into a document cannot be seen. -/
theorem setText (unaffected : Unaffected view) (w : Workspace ω) (handle : Handle) (text : String) :
    view (w.setText handle text) = view w := by
  unfold Workspace.setText
  split
  · rfl
  · exact (unaffected.outlet _ _).trans (unaffected.documents w _)

/-- The place of a cursor cannot be seen. -/
theorem setCursor (unaffected : Unaffected view) (w : Workspace ω) (handle : Handle)
    (position : Position) : view (w.setCursor handle position) = view w := by
  unfold Workspace.setCursor
  split
  · rfl
  · exact (unaffected.outlet _ _).trans (unaffected.documents w _)

/-- What a process that ended leaves behind cannot be seen. -/
theorem finishProcess (unaffected : Unaffected view) (w : Workspace ω) (flight : InFlight) :
    view (w.finishProcess flight).1 = view w := by
  -- What is said cannot be seen, and neither are texts and cursors.
  obtain ⟨spoken, speech, same⟩ := finishProcess_cases w flight
  have said := unaffected.onlySays speech
  rw [same]
  split
  · exact (unaffected.setCursor _ _ _).trans ((unaffected.setText _ _ _).trans said)
  · exact said

/-- A process that starts cannot be seen. -/
theorem startProcess (unaffected : Unaffected view) (w : Workspace ω) (handle : Handle)
    (document : Document) (binary : Path) (arguments : List String) (mode : Mode) :
    view (w.startProcess handle document binary arguments mode).1 = view w := by
  have logged := unaffected.onlySays (onlySays_debug w ("Running: " ++ Shell.commandLine binary arguments))
  exact (unaffected.outlet _ _).trans ((unaffected.world _ _).trans logged)

/-- That a formatter starts cannot be seen. -/
theorem beginFormat (unaffected : Unaffected view) {w : Workspace ω} {name : String}
    {formatter : Formatter} (present : w.formatter? name = some formatter) (handle : Handle)
    (document : Document) (mode : Mode) :
    view (w.beginFormat formatter handle document mode).1 = view w := by
  have resolved := unaffected.resolved present document.path mode
  unfold Workspace.beginFormat
  generalize w.resolve formatter document.path mode = resolution at resolved ⊢
  obtain ⟨mid, found⟩ := resolution
  cases found with
  | none => exact (unaffected.onlySays (onlySays_report mid _)).trans resolved
  | some invocation =>
    have started := unaffected.startProcess mid handle document invocation.binary
      invocation.arguments mode
    dsimp only
    generalize mid.startProcess handle document invocation.binary invocation.arguments mode =
      launched at started ⊢
    obtain ⟨later, delay, flight⟩ := launched
    dsimp only at started ⊢
    -- A process that takes no time has ended before anything else happens.
    split
    · exact (unaffected.finishProcess later flight).trans (started.trans resolved)
    · exact started.trans resolved

/-- Formatters that run in order cannot be seen. -/
theorem runChain (unaffected : Unaffected view) (now : Nat) (run : ChainRun) (names : List String)
    (w : Workspace ω) : view (Workspace.runChain now run names w).1 = view w := by
  -- The induction is on the names, as the chain goes through them.
  induction names generalizing run w with
  | nil => exact (unaffected.finished _ _).trans (unaffected.endBusyLogged w now run.label)
  | cons name rest ih =>
    unfold Workspace.runChain
    split
    next formatter document present _ =>
      -- The formatter begins under its label, and then it is done or waited for.
      have begun := (unaffected.beginFormat (w := w.beginBusy now (run.stepLabel name)) present
        run.document document run.mode).trans (unaffected.beginBusy w now _)
      dsimp only
      generalize (w.beginBusy now (run.stepLabel name)).beginFormat formatter run.document document
        run.mode = result at begun ⊢
      obtain ⟨mid, outcome | ⟨delay, scope, flight⟩⟩ := result
      · exact (ih _ _).trans ((unaffected.endBusyLogged mid now _).trans begun)
      · exact begun
    -- A formatter that is not there is only reported.
    next => exact (ih _ _).trans (unaffected.onlySays (onlySays_report w _))

/-- A chain that is started cannot be seen. -/
theorem startChain (unaffected : Unaffected view) (now number : Nat) (handle : Handle)
    (names : List String) (mode : Mode) (w : Workspace ω) :
    view (Workspace.startChain now number handle names mode w).1 = view w := by
  unfold Workspace.startChain
  -- A chain without names is over, and its empty result cannot be seen.
  dsimp only
  split
  · exact (unaffected.finished _ _).trans (unaffected.endBusy w now _)
  · exact (unaffected.runChain now _ names _).trans (unaffected.beginBusy w now _)

/-- An errand that begins cannot be seen. -/
theorem startErrand (unaffected : Unaffected view) (now : Nat) (errand : Errand) (w : Workspace ω) :
    view (Workspace.startErrand now errand w).1 = view w := by
  -- The errand starts a chain, a single formatter, or nothing.
  rcases startErrand_cases now errand w with
    ⟨handle, names, mode, -, started⟩ | ⟨number, name, handle, mode, rfl⟩ | ⟨-, -, spoken, speech, started⟩
  · rw [started]
    exact unaffected.startChain now _ handle names mode w
  · simp only [Workspace.startErrand]
    split
    next formatter document present _ =>
      have begins := unaffected.beginFormat present handle document mode
      generalize w.beginFormat formatter handle document mode = result at begins ⊢
      obtain ⟨mid, outcome | ⟨delay, scope, flight⟩⟩ := result
      · exact (unaffected.finished _ _).trans begins
      · exact begins
    · exact unaffected.finished w _
  · rw [started]
    exact (unaffected.finished _ _).trans (unaffected.onlySays speech)

/-- That work goes on when a process has ended cannot be seen. -/
theorem wakeSleeper (unaffected : Unaffected view) (now : Nat) (sleeper : Sleeper) (w : Workspace ω) :
    view (Workspace.wakeSleeper now sleeper w).1 = view w := by
  -- The process is finished first, and then the work is complete or goes on.
  cases sleeper with
  | single number scope flight =>
    exact (unaffected.finished _ _).trans (unaffected.finishProcess w flight)
  | chain run name rest scope flight =>
    have ended := unaffected.endBusyLogged (w.finishProcess flight).1 now (run.stepLabel name)
    exact (unaffected.runChain now _ rest _).trans (ended.trans (unaffected.finishProcess w flight))

end Unaffected

omit [World ω] in
/-- A formatter that is put in place leaves the names as they are. -/
theorem formatterNames_putFormatter (w : Workspace ω) (formatter : Formatter) :
    (w.putFormatter formatter).formatterNames = w.formatterNames := by
  -- Only formatters of its own name are replaced.
  unfold formatterNames putFormatter
  rw [List.map_map]
  refine List.map_congr_left fun other _ => ?_
  by_cases same : other.name = formatter.name
  · simp [same]
  · simp [same]

omit [World ω] in
/-- Replacing a formatter leaves the names as they are. -/
theorem Replaces.formatterNames {w later : Workspace ω} {new : Formatter}
    (replaces : w.Replaces new later) : later.formatterNames = w.formatterNames := by
  obtain ⟨probes, outlet, -, rfl⟩ := replaces
  exact formatterNames_putFormatter { w with probes := probes } new

/-- What formatters remember is no part of what settings have made of them. -/
theorem applied_resolve {w : Workspace ω} {name : String} {formatter : Formatter}
    (present : w.formatter? name = some formatter) (file : Path) (mode : Mode) :
    (w.resolve formatter file mode).1.applied = w.applied := by
  have replaces := replaces_resolve w formatter file mode
  have blank := Formatter.blank_resolve (World.files w.world) formatter file mode
  generalize (formatter.resolve (World.files w.world) file mode).value.2 = new at replaces blank
  have named : new.name = name := by
    rw [← name_of_formatter? present]
    exact congrArg (·.profile.name) blank
  -- The formatter that remembers more is found in the place of the other one.
  have found : (fun other => ((w.resolve formatter file mode).1.formatter? other).map Formatter.blank) =
      fun other => (w.formatter? other).map Formatter.blank := by
    funext other
    by_cases here : new.name = other
    · have there := (replaces.formatter? present named).1
      rw [← here, named, there, present, Option.map_some, Option.map_some, blank]
    · rw [replaces.formatter?_of_ne here]
  have names := replaces.formatterNames
  obtain ⟨probes, outlet, -, same⟩ := replaces
  rw [same] at found names ⊢
  simp only [applied, Applied.mk.injEq]
  exact ⟨rfl, rfl, rfl, rfl, rfl, names, found⟩

/-- Work in progress changes nothing of what settings have made of a workspace. -/
theorem unaffected_applied : Unaffected (applied : Workspace ω → Applied) where
  outlet _ _ := rfl
  entries _ _ := rfl
  documents _ _ := rfl
  world _ _ := rfl
  finished _ _ := rfl
  resolved := applied_resolve

/-- Drawing the status tile changes nothing of what settings have made of a workspace. -/
theorem applied_renderStatus (w : Workspace ω) : w.renderStatus.applied = w.applied :=
  unaffected_applied.onlySays (onlySays_renderStatus w)

/-- That the formatters apply to a document, or not any more, makes nothing of the settings. -/
theorem applied_scopeChanged (w : Workspace ω) (document : Document) :
    (w.scopeChanged document).applied = w.applied := by
  unfold scopeChanged
  dsimp only
  split
  · exact applied_renderStatus (w.watchSaves document)
  · rfl

/-- That another document is active makes nothing of the settings. -/
theorem applied_activeChanged (w : Workspace ω) (handle : Option Handle) :
    (w.activeChanged handle).applied = w.applied :=
  applied_renderStatus { w with coordination := { w.coordination with activeDocument := handle } }

/-- That a document was closed makes nothing of the settings. -/
theorem applied_documentClosed (w : Workspace ω) (id : Nat) :
    (w.documentClosed id).applied = w.applied := by
  unfold documentClosed
  dsimp only
  split
  · exact (applied_renderStatus _).trans rfl
  · rfl

/-! ## Settings -/

/-- A setting that takes effect leaves the names of the formatters and the world as they are. -/
theorem formatterNames_apply (update : Update) (w : Workspace ω) :
    (update.apply w).formatterNames = w.formatterNames ∧ (update.apply w).world = w.world := by
  obtain ⟨target, value⟩ := update
  -- What is only said leaves both.
  have only : ∀ {mid later : Workspace ω}, mid.OnlySays later →
      mid.formatterNames = w.formatterNames → mid.world = w.world →
      later.formatterNames = w.formatterNames ∧ later.world = w.world := by
    rintro mid later ⟨outlet, -, rfl⟩ names world
    exact ⟨names, world⟩
  -- Only the slot of a formatter replaces one, and it goes by the same name.
  cases target with
  | errorHandling | busySignal => exact ⟨rfl, rfl⟩
  | statusBar => exact only (onlySays_setStatusBar w _) rfl rfl
  | onSaveEnabled => exact only (onlySays_renderStatus _) rfl rfl
  | order kind =>
    obtain ⟨order, speech⟩ := onlySays_setOrder w kind (Settings.stringList value)
    exact only speech rfl rfl
  | slot name slot =>
    simp only [Update.apply, applyTarget]
    split
    next formatter present =>
      rw [applySlot_eq_call present]
      obtain ⟨probes, speech⟩ := replaces_call present (.set (settingOf value slot))
      exact only speech (formatterNames_putFormatter _ _) rfl
    · exact ⟨rfl, rfl⟩

/-- A setting that takes effect on a formatter gives it the value, and others stay as they are. -/
theorem formatter?_apply (update : Update) (w : Workspace ω) (name : String) :
    (update.apply w).formatter? name = (w.formatter? name).map fun formatter =>
      (update.setting? name).elim formatter fun setting =>
        formatter.after (World.files w.world) (.set setting) := by
  obtain ⟨target, value⟩ := update
  -- What is only said leaves every formatter as it is.
  have only : ∀ {mid later : Workspace ω}, mid.OnlySays later →
      mid.formatter? name = w.formatter? name →
      later.formatter? name = (w.formatter? name).map fun formatter => formatter := by
    rintro mid later ⟨outlet, -, rfl⟩ same
    exact same.trans Option.map_id'.symm
  cases target with
  | errorHandling | busySignal => exact Option.map_id'.symm
  | statusBar => exact only (onlySays_setStatusBar w _) rfl
  | onSaveEnabled => exact only (onlySays_renderStatus _) rfl
  | order kind =>
    obtain ⟨order, speech⟩ := onlySays_setOrder w kind (Settings.stringList value)
    exact only speech rfl
  | slot other slot =>
    simp only [Update.apply, applyTarget, Update.setting?]
    -- A slot of an unknown formatter has no effect on anyone.
    cases present : w.formatter? other with
    | none =>
      by_cases here : other = name
      · subst here
        simp [present]
      · simp [here]
    | some formatter =>
      -- The formatter takes the setting, and it is the only one of its name.
      have replaces := replaces_call present (.set (settingOf value slot))
      have named : (formatter.after (World.files w.world) (.set (settingOf value slot))).name = other := by
        rw [Formatter.name, Formatter.profile_after]
        exact name_of_formatter? present
      dsimp only
      rw [applySlot_eq_call present]
      by_cases here : other = name
      · subst here
        simp [(replaces.formatter? present named).1, present]
      · simp [replaces.formatter?_of_ne (named ▸ here), here]

/-- Settings that take effect leave the names of the formatters as they are. -/
theorem formatterNames_foldl_apply (updates : List Update) (w : Workspace ω) :
    (updates.foldl (fun w update => update.apply w) w).formatterNames = w.formatterNames :=
  foldl_apply_keeps (fun later => later.formatterNames = w.formatterNames)
    (fun update before => (formatterNames_apply update _).1.trans before) updates rfl

end Workspace

end FormatPipeline
