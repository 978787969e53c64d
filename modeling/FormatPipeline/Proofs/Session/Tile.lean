import FormatPipeline.Proofs.Session.Drawing
import FormatPipeline.Proofs.Session.Start

/-! The status tile from the start of a session on: it is never stale, and it is gone when it is off. -/

namespace FormatPipeline

open Schedule (DebouncedTimeline Timeline)
open Settings (Store)
open Workspace (Redraws Settled)

namespace Workspace

variable {ω : Type}

/-! ## Formatters -/

/-- Of what was set, registering a profile adds its arguments unless its name is taken. -/
theorem settled_registerOne (w : Workspace ω) (profile : Profile) :
    (w.registerOne profile).settled = { w.settled with
      ownArguments := fun name => (w.settled.ownArguments name).or
        (if profile.name = name then
          some ((Formatter.ofProfile profile).localArguments, (Formatter.ofProfile profile).globalArguments)
        else none) } := by
  have others : (w.registerOne profile).settled =
      { w.settled with ownArguments := (w.registerOne profile).settled.ownArguments } := by
    unfold registerOne
    split <;> rfl
  rw [others]
  refine congrArg (fun own => { w.settled with ownArguments := own }) (funext fun name => ?_)
  unfold registerOne
  split
  next taken =>
    -- The formatter that has the name has its arguments already.
    rw [settled_of_onlySays (onlySays_warn w _)]
    by_cases here : profile.name = name
    · subst here
      have own := (isSome_ownArguments_iff w profile.name).mpr ((isSome_formatter? w profile.name).mp taken)
      obtain ⟨arguments, own⟩ := Option.isSome_iff_exists.mp own
      simp [own]
    · simp [here]
  next free =>
    -- The new formatter is found behind all others.
    simp only [settled, formatter?, List.find?_append, List.find?_singleton, Option.map_or]
    by_cases here : profile.name = name
    · simp [Formatter.ofProfile, Formatter.name, here]
    · simp [Formatter.ofProfile, Formatter.name, here]

/-- Registering a profile is unseen. -/
theorem unseen_registerOne (w : Workspace ω) (profile : Profile) : w.Unseen (w.registerOne profile) := by
  unfold registerOne
  split
  · exact unseen_warn w _
  · exact ⟨rfl, rfl, rfl⟩

/-- Registering profiles one after another is unseen. -/
theorem unseen_register (profiles : List Profile) (w : Workspace ω) :
    w.Unseen (profiles.foldl registerOne w) := by
  induction profiles generalizing w with
  | nil => exact .refl w
  | cons profile rest ih => exact (unseen_registerOne w profile).trans (ih _)

/-- Registering profiles makes nothing of the tile. -/
theorem redraws_register (profiles : List Profile) (w : Workspace ω) :
    Redraws (fun w => profiles.foldl registerOne w) w [] := by
  -- The induction is on the profiles, each of which leaves the coordination and the documents.
  induction profiles generalizing w with
  | nil => exact .of_unseen (fun w => .refl w) (fun _ same => same.settled) fun _ => id
  | cons profile rest ih =>
    have first : Redraws (·.registerOne profile) w [] := by
      refine .of_unseen (fun w => unseen_registerOne w profile) (fun other same => ?_) fun w =>
        (calm_registerOne w profile).1.speech.lasting
      rw [settled_registerOne, settled_registerOne, same.settled]
    exact first.trans (ih _)

/-- Which names are registered depends on those that were there and on the profiles. -/
theorem formatterNames_register_congr (profiles : List Profile) {w other : Workspace ω}
    (same : other.formatterNames = w.formatterNames) :
    (profiles.foldl registerOne other).formatterNames = (profiles.foldl registerOne w).formatterNames := by
  -- Whether a profile is new depends on the names alone.
  induction profiles generalizing w other with
  | nil => exact same
  | cons profile rest ih =>
    refine ih ?_
    rw [formatterNames_registerOne, formatterNames_registerOne, same]

/-- A workspace with a debouncer of a number. -/
def debounced (number delay : Nat) (w : Workspace ω) : Workspace ω :=
  { w with numbered := number + 1, debouncer := some (number, delay) }

/-- A new debouncer makes nothing of the tile. -/
theorem redraws_debounced (number delay : Nat) (w : Workspace ω) :
    Redraws (debounced number delay) w [] := by
  refine .of_unseen (fun w => ⟨rfl, rfl, rfl⟩) (fun other same => ?_) fun _ => id
  exact congrArg (fun settled : Settled => { settled with debouncer := some (number, delay) }) same.settled

/-! ## Settings at the start -/

variable [World ω]

/-- Lets the setting of a target take effect now and whenever it changes. -/
def observe (w : Workspace ω) (target : Target) : Workspace ω :=
  let number := (w.debouncer.map (·.1)).getD 0
  let (store, own) := w.store.observe target.key (target.subscription number)
  Update.apply ⟨target, store.get target.key⟩
    { w with store := store, subscriptions := w.subscriptions ++ [own] }

/-- What a new observer and each setting that takes effect keep is kept while settings are observed. -/
theorem foldl_observe_keeps (holds : Workspace ω → Prop)
    (stored : ∀ {w : Workspace ω} (store : Store Subscription) (numbers : List Nat),
      holds w → holds { w with store := store, subscriptions := numbers })
    (applied : ∀ {w : Workspace ω} (update : Update), holds w → holds (update.apply w))
    (targets : List Target) {w : Workspace ω} (before : holds w) : holds (targets.foldl observe w) := by
  -- The induction is on the targets, each of which is stored and then applied.
  induction targets generalizing w with
  | nil => exact before
  | cons target rest ih => exact ih (applied _ (stored _ _ before))

/-- Letting a setting take effect keeps the tile up to date. -/
theorem redraws_observe (target : Target) (w : Workspace ω) : ∃ told, Redraws (·.observe target) w told := by
  let number := (w.debouncer.map (·.1)).getD 0
  let observed := w.store.observe target.key (target.subscription number)
  obtain ⟨told, applied⟩ := redraws_apply ⟨target, observed.1.get target.key⟩
    { w with store := observed.1, subscriptions := w.subscriptions ++ [observed.2] }
  refine ⟨_, ((Session.redraws_store observed.1 (· ++ [observed.2]) w).trans applied).congr
    fun other same => ?_⟩
  -- The settings and the debouncer are the same in all that is alike.
  have stores : other.store = w.store := congrArg Settled.store same.settled
  have debouncers : other.debouncer = w.debouncer := congrArg Settled.debouncer same.settled
  simp only [observe, stores, debouncers]
  rfl

/-- Letting settings take effect one after another keeps the tile up to date. -/
theorem redraws_foldl_observe (targets : List Target) (w : Workspace ω) :
    ∃ told, Redraws (fun w => targets.foldl observe w) w told := by
  -- The induction is on the targets, whose values take effect one after the other.
  induction targets generalizing w with
  | nil => exact ⟨[], .of_unseen (fun w => .refl w) (fun _ same => same.settled) fun _ => id⟩
  | cons target rest ih =>
    obtain ⟨first, observed⟩ := redraws_observe target w
    obtain ⟨later, others⟩ := ih (w.observe target)
    exact ⟨_, observed.trans others⟩

omit [World ω] in
/-- Takes over the active document, or draws the tile without one. -/
def takeOver (w : Workspace ω) : Workspace ω :=
  match w.documents.active? with
  | none => w.renderStatus
  | some handle =>
    (match w.document? handle with
      | some document => w.documentOpened document
      | none => w).activeChanged (some handle)

omit [World ω] in
/-- Taking over the active document keeps the tile up to date. -/
theorem redraws_takeOver (w : Workspace ω) : ∃ told, Redraws takeOver w told := by
  -- Whether there is an active document is the same in workspaces that are alike.
  cases found : w.documents.active? with
  | none =>
    refine ⟨_, (redraws_renderStatus (fun w => w) (fun _ same => same) (fun _ => rfl) id id).congr
      fun other same => ?_⟩
    simp [takeOver, same.active?, found]
  | some handle =>
    cases present : w.document? handle with
    | none =>
      -- A mirror that is gone is shown as no document.
      obtain ⟨told, drawn⟩ := redraws_activeChanged (w := w) (some handle) fun sound _ same =>
        sound.documents.isSome_get? (found.trans same)
      exact ⟨_, drawn.congr fun other same => by
        simp [takeOver, same.active?, found, same.document?_of_none present]⟩
    -- The document is watched first, and then it becomes the one of the tile.
    | some document =>
      obtain ⟨told, drawn⟩ := redraws_activeChanged (w := w.documentOpened document)
        (some handle) fun sound _ same => sound.documents.isSome_get? (found.trans same)
      refine ⟨_, ((redraws_documentOpened document w).trans drawn).congr fun other same => ?_⟩
      obtain ⟨written, there, named, inScope⟩ := same.document?_of_some present
      simp [takeOver, same.active?, found, there, documentOpened, watchSaves, named, inScope]

omit [World ω] in
/-- In the end of a start the tile is drawn. -/
theorem redraws_greeting (w : Workspace ω) : ∃ told, Redraws Session.greeting w told := by
  obtain ⟨told, drawn⟩ := redraws_takeOver w
  have logged : Redraws (fun w => w.debug ("Initialized with formatters: " ++
      Text.joinWith ", " w.formatterNames)) w.takeOver [] :=
    .of_onlySays (fun w => unseen_debug w _) fun w => onlySays_debug w _
  exact ⟨_, drawn.trans logged⟩

end Workspace

namespace Session

variable {ω : Type} [World ω]

omit [World ω] in
/-- A session is prepared in its workspace. -/
theorem state_prepared (profiles : List Profile) (delay : Nat) (s : Session ω) :
    (s.prepared profiles delay).state =
      (profiles.foldl Workspace.registerOne s.state).debounced s.state.numbered delay := by
  have numbered := (Workspace.calm_register profiles s.state).1.numbered
  rw [← numbered]
  rfl

/-- Settings are observed in the workspace. -/
theorem state_observeTargets (targets : List Target) (s : Session ω) :
    (s.observeTargets targets).state = targets.foldl Workspace.observe s.state := by
  induction targets generalizing s with
  | nil => rfl
  | cons target rest ih => exact ih (s.observe target.key (target.subscription s.debouncerNumber))

/-- The start keeps the tile up to date. -/
theorem does_start (profiles : List Profile) (delay : Nat) (s : Session ω) :
    s.Does (·.start profiles delay) := by
  let targets := Target.all (s.register profiles).state.formatterNames
  have registered := Workspace.redraws_register profiles s.state
  have prepared := registered.trans (Workspace.redraws_debounced s.state.numbered delay _)
  obtain ⟨first, observed⟩ := Workspace.redraws_foldl_observe targets
    ((profiles.foldl Workspace.registerOne s.state).debounced s.state.numbered delay)
  obtain ⟨last, greeted⟩ := Workspace.redraws_greeting (targets.foldl Workspace.observe
    ((profiles.foldl Workspace.registerOne s.state).debounced s.state.numbered delay))
  refine ⟨_, _, fun outlet => ?_, (prepared.trans observed).trans greeted⟩
  -- The same names are registered whatever the way out is.
  have names : ((s.speaking outlet).register profiles).state.formatterNames =
      (s.register profiles).state.formatterNames :=
    Workspace.formatterNames_register_congr profiles rfl
  have started := congrArg (·.state) (start_eq profiles delay (s.speaking outlet))
  rw [names] at started
  refine started.trans (congrArg greeting ((state_observeTargets targets _).trans ?_))
  rw [state_prepared]
  rfl

/-! ## The run -/

/-- What is made of the tile from the start on, whether it can be sent or not. -/
def startDrawn (profiles : List Profile) (delay : Nat) (s : Session ω) : List (Option StatusSnapshot) :=
  (s.overheard.start profiles delay).state.outlet.statuses

variable {profiles : List Profile} {delay : Nat} {first s next : Session ω}

/-- Waiting is a number of happenings. -/
theorem run_wait_happens {ν : Type} {notes : Session ω → Happening ω → List ν} {before history : List ν}
    (ran : Run Happens notes before first history s) (milliseconds : Nat) :
    ∃ later, Run Happens notes before first later (s.wait milliseconds) := by
  -- Time passes by turns, and each turn is a move.
  refine DebouncedTimeline.advance_keeps (fun s => ∃ later, Run Happens notes before first later s) ?_
    ⟨history, ran⟩ milliseconds
  rintro t turn next ⟨later, ran⟩ taken
  exact ⟨_, ran.move (.move (.turn taken))⟩

/-- The tile shows what it is to show at any time of a run, and all that was made of it was sent. -/
theorem tile_run {drawings : List (Option StatusSnapshot)} (unset : first.state.coordination = .initial)
    (sound : first.state.documents.Sound)
    (ran : Run Happens drawn (first.startDrawn profiles delay) (first.start profiles delay) drawings s) :
    s.state.IsSound ∧ shownTile drawings = s.state.tile ∧
      (first.state.outlet.writesLeft = none → s.state.outlet.writesLeft = none ∧
        s.state.outlet.statuses = first.state.outlet.statuses ++ drawings) := by
  induction ran with
  | start =>
    obtain ⟨f, same, redraws⟩ := (does_start profiles delay first).redraws
    -- Before the start there is no tile, and no active document.
    have before : first.state.IsSound := ⟨sound, by simp [unset, Coordination.initial]⟩
    have off : first.state.tile = none := by simp [Workspace.tile, unset, Coordination.initial]
    have shown := redraws.tile before
    rw [off] at shown
    rw [same]
    exact ⟨redraws.sound before, (shownTile_append [] _).trans shown.symm, redraws.statuses _ (.refl _)⟩
  | move before happens ih =>
    obtain ⟨f, same, redraws⟩ := redraws_happens happens
    obtain ⟨sound, shown, sent⟩ := ih
    rw [same, shownTile_append, shown]
    refine ⟨redraws.sound sound, (redraws.tile sound).symm, fun lasting => ?_⟩
    obtain ⟨lasts, earlier⟩ := sent lasting
    obtain ⟨still, later⟩ := redraws.statuses _ (.refl _) lasts
    exact ⟨still, by rw [later, earlier, List.append_assoc]⟩

omit [World ω] in
/-- News of documents set nothing. -/
theorem quiet_noticed (notice : Notice) (s : Session ω) : s.Quiet (s.noticed notice) := by
  cases notice with
  | opened document => exact ⟨rfl, rfl⟩
  | activated document => exact ⟨(Workspace.calm_activeChanged _ document).2, rfl⟩
  | closed id => exact ⟨(Workspace.calm_documentClosed _ id).2, rfl⟩
  | replaced documents => exact ⟨rfl, rfl⟩

/-- Whatever happens in a run keeps everything up to date. -/
theorem exists_isUpToDate {ν : Type} {notes : Session ω → Happening ω → List ν} {before history : List ν}
    (fresh : first.state.formatters = [])
    (quiet : ∀ observer ∈ first.state.store.observers,
      observer.reaction.isQuiet (first.prepared profiles delay).debouncerNumber)
    (ran : Run Happens notes before (first.start profiles delay) history s) :
    ∃ handed, s.IsUpToDate (Target.all (first.register profiles).state.formatterNames)
      (first.prepared profiles delay).debouncerNumber delay handed := by
  have different : (first.register profiles).state.formatterNames.Nodup :=
    Workspace.nodup_register profiles (by simp [Workspace.formatterNames, fresh])
  -- The induction is on the run, with everything up to date as the invariant.
  induction ran with
  | start => exact ⟨_, isUpToDate_start profiles delay fresh quiet⟩
  | move before happens ih =>
    obtain ⟨handed, current⟩ := ih
    cases happens with
    | move moved => exact ⟨_, isUpToDate_moves current (Target.nodup_all different) moved⟩
    | notice fits => exact ⟨_, current.quiet (quiet_noticed _ _)⟩

/-- The tile shows the present state as long as its setting is on, and nothing as long as it is off. -/
theorem shownTile_run {drawings : List (Option StatusSnapshot)} (fresh : first.state.formatters = [])
    (unset : first.state.coordination = .initial) (sound : first.state.documents.Sound)
    (quiet : ∀ observer ∈ first.state.store.observers,
      observer.reaction.isQuiet (first.prepared profiles delay).debouncerNumber)
    (ran : Run Happens drawn (first.startDrawn profiles delay) (first.start profiles delay) drawings s) :
    shownTile drawings =
        (if Settings.isTrue (s.state.store.get Settings.statusBarKey) then some s.state.snapshot
          else none) ∧
      (first.state.outlet.writesLeft = none →
        s.state.outlet.statuses = first.state.outlet.statuses ++ drawings) := by
  obtain ⟨-, shown, sent⟩ := tile_run unset sound ran
  obtain ⟨handed, current⟩ := exists_isUpToDate fresh quiet ran
  -- The switch is a target that is never debounced, so that it always has the value of its setting.
  have switch : s.state.coordination.statusBar =
      Settings.isTrue (s.state.store.get Settings.statusBarKey) :=
    (current.fine .statusBar (List.mem_append_left _ (by decide))).shows
  refine ⟨?_, fun lasting => (sent lasting).2⟩
  rw [shown, Workspace.tile, switch]

/-- The sample with a tile and an active document, while a new order waits to take effect. -/
def sampleActive : Session Scripted.Tables :=
  ((((sampleFirst.start [Scripted.sampleProfile] 250).answer
    (.openDocument (.opened 1 ⟨"/repo/main.py"⟩ none "" ⟨0, 0⟩ true))).answer (.activate (some 1))).answer
    (.set Settings.statusBarKey (.bool true))).answer
    (.set Settings.OrderKind.format.key (.array [.string "black"]))

/-- The order has taken effect, and then the formatters do not apply to the document any more. -/
def sampleShown : Session Scripted.Tables := (sampleActive.wait 250).answer (.changeScope 0 false)

/-- In the sample the tile shows the new order, and that the formatters do not apply. -/
theorem shownTile_sample :
    sampleShown.state.snapshot = ⟨false, false, some "/repo/main.py", ["black"], []⟩ ∧
    ∃ drawings, Run Happens drawn (sampleFirst.startDrawn [Scripted.sampleProfile] 250)
        (sampleFirst.start [Scripted.sampleProfile] 250) drawings sampleShown ∧
      shownTile drawings = some sampleShown.state.snapshot := by
  have started : Run Happens drawn (sampleFirst.startDrawn [Scripted.sampleProfile] 250)
    (sampleFirst.start [Scripted.sampleProfile] 250) _ _ := .start
  -- A document becomes active, and then two settings change.
  have active : Run Happens drawn _ _ _ sampleActive :=
    (((started.move (.move (.call (.openDocument _)))).move (.move (.call (.activate (some 1))))).move
      (.move (.call (.set _ _)))).move (.move (.call (.set _ _)))
  obtain ⟨later, waited⟩ := run_wait_happens active 250
  have shown : Run Happens drawn _ _ _ sampleShown := waited.move (.move (.call (.changeScope 0 false)))
  -- The tile itself is found by running the sample.
  refine ⟨by decide +kernel, _, shown, ?_⟩
  have current := (shownTile_run rfl rfl (fun _ _ known => by cases known) (by decide +kernel) shown).1
  have switch : Settings.isTrue (sampleShown.state.store.get Settings.statusBarKey) = true := by
    decide +kernel
  rwa [switch, if_pos rfl] at current

end Session

end FormatPipeline
