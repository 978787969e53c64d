import FormatPipeline.Proofs.Session.Applying

/-! Problems are shown to the user as the setting of the error handling says at that time. -/

namespace FormatPipeline

open Schedule (DebouncedTimeline Delayed Timeline Turn Work)
open Settings (ErrorHandling OrderKind Slot Store)
open Workspace (Settled)

/-- A value hides problems, lets them stay, or is one of all those that do neither. -/
theorem Settings.ErrorHandling.ofValue_cases (value : Json.Value) :
    (value = .string "hide" ∧ ofValue value = .hide) ∨
    (value = .string "show" ∧ ofValue value = .showing) ∨
    (value ≠ .string "hide" ∧ value ≠ .string "show" ∧ ofValue value = .standard) := by
  -- Only strings can be one of the two words.
  cases value with
  | string word =>
    by_cases hidden : word = "hide"
    · simp [ofValue, Json.Value.string?, hidden]
    · by_cases shown : word = "show"
      · simp [ofValue, Json.Value.string?, shown]
      · simp [ofValue, Json.Value.string?, hidden, shown]
  | null | bool | number | array | object => simp [ofValue, Json.Value.string?]

/-- What is shown to the user, in its order. -/
def Outlet.notifications (outlet : Outlet) : List Notification :=
  outlet.messages.filterMap Outgoing.notification?

/-- Something that is shown to the user, and the error handling's setting around that time. -/
structure Showing where
  before : Json.Value
  after : Json.Value
  content : Notification

/-- What is shown stays until it is dismissed exactly if the setting asks for that, and is not hidden. -/
structure Showing.Complies (showing : Showing) : Prop where
  /-- The setting does not change while anything is shown. -/
  steady : showing.after = showing.before
  sticky : showing.content.sticky ↔ showing.before = .string "show"
  visible : showing.before ≠ .string "hide"

/-- A problem is shown in compliance with the value that the error handling comes from. -/
theorem Showing.complies_of_noticeOf {setting : Json.Value} {problem : Problem} {content : Notification}
    (noticed : Workspace.noticeOf (.ofValue setting) problem = some content) :
    Showing.Complies ⟨setting, setting, content⟩ := by
  -- Each kind of handling decides which problems are shown and how long.
  rcases ErrorHandling.ofValue_cases setting with
    ⟨-, handling⟩ | ⟨rfl, handling⟩ | ⟨visible, other, handling⟩
  · simp [Workspace.noticeOf, handling] at noticed
  · obtain rfl : _ = content := by simpa [Workspace.noticeOf, handling] using noticed
    exact ⟨rfl, by simp, by simp⟩
  · obtain rfl : _ = content := by simpa [Workspace.noticeOf, handling] using noticed
    exact ⟨rfl, by simpa using other, visible⟩

namespace Workspace

variable {ω : Type} {w mid later : Workspace ω}

/-- What is shown to the user on the way to a later workspace, with the setting of both. -/
def showings (w later : Workspace ω) : List Showing :=
  (later.outlet.notifications.drop w.outlet.notifications.length).map fun content =>
    ⟨w.store.get Settings.errorHandlingKey, later.store.get Settings.errorHandlingKey, content⟩

/-- Of the problems that are reported some are shown to the user, and nothing else is. -/
theorem Reports.notifications {problems : List Problem} (reports : w.Reports problems later) :
    ∃ shown : List Notification, shown.Sublist (problems.filterMap (noticeOf w.handling)) ∧
      later.outlet.notifications = w.outlet.notifications ++ shown := by
  obtain ⟨told, tells, noticed⟩ := reports.told
  obtain ⟨reached, part, messages⟩ := tells.reached
  refine ⟨reached.filterMap Outgoing.notification?, noticed ▸ part.filterMap _, ?_⟩
  simp only [Outlet.notifications, messages, List.filterMap_append]

/-- Where no problem is reported, nothing is shown. -/
theorem Reports.notifications_eq (reports : w.Reports [] later) :
    later.outlet.notifications = w.outlet.notifications := by
  obtain ⟨shown, none, same⟩ := reports.notifications
  rw [same, List.sublist_nil.mp none, List.append_nil]

/-- All that is shown on the way complies with the setting of the error handling. -/
structure Obeys (w later : Workspace ω) : Prop where
  notifications : later.outlet.notifications =
    w.outlet.notifications ++ (w.showings later).map (·.content)
  complies : ∀ showing ∈ w.showings later, showing.Complies

/-- Where nothing is shown, the setting is obeyed. -/
theorem Obeys.of_silent (silent : later.outlet.notifications = w.outlet.notifications) :
    w.Obeys later := by
  have nothing : w.showings later = [] := by simp [showings, silent]
  exact ⟨by simp [nothing, silent], by simp [nothing]⟩

/-- A setting that is obeyed was obeyed as well while nothing had been shown yet. -/
theorem Obeys.after (obeys : mid.Obeys later)
    (silent : mid.outlet.notifications = w.outlet.notifications)
    (kept : mid.store.get Settings.errorHandlingKey = w.store.get Settings.errorHandlingKey) :
    w.Obeys later := by
  have same : w.showings later = mid.showings later := by simp only [showings, silent, kept]
  exact ⟨by rw [same, obeys.notifications, silent], same ▸ obeys.complies⟩

/-- As long as the error handling is what its setting says, problems are reported in obedience to it. -/
theorem Reports.obeys {problems : List Problem} (reports : w.Reports problems later)
    (handled : w.handling = .ofValue (w.store.get Settings.errorHandlingKey))
    (kept : later.store.get Settings.errorHandlingKey = w.store.get Settings.errorHandlingKey) :
    w.Obeys later := by
  obtain ⟨shown, part, same⟩ := reports.notifications
  have showings : w.showings later = shown.map fun content =>
      ⟨w.store.get Settings.errorHandlingKey, w.store.get Settings.errorHandlingKey, content⟩ := by
    simp [Workspace.showings, same, kept]
  refine ⟨by simp [showings, same, Function.comp_def], fun showing member => ?_⟩
  rw [showings] at member
  obtain ⟨content, among, rfl⟩ := List.mem_map.mp member
  -- What is shown is how the handling in force shows some problem.
  obtain ⟨problem, -, noticed⟩ := List.mem_filterMap.mp (part.subset among)
  exact Showing.complies_of_noticeOf (handled ▸ noticed)

variable [World ω]

/-- How problems are shown is changed without showing anything. -/
theorem notifications_foldl_apply {updates : List Update}
    (own : ∀ update ∈ updates, update.target = .errorHandling) (w : Workspace ω) :
    (updates.foldl (fun w update => update.apply w) w).outlet.notifications =
      w.outlet.notifications := by
  -- The induction is on the updates, each of which only changes the handling.
  induction updates generalizing w with
  | nil => rfl
  | cons update rest ih =>
    obtain ⟨target, value⟩ := update
    obtain rfl : target = .errorHandling := own ⟨target, value⟩ (by simp)
    exact ih (fun other member => own other (by simp [member])) _

end Workspace

namespace Session

variable {ω : Type} [World ω] {s next : Session ω} {targets : List Target} {number delay : Nat}
  {handed : List Update}

/-- A call obeys the setting of the error handling. -/
theorem obeys_answer (current : s.IsUpToDate targets number delay handed) (different : targets.Nodup)
    (observed : .errorHandling ∈ targets) (call : Call ω) : s.state.Obeys (s.answer call).state := by
  have handled := (current.fine .errorHandling observed).shows
  obtain ⟨w, reports, -, -, state⟩ := answer_eq call s
  rcases answer_cases s call with ⟨t, key, value, quiet, same, hands⟩ | ⟨quiet, nothing⟩
  · have handed : ∀ update ∈ s.hands (.call call), update.target.key = key := fun update member =>
      key_of_mem_handsOut (current.quiet quiet) different (hands ▸ member)
    by_cases own : key = Settings.errorHandlingKey
    · -- The error handling itself changes in silence.
      refine .of_silent ?_
      rw [state, Workspace.notifications_foldl_apply (fun update member =>
        Target.key_injective ((handed update member).trans own)), reports.notifications_eq]
    · -- Another setting changes, and what is wrong with it is reported.
      obtain ⟨problems, applied⟩ := Workspace.reports_foldl_apply (s.hands (.call call))
        (fun update member about => own ((handed update member).symm.trans (congrArg Target.key about))) w
      rw [← state] at applied
      refine (reports.trans applied).obeys handled ?_
      rw [same, state_set, Workspace.store_foldl_apply]
      exact (Store.get_set_of_ne _ (Ne.symm own) value).trans
        (congrArg (·.store.get Settings.errorHandlingKey) quiet.settled)
  · rw [nothing, List.foldl_nil] at state
    subst state
    exact reports.obeys handled (congrArg (·.store.get Settings.errorHandlingKey) quiet.settled)

/-- A turn obeys the setting of the error handling. -/
theorem obeys_takes (current : s.IsUpToDate targets number delay handed)
    (observed : .errorHandling ∈ targets) {turn : Turn (Work Update Errand) (Work Update Sleeper)}
    (taken : DebouncedTimeline.Takes machine s turn next) : s.state.Obeys next.state := by
  have handled := (current.fine .errorHandling observed).shows
  rcases DebouncedTimeline.pending_takes taken with ⟨now, task, rfl, same, state⟩ | ⟨other, -⟩
  · -- An update that has waited is not about the error handling, which is never debounced.
    have waits : task.toDelayed ∈ DebouncedTimeline.pending s := same.mem_iff.mpr (by simp)
    obtain ⟨target, debounced, own⟩ := UpToDate.delayed_of_waiting current waits
    have about : task.action = (target.delayed delay s.state.settled.store).action := by rw [own]
    have apart : target ≠ .errorHandling := by
      rintro rfl
      cases debounced
    obtain ⟨problems, reports⟩ := Workspace.reports_apply
      (target.delayed delay s.state.settled.store).action apart s.state
    rw [state, about]
    exact reports.obeys handled (congrArg (·.get Settings.errorHandlingKey)
      (Workspace.store_apply _ s.state))
  · exact (reports_takes taken other).obeys handled
      (congrArg (·.store.get Settings.errorHandlingKey) (effect_takes taken other).settled)

/-- Whatever happens obeys the setting of the error handling. -/
theorem obeys_happens (current : s.IsUpToDate targets number delay handed) (different : targets.Nodup)
    (observed : .errorHandling ∈ targets) {happening : Happening ω}
    (happens : Happens s happening next) : s.state.Obeys next.state := by
  -- News are reported with the handling of the moment, which the setting has fixed.
  cases happens with
  | @notice notice fits =>
    exact (reports_noticed notice s).obeys (current.fine .errorHandling observed).shows
      (congrArg (·.store.get Settings.errorHandlingKey) (quiet_noticed notice s).settled)
  | move moved =>
    cases moved with
    | call call => exact obeys_answer current different observed call
    | turn taken => exact obeys_takes current observed taken

/-- A start obeys the setting of the error handling, which it observes before everything else. -/
theorem obeys_start (profiles : List Profile) (delay : Nat) (s : Session ω) :
    s.state.Obeys (s.start profiles delay).state := by
  obtain ⟨rest, all, others⟩ := Target.all_eq_cons (s.register profiles).state.formatterNames
  let prepared := s.prepared profiles delay
  let w := prepared.state.observe .errorHandling
  have values : w.store.get = s.state.store.get :=
    (Workspace.values_observe _ _).1.trans (congrArg Store.get (Workspace.calm_register profiles s.state).2)
  -- Nothing is shown before the setting is observed, and from then on it is in force.
  have silent : w.outlet.notifications = s.state.outlet.notifications :=
    (Workspace.reports_register profiles s.state).notifications_eq
  have handled : w.handling = .ofValue (w.store.get Settings.errorHandlingKey) := rfl
  obtain ⟨problems, observed⟩ := Workspace.reports_foldl_observe rest others w
  have state : (prepared.observeTargets (.errorHandling :: rest)).state = rest.foldl Workspace.observe w :=
    state_observeTargets _ prepared
  have greeted := quiet_greeting (prepared.observeTargets (.errorHandling :: rest))
  have reports := observed.trans (Workspace.reports_greeting (rest.foldl Workspace.observe w))
  rw [start_eq, all]
  rw [← state] at reports
  refine (reports.obeys handled ?_).after silent (congrFun values _)
  refine (congrArg (·.store.get Settings.errorHandlingKey) greeted.settled).trans ?_
  exact congrFun ((congrArg (·.store.get) state).trans (Workspace.get_foldl_observe rest w)) _

/-! ## The run -/

/-- The workspace after something has happened. -/
def following (s : Session ω) : Happening ω → Workspace ω
  | .move (.call call) => (s.answer call).state
  | .move (.turn (.start job)) => (machine.start s.clock job s.state).1
  | .move (.turn (.wake now sleeper)) => (machine.wake now sleeper s.state).1
  | .move (.turn .pass) => s.state
  | .notice notice => (s.noticed notice).state

/-- Whatever happens leads to the workspace that follows. -/
theorem following_eq {happening : Happening ω} (happens : Happens s happening next) :
    s.following happening = next.state := by
  -- What follows was defined by the happening itself.
  cases happens with
  | notice => rfl
  | move moved =>
    cases moved with
    | call => rfl
    | @turn _ turn taken => exact (taken.state_eq.trans (by cases turn <;> rfl)).symm

/-- What is shown to the user when something happens. -/
def shown (s : Session ω) (happening : Happening ω) : List Showing :=
  s.state.showings (s.following happening)

/-- What is shown to the user in a start. -/
def startShown (profiles : List Profile) (delay : Nat) (s : Session ω) : List Showing :=
  s.state.showings (s.start profiles delay).state

/-- All that is shown to the user at any time of a run complies with the setting at that time. -/
theorem notificationPolicy_run {profiles : List Profile} {first : Session ω} {history : List Showing}
    (fresh : first.state.formatters = [])
    (quiet : ∀ observer ∈ first.state.store.observers,
      observer.reaction.isQuiet (first.prepared profiles delay).debouncerNumber)
    (ran : Run Happens shown (first.startShown profiles delay) (first.start profiles delay) history s) :
    (∀ showing ∈ history, showing.Complies) ∧
      s.state.outlet.notifications = first.state.outlet.notifications ++ history.map (·.content) := by
  have different : (first.register profiles).state.formatterNames.Nodup :=
    Workspace.nodup_register profiles (by simp [Workspace.formatterNames, fresh])
  -- The induction is on the run, and each of its moments is up to date with the settings.
  induction ran with
  | start =>
    have obeys := obeys_start profiles delay first
    exact ⟨obeys.complies, obeys.notifications⟩
  | move before happens ih =>
    obtain ⟨complies, shown⟩ := ih
    obtain ⟨handed, current⟩ := exists_isUpToDate fresh quiet before
    -- Whatever is shown now obeys the setting that the store has now.
    have obeys := obeys_happens current (Target.nodup_all different)
      (List.mem_append_left _ (by decide)) happens
    rw [← following_eq happens] at obeys ⊢
    refine ⟨fun showing member => ?_, ?_⟩
    · exact (List.mem_append.mp member).elim (complies showing) (obeys.complies showing)
    · rw [List.map_append, ← List.append_assoc, ← shown]
      exact obeys.notifications

/-- A session whose problems are to stay, with an order of a formatter that nobody knows. -/
def sampleStubborn : Session Scripted.Tables :=
  -- All processes take a while and complain in the end.
  .initial (Scripted.sample [⟨"", none, 100, none, none, none, "", "no such option", some 1⟩]) .silent
    (.ofDefaults [(Settings.errorHandlingKey, .string "show"),
      (OrderKind.save.key, .array [.string "prettier"]),
      (Slot.localBins.keyOf "black", .array [.string "bin/black"])])

/-- A formatter runs on a document. -/
def sampleRunning : Session Scripted.Tables :=
  (((sampleStubborn.start [Scripted.sampleProfile] 250).answer
    (.openDocument (.opened 1 ⟨"/repo/main.py"⟩ none "" ⟨0, 0⟩ true))).answer
    (.chain 0 ["black"] .file)).wait 50

/-- Before the formatter complains the problems are not to stay any more. -/
def sampleRelenting : Session Scripted.Tables :=
  (sampleRunning.answer (.set Settings.errorHandlingKey .null)).wait 100

/-- In the sample the wrong order stays in sight, and the complaint of the formatter does not. -/
theorem notificationPolicy_sample :
    sampleRelenting.state.outlet.notifications.map (fun content => (content.title, content.sticky)) =
      [("fmtchain: Invalid format on save order", true),
        ("fmtchain: /repo/bin/black -q \"/repo/main.py\"", false)] ∧
    ∃ history, Run Happens shown (sampleStubborn.startShown [Scripted.sampleProfile] 250)
        (sampleStubborn.start [Scripted.sampleProfile] 250) history sampleRelenting ∧
      (∀ showing ∈ history, showing.Complies) ∧
      sampleRelenting.state.outlet.notifications = history.map (·.content) := by
  -- The calls of the sample come one by one, with time passing between them.
  have started : Run Happens shown (sampleStubborn.startShown [Scripted.sampleProfile] 250)
    (sampleStubborn.start [Scripted.sampleProfile] 250) _ _ := .start
  obtain ⟨early, running⟩ := run_wait_happens ((started.move (.move (.call (.openDocument
    (.opened 1 ⟨"/repo/main.py"⟩ none "" ⟨0, 0⟩ true))))).move (.move (.call (.chain 0 ["black"] .file)))) 50
  obtain ⟨later, relenting⟩ := run_wait_happens (running.move (.move (.call
    (.set Settings.errorHandlingKey .null)))) 100
  obtain ⟨complies, shown⟩ := notificationPolicy_run rfl (fun _ known => by cases known) relenting
  exact ⟨by decide +kernel, later, relenting, complies, shown⟩

end Session

end FormatPipeline
