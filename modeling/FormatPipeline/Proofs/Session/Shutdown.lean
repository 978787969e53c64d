import FormatPipeline.Proofs.Session.Parts

/-! After its end a session goes on with its work, but no setting takes effect any more. -/

namespace FormatPipeline

open Schedule (DebouncedTimeline Turn Work)
open Settings (Slot Store)
open Workspace (Settled)

namespace Workspace.Settled

/-- The number of the present debouncer. -/
def debouncerNumber (settled : Settled) : Nat := (settled.debouncer.map (·.1)).getD 0

/-- Whoever observes a setting has one of the numbers, or is without an effect. -/
def IsObservedBy (settled : Settled) (numbers : List Nat) : Prop :=
  ∀ observer ∈ settled.store.observers,
    observer.id ∈ numbers ∨ observer.reaction.isQuiet settled.debouncerNumber

/-- Observers that have an effect are one's own. -/
def IsOwned (settled : Settled) : Prop := settled.IsObservedBy settled.subscriptions

namespace IsObservedBy

variable {settled : Settled} {numbers : List Nat}

/-- Setting a setting changes no observer. -/
theorem set (observed : settled.IsObservedBy numbers) (key : String) (value : Json.Value) :
    IsObservedBy { settled with store := (settled.store.set key value).1 } numbers := by
  intro observer member
  rw [Store.observers_set] at member
  exact observed observer member

/-- A value that takes effect changes no observer. -/
theorem take (observed : settled.IsObservedBy numbers) (update : Update) :
    (settled.take update).IsObservedBy numbers := by
  simpa [IsObservedBy, debouncerNumber] using observed

/-- A setting that is observed gets one more observer. -/
theorem observe (observed : settled.IsObservedBy numbers) (key : String) (subscription : Subscription) :
    (settled.observe key subscription).IsObservedBy
      (numbers ++ [(settled.store.observe key subscription).2]) := by
  intro observer member
  -- The observer was there before, or it is the new one with its own number.
  rcases List.mem_append.mp member with earlier | last
  · exact (observed observer earlier).imp_left (List.mem_append_left _)
  · cases List.mem_singleton.mp last
    exact .inl (List.mem_append_right _ (List.mem_singleton_self _))

end IsObservedBy

end Workspace.Settled

namespace Session

variable {ω : Type} [World ω] {s next : Session ω}

/-! ## Who observes the settings -/

/-- What setting settings and values that take effect keep of what was set is kept whatever happens. -/
theorem settled_happens_keeps (holds : Settled → Prop)
    (stored : ∀ {settled} (key : String) (value : Json.Value), holds settled →
      holds { settled with store := (settled.store.set key value).1 })
    (taken : ∀ {settled} (update : Update), holds settled → holds (settled.take update))
    {happening : Happening ω} (happens : Happens s happening next) (before : holds s.state.settled) :
    holds next.state.settled := by
  cases happens with
  | notice => exact (quiet_noticed _ s).settled ▸ before
  | move moved =>
    cases moved with
    | call call =>
      -- A call that sets a setting hands over updates, and any other one sets nothing.
      rcases answer_cases s call with ⟨t, key, value, quiet, same, -⟩ | ⟨quiet, -⟩
      · have kept : holds { t.state.settled with store := (t.state.settled.store.set key value).1 } :=
          stored key value (quiet.settled ▸ before)
        rw [same, state_set, settled_foldl_apply]
        exact List.foldlRecOn _ _ kept fun _ held update _ => taken update held
      · exact quiet.settled ▸ before
    | turn turned =>
      rcases DebouncedTimeline.pending_takes turned with ⟨now, task, rfl, -, state⟩ | ⟨other, -⟩
      · rw [state]
        exact (Workspace.settled_apply task.action s.state).symm ▸ taken task.action before
      · exact (effect_takes turned other).settled ▸ before

omit [World ω] in
/-- The end of a session removes its own observers and leaves those that others have. -/
theorem settled_stop (s : Session ω) : s.stop.state.settled = { s.state.settled with
    store := { s.state.store with
      observers := s.state.store.observers.filter (!s.state.subscriptions.contains ·.id) }
    subscriptions := [] } := by
  rw [← Store.foldl_unobserve]
  rfl

omit [World ω] in
/-- When a session has removed its own observers, those without an effect are left. -/
theorem isObservedBy_stop (owned : s.state.settled.IsOwned) : s.stop.state.settled.IsObservedBy [] := by
  rw [settled_stop]
  intro observer member
  obtain ⟨member, other⟩ := List.mem_filter.mp member
  refine .inr ((owned observer member).resolve_left fun own => ?_)
  have own : observer.id ∈ s.state.subscriptions := own
  simp [own] at other

/-- Whatever happens, observers that have an effect are one's own. -/
theorem isOwned_lasts (owned : s.state.settled.IsOwned) {event : Option (Happening ω)}
    (lasts : Lasts s event next) : next.state.settled.IsOwned := by
  -- An end drops all that is owned, and everything else keeps the numbers it was given.
  cases lasts with
  | stop => exact isObservedBy_stop owned
  | happens happens =>
    refine settled_happens_keeps Settled.IsOwned (fun key value => (·.set key value))
      (fun {settled} update owned => ?_) happens owned
    rw [Settled.IsOwned, Settled.subscriptions_take]
    exact owned.take update

/-- After a start observers that have an effect are one's own, if nobody else's had any before. -/
theorem isOwned_start (profiles : List Profile) (delay : Nat) {first : Session ω}
    (quiet : ∀ observer ∈ first.state.store.observers,
      observer.reaction.isQuiet (first.prepared profiles delay).debouncerNumber) :
    (first.start profiles delay).state.settled.IsOwned := by
  have prepared : (first.prepared profiles delay).state.settled.IsOwned := by
    intro observer member
    have stores : (first.prepared profiles delay).state.store = first.state.store :=
      (Workspace.calm_register profiles first.state).2
    have member : observer ∈ (first.prepared profiles delay).state.store.observers := member
    exact .inr (quiet observer (stores ▸ member))
  rw [start_eq, (quiet_greeting _).settled, state_observeTargets]
  generalize (first.prepared profiles delay).state = w at prepared
  -- The settings are observed one by one, and the value of each takes effect.
  induction Target.all (first.register profiles).state.formatterNames generalizing w with
  | nil => exact prepared
  | cons target rest ih =>
    refine ih (w.observe target) ?_
    rw [Settled.IsOwned, Workspace.observe, Workspace.settled_apply, Settled.subscriptions_take]
    exact (Settled.IsObservedBy.observe prepared _ _).take _

/-- At any time of a run observers that have an effect are one's own. -/
theorem isOwned_run {ν : Type} {notes : Session ω → Option (Happening ω) → List ν}
    {profiles : List Profile} {delay : Nat} {before history : List ν} {first : Session ω}
    (quiet : ∀ observer ∈ first.state.store.observers,
      observer.reaction.isQuiet (first.prepared profiles delay).debouncerNumber)
    (ran : Run Lasts notes before (first.start profiles delay) history s) :
    s.state.settled.IsOwned := by
  -- The induction is on the run, with ownership as the invariant.
  induction ran with
  | start => exact isOwned_start profiles delay quiet
  | move _ lasts ih => exact isOwned_lasts ih lasts

/-! ## Settings that nobody observes -/

omit [World ω] in
/-- Where no observer has an effect, those who are told about a change have none. -/
theorem isQuiet_told (unobserved : s.state.settled.IsObservedBy []) {key : String} {value : Json.Value}
    {subscription : Subscription} (told : subscription ∈ (s.state.store.set key value).2) :
    subscription.isQuiet s.debouncerNumber := by
  obtain ⟨observer, member, rfl⟩ := Store.exists_observer_of_told told
  exact (unobserved observer member).resolve_left List.not_mem_nil

/-- Where no observer has an effect, setting a setting stores it, and does nothing else. -/
theorem set_of_unobserved (unobserved : s.state.settled.IsObservedBy []) (key : String)
    (value : Json.Value) :
    s.set key value = s.modify fun w => { w with store := (w.store.set key value).1 } := by
  let stored : Session ω := s.modify fun w => { w with store := (s.state.store.set key value).1 }
  -- The debouncer is the same when the value has been stored.
  have quiet : ∀ subscription ∈ (s.state.store.set key value).2,
      subscription.isQuiet stored.debouncerNumber := fun _ => isQuiet_told unobserved
  have unchanged : (s.state.store.set key value).2.foldl (notify key value) stored = stored := by
    generalize (s.state.store.set key value).2 = told at quiet
    induction told with
    | nil => rfl
    | cons subscription rest ih =>
      rw [List.foldl_cons, notify_of_isQuiet (quiet subscription List.mem_cons_self)]
      exact ih fun other member => quiet other (List.mem_cons_of_mem _ member)
  exact unchanged

omit [World ω] in
/-- Where no observer has an effect, a call hands nothing over. -/
theorem hands_of_unobserved (unobserved : s.state.settled.IsObservedBy []) (call : Call ω) :
    s.hands (.call call) = [] := by
  -- Whoever is told has no effect, so that nothing is handed to anyone.
  have none : ∀ key value, s.handsOut key value = [] := fun key value =>
    List.filterMap_eq_nil_iff.mpr fun _ told => handsTo?_of_isQuiet (isQuiet_told unobserved told) value
  cases call with
  | set | toggle => exact none _ _
  | command name =>
    simp only [hands]
    split
    · exact none _ _
    · rfl
  -- The other calls set nothing.
  | saved | chain | single | openDocument | edit | closeDocument | changeScope | activate | world => rfl

/-! ## After the end -/

/-- No observer has an effect, no update waits, and what settings made of the session is as it was once. -/
structure Ended (applied : Workspace.Applied) (s : Session ω) : Prop where
  unobserved : s.state.settled.IsObservedBy []
  pending : DebouncedTimeline.pending s = []
  applied : s.state.applied = applied

omit [World ω] in
/-- The end of a session keeps what settings made of it, and nothing waits to change that. -/
theorem ended_stop (owned : s.state.settled.IsOwned) : s.stop.Ended s.state.applied where
  unobserved := isObservedBy_stop owned
  pending := DebouncedTimeline.pending_cancelAll s.unobserveAll
  applied := rfl

namespace Ended

variable {applied : Workspace.Applied}

/-- Nothing begins to wait after the end. -/
theorem pending_happens (ended : s.Ended applied) {happening : Happening ω}
    (happens : Happens s happening next) : DebouncedTimeline.pending next = [] := by
  cases happens with
  | notice => exact (quiet_noticed _ s).waiting.trans ended.pending
  | move moved =>
    cases moved with
    | call call =>
      rcases answer_cases s call with ⟨t, key, value, quiet, same, -⟩ | ⟨quiet, -⟩
      · -- What is set is only stored.
        rw [same, set_of_unobserved (quiet.settled ▸ ended.unobserved), DebouncedTimeline.pending_modify]
        exact quiet.waiting.trans ended.pending
      · exact quiet.waiting.trans ended.pending
    | turn taken =>
      rcases DebouncedTimeline.pending_takes taken with ⟨now, task, rfl, -⟩ | ⟨-, waiting⟩
      · exact absurd rfl ((DebouncedTimeline.not_delayed_of_pending ended.pending taken).2 now task)
      · rw [ended.pending] at waiting
        exact List.nil_perm.mp waiting

/-- Nothing takes effect after the end. -/
theorem applied_happens (ended : s.Ended applied) {happening : Happening ω}
    (happens : Happens s happening next) : next.state.applied = applied := by
  cases happens with
  | notice => exact (applied_noticed _ s).trans ended.applied
  | @move _ move moved =>
    -- A move takes effect through what it hands over, which is nothing.
    have nothing : s.hands move = [] := by
      cases moved with
      | call call => exact hands_of_unobserved ended.unobserved call
      | turn taken =>
        exact hands_turn s (DebouncedTimeline.not_delayed_of_pending ended.pending taken).2
    obtain ⟨w, same, -, state⟩ := applied_moves moved
    rw [nothing, List.foldl_nil] at state
    rw [state, same, ended.applied]

/-- Whatever happens to a session that has ended, or if it ends again, it has ended as before. -/
theorem lasts (ended : s.Ended applied) {event : Option (Happening ω)} (lasts : Lasts s event next) :
    next.Ended applied := by
  -- A second end finds nothing to drop, and everything else hands nothing over.
  cases lasts with
  | stop =>
    refine ended.applied ▸ ended_stop fun observer member => ?_
    exact (ended.unobserved observer member).imp_left fun none => absurd none List.not_mem_nil
  | happens happens =>
    refine ⟨?_, ended.pending_happens happens, ended.applied_happens happens⟩
    exact settled_happens_keeps (·.IsObservedBy []) (fun key value => (·.set key value))
      (fun update => (·.take update)) happens ended.unobserved

end Ended

variable {ν μ : Type} {notes : Session ω → Option (Happening ω) → List ν}
  {others : Session ω → Option (Happening ω) → List μ} {profiles : List Profile} {delay : Nat}
  {before history : List ν} {noted later : List μ} {first last : Session ω}

/-- After its end no setting takes effect on a session, whatever happens and however long it goes on. -/
theorem nothingApplied_stop
    (quiet : ∀ observer ∈ first.state.store.observers,
      observer.reaction.isQuiet (first.prepared profiles delay).debouncerNumber)
    (began : Run Lasts notes before (first.start profiles delay) history s)
    (ran : Run Lasts others noted s.stop later last) :
    last.state.applied = s.state.applied ∧ DebouncedTimeline.pending last = [] ∧
    -- Setting a setting stores its value, so that nothing is said or drawn on its account.
    (∀ key value,
      last.set key value = last.modify fun w => { w with store := (w.store.set key value).1 }) ∧
    -- No update has a turn any more, neither to begin its wait nor to take effect.
    ∀ turn next, DebouncedTimeline.Takes machine last turn next →
      (∀ task, turn ≠ .start (.delayed task)) ∧ ∀ now task, turn ≠ .wake now (.delayed task) := by
  have ended : last.Ended s.state.applied := by
    induction ran with
    | start => exact ended_stop (isOwned_run quiet began)
    | move _ lasts ih => exact ih.lasts lasts
  exact ⟨ended.applied, ended.pending, set_of_unobserved ended.unobserved, fun turn next =>
    DebouncedTimeline.not_delayed_of_pending ended.pending⟩

/-- The sample while an update sleeps, after its quiet period is over and before it has had its turn. -/
def sampleDue : Session Scripted.Tables := { sampleChanged.wait 100 with clock := 400 }

/-- In the sample neither the update that is due takes effect nor another change of the same setting. -/
theorem nothingApplied_sample :
    sampleDue.sleeping.map (·.1) = [250] ∧
    (DebouncedTimeline.pending sampleDue).map (·.key) = [Slot.localBins.keyOf "black"] ∧
    sampleDue.state.store.observers.length = 13 ∧ sampleDue.stop.state.store.observers.length = 1 ∧
    let later := (sampleDue.stop.set (Slot.localBins.keyOf "black") (.array [.string "black"])).wait 1000
    later.state.applied = sampleDue.state.applied ∧ DebouncedTimeline.pending later = [] := by
  have started : Run Lasts directs [] (sampleFirst.start [Scripted.sampleProfile] 250) [] _ := .start
  have changed : Run Lasts directs [] (sampleFirst.start [Scripted.sampleProfile] 250) [] sampleChanged :=
    (started.move (.happens (.move (.call (.set (Slot.localBins.keyOf "black")
      (.array [.string "bin/black"])))))).move (.happens (.move (.call (.toggle Settings.busySignalKey))))
  -- Time passes without a turn of the update that is due.
  have passed : DebouncedTimeline.Takes machine (sampleChanged.wait 100) .pass sampleDue :=
    ⟨.pass (by decide +kernel), rfl⟩
  have due := (run_wait_lasts changed 100).move (.happens (.move (.turn passed)))
  have ended : Run Lasts directs [] sampleDue.stop [] sampleDue.stop := .start
  have later := ended.move (.happens (.move (.call
    (.set (Slot.localBins.keyOf "black") (.array [.string "black"])))))
  obtain ⟨applied, pending, -⟩ := nothingApplied_stop (by decide +kernel) due (run_wait_lasts later 1000)
  exact ⟨by decide +kernel, by decide +kernel, by decide +kernel, by decide +kernel, applied, pending⟩

end Session

end FormatPipeline
