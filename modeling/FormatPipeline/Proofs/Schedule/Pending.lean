import FormatPipeline.Proofs.Schedule.Debounced

/-! Which delayed actions, and which work beside them, wait after calls and turns. -/

namespace FormatPipeline.Schedule

variable {α τ σ ρ : Type}

@[simp] theorem Work.delayed?_delayed {β : Type} (task : Task α) :
    (Work.delayed task : Work α β).delayed? = some task.toDelayed := rfl

@[simp] theorem Work.delayed?_other {β : Type} (work : β) :
    (Work.other work : Work α β).delayed? = none := rfl

/-- The work that is no delayed action. -/
def Work.other? {β : Type} : Work α β → Option β
  | delayed _ => none
  | other work => some work

/-- The task whose turn it is to do its action. -/
def Turn.task? : Turn (Work α τ) (Work α σ) → Option (Task α)
  | .wake _ sleeper => sleeper.task?
  | .start _ | .pass => none

namespace DebouncedTimeline

variable {t next : DebouncedTimeline α τ σ ρ}

/-- Changing the state changes nothing that waits. -/
@[simp] theorem pending_modify (t : DebouncedTimeline α τ σ ρ) (f : ρ → ρ) :
    pending (t.modify f) = pending t := rfl

/-- Other work that is added makes nothing wait. -/
@[simp] theorem pending_spawn (t : DebouncedTimeline α τ σ ρ) (job : τ) :
    pending (t.spawn job) = pending t := by
  simp [pending, spawn, Timeline.spawn, tasksOf]

/-- The work that has the number under a key is the delayed action for the key. -/
theorem isNumbered_get?_eq {β : Type} (key : String) {work : Work α β}
    (own : ∀ task, work = .delayed task → task ∈ tasksOf t.ready t.sleeping) :
    work.isNumbered (t.handles.get? key).toList = work.isFor key := by
  cases work with
  | delayed task => exact t.agree.contains_get?_eq key (own task rfl)
  | other work => rfl

/-- Of the queue only the delayed action for the key is given up. -/
theorem ready_giveUp (key : String) (t : DebouncedTimeline α τ σ ρ) :
    (t.giveUp key).ready = t.ready.filter (!·.isFor key) :=
  List.filter_congr fun work member => congrArg (!·) (isNumbered_get?_eq key (by
    rintro task rfl
    exact List.mem_append_left _ (List.mem_filterMap.mpr ⟨_, member, rfl⟩)))

/-- Of the sleepers only the delayed action for the key is given up. -/
theorem sleeping_giveUp (key : String) (t : DebouncedTimeline α τ σ ρ) :
    (t.giveUp key).sleeping = t.sleeping.filter (!·.2.isFor key) :=
  List.filter_congr fun sleeper member => congrArg (!·) (isNumbered_get?_eq key (by
    rintro task same
    exact List.mem_append_right _ (List.mem_filterMap.mpr ⟨_, member, same ▸ rfl⟩)))

/-- There is a handle for each action that waits. -/
theorem length_pending (t : DebouncedTimeline α τ σ ρ) : (pending t).length = t.count := by
  rw [pending, List.length_map, count, Handles.size, ← t.agree.same.length_eq, List.length_map]

/-- There is a handle under a key while an action waits under it. -/
theorem isSome_get?_iff (t : DebouncedTimeline α τ σ ρ) (key : String) :
    (t.handles.get? key).isSome ↔ ∃ entry ∈ pending t, entry.key = key := by
  -- The entries of the map are the numbers of the tasks under their keys.
  have listed : ∀ number, (key, number) ∈ t.handles.entries ↔
      ∃ task ∈ tasksOf t.ready t.sleeping, task.key = key ∧ task.number = number := fun number => by
    simp [← t.agree.same.mem_iff]
  simp only [Handles.get?, Option.isSome_map, List.find?_isSome, beq_iff_eq, Prod.exists, pending,
    List.mem_map]
  constructor
  · rintro ⟨_, number, member, rfl⟩
    obtain ⟨task, waits, same, -⟩ := (listed number).mp member
    exact ⟨task.toDelayed, ⟨task, waits, rfl⟩, same⟩
  · rintro ⟨_, ⟨task, waits, rfl⟩, same⟩
    exact ⟨key, task.number, (listed _).mpr ⟨task, waits, same, rfl⟩, rfl⟩

/-- Whatever waits under other keys goes on waiting when a key's action is given up. -/
theorem pending_giveUp (key : String) (t : DebouncedTimeline α τ σ ρ) :
    pending (t.giveUp key) = (pending t).filter (!·.key == key) := by
  -- The tasks that are left are those without the number under the key.
  have left : tasksOf (t.giveUp key).ready (t.giveUp key).sleeping =
      (tasksOf t.ready t.sleeping).filter (!·.key == key) := by
    rw [giveUp, Timeline.tasksOf_abort]
    exact List.filter_congr fun task member => congrArg (!·) (t.agree.contains_get?_eq key member)
  rw [pending, left, pending, List.filter_map]
  rfl

/-- Nothing waits after everything was cancelled. -/
@[simp] theorem pending_cancelAll (t : DebouncedTimeline α τ σ ρ) : pending (cancelAll t) = [] := by
  -- Every task would have a handle, and the handles are drained.
  have drained : _ = ([] : List (String × Nat)) := (cancelAll t).agree.same.eq_nil
  simpa [pending] using drained

/-- An action that is put under a key waits. -/
theorem pending_arm (entry : Delayed α) (t : DebouncedTimeline α τ σ ρ)
    (free : t.handles.get? entry.key = none) : (pending (t.arm entry free)).Perm (entry :: pending t) := by
  -- The task stands at the end of the queue, in front of all that sleeps.
  simp only [pending, arm, Timeline.spawn, tasksOf, List.filterMap_append, List.append_assoc]
  exact List.perm_middle.map _

/-- A turn takes away the task whose turn it is to act, and no other. -/
theorem tasksOf_takes {machine : DebouncedMachine α τ σ ρ} {turn : Turn (Work α τ) (Work α σ)}
    (taken : t.Takes machine turn next) :
    (tasksOf t.ready t.sleeping).Perm (turn.task?.toList ++ tasksOf next.ready next.sleeping) := by
  obtain ⟨taken, -⟩ := taken
  -- The turn was taken with the handles beside the state, and only the tasks are of interest.
  generalize reached : next.held = held at taken
  have ready : next.ready = held.ready := reached ▸ rfl
  have sleeping : next.sleeping = held.sleeping := reached ▸ rfl
  rw [ready, sleeping]
  cases taken with
  | start queued => exact tasksOf_start (t := t.held) (queued ▸ List.perm_middle)
  | wake asleep => exact tasksOf_wake (t := t.held) (asleep ▸ List.perm_middle)
  | pass => exact .refl _

/-- A delayed action waits until it is done; no turn drops any. -/
theorem pending_takes {machine : DebouncedMachine α τ σ ρ} {turn : Turn (Work α τ) (Work α σ)}
    (taken : t.Takes machine turn next) :
    (∃ now task, turn = .wake now (.delayed task) ∧
      (pending t).Perm (task.toDelayed :: pending next) ∧
      next.state = machine.act task.action t.state) ∨
    ((∀ now task, turn ≠ .wake now (.delayed task)) ∧ (pending t).Perm (pending next)) := by
  -- The tasks without their numbers are the waiting actions.
  have tasks := (tasksOf_takes taken).map (·.toDelayed)
  rcases turn with job | ⟨now, task | sleeper⟩ | _
  · exact .inr ⟨nofun, tasks⟩
  · exact .inl ⟨now, task, rfl, tasks, taken.state_eq⟩
  · exact .inr ⟨nofun, tasks⟩
  · exact .inr ⟨nofun, tasks⟩

/-- Where no delayed action waits, none has a turn. -/
theorem not_delayed_of_pending {machine : DebouncedMachine α τ σ ρ} {turn : Turn (Work α τ) (Work α σ)}
    (idle : pending t = []) (taken : t.Takes machine turn next) :
    (∀ task, turn ≠ .start (.delayed task)) ∧ ∀ now task, turn ≠ .wake now (.delayed task) := by
  -- Whatever has a turn was in the queue or asleep, and a delayed action would have waited there.
  cases taken.shifts with
  | start queued =>
    refine ⟨?_, nofun⟩
    rintro task ⟨⟩
    simp [pending, tasksOf, queued] at idle
  | wake asleep =>
    refine ⟨nofun, ?_⟩
    rintro now task ⟨⟩
    simp [pending, tasksOf, asleep] at idle
  | pass => exact ⟨nofun, nofun⟩

/-- The jobs whose turn has not come, in the order in which they were asked for. -/
def jobs (t : DebouncedTimeline α τ σ ρ) : List τ := t.ready.filterMap (·.other?)

/-- The work that sleeps, in the order in which it lay down. -/
def sleepers (t : DebouncedTimeline α τ σ ρ) : List σ := t.sleeping.filterMap (·.2.other?)

/-- Only tasks of delayed actions are aborted. -/
theorem filterMap_other?_filter {β γ : Type} (numbers : List Nat) (work : γ → Work α β)
    (list : List γ) :
    (list.filter fun item => !(work item).isNumbered numbers).filterMap (fun item => (work item).other?) =
      list.filterMap fun item => (work item).other? := by
  induction list with
  | nil => rfl
  | cons item rest ih =>
    -- Other work is kept by the filter, and tasks are passed over anyway.
    cases kind : work item with
    | other job => simpa [List.filter_cons, kind, Work.isNumbered, Work.other?] using ih
    | delayed task =>
      by_cases left : task.number ∈ numbers <;>
        simpa [List.filter_cons, kind, left, Work.isNumbered, Work.other?] using ih

/-- Giving up a key's action drops no other work. -/
theorem others_giveUp (key : String) (t : DebouncedTimeline α τ σ ρ) :
    jobs (t.giveUp key) = jobs t ∧ sleepers (t.giveUp key) = sleepers t :=
  ⟨filterMap_other?_filter _ id t.ready, filterMap_other?_filter _ Prod.snd t.sleeping⟩

/-- Cancelling all delayed actions drops no other work. -/
theorem others_cancelAll (t : DebouncedTimeline α τ σ ρ) :
    jobs (cancelAll t) = jobs t ∧ sleepers (cancelAll t) = sleepers t :=
  ⟨filterMap_other?_filter _ id t.ready, filterMap_other?_filter _ Prod.snd t.sleeping⟩

/-- Where neither other work nor a delayed action waits, nothing does. -/
theorem idle_of_others {t : DebouncedTimeline α τ σ ρ} (jobs : t.jobs = []) (sleepers : t.sleepers = [])
    (pending : t.pending = []) : t.ready = [] ∧ t.sleeping = [] := by
  -- Whatever waits is a task, or it is other work.
  have nobody : ∀ {β γ : Type} (work : γ → Work α β) (list : List γ),
      list.filterMap (fun item => (work item).other?) = [] →
        list.filterMap (fun item => (work item).task?) = [] → list = [] := by
    intro β γ work list others tasks
    rw [List.filterMap_eq_nil_iff] at others tasks
    refine List.eq_nil_iff_forall_not_mem.mpr fun item member => ?_
    cases kind : work item with
    | delayed task => simpa [kind] using tasks item member
    | other job => simpa [kind, Work.other?] using others item member
  obtain ⟨ready, sleeping⟩ := List.append_eq_nil_iff.mp (List.map_eq_nil_iff.mp pending)
  exact ⟨nobody id t.ready jobs ready, nobody Prod.snd t.sleeping sleepers sleeping⟩

/-- A job waits behind those that were asked for before it. -/
@[simp] theorem jobs_spawn (t : DebouncedTimeline α τ σ ρ) (job : τ) :
    jobs (t.spawn job) = jobs t ++ [job] := by
  simp [jobs, spawn, Timeline.spawn, Work.other?]

/-- A delayed action is no other work. -/
@[simp] theorem jobs_arm (entry : Delayed α) (t : DebouncedTimeline α τ σ ρ)
    (free : t.handles.get? entry.key = none) : jobs (t.arm entry free) = jobs t := by
  simp [jobs, arm, Timeline.spawn, Work.other?]

/-- Asking for an action drops no other work and adds none. -/
theorem others_call (act : α → ρ → ρ) (delay : Nat) (key : String) (action : α)
    (t : DebouncedTimeline α τ σ ρ) :
    jobs (call act delay key action t) = jobs t ∧ sleepers (call act delay key action t) = sleepers t := by
  unfold call
  split
  · exact others_giveUp key t
  · exact ⟨(jobs_arm ..).trans (others_giveUp key t).1, (others_giveUp key t).2⟩

variable {machine : DebouncedMachine α τ σ ρ}

/-- What sleeps again is the work that does. -/
theorem filterMap_other?_asleep (outcome : Option (Nat × σ)) (clock : Nat) :
    ((outcome.map fun (delay, sleeper) => (delay, (Work.other sleeper : Work α σ))).map
      fun (delay, sleeper) => (clock + delay, sleeper)).toList.filterMap (·.2.other?) =
      (outcome.map (·.2)).toList := by
  cases outcome <;> rfl

/-- A job starts, a sleeper goes on, or a turn has nothing to do with them. -/
theorem takes_cases {t next : DebouncedTimeline α τ σ ρ} {turn : Turn (Work α τ) (Work α σ)}
    (taken : t.Takes machine turn next) :
    (∃ job rest, turn = .start (.other job) ∧ (jobs t).Perm (job :: rest) ∧ (jobs next).Perm rest ∧
      (sleepers next).Perm
        (((machine.machine.start t.clock job t.state).2.map (·.2)).toList ++ sleepers t) ∧
      next.state = (machine.machine.start t.clock job t.state).1) ∨
    (∃ now sleeper rest, turn = .wake now (.other sleeper) ∧ (sleepers t).Perm (sleeper :: rest) ∧
      jobs next = jobs t ∧
      (sleepers next).Perm (((machine.machine.wake now sleeper t.state).2.map (·.2)).toList ++ rest) ∧
      next.state = (machine.machine.wake now sleeper t.state).1) ∨
    ((∀ job, turn ≠ .start (.other job)) ∧ (∀ now sleeper, turn ≠ .wake now (.other sleeper)) ∧
      jobs next = jobs t ∧ sleepers next = sleepers t ∧
      (next.state = t.state ∨ ∃ action, next.state = machine.act action t.state)) := by
  have state := taken.state_eq
  cases taken.shifts with
  | @start before job after queued clock ready sleeping =>
    cases job with
    | delayed task =>
      -- A delayed action begins to wait, which is no other work.
      refine .inr (.inr ⟨by simp, by simp, ?_, ?_, .inl state⟩)
      · simp [jobs, queued, ready, Work.other?]
      · simp [sleepers, sleeping, DebouncedMachine.start, Work.other?]
    | other job =>
      -- The job leaves its place in the queue, and it may go to sleep behind the others.
      refine .inl ⟨job, before.filterMap (·.other?) ++ after.filterMap (·.other?), rfl, ?_, ?_, ?_, state⟩
      · simp [jobs, queued, Work.other?]
      · simp [jobs, ready]
      · simp only [sleepers, sleeping, DebouncedMachine.start, List.filterMap_append,
          filterMap_other?_asleep]
        exact List.perm_append_comm
  | @wake before moment sleeper after now asleep due later clock ready sleeping =>
    cases sleeper with
    | delayed task =>
      -- A delayed action is done, which only the state notices.
      refine .inr (.inr ⟨by simp, by simp, ?_, ?_, .inr ⟨task.action, state⟩⟩)
      · simp [jobs, ready]
      · simp [sleepers, asleep, sleeping, DebouncedMachine.wake, Work.other?]
    | other sleeper =>
      -- The sleeper leaves its place, and it may go to sleep again.
      refine .inr (.inl ⟨now, sleeper,
        before.filterMap (·.2.other?) ++ after.filterMap (·.2.other?), rfl, ?_, ?_, ?_, state⟩)
      · simp [sleepers, asleep, Work.other?]
      · simp [jobs, ready]
      · simp only [sleepers, sleeping, DebouncedMachine.wake, List.filterMap_append,
          filterMap_other?_asleep]
        exact List.perm_append_comm
  | pass later ready sleeping =>
    exact .inr (.inr ⟨by simp, by simp, by simp [jobs, ready], by simp [sleepers, sleeping], .inl state⟩)

end DebouncedTimeline

end FormatPipeline.Schedule
