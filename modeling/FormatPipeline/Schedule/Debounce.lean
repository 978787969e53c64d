import FormatPipeline.Schedule.Handles
import FormatPipeline.Schedule.Timeline

/-! Actions that wait for a quiet period: of those for one key, only the latest is done. -/

namespace FormatPipeline.Schedule

variable {α τ σ ρ : Type}

/-! ## Machines with delayed actions -/

/-- A machine for other work, with what delayed actions do when their delay is over. -/
structure DebouncedMachine (α τ σ ρ : Type) where
  machine : Machine τ σ ρ
  act : α → ρ → ρ

/-- A machine that also does delayed actions. -/
def Machine.debounced (machine : Machine τ σ ρ) (act : α → ρ → ρ) : DebouncedMachine α τ σ ρ :=
  ⟨machine, act⟩

/-- A state beside the handles of the tasks that wait. -/
structure Held (ρ : Type) where
  handles : Handles
  state : ρ

namespace DebouncedMachine

/-- Starts a job; the task of a delayed action only goes to sleep. -/
def start (machine : DebouncedMachine α τ σ ρ) (now : Nat) (job : Work α τ) (state : ρ) :
    ρ × Option (Nat × Work α σ) :=
  match job with
  -- The delay begins when the job's turn comes.
  | .delayed task => (state, some (task.delay, .delayed task))
  | .other job =>
    let (state, sleeper) := machine.machine.start now job state
    (state, sleeper.map fun (delay, sleeper) => (delay, .other sleeper))

/-- Goes on with a sleeper; the task of a delayed action does it. -/
def wake (machine : DebouncedMachine α τ σ ρ) (now : Nat) (sleeper : Work α σ) (state : ρ) :
    ρ × Option (Nat × Work α σ) :=
  match sleeper with
  | .delayed task => (machine.act task.action state, none)
  | .other sleeper =>
    let (state, sleeper) := machine.machine.wake now sleeper state
    (state, sleeper.map fun (delay, sleeper) => (delay, .other sleeper))

/-- The handles when a sleeper goes on: a task removes what is under its key, then it acts. -/
def released (handles : Handles) (sleeper : Work α σ) : Handles :=
  match sleeper with
  | .delayed task => handles.remove task.key
  | .other _ => handles

/-- The machine on states with their handles. -/
def onHeld (machine : DebouncedMachine α τ σ ρ) : Machine (Work α τ) (Work α σ) (Held ρ) where
  start now job held :=
    let (state, sleeper) := machine.start now job held.state
    ({ held with state := state }, sleeper)
  wake now sleeper held :=
    let (state, next) := machine.wake now sleeper held.state
    (⟨released held.handles sleeper, state⟩, next)
  weight
    | .delayed _ => 0
    | .other sleeper => machine.machine.weight sleeper
  weight_wake := by
    -- Only other work sleeps again, and then as its own machine says.
    intro now sleeper held delay next woken
    cases sleeper with
    | delayed task => simp [wake] at woken
    | other sleeper =>
      simp only [wake, Option.map_eq_some_iff] at woken
      obtain ⟨⟨delay', sleeper'⟩, woken, same⟩ := woken
      cases same
      exact machine.machine.weight_wake woken

end DebouncedMachine

/-- A machine for which there is no other work. -/
def Machine.idle (ρ : Type) : Machine Empty Empty ρ where
  start _ job := nomatch job
  wake _ sleeper := nomatch sleeper
  weight sleeper := nomatch sleeper
  weight_wake := by
    -- Nobody ever sleeps.
    intro now sleeper
    exact nomatch sleeper

/-! ## Tasks on a timeline -/

/-- Whether the work is a task that has one of the numbers. -/
def Work.isNumbered {β : Type} (numbers : List Nat) (work : Work α β) : Bool :=
  work.task?.any (numbers.contains ·.number)

/-- The tasks of work of which some was left out are those of the work that is left. -/
theorem filterMap_task?_filter {β γ : Type} (numbers : List Nat) (work : γ → Work α β) (list : List γ) :
    (list.filter fun item => !(work item).isNumbered numbers).filterMap (fun item => (work item).task?) =
      (list.filterMap fun item => (work item).task?).filter (!numbers.contains ·.number) := by
  induction list with
  | nil => rfl
  | cons item rest ih =>
    -- Other work passes both filters unseen, and a task is left out by both or by none.
    cases kind : (work item).task? with
    | none => simpa [List.filter_cons, Work.isNumbered, kind] using ih
    | some task =>
      by_cases left : task.number ∈ numbers <;>
        simpa [List.filter_cons, Work.isNumbered, kind, left] using ih

namespace Timeline

/-- Aborts tasks, whether they wait for their turn or for the end of their delay. -/
def abort (numbers : List Nat) (t : Timeline (Work α τ) (Work α σ) ρ) : Timeline (Work α τ) (Work α σ) ρ :=
  { t with
    ready := t.ready.filter (!·.isNumbered numbers)
    sleeping := t.sleeping.filter (!·.2.isNumbered numbers) }

/-- The tasks that are not aborted go on waiting. -/
theorem tasksOf_abort (numbers : List Nat) (t : Timeline (Work α τ) (Work α σ) ρ) :
    tasksOf (t.abort numbers).ready (t.abort numbers).sleeping =
      (tasksOf t.ready t.sleeping).filter (!numbers.contains ·.number) := by
  -- The queue and the sleepers are searched alike.
  rw [tasksOf, tasksOf, List.filter_append]
  exact congr (congrArg _ (filterMap_task?_filter numbers id t.ready))
    (filterMap_task?_filter numbers Prod.snd t.sleeping)

end Timeline

/-! ## Timelines with delayed actions -/

/-- A timeline on which delayed actions wait beside other work. -/
structure DebouncedTimeline (α τ σ ρ : Type) extends Timeline (Work α τ) (Work α σ) ρ where
  /-- The handles of the tasks that wait. -/
  handles : Handles
  /-- How many tasks there have been; the next one gets this number. -/
  issued : Nat
  agree : Agree (tasksOf ready sleeping) handles issued

namespace DebouncedTimeline

/-- A state at the start of time with nothing to do. -/
def ofState (state : ρ) : DebouncedTimeline α τ σ ρ := ⟨.ofState state, .empty, 0, .nil 0⟩

/-- Changes the state alone. -/
def modify (t : DebouncedTimeline α τ σ ρ) (f : ρ → ρ) : DebouncedTimeline α τ σ ρ :=
  { t with toTimeline := t.toTimeline.modify f }

/-- Adds other work behind the jobs that wait for their turn. -/
def spawn (t : DebouncedTimeline α τ σ ρ) (job : τ) : DebouncedTimeline α τ σ ρ :=
  { t with
    toTimeline := t.toTimeline.spawn (.other job)
    agree := by
      -- Other work is no task.
      have same : tasksOf (t.ready ++ [.other job]) t.sleeping = tasksOf t.ready t.sleeping := by
        simp [tasksOf]
      exact same ▸ t.agree }

/-- Forgets the action that waits under a key, if any: its handle is removed, and its task is aborted. -/
def giveUp (key : String) (t : DebouncedTimeline α τ σ ρ) : DebouncedTimeline α τ σ ρ :=
  { t with
    toTimeline := t.toTimeline.abort (t.handles.get? key).toList
    handles := t.handles.remove key
    agree := by
      -- The task with the number is the one for the key.
      rw [Timeline.tasksOf_abort]
      exact t.agree.filter (fun task member => congrArg (!·) (t.agree.contains_get?_eq key member)) rfl }

/-- Nothing waits under a key after what waited was given up. -/
theorem get?_giveUp (key : String) (t : DebouncedTimeline α τ σ ρ) :
    (t.giveUp key).handles.get? key = none := by
  simp [giveUp, Handles.get?, Handles.remove]

/-- Lets an action wait under a key under which nothing waits. -/
def arm (entry : Delayed α) (t : DebouncedTimeline α τ σ ρ) (free : t.handles.get? entry.key = none) :
    DebouncedTimeline α τ σ ρ where
  toTimeline := t.toTimeline.spawn (.delayed ⟨entry, t.issued⟩)
  handles := t.handles.insert entry.key t.issued
  issued := t.issued + 1
  agree := by
    -- The task stands at the end of the queue, in front of all that sleeps.
    refine (t.agree.insert free).perm ?_
    simp only [tasksOf, Timeline.spawn, List.filterMap_append, List.append_assoc]
    exact List.perm_middle.symm

/-- Asks for an action, in place of an earlier one for the key; without a delay it is done at once. -/
def call (act : α → ρ → ρ) (delay : Nat) (key : String) (action : α) (t : DebouncedTimeline α τ σ ρ) :
    DebouncedTimeline α τ σ ρ :=
  -- The earlier action is given up even if the new one is done at once.
  if delay = 0 then (t.giveUp key).modify (act action)
  else (t.giveUp key).arm ⟨key, delay, action⟩ (get?_giveUp key t)

/-- Forgets all delayed actions: the handles are drained, and their tasks are aborted. -/
def cancelAll (t : DebouncedTimeline α τ σ ρ) : DebouncedTimeline α τ σ ρ :=
  { t with
    toTimeline := t.toTimeline.abort t.handles.numbers
    handles := .empty
    agree := by
      -- Every task has a handle, so that none is left.
      have nobody : (tasksOf t.ready t.sleeping).filter (!t.handles.numbers.contains ·.number) = [] :=
        List.filter_eq_nil_iff.mpr fun task member => by simpa using t.agree.mem_numbers member
      rw [Timeline.tasksOf_abort, nobody]
      exact .nil t.issued }

/-- How many actions wait: as many as there are handles. -/
def count (t : DebouncedTimeline α τ σ ρ) : Nat := t.handles.size

/-- The actions that wait, those whose turn has not come first. -/
def pending (t : DebouncedTimeline α τ σ ρ) : List (Delayed α) :=
  (tasksOf t.ready t.sleeping).map (·.toDelayed)

/-! ## Time -/

/-- The timeline with the handles beside its state. -/
def held (t : DebouncedTimeline α τ σ ρ) : Timeline (Work α τ) (Work α σ) (Held ρ) :=
  ⟨t.clock, t.ready, t.sleeping, ⟨t.handles, t.state⟩⟩

/-- Whether tasks and handles agree on a timeline that has the handles beside its state. -/
def Agrees (issued : Nat) (t : Timeline (Work α τ) (Work α σ) (Held ρ)) : Prop :=
  Agree (tasksOf t.ready t.sleeping) t.state.handles issued

/-- Tasks and handles agree on every timeline with delayed actions. -/
theorem agrees_held (t : DebouncedTimeline α τ σ ρ) : Agrees t.issued t.held := t.agree

/-- The timeline of which the handles are taken from beside the state. -/
def ofHeld (issued : Nat) (t : Timeline (Work α τ) (Work α σ) (Held ρ)) (agrees : Agrees issued t) :
    DebouncedTimeline α τ σ ρ :=
  ⟨⟨t.clock, t.ready, t.sleeping, t.state.state⟩, t.state.handles, issued, agrees⟩

variable {machine : DebouncedMachine α τ σ ρ} {issued : Nat}
  {t : Timeline (Work α τ) (Work α σ) (Held ρ)}

/-- Other work that goes to sleep is no task. -/
theorem filterMap_task?_asleep (clock : Nat) (sleeper : Option (Nat × σ)) :
    ((sleeper.map fun (delay, sleeper) => (delay, (Work.other sleeper : Work α σ))).map
      fun (delay, sleeper) => (clock + delay, sleeper)).toList.filterMap (·.2.task?) = [] := by
  cases sleeper <;> simp

/-- A job that starts takes no task away: a task only goes from the queue to sleep. -/
theorem tasksOf_start {job : Work α τ} {rest : List (Work α τ)} (queued : t.ready.Perm (job :: rest)) :
    let next := ({ t with ready := rest } : Timeline _ _ _).settle
      (machine.onHeld.start t.clock job t.state)
    (tasksOf t.ready t.sleeping).Perm (tasksOf next.ready next.sleeping) := by
  intro next
  have tasks := (queued.filterMap (·.task?)).append_right (t.sleeping.filterMap (·.2.task?))
  refine tasks.trans ?_
  simp only [next, Timeline.ready_settle, Timeline.sleeping_settle, DebouncedMachine.onHeld,
    DebouncedMachine.start]
  cases job with
  | delayed task =>
    -- The task lies down behind the others.
    have behind : ([task] ++ tasksOf rest t.sleeping).Perm (tasksOf rest t.sleeping ++ [task]) :=
      List.perm_append_comm
    simpa [tasksOf] using behind
  | other job =>
    simp only [tasksOf, List.filterMap_append, filterMap_task?_asleep, List.append_nil]
    exact .refl _

/-- A sleeper that goes on takes away its own task, if it is one. -/
theorem tasksOf_wake {moment now : Nat} {sleeper : Work α σ} {others : List (Nat × Work α σ)}
    (asleep : t.sleeping.Perm ((moment, sleeper) :: others)) :
    let next := ({ t with clock := now, sleeping := others } : Timeline _ _ _).settle
      (machine.onHeld.wake now sleeper t.state)
    (tasksOf t.ready t.sleeping).Perm (sleeper.task?.toList ++ tasksOf next.ready next.sleeping) := by
  intro next
  have tasks := (asleep.filterMap (·.2.task?)).append_left (t.ready.filterMap (·.task?))
  refine tasks.trans ?_
  simp only [next, Timeline.ready_settle, Timeline.sleeping_settle, DebouncedMachine.onHeld,
    DebouncedMachine.wake]
  cases sleeper with
  | delayed task =>
    -- The task is taken out from among the other sleepers.
    simp [tasksOf]
  | other sleeper =>
    simp only [tasksOf, List.filterMap_append, filterMap_task?_asleep, List.append_nil]
    exact .refl _

/-- A job that starts leaves tasks and handles in agreement. -/
theorem Agrees.start (agrees : Agrees issued t) {job : Work α τ} {rest : List (Work α τ)}
    (queued : t.ready.Perm (job :: rest)) :
    Agrees issued (({ t with ready := rest } : Timeline _ _ _).settle
      (machine.onHeld.start t.clock job t.state)) := by
  have handles := congrArg Held.handles (Timeline.state_settle { t with ready := rest }
    (machine.onHeld.start t.clock job t.state))
  -- The task that starts is settled with the handle it was given when it was made.
  rw [Agrees, handles]
  exact Agree.perm agrees (tasksOf_start queued)

/-- A sleeper that goes on leaves tasks and handles in agreement: a task removes its own handle. -/
theorem Agrees.wake (agrees : Agrees issued t) {moment now : Nat} {sleeper : Work α σ}
    {others : List (Nat × Work α σ)} (asleep : t.sleeping.Perm ((moment, sleeper) :: others)) :
    Agrees issued (({ t with clock := now, sleeping := others } : Timeline _ _ _).settle
      (machine.onHeld.wake now sleeper t.state)) := by
  have handles := congrArg Held.handles (Timeline.state_settle
    { t with clock := now, sleeping := others } (machine.onHeld.wake now sleeper t.state))
  rw [Agrees, handles]
  -- A task that sleeps is removed together with its own handle, another sleeper has none.
  cases sleeper with
  | delayed task => exact (Agree.perm agrees (tasksOf_wake asleep)).remove
  | other sleeper => exact Agree.perm agrees (tasksOf_wake asleep)

/-- A step leaves tasks and handles in agreement. -/
theorem agrees_step {limit : Option Nat} {next : Timeline (Work α τ) (Work α σ) (Held ρ)}
    (agrees : Agrees issued t) (stepped : t.step machine.onHeld limit = some next) :
    Agrees issued next := by
  -- Either the first job starts, or the earliest sleeper goes on.
  unfold Timeline.step at stepped
  split at stepped
  next job rest queued =>
    cases stepped
    exact agrees.start (queued ▸ .refl _)
  next =>
    split at stepped
    · cases stepped
    next moment sleeper others found =>
      split at stepped
      · cases stepped
      · cases stepped
        exact agrees.wake (earliest?_perm found)

/-- Steps as long as the state asks for more and the limit allows it. -/
def run (machine : DebouncedMachine α τ σ ρ) (limit : Option Nat) (continues : ρ → Bool)
    (t : DebouncedTimeline α τ σ ρ) : DebouncedTimeline α τ σ ρ :=
  ofHeld t.issued (t.held.run machine.onHeld limit (continues ·.state))
    (Timeline.run_keeps agrees_step t.agrees_held)

/-- Time that passes leaves tasks and handles in agreement. -/
theorem Agrees.advance (agrees : Agrees issued t) (milliseconds : Nat) :
    Agrees issued (t.advance machine.onHeld milliseconds) := by
  have ran : Agrees issued (t.run machine.onHeld (some (t.clock + milliseconds)) fun _ => true) :=
    Timeline.run_keeps agrees_step agrees
  exact ran

/-- Lets some milliseconds pass, with everything that is due on the way and at the end. -/
def advance (machine : DebouncedMachine α τ σ ρ) (milliseconds : Nat) (t : DebouncedTimeline α τ σ ρ) :
    DebouncedTimeline α τ σ ρ :=
  ofHeld t.issued (t.held.advance machine.onHeld milliseconds) (t.agrees_held.advance milliseconds)

/-- Lets time pass until the state has what is waited for, and then does all that is due. -/
def await (machine : DebouncedMachine α τ σ ρ) (isThere : ρ → Bool) (t : DebouncedTimeline α τ σ ρ) :
    DebouncedTimeline α τ σ ρ :=
  (t.run machine none (!isThere ·)).advance machine 0

end DebouncedTimeline

end FormatPipeline.Schedule
