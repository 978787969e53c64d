import FormatPipeline.Proofs.Schedule.Passing
import FormatPipeline.Schedule.Debounce

/-! Turns on a timeline with delayed actions: tasks and their handles agree after each of them. -/

namespace FormatPipeline.Schedule

variable {α τ σ ρ : Type}

/-- The state after a turn that comes at a moment of the clock. -/
def DebouncedMachine.turned (machine : DebouncedMachine α τ σ ρ) (clock : Nat)
    (turn : Turn (Work α τ) (Work α σ)) (state : ρ) : ρ :=
  match turn with
  | .start job => (machine.start clock job state).1
  | .wake now sleeper => (machine.wake now sleeper state).1
  | .pass => state

namespace DebouncedTimeline

variable {machine : DebouncedMachine α τ σ ρ} {issued : Nat}

/-- Any job, or any sleeper whose moment has come, takes a turn, or time passes; no task is added. -/
def Takes (machine : DebouncedMachine α τ σ ρ) (t : DebouncedTimeline α τ σ ρ)
    (turn : Turn (Work α τ) (Work α σ)) (next : DebouncedTimeline α τ σ ρ) : Prop :=
  Timeline.Takes machine.onHeld t.held turn next.held ∧ next.issued = t.issued

/-- A timeline is what it is with its handles beside its state. -/
theorem ext_held {t s : DebouncedTimeline α τ σ ρ} (same : t.held = s.held) (count : t.issued = s.issued) :
    t = s := by
  obtain ⟨⟨clock, ready, sleeping, state⟩, handles, issued, agree⟩ := t
  obtain ⟨⟨clock', ready', sleeping', state'⟩, handles', issued', agree'⟩ := s
  cases same
  cases count
  rfl

/-- What leaves the state as it is leaves the timeline as it is. -/
theorem modify_of_fixed {t : DebouncedTimeline α τ σ ρ} {f : ρ → ρ} (fixed : f t.state = t.state) :
    t.modify f = t := by
  refine ext_held ?_ rfl
  simp only [held, modify, Timeline.modify, fixed]

/-- Every turn leaves tasks and handles in agreement. -/
theorem Agrees.takes {t next : Timeline (Work α τ) (Work α σ) (Held ρ)}
    {turn : Turn (Work α τ) (Work α σ)} (agrees : Agrees issued t)
    (taken : Timeline.Takes machine.onHeld t turn next) : Agrees issued next := by
  cases taken with
  | start queued => exact agrees.start (queued ▸ List.perm_middle)
  | wake asleep => exact agrees.wake (asleep ▸ List.perm_middle)
  | pass => exact agrees

/-- A turn on the timeline with the handles beside the state is a turn on the timeline. -/
theorem takes_ofHeld {t : DebouncedTimeline α τ σ ρ} {next : Timeline (Work α τ) (Work α σ) (Held ρ)}
    {turn : Turn (Work α τ) (Work α σ)} (taken : Timeline.Takes machine.onHeld t.held turn next) :
    t.Takes machine turn (ofHeld t.issued next (t.agrees_held.takes taken)) :=
  ⟨taken, rfl⟩

/-- What a turn does to the clock and to the work that waits. -/
inductive Shifts (machine : DebouncedMachine α τ σ ρ) (t next : DebouncedTimeline α τ σ ρ) :
    Turn (Work α τ) (Work α σ) → Prop
  | start {before : List (Work α τ)} {job : Work α τ} {after : List (Work α τ)}
      (queued : t.ready = before ++ job :: after) (clock : next.clock = t.clock)
      (ready : next.ready = before ++ after)
      (sleeping : next.sleeping = t.sleeping ++ ((machine.start t.clock job t.state).2.map
        fun (delay, sleeper) => (t.clock + delay, sleeper)).toList) :
      Shifts machine t next (.start job)
  | wake {before : List (Nat × Work α σ)} {moment : Nat} {sleeper : Work α σ}
      {after : List (Nat × Work α σ)} {now : Nat}
      (asleep : t.sleeping = before ++ (moment, sleeper) :: after) (due : moment ≤ now)
      (later : t.clock ≤ now) (clock : next.clock = now) (ready : next.ready = t.ready)
      (sleeping : next.sleeping = before ++ after ++ ((machine.wake now sleeper t.state).2.map
        fun (delay, sleeper) => (now + delay, sleeper)).toList) :
      Shifts machine t next (.wake now sleeper)
  | pass (later : t.clock ≤ next.clock) (ready : next.ready = t.ready)
      (sleeping : next.sleeping = t.sleeping) : Shifts machine t next .pass

namespace Takes

variable {t next : DebouncedTimeline α τ σ ρ} {turn : Turn (Work α τ) (Work α σ)}

/-- The state follows from whose turn it was. -/
theorem state_eq (taken : t.Takes machine turn next) : next.state = machine.turned t.clock turn t.state := by
  obtain ⟨taken, -⟩ := taken
  generalize reached : next.held = held at taken
  have state : next.state = held.state.state := reached ▸ rfl
  -- The turn was taken with the handles beside the state, which are left out again.
  rw [state]
  cases taken with
  | start | wake => exact congrArg Held.state (Timeline.state_settle _ _)
  | pass => rfl

/-- Whoever had its turn leaves its place, and may lie down behind all others. -/
theorem shifts (taken : t.Takes machine turn next) : Shifts machine t next turn := by
  obtain ⟨taken, -⟩ := taken
  generalize reached : next.held = held at taken
  -- Clock, queue and sleepers are those of the timeline with the handles beside its state.
  have clock : next.clock = held.clock := reached ▸ rfl
  have ready : next.ready = held.ready := reached ▸ rfl
  have sleeping : next.sleeping = held.sleeping := reached ▸ rfl
  cases taken with
  | start queued =>
    exact .start queued (clock.trans (Timeline.clock_settle _ _)) (ready.trans (Timeline.ready_settle _ _))
      (sleeping.trans (Timeline.sleeping_settle _ _))
  | wake asleep due later =>
    exact .wake asleep due later (clock.trans (Timeline.clock_settle _ _))
      (ready.trans (Timeline.ready_settle _ _)) (sleeping.trans (Timeline.sleeping_settle _ _))
  | pass later => exact .pass (clock ▸ later) ready sleeping

/-- The clock never goes back. -/
theorem clock_le (taken : t.Takes machine turn next) : t.clock ≤ next.clock := by
  cases taken.shifts with
  | start _ clock => exact Nat.le_of_eq clock.symm
  | wake _ _ later clock => exact clock ▸ later
  | pass later => exact later

end Takes

/-! ## Time that passes -/

/-- One step: the first job in the queue, else the earliest sleeper unless the limit is before it. -/
def step (machine : DebouncedMachine α τ σ ρ) (limit : Option Nat) (t : DebouncedTimeline α τ σ ρ) :
    Option (DebouncedTimeline α τ σ ρ) :=
  match stepped : t.held.step machine.onHeld limit with
  | none => none
  | some next => some (ofHeld t.issued next (agrees_step t.agrees_held stepped))

/-- A step of the timeline is the next turn, and its clock passes nobody. -/
theorem takes_of_step {limit : Option Nat} {t next : DebouncedTimeline α τ σ ρ}
    (stepped : t.step machine limit = some next) :
    t.Takes machine t.nextTurn next ∧ t.PassesNobody next.clock := by
  -- A step is made where a step is found, and agreement is carried along with it.
  unfold step at stepped
  split at stepped
  · cases stepped
  next held found =>
    cases stepped
    have patient := Timeline.passesNobody_of_step found
    exact ⟨⟨(Timeline.takes_of_step found).1, rfl⟩, patient⟩

/-- A step of the timeline that has the handles beside its state is a step of the timeline. -/
theorem step_ofHeld {limit : Option Nat} {held next : Timeline (Work α τ) (Work α σ) (Held ρ)}
    (agrees : Agrees issued held) (stepped : held.step machine.onHeld limit = some next) :
    (ofHeld issued held agrees).step machine limit =
      some (ofHeld issued next (agrees_step agrees stepped)) := by
  have found : (ofHeld issued held agrees).held.step machine.onHeld limit = some next := stepped
  -- The step is found, so that the other branch cannot be.
  unfold step
  split
  next stopped => simp [found] at stopped
  next other reached =>
    obtain rfl : next = other := Option.some.inj (found.symm.trans reached)
    rfl

/-- Without a limit there is a next step until nothing waits and nobody sleeps. -/
theorem step_eq_none_iff {t : DebouncedTimeline α τ σ ρ} :
    t.step machine none = none ↔ t.ready = [] ∧ t.sleeping = [] := by
  obtain ⟨⟨clock, ready, sleeping, state⟩, handles, issued, agree⟩ := t
  unfold step
  split
  next stopped =>
    cases ready with
    | cons job rest => simp [held, Timeline.step] at stopped
    | nil =>
      cases sleeping with
      | nil => simp
      | cons entry rest =>
        -- Whoever sleeps could be woken.
        cases found : earliest? (entry :: rest) with
        | none => exact absurd found (earliest?_cons entry rest)
        | some pair => simp [held, Timeline.step, found] at stopped
  next next stepped =>
    refine ⟨(absurd · (Option.some_ne_none _)), ?_⟩
    rintro ⟨rfl, rfl⟩
    simp [held, Timeline.step, earliest?] at stepped

/-- What every step keeps is kept by a run. -/
theorem run_keeps {holds : DebouncedTimeline α τ σ ρ → Prop} {limit : Option Nat}
    {t : DebouncedTimeline α τ σ ρ}
    (kept : ∀ {t next}, holds t → t.step machine limit = some next → holds next)
    (before : holds t) (continues : ρ → Bool) : holds (t.run machine limit continues) := by
  -- Agreement of tasks and handles is kept along with what is to be kept.
  let reached (held : Timeline (Work α τ) (Work α σ) (Held ρ)) : Prop :=
    ∃ agrees, holds (ofHeld t.issued held agrees)
  have stepwise : ∀ {held next}, reached held → held.step machine.onHeld limit = some next → reached next := by
    rintro held next ⟨agrees, before⟩ stepped
    exact ⟨agrees_step agrees stepped, kept before (step_ofHeld agrees stepped)⟩
  have ran : reached (t.held.run machine.onHeld limit (continues ·.state)) :=
    Timeline.run_keeps stepwise ⟨t.agrees_held, before⟩
  exact ran.2

/-- A run ends only when the state asks for no more or nothing is left to do within the limit. -/
theorem step_run {limit : Option Nat} {continues : ρ → Bool} {t : DebouncedTimeline α τ σ ρ}
    (goesOn : continues (t.run machine limit continues).state) :
    (t.run machine limit continues).step machine limit = none := by
  -- The run stops for the same reason with the handles beside the state.
  have stopped : (t.run machine limit continues).held.step machine.onHeld limit = none :=
    @Timeline.step_run _ _ _ machine.onHeld limit (continues ·.state) t.held goesOn
  unfold step
  split
  · rfl
  next next stepped => simp [stopped] at stepped

/-- Steps a number of times, as long as the state asks for more and the limit allows it. -/
def runFor (machine : DebouncedMachine α τ σ ρ) (limit : Option Nat) (continues : ρ → Bool) (steps : Nat)
    (t : DebouncedTimeline α τ σ ρ) : DebouncedTimeline α τ σ ρ :=
  ofHeld t.issued (t.held.runFor machine.onHeld limit (continues ·.state) steps)
    (Timeline.runFor_keeps agrees_step t.agrees_held)

variable {t : DebouncedTimeline α τ σ ρ}

/-- What all turns keep that pass nobody is kept by a timeline with its handles beside its state. -/
theorem holds_of_takes {holds : DebouncedTimeline α τ σ ρ → Prop}
    (kept : ∀ {t turn next}, holds t → t.Takes machine turn next → t.PassesNobody next.clock → holds next)
    {held next : Timeline (Work α τ) (Work α σ) (Held ρ)} {turn : Turn (Work α τ) (Work α σ)}
    (before : ∃ agrees, holds (ofHeld issued held agrees))
    (taken : Timeline.Takes machine.onHeld held turn next) (patient : held.PassesNobody next.clock) :
    ∃ agrees, holds (ofHeld issued next agrees) :=
  -- The handles are dropped again: what the turn does to the rest is what a turn of the debouncer does.
  let ⟨agrees, held⟩ := before
  ⟨agrees.takes taken, kept held ⟨taken, rfl⟩ patient⟩

/-- What all turns keep that pass nobody is kept while time passes. -/
theorem advance_keeps_passing (holds : DebouncedTimeline α τ σ ρ → Prop)
    (kept : ∀ {t turn next}, holds t → t.Takes machine turn next → t.PassesNobody next.clock → holds next)
    (before : holds t) (milliseconds : Nat) : holds (t.advance machine milliseconds) := by
  have advanced : ∃ agrees, holds (ofHeld t.issued (t.held.advance machine.onHeld milliseconds) agrees) :=
    Timeline.advance_keeps_passing _ (holds_of_takes kept) ⟨t.agrees_held, before⟩ milliseconds
  exact advanced.2

/-- What all turns keep is kept while time passes. -/
theorem advance_keeps (holds : DebouncedTimeline α τ σ ρ → Prop)
    (kept : ∀ {t turn next}, holds t → t.Takes machine turn next → holds next)
    (before : holds t) (milliseconds : Nat) : holds (t.advance machine milliseconds) :=
  advance_keeps_passing holds (fun held taken _ => kept held taken) before milliseconds

/-- While time passes nothing happens where nothing waits and nobody sleeps. -/
theorem state_advance_of_idle (ready : t.ready = []) (sleeping : t.sleeping = []) (milliseconds : Nat) :
    (t.advance machine milliseconds).state = t.state := by
  -- That nobody waits is kept as well, so that no turn but that of time is ever taken.
  refine (advance_keeps (fun later => later.ready = [] ∧ later.sleeping = [] ∧ later.state = t.state)
    ?_ ⟨ready, sleeping, rfl⟩ milliseconds).2.2
  rintro t turn next ⟨ready, sleeping, state⟩ taken
  have after := taken.state_eq
  cases taken.shifts with
  -- Where nobody waits nobody can start or wake.
  | start queued => simp [ready] at queued
  | wake asleep => simp [sleeping] at asleep
  | pass _ queue asleep => exact ⟨queue.trans ready, asleep.trans sleeping, after.trans state⟩

/-- When time has passed nothing is left to do at the moment that is reached. -/
theorem isSettled_advance (t : DebouncedTimeline α τ σ ρ) (milliseconds : Nat) :
    (t.advance machine milliseconds).IsSettled ∧
      (t.advance machine milliseconds).clock = t.clock + milliseconds :=
  @Timeline.isSettled_advance _ _ _ machine.onHeld t.held milliseconds

end DebouncedTimeline

end FormatPipeline.Schedule
