/-!
Work on one thread under a clock that moves only when nothing is left to do.
Jobs wait for their turn in the order they came, sleepers for a moment in the order they lay down.
-/

namespace FormatPipeline.Schedule

/-- How jobs and sleepers change a state; either may go to sleep again for some milliseconds. -/
structure Machine (τ σ ρ : Type) where
  /-- Starts a job at a moment. -/
  start : Nat → τ → ρ → ρ × Option (Nat × σ)
  /-- Goes on with a sleeper at a moment. -/
  wake : Nat → σ → ρ → ρ × Option (Nat × σ)
  /-- How often at most a sleeper still wakes up. -/
  weight : σ → Nat
  /-- A sleeper that sleeps again has used up one of its awakenings. -/
  weight_wake : ∀ {now sleeper state delay next},
    (wake now sleeper state).2 = some (delay, next) → weight next < weight sleeper

/-- A state under a clock with the work that waits. -/
structure Timeline (τ σ ρ : Type) where
  clock : Nat
  ready : List τ
  /-- The moments to wake at, in the order in which the sleepers lay down. -/
  sleeping : List (Nat × σ)
  state : ρ

/-- The sleeper that wakes first, of two at one moment the one that lay down first, and the others. -/
def earliest? {σ : Type} : List (Nat × σ) → Option ((Nat × σ) × List (Nat × σ))
  | [] => none
  | entry :: rest =>
    match earliest? rest with
    | none => some (entry, [])
    | some (later, others) =>
      if later.1 < entry.1 then some (later, entry :: others) else some (entry, rest)

/-- There is an earliest sleeper unless nobody sleeps. -/
theorem earliest?_cons {σ : Type} (entry : Nat × σ) (rest : List (Nat × σ)) :
    earliest? (entry :: rest) ≠ none := by
  -- Every branch names a sleeper.
  simp only [earliest?]
  split
  · simp
  · split <;> simp

/-- Taking the earliest sleeper out leaves the others in place. -/
theorem earliest?_perm {σ : Type} {sleeping : List (Nat × σ)} {first others}
    (found : earliest? sleeping = some (first, others)) : sleeping.Perm (first :: others) := by
  -- Either the head is the earliest, or the earliest of the tail moves past it.
  induction sleeping generalizing first others with
  | nil => simp [earliest?] at found
  | cons entry rest ih =>
    simp only [earliest?] at found
    cases inner : earliest? rest with
    | none =>
      cases rest with
      | nil => simp_all [earliest?]
      | cons head tail => exact absurd inner (earliest?_cons head tail)
    | some pair =>
      obtain ⟨later, others'⟩ := pair
      simp only [inner] at found
      split at found <;> cases found
      · exact ((ih inner).cons entry).trans (.swap _ _ _)
      · exact .refl _

namespace Timeline

variable {τ σ ρ : Type}

/-- A state at the start of time with nothing to do. -/
def ofState (state : ρ) : Timeline τ σ ρ := ⟨0, [], [], state⟩

/-- Adds a job behind those that wait for their turn. -/
def spawn (t : Timeline τ σ ρ) (job : τ) : Timeline τ σ ρ := { t with ready := t.ready ++ [job] }

/-- Changes the state alone. -/
def modify (t : Timeline τ σ ρ) (f : ρ → ρ) : Timeline τ σ ρ := { t with state := f t.state }

/-- Takes over a new state, and puts what goes to sleep behind the other sleepers. -/
def settle (t : Timeline τ σ ρ) (outcome : ρ × Option (Nat × σ)) : Timeline τ σ ρ :=
  match outcome with
  | (state, none) => { t with state := state }
  | (state, some (delay, sleeper)) =>
    { t with state := state, sleeping := t.sleeping ++ [(t.clock + delay, sleeper)] }

/-- Settling does not move the clock. -/
@[simp] theorem clock_settle (t : Timeline τ σ ρ) (outcome : ρ × Option (Nat × σ)) :
    (t.settle outcome).clock = t.clock := by
  unfold settle
  split <;> rfl

/-- Settling leaves the queue as it is. -/
@[simp] theorem ready_settle (t : Timeline τ σ ρ) (outcome : ρ × Option (Nat × σ)) :
    (t.settle outcome).ready = t.ready := by
  unfold settle
  split <;> rfl

/-- Settling takes over the state. -/
@[simp] theorem state_settle (t : Timeline τ σ ρ) (outcome : ρ × Option (Nat × σ)) :
    (t.settle outcome).state = outcome.1 := by
  unfold settle
  split <;> rfl

/-- Settling puts whoever goes to sleep behind the other sleepers. -/
@[simp] theorem sleeping_settle (t : Timeline τ σ ρ) (outcome : ρ × Option (Nat × σ)) :
    (t.settle outcome).sleeping =
      t.sleeping ++ (outcome.2.map fun (delay, sleeper) => (t.clock + delay, sleeper)).toList := by
  unfold settle
  split <;> simp

/-- One step: the first job in the queue, else the earliest sleeper unless the limit is before it. -/
def step (machine : Machine τ σ ρ) (limit : Option Nat) (t : Timeline τ σ ρ) :
    Option (Timeline τ σ ρ) :=
  match t.ready with
  | job :: rest => some (settle { t with ready := rest } (machine.start t.clock job t.state))
  | [] =>
    match earliest? t.sleeping with
    | none => none
    | some ((moment, sleeper), others) =>
      if limit.any (· < moment) then none
      else
        let now := max t.clock moment
        some (settle { t with clock := now, sleeping := others } (machine.wake now sleeper t.state))

/-- How many awakenings sleepers still have at most. -/
def weightOf (machine : Machine τ σ ρ) : List (Nat × σ) → Nat
  | [] => 0
  | entry :: rest => machine.weight entry.2 + 1 + weightOf machine rest

/-- The awakenings of further sleepers are added. -/
theorem weightOf_append (machine : Machine τ σ ρ) (first second : List (Nat × σ)) :
    weightOf machine (first ++ second) = weightOf machine first + weightOf machine second := by
  -- Each sleeper adds its own share.
  induction first with
  | nil => simp [weightOf]
  | cons entry rest ih => simp only [List.cons_append, weightOf, ih]; omega

/-- The order of the sleepers does not matter. -/
theorem weightOf_perm (machine : Machine τ σ ρ) {first second : List (Nat × σ)}
    (same : first.Perm second) : weightOf machine first = weightOf machine second := by
  -- A permutation is made of swaps of neighbours, which change no sum.
  induction same with
  | nil => rfl
  | cons entry _ ih => simp only [weightOf, ih]
  | swap one other rest => simp only [weightOf]; omega
  | trans _ _ before after => exact before.trans after

/-- How many awakenings are still to come at most. -/
def awakenings (machine : Machine τ σ ρ) (t : Timeline τ σ ρ) : Nat := weightOf machine t.sleeping

/-- A step starts a job, or uses up an awakening. -/
theorem step_decreases {machine : Machine τ σ ρ} {limit : Option Nat} {t next : Timeline τ σ ρ}
    (stepped : t.step machine limit = some next) :
    next.ready.length < t.ready.length ∨
      (next.ready.length = t.ready.length ∧ next.awakenings machine < t.awakenings machine) := by
  -- Settling leaves the queue as it is and adds at most one lighter sleeper.
  unfold step at stepped
  split at stepped
  next job rest queued =>
    left
    cases stepped
    unfold settle
    split <;> simp [queued]
  next empty =>
    split at stepped
    · cases stepped
    next moment sleeper others found =>
      split at stepped
      · cases stepped
      · right
        cases stepped
        have weights : t.awakenings machine =
            machine.weight sleeper + 1 + weightOf machine others := by
          simpa [awakenings, weightOf] using weightOf_perm machine (earliest?_perm found)
        unfold settle
        split
        next state outcome =>
          refine ⟨rfl, ?_⟩
          rw [weights]
          simp only [awakenings]
          omega
        next state delay woken outcome =>
          refine ⟨rfl, ?_⟩
          have lighter := machine.weight_wake (congrArg Prod.snd outcome)
          rw [weights]
          simp only [awakenings, weightOf_append, weightOf]
          omega

/-- Steps a number of times, as long as the state asks for more and the limit allows it. -/
def runFor (machine : Machine τ σ ρ) (limit : Option Nat) (continues : ρ → Bool) :
    Nat → Timeline τ σ ρ → Timeline τ σ ρ
  | 0, t => t
  | steps + 1, t =>
    if continues t.state then
      match t.step machine limit with
      | none => t
      | some next => runFor machine limit continues steps next
    else t

/-- Steps as long as the state asks for more and the limit allows it. -/
def run (machine : Machine τ σ ρ) (limit : Option Nat) (continues : ρ → Bool)
    (t : Timeline τ σ ρ) : Timeline τ σ ρ :=
  -- Every job starts once and wakes nobody, so the awakenings can be counted behind the last job.
  let started := runFor machine limit continues t.ready.length t
  runFor machine limit continues (started.awakenings machine) started

/-- What every step keeps is kept by any number of steps. -/
theorem runFor_keeps {machine : Machine τ σ ρ} {limit : Option Nat} {continues : ρ → Bool}
    {holds : Timeline τ σ ρ → Prop} {steps : Nat} {t : Timeline τ σ ρ}
    (kept : ∀ {t next}, holds t → t.step machine limit = some next → holds next)
    (before : holds t) : holds (t.runFor machine limit continues steps) := by
  -- The steps are taken one by one.
  induction steps generalizing t with
  | zero => exact before
  | succ steps ih =>
    unfold runFor
    split
    · split
      · exact before
      next stepped => exact ih (kept before stepped)
    · exact before

/-- What every step keeps is kept until there is nothing left to do. -/
theorem run_keeps {machine : Machine τ σ ρ} {limit : Option Nat} {continues : ρ → Bool}
    {holds : Timeline τ σ ρ → Prop} {t : Timeline τ σ ρ}
    (kept : ∀ {t next}, holds t → t.step machine limit = some next → holds next)
    (before : holds t) : holds (t.run machine limit continues) :=
  runFor_keeps kept (runFor_keeps kept before)

/-- As many steps as jobs wait are enough to start them all, unless something ends them earlier. -/
theorem ready_runFor {machine : Machine τ σ ρ} {limit : Option Nat} {continues : ρ → Bool}
    {steps : Nat} {t : Timeline τ σ ρ} (enough : t.ready.length ≤ steps)
    (goesOn : continues (t.runFor machine limit continues steps).state)
    (more : ((t.runFor machine limit continues steps).step machine limit).isSome) :
    (t.runFor machine limit continues steps).ready = [] := by
  -- A step takes a job from the queue, if there is one, and puts none into it.
  induction steps generalizing t with
  | zero => simpa [runFor] using enough
  | succ steps ih =>
    unfold runFor at goesOn more ⊢
    split at goesOn
    next asked =>
      simp only [asked, if_true] at more ⊢
      split at goesOn
      next stopped => simp [stopped] at more
      next next stepped =>
        simp only [stepped] at more ⊢
        refine ih ?_ goesOn more
        rcases step_decreases stepped with fewer | ⟨same, -⟩
        · omega
        · cases queue : t.ready with
          | nil => simp [same, queue]
          | cons job rest =>
            have shorter : next.ready.length = rest.length := by
              simp only [step, queue] at stepped
              cases stepped
              unfold settle
              split <;> rfl
            simp [queue] at enough
            omega
    next refused => simp [refused] at goesOn

/-- As many steps as there are awakenings are enough when no job waits. -/
theorem step_runFor {machine : Machine τ σ ρ} {limit : Option Nat} {continues : ρ → Bool}
    {steps : Nat} {t : Timeline τ σ ρ} (idle : t.ready = [])
    (enough : t.awakenings machine ≤ steps)
    (goesOn : continues (t.runFor machine limit continues steps).state) :
    (t.runFor machine limit continues steps).step machine limit = none := by
  -- Without jobs a step uses up an awakening, and without awakenings nobody sleeps.
  induction steps generalizing t with
  | zero =>
    have nobody : t.sleeping = [] := by
      cases sleepers : t.sleeping with
      | nil => rfl
      | cons entry rest => simp [awakenings, sleepers, weightOf] at enough
    simp [runFor, step, idle, nobody, earliest?]
  | succ steps ih =>
    unfold runFor at goesOn ⊢
    split at goesOn
    next asked =>
      simp only [asked, if_true]
      split at goesOn
      next stopped => simp [stopped]
      next next stepped =>
        rcases step_decreases stepped with fewer | ⟨same, fewer⟩
        · simp [idle] at fewer
        · refine ih ?_ (by omega) goesOn
          simpa [idle] using same
    next refused => simp [refused] at goesOn

/-- A run ends only when the state asks for no more or nothing is left to do within the limit. -/
theorem step_run {machine : Machine τ σ ρ} {limit : Option Nat} {continues : ρ → Bool}
    {t : Timeline τ σ ρ} (goesOn : continues (t.run machine limit continues).state) :
    (t.run machine limit continues).step machine limit = none := by
  -- What ends the first part before all jobs have started ends the second part too.
  have settled : ∀ {steps : Nat} {t : Timeline τ σ ρ}, t.step machine limit = none →
      t.runFor machine limit continues steps = t := by
    intro steps t stopped
    cases steps <;> simp [runFor, stopped]
  unfold run at goesOn ⊢
  generalize first : t.runFor machine limit continues t.ready.length = started at goesOn ⊢
  cases more : started.step machine limit with
  | none => simpa [settled more] using more
  | some next =>
    by_cases asked : continues started.state
    · refine step_runFor ?_ (Nat.le_refl _) goesOn
      subst first
      exact ready_runFor (Nat.le_refl _) asked (by simp [more])
    · cases count : started.awakenings machine <;> simp [count, runFor, asked] at goesOn

/-- Lets some milliseconds pass, with everything that is due on the way and at the end. -/
def advance (machine : Machine τ σ ρ) (milliseconds : Nat) (t : Timeline τ σ ρ) : Timeline τ σ ρ :=
  let moment := t.clock + milliseconds
  { t.run machine (some moment) (fun _ => true) with clock := moment }

end Timeline

end FormatPipeline.Schedule
