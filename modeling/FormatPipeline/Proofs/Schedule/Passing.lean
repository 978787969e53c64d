import FormatPipeline.Schedule.Debounce

/-!
Turns in any order of jobs and sleepers; the order of the timeline is one of them.

Its clock passes nobody: it moves to the next moment at which somebody wakes.
-/

namespace FormatPipeline.Schedule

/-- What takes a turn. -/
inductive Turn (τ σ : Type) where
  /-- A job starts. -/
  | start (job : τ)
  /-- A sleeper goes on at a moment. -/
  | wake (now : Nat) (sleeper : σ)
  /-- Only time passes. -/
  | pass

/-- Taking the earliest sleeper out takes it from its place. -/
theorem earliest?_eq_some {σ : Type} {sleeping : List (Nat × σ)} {first others}
    (found : earliest? sleeping = some (first, others)) :
    ∃ before after, sleeping = before ++ first :: after ∧ others = before ++ after := by
  -- Either the head is the earliest, or the earliest of the tail is.
  induction sleeping generalizing first others with
  | nil => simp [earliest?] at found
  | cons entry rest ih =>
    simp only [earliest?] at found
    cases inner : earliest? rest with
    | none =>
      simp only [inner, Option.some.injEq, Prod.mk.injEq] at found
      obtain ⟨rfl, rfl⟩ := found
      -- Only an empty list has no earliest sleeper.
      cases rest with
      | nil => exact ⟨[], [], rfl, rfl⟩
      | cons head tail => exact absurd inner (earliest?_cons head tail)
    | some pair =>
      obtain ⟨later, others'⟩ := pair
      simp only [inner] at found
      split at found <;> cases found
      · -- The head stays in front of the earliest of the tail.
        obtain ⟨before, after, rfl, rfl⟩ := ih inner
        exact ⟨entry :: before, after, rfl, rfl⟩
      · -- The head itself is taken.
        exact ⟨[], rest, rfl, rfl⟩

namespace Timeline

variable {τ σ ρ : Type} {machine : Machine τ σ ρ}

/-- Any job, or any sleeper whose moment has come, takes a turn, or time passes. -/
inductive Takes (machine : Machine τ σ ρ) : Timeline τ σ ρ → Turn τ σ → Timeline τ σ ρ → Prop
  | start {t : Timeline τ σ ρ} {before : List τ} {job : τ} {after : List τ}
      (queued : t.ready = before ++ job :: after) :
      Takes machine t (.start job)
        (settle { t with ready := before ++ after } (machine.start t.clock job t.state))
  | wake {t : Timeline τ σ ρ} {before : List (Nat × σ)} {moment : Nat} {sleeper : σ}
      {after : List (Nat × σ)} {now : Nat}
      (asleep : t.sleeping = before ++ (moment, sleeper) :: after) (due : moment ≤ now)
      (later : t.clock ≤ now) :
      Takes machine t (.wake now sleeper)
        (settle { t with clock := now, sleeping := before ++ after } (machine.wake now sleeper t.state))
  | pass {t : Timeline τ σ ρ} {now : Nat} (later : t.clock ≤ now) :
      Takes machine t .pass { t with clock := now }

/-- Whose turn it is in the order of the timeline. -/
def nextTurn (t : Timeline τ σ ρ) : Turn τ σ :=
  match t.ready with
  | job :: _ => .start job
  -- Sleepers wake only when the queue is empty, and late ones at the present moment.
  | [] =>
    match earliest? t.sleeping with
    | none => .pass
    | some ((moment, sleeper), _) => .wake (max t.clock moment) sleeper

/-- A step of the timeline is the next turn, and goes no further than its limit. -/
theorem takes_of_step {limit : Option Nat} {t next : Timeline τ σ ρ}
    (stepped : t.step machine limit = some next) :
    Takes machine t t.nextTurn next ∧
      ∀ moment, limit = some moment → t.clock ≤ moment → next.clock ≤ moment := by
  -- The first job is some job, and the earliest sleeper is some sleeper.
  unfold step at stepped
  split at stepped
  next job rest queued =>
    cases stepped
    have first : t.ready = [] ++ job :: rest := queued
    have turn : t.nextTurn = .start job := by simp [nextTurn, queued]
    refine ⟨?_, fun moment _ early => ?_⟩
    · rw [turn]
      exact .start first
    · simpa using early
  next idle =>
    split at stepped
    · cases stepped
    -- Without a job the earliest sleeper goes on, unless its moment is past the limit.
    next moment sleeper others found =>
      split at stepped
      · cases stepped
      next within =>
        cases stepped
        obtain ⟨before, after, asleep, rfl⟩ := earliest?_eq_some found
        have turn : t.nextTurn = .wake (max t.clock moment) sleeper := by
          simp [nextTurn, idle, found]
        refine ⟨?_, ?_⟩
        · rw [turn]
          exact .wake asleep (Nat.le_max_right _ _) (Nat.le_max_left _ _)
        · -- The clock is put to that moment at most, which the limit allows.
          intro last same early
          simp only [same, Option.any_some, decide_eq_true_eq, Nat.not_lt] at within
          simpa using Nat.max_le.mpr ⟨early, within⟩

end Timeline

/-- Nobody wakes before the earliest sleeper. -/
theorem earliest?_le {σ : Type} {sleeping : List (Nat × σ)} {first others}
    (found : earliest? sleeping = some (first, others)) :
    ∀ sleeper ∈ sleeping, first.1 ≤ sleeper.1 := by
  induction sleeping generalizing first others with
  | nil => simp
  | cons entry rest ih =>
    simp only [earliest?] at found
    cases inner : earliest? rest with
    -- Nobody else sleeps, since among several there is an earliest one.
    | none =>
      cases rest with
      | nil =>
        simp only [inner, Option.some.injEq, Prod.mk.injEq] at found
        obtain ⟨rfl, rfl⟩ := found
        simp
      | cons head tail => exact absurd inner (earliest?_cons head tail)
    | some pair =>
      obtain ⟨later, others'⟩ := pair
      have least := ih inner
      simp only [inner] at found
      -- The head is compared with the earliest of the others, which is before them all.
      split at found
      next sooner =>
        cases found
        simp only [List.mem_cons, forall_eq_or_imp]
        exact ⟨Nat.le_of_lt sooner, least⟩
      next head =>
        cases found
        simp only [List.mem_cons, forall_eq_or_imp]
        exact ⟨Nat.le_refl _, fun sleeper member =>
          Nat.le_trans (Nat.le_of_not_lt head) (least sleeper member)⟩

namespace Timeline

variable {τ σ ρ : Type} {machine : Machine τ σ ρ}

/-- The clock can be put to a moment without passing over a job or over somebody who wakes. -/
def PassesNobody (t : Timeline τ σ ρ) (now : Nat) : Prop :=
  t.clock < now → t.ready = [] ∧ ∀ sleeper ∈ t.sleeping, now ≤ sleeper.1

/-- Nothing is left to do at the moment of the clock. -/
def IsSettled (t : Timeline τ σ ρ) : Prop :=
  t.ready = [] ∧ ∀ sleeper ∈ t.sleeping, t.clock < sleeper.1

/-- The next turn is at the moment of the clock, or at the next one at which somebody wakes. -/
theorem passesNobody_of_step {limit : Option Nat} {t next : Timeline τ σ ρ}
    (stepped : t.step machine limit = some next) : t.PassesNobody next.clock := by
  intro passed
  unfold step at stepped
  split at stepped
  · cases stepped
    simp at passed
  next idle =>
    refine ⟨idle, ?_⟩
    split at stepped
    · cases stepped
    next moment sleeper others found =>
      split at stepped
      · cases stepped
      · cases stepped
        -- The clock moves to the moment of the earliest sleeper.
        rw [clock_settle] at passed ⊢
        have reached : max t.clock moment = moment := by
          simp only at passed
          omega
        simpa only [reached] using earliest?_le found

/-- Where no step is left, everybody sleeps until after the limit. -/
theorem after_of_step_eq_none {limit : Nat} {t : Timeline τ σ ρ}
    (stopped : t.step machine (some limit) = none) :
    t.ready = [] ∧ ∀ sleeper ∈ t.sleeping, limit < sleeper.1 := by
  unfold step at stopped
  split at stopped
  · cases stopped
  next idle =>
    refine ⟨idle, ?_⟩
    -- Either nobody sleeps at all, or the earliest sleeper is too late and so is everybody after it.
    split at stopped
    next nobody =>
      cases asleep : t.sleeping with
      | nil => simp
      | cons entry rest => exact absurd (asleep ▸ nobody) (earliest?_cons entry rest)
    next moment sleeper others found =>
      split at stopped
      next late =>
        have beyond : limit < moment := by simpa using late
        exact fun other member => Nat.lt_of_lt_of_le beyond (earliest?_le found other member)
      · cases stopped

/-- What all turns keep that pass nobody is kept while time passes. -/
theorem advance_keeps_passing (holds : Timeline τ σ ρ → Prop)
    (kept : ∀ {t turn next}, holds t → Takes machine t turn next → t.PassesNobody next.clock → holds next)
    {t : Timeline τ σ ρ} (before : holds t) (milliseconds : Nat) :
    holds (t.advance machine milliseconds) := by
  -- The clock never passes the moment to which it is put at last, and this bound is kept as well.
  let limited (later : Timeline τ σ ρ) : Prop :=
    holds later ∧ later.clock ≤ t.clock + milliseconds
  have ran : limited (t.run machine (some (t.clock + milliseconds)) fun _ => true) := run_keeps
    (fun held stepped =>
      have turn := takes_of_step stepped
      ⟨kept held.1 turn.1 (passesNobody_of_step stepped), turn.2 _ rfl held.2⟩)
    ⟨before, Nat.le_add_right _ _⟩
  have stopped : (t.run machine (some (t.clock + milliseconds)) fun _ => true).step machine
      (some (t.clock + milliseconds)) = none := step_run rfl
  obtain ⟨idle, asleep⟩ := after_of_step_eq_none stopped
  exact kept ran.1 (.pass ran.2) fun _ => ⟨idle, fun sleeper member => Nat.le_of_lt (asleep sleeper member)⟩

/-- When time has passed nothing is left to do at the moment that is reached. -/
theorem isSettled_advance (t : Timeline τ σ ρ) (milliseconds : Nat) :
    (t.advance machine milliseconds).IsSettled ∧
      (t.advance machine milliseconds).clock = t.clock + milliseconds := by
  have stopped : (t.run machine (some (t.clock + milliseconds)) fun _ => true).step machine
      (some (t.clock + milliseconds)) = none := step_run rfl
  have settled := after_of_step_eq_none stopped
  exact ⟨settled, rfl⟩

end Timeline

end FormatPipeline.Schedule
