import FormatPipeline.Proofs.Run
import FormatPipeline.Proofs.Schedule.Occurrences
import FormatPipeline.Proofs.Schedule.Passing
import FormatPipeline.Proofs.Schedule.Pending
import Mathlib.Data.Set.Card

/-! Delayed actions are done exactly when their delay is over, unless they are given up before. -/

namespace FormatPipeline.Schedule

variable {α τ σ ρ : Type}

namespace DebouncedTimeline

/-! ## Moments at which actions are due -/

/-- The delayed action that some work is, with the moment at which it is due. -/
def dueAt {β : Type} (moment : Delayed α → Nat) (work : Work α β) : Option (Nat × Delayed α) :=
  work.delayed?.map fun entry => (moment entry, entry)

/-- The actions that wait, each with the moment at which its delay is over if its turn comes now. -/
def due (t : DebouncedTimeline α τ σ ρ) : List (Nat × Delayed α) :=
  t.ready.filterMap (dueAt (t.clock + ·.delay)) ++
    t.sleeping.filterMap fun sleeper => dueAt (fun _ => sleeper.1) sleeper.2

/-- Whatever waits is due at some moment. -/
theorem map_snd_due (t : DebouncedTimeline α τ σ ρ) : (due t).map (·.2) = pending t := by
  simp [due, pending, dueAt, tasksOf, Work.delayed?, List.map_filterMap, Function.comp_def]

/-- Without the work for a key all other delayed actions keep their moments. -/
theorem filterMap_dueAt_filter {β γ : Type} (key : String) (moment : γ → Delayed α → Nat)
    (work : γ → Work α β) (list : List γ) :
    (list.filter fun item => !(work item).isFor key).filterMap
        (fun item => dueAt (moment item) (work item)) =
      (list.filterMap fun item => dueAt (moment item) (work item)).filter (!·.2.key == key) := by
  -- Other work is passed over on both sides, and work for the key is dropped on both.
  induction list with
  | nil => rfl
  | cons item rest ih =>
    cases delayed : (work item).delayed? with
    | none => simpa [List.filter_cons, dueAt, Work.isFor, delayed] using ih
    | some entry =>
      by_cases own : entry.key = key <;> simpa [List.filter_cons, dueAt, Work.isFor, delayed, own] using ih

/-- Whatever is not given up stays due. -/
theorem due_giveUp (key : String) (t : DebouncedTimeline α τ σ ρ) :
    due (t.giveUp key) = (due t).filter (!·.2.key == key) := by
  -- The queue and the sleepers are searched alike.
  rw [due, due, ready_giveUp, sleeping_giveUp, List.filter_append]
  exact congr (congrArg _ (filterMap_dueAt_filter key (fun _ => (t.clock + ·.delay)) id t.ready))
    (filterMap_dueAt_filter key (fun sleeper _ => sleeper.1) Prod.snd t.sleeping)

/-- Nothing is due after everything was cancelled. -/
@[simp] theorem due_cancelAll (t : DebouncedTimeline α τ σ ρ) : due (cancelAll t) = [] := by
  have nothing := map_snd_due (cancelAll t)
  rwa [pending_cancelAll, List.map_eq_nil_iff] at nothing

/-- An action that is put under a key is due when the delay from now is over. -/
theorem due_arm (entry : Delayed α) (t : DebouncedTimeline α τ σ ρ)
    (free : t.handles.get? entry.key = none) :
    (due (t.arm entry free)).Perm (due t ++ [(t.clock + entry.delay, entry)]) := by
  -- The task stands at the end of the queue, in front of all that sleeps.
  simp only [due, arm, Timeline.spawn, List.filterMap_append, List.append_assoc]
  exact (List.perm_append_comm).append_left _

/-- Other work makes nothing due. -/
@[simp] theorem due_spawn (t : DebouncedTimeline α τ σ ρ) (job : τ) : due (t.spawn job) = due t := by
  simp [due, spawn, Timeline.spawn, dueAt]

/-- The clock passes nothing that is due if it passes nobody. -/
theorem le_of_mem_due {t : DebouncedTimeline α τ σ ρ} {now : Nat} (patient : t.PassesNobody now)
    (later : t.clock ≤ now) (ahead : ∀ entry ∈ due t, t.clock ≤ entry.1) :
    ∀ entry ∈ due t, now ≤ entry.1 := by
  -- The clock stands still, or it moves to the first moment at which somebody wakes.
  intro entry member
  rcases Nat.eq_or_lt_of_le later with same | passed
  · exact same ▸ ahead entry member
  · obtain ⟨idle, asleep⟩ := patient passed
    simp only [due, idle, List.filterMap_nil, List.nil_append, List.mem_filterMap, dueAt,
      Option.map_eq_some_iff] at member
    obtain ⟨sleeper, listed, -, -, rfl⟩ := member
    exact asleep sleeper listed

variable {machine : DebouncedMachine α τ σ ρ}

/-- Whoever goes to sleep for other work is not due as an action. -/
theorem filterMap_dueAt_other (delayed : Option (Nat × σ)) (clock : Nat) :
    ((delayed.map fun (delay, sleeper) => (delay, (Work.other sleeper : Work α σ))).map
      fun (delay, sleeper) => (clock + delay, sleeper)).toList.filterMap
        (fun sleeper => dueAt (fun _ => sleeper.1) sleeper.2) = [] := by
  cases delayed <;> simp [dueAt]

/-- An action is done when it is due at the latest; no other turn changes what is due. -/
theorem due_takes {t next : DebouncedTimeline α τ σ ρ} {turn : Turn (Work α τ) (Work α σ)}
    (taken : t.Takes machine turn next) (patient : t.PassesNobody next.clock) :
    (∃ moment task, turn = .wake next.clock (.delayed task) ∧ moment ≤ next.clock ∧
      (due t).Perm ((moment, task.toDelayed) :: due next)) ∨
    ((∀ now task, turn ≠ .wake now (.delayed task)) ∧ (due t).Perm (due next)) := by
  -- Jobs that wait for their turn hold the clock.
  have queue : t.ready.filterMap (dueAt (next.clock + ·.delay)) =
      t.ready.filterMap (dueAt (t.clock + ·.delay)) := by
    rcases Nat.eq_or_lt_of_le taken.clock_le with same | passed
    · rw [same]
    · rw [(patient passed).1]
      rfl
  cases taken.shifts with
  | @start before job after queued clock ready sleeping =>
    refine .inr ⟨by simp, ?_⟩
    cases job with
    | delayed task =>
      -- The action waits among the sleepers instead of among the jobs.
      simp only [due, queued, dueAt, ready, sleeping, clock, DebouncedMachine.start,
        List.filterMap_append, List.filterMap_cons, List.filterMap_nil, Work.delayed?_delayed,
        Option.map_some, Option.toList_some, List.append_assoc]
      refine List.Perm.append_left _ ?_
      rw [← List.append_assoc]
      exact (List.perm_append_singleton _ _).symm
    | other job =>
      -- Any other job leaves the queue without ever having waited as an action.
      simp only [due, queued, ready, sleeping, clock, DebouncedMachine.start, List.filterMap_append,
        List.filterMap_cons, filterMap_dueAt_other, List.append_nil, List.append_assoc]
      exact .refl _
  | @wake before moment sleeper after now asleep reached later clock ready sleeping =>
    cases sleeper with
    | delayed task =>
      -- The action is taken out from between the other sleepers.
      refine .inl ⟨moment, task, clock ▸ rfl, clock ▸ reached, ?_⟩
      simp only [due, asleep, ready, sleeping, queue, DebouncedMachine.wake, List.filterMap_append,
        List.filterMap_cons, dueAt, Work.delayed?_delayed, Option.map_some, Option.map_none,
        Option.toList_none, List.append_nil]
      rw [← List.append_assoc, ← List.append_assoc]
      exact List.perm_middle
    | other sleeper =>
      -- Other work goes on or to sleep again, and the actions around it stay.
      refine .inr ⟨by simp, ?_⟩
      simp only [due, asleep, ready, sleeping, queue, DebouncedMachine.wake, List.filterMap_append,
        List.filterMap_cons, filterMap_dueAt_other, List.append_nil, List.append_assoc]
      exact .refl _
  | pass later ready sleeping =>
    refine .inr ⟨by simp, ?_⟩
    simp only [due, ready, sleeping, queue]
    exact .refl _

/-! ## Runs -/

/-- What can happen to a timeline with delayed actions at the moment of its clock. -/
inductive Move (α τ σ ρ : Type) where
  /-- An action is asked for, from outside or by whatever has just had its turn. -/
  | call (key : String) (action : α)
  | cancel
  /-- Other work is asked for. -/
  | spawn (job : τ)
  /-- The state changes for another reason. -/
  | modify (change : ρ → ρ)
  | turn (turn : Turn (Work α τ) (Work α σ))

/-- A move leads from one timeline to another, and its clock passes nobody. -/
inductive Moves (machine : DebouncedMachine α τ σ ρ) (delay : Nat) :
    DebouncedTimeline α τ σ ρ → Move α τ σ ρ → DebouncedTimeline α τ σ ρ → Prop
  | call {t : DebouncedTimeline α τ σ ρ} (key : String) (action : α) :
      Moves machine delay t (.call key action) (call machine.act delay key action t)
  | cancel {t : DebouncedTimeline α τ σ ρ} : Moves machine delay t .cancel (cancelAll t)
  | spawn {t : DebouncedTimeline α τ σ ρ} (job : τ) : Moves machine delay t (.spawn job) (t.spawn job)
  | modify {t : DebouncedTimeline α τ σ ρ} (change : ρ → ρ) :
      Moves machine delay t (.modify change) (t.modify change)
  | turn {t next : DebouncedTimeline α τ σ ρ} {turn : Turn (Work α τ) (Work α σ)}
      (taken : t.Takes machine turn next) (patient : t.PassesNobody next.clock) :
      Moves machine delay t (.turn turn) next

/-- What a call means for the delayed actions: without a delay the action is done at once. -/
def callOccurrences (delay moment : Nat) (key : String) (action : α) : List (Occurrence α) :=
  .called moment key action :: if delay = 0 then [.ran moment key action] else []

/-- What a turn means for the delayed actions. -/
def turnOccurrences : Turn (Work α τ) (Work α σ) → List (Occurrence α)
  | .wake now (.delayed task) => [.ran now task.key task.action]
  | .wake _ (.other _) | .start _ | .pass => []

/-- What a move means for the delayed actions. -/
def occurrences (delay : Nat) (t : DebouncedTimeline α τ σ ρ) : Move α τ σ ρ → List (Occurrence α)
  | .call key action => callOccurrences delay t.clock key action
  | .cancel => [.cancelled t.clock]
  | .turn turn => turnOccurrences turn
  | .spawn _ | .modify _ => []

/-- Only a delayed action that is done in a turn is something that happens. -/
theorem turnOccurrences_of_other {turn : Turn (Work α τ) (Work α σ)}
    (other : ∀ now task, turn ≠ .wake now (.delayed task)) : turnOccurrences turn = [] := by
  rcases turn with job | ⟨now, task | sleeper⟩ | _
  · rfl
  · exact absurd rfl (other now task)
  · rfl
  · rfl

/-- The timeline waits for what its history has left open, and nothing was done at a wrong moment. -/
structure Follows (delay : Nat) (history : List (Occurrence α)) (t : DebouncedTimeline α τ σ ρ) :
    Prop where
  same : (due t).Perm (waiting delay history)
  ahead : ∀ entry ∈ due t, t.clock ≤ entry.1
  past : ∀ occurrence ∈ history, occurrence.moment ≤ t.clock
  ordered : history.Pairwise (·.moment ≤ ·.moment)
  whole : IsExact delay history

variable {delay : Nat} {history : List (Occurrence α)} {t next : DebouncedTimeline α τ σ ρ}

/-- What is due are the actions of the open calls. -/
theorem Follows.mem_due_iff (follows : Follows delay history t) {moment : Nat} {entry : Delayed α} :
    (moment, entry) ∈ due t ↔ ∃ called, IsOpen history called entry.key entry.action ∧
      moment = called + delay ∧ entry.delay = delay := by
  rw [follows.same.mem_iff, mem_waiting_iff]

/-- No open call is overdue. -/
theorem Follows.le_of_isOpen (follows : Follows delay history t) {now : Nat}
    (ahead : ∀ entry ∈ due t, now ≤ entry.1) {called : Nat} {key : String} {action : α}
    (opened : IsOpen history called key action) : now ≤ called + delay :=
  ahead (called + delay, ⟨key, delay, action⟩) (follows.mem_due_iff.mpr ⟨called, opened, rfl, rfl⟩)

/-- One more thing that happens at the moment of the clock is followed by what waits after it. -/
theorem Follows.append (follows : Follows delay history t) {last : Occurrence α}
    (later : t.clock ≤ next.clock) (present : last.moment = next.clock)
    (same : (due next).Perm (waitingAfter delay (waiting delay history) last))
    (ahead : ∀ entry ∈ due next, next.clock ≤ entry.1) (fits : Fits delay history last) :
    Follows delay (history ++ [last]) next where
  same := by rwa [waiting_append_singleton]
  ahead := ahead
  past := by
    -- Everything before had happened by the old moment of the clock.
    intro occurrence member
    rcases List.mem_append.mp member with earlier | final
    · exact Nat.le_trans (follows.past occurrence earlier) later
    · rw [List.mem_singleton.mp final, present]
  ordered := by
    -- Only the last occurrence is new, and nothing before it is later.
    refine List.pairwise_append.mpr ⟨follows.ordered, List.pairwise_singleton _ _, ?_⟩
    intro occurrence member other final
    rw [List.mem_singleton.mp final, present]
    exact Nat.le_trans (follows.past occurrence member) later
  whole := isExact_append_singleton.mpr ⟨follows.whole, fits⟩

/-- An action that is asked for is open, and takes the place of the one that waited under its key. -/
theorem Follows.called (follows : Follows delay history t) (key : String) (action : α) :
    Follows delay (history ++ [.called t.clock key action])
      ((t.giveUp key).arm ⟨key, delay, action⟩ (get?_giveUp key t)) := by
  -- The earlier action of the key gives way on the timeline as it does among the open calls.
  have same := due_arm ⟨key, delay, action⟩ (t.giveUp key) (get?_giveUp key t)
  rw [due_giveUp] at same
  refine follows.append (Nat.le_refl _) rfl ?_ ?_ ⟨?_, nofun⟩
  -- Both sides drop the entries of the key and add the new one.
  · exact same.trans ((follows.same.filter _).append_right _)
  · intro entry member
    rcases List.mem_append.mp (same.mem_iff.mp member) with kept | new
    · exact follows.ahead entry (List.mem_filter.mp kept).1
    · rw [List.mem_singleton.mp new]
      exact Nat.le_add_right _ _
  · exact fun called key action opened => follows.le_of_isOpen follows.ahead opened

/-- An action that was open and is due now can be done. -/
theorem Follows.ran (follows : Follows delay history t) {entry : Delayed α} (later : t.clock ≤ next.clock)
    (taken : (due t).Perm ((next.clock, entry) :: due next))
    (ahead : ∀ entry ∈ due t, next.clock ≤ entry.1) :
    Follows delay (history ++ [.ran next.clock entry.key entry.action]) next := by
  -- Whatever is due stems from an open call with the same action.
  obtain ⟨called, opened, due, -⟩ := follows.mem_due_iff.mp (taken.mem_iff.mpr (.head _))
  refine follows.append later rfl ?_ ?_ ⟨?_, ?_⟩
  · exact (filter_waiting_perm (follows.same.symm.trans taken)).symm
  · exact fun other member => ahead other (taken.mem_iff.mpr (.tail _ member))
  · exact fun called key action opened => follows.le_of_isOpen ahead opened
  · rintro moment key action ⟨⟩
    exact ⟨called, opened, due⟩

/-- Every move is followed. -/
theorem follows_moves {move : Move α τ σ ρ} (follows : Follows delay history t)
    (moved : Moves machine delay t move next) :
    Follows delay (history ++ occurrences delay t move) next := by
  cases moved with
  | call key action =>
    have waits := follows.called key action
    by_cases immediate : delay = 0
    · -- The action has its turn at once, as if it had waited for no time at all.
      subst immediate
      have taken := due_arm ⟨key, 0, action⟩ (t.giveUp key) (get?_giveUp key t)
      have still : t.clock ≤ (call machine.act 0 key action t).clock := Nat.le_refl _
      have done := waits.ran still (taken.trans (List.perm_append_singleton _ _)) waits.ahead
      have same : (call machine.act 0 key action t).clock = t.clock := rfl
      simpa [occurrences, callOccurrences, same] using done
    · simpa [occurrences, callOccurrences, call, immediate] using waits
  | cancel =>
    -- Whatever waits is dropped, and it was not overdue.
    refine follows.append (Nat.le_refl _) rfl ?_ ?_ ⟨?_, ?_⟩
    · rw [due_cancelAll]
      exact .refl _
    · simp
    · exact fun called key action opened => follows.le_of_isOpen follows.ahead opened
    · rintro moment key action ⟨⟩
  | spawn job =>
    rw [occurrences, List.append_nil]
    have same := due_spawn t job
    exact ⟨same ▸ follows.same, same ▸ follows.ahead, follows.past, follows.ordered, follows.whole⟩
  | modify change =>
    rw [occurrences, List.append_nil]
    exact ⟨follows.same, follows.ahead, follows.past, follows.ordered, follows.whole⟩
  | @turn _ turn taken patient =>
    have later := taken.clock_le
    have ahead := le_of_mem_due patient later follows.ahead
    -- Either an action was done, or what is due is the same as before.
    rcases due_takes taken patient with ⟨moment, task, rfl, reached, taken⟩ | ⟨other, same⟩
    · -- The clock stands at the moment at which the action is due.
      obtain rfl : moment = next.clock :=
        Nat.le_antisymm reached (ahead _ (taken.mem_iff.mpr (.head _)))
      exact follows.ran later taken ahead
    · rw [occurrences, turnOccurrences_of_other other, List.append_nil]
      exact ⟨same.symm.trans follows.same, fun entry member => ahead entry (same.mem_iff.mpr member),
        fun occurrence member => Nat.le_trans (follows.past occurrence member) later, follows.ordered,
        follows.whole⟩

variable {first : DebouncedTimeline α τ σ ρ}

/-- A run is followed from its start, when nothing waits. -/
theorem follows_run (fresh : first.count = 0)
    (ran : Run (Moves machine delay) (occurrences delay) [] first history t) :
    Follows delay history t := by
  -- The induction is on the run; at its start nothing is due, for nothing waits.
  induction ran with
  | start =>
    have nothing : due first = [] := by
      have waiting : pending first = [] := List.length_eq_zero_iff.mp (fresh ▸ length_pending first)
      simpa [waiting] using map_snd_due first
    refine ⟨?_, by simp [nothing], by simp, .nil, isExact_nil delay⟩
    rw [nothing]
    exact .refl _
  | move before moved ih => exact follows_moves ih moved

/-- Every call is directly followed by the run of its action. -/
def AtOnce (history : List (Occurrence α)) : Prop :=
  ∀ before after moment key action, history = before ++ .called moment key action :: after →
    ∃ rest, after = .ran moment key action :: rest

/-- What happens at once in two histories happens at once when they follow each other. -/
theorem AtOnce.append {later : List (Occurrence α)} (early : AtOnce history) (late : AtOnce later) :
    AtOnce (history ++ later) := by
  intro before after moment key action split
  rcases List.append_eq_append_iff.mp split with ⟨between, -, there⟩ | ⟨between, there, joined⟩
  · exact late between after moment key action there
  · -- The call is the last thing of the first history, or its run is there as well.
    cases between with
    | nil => exact late [] after moment key action joined.symm
    | cons head tail =>
      cases joined
      obtain ⟨rest, rfl⟩ := early before tail moment key action there
      exact ⟨rest ++ later, rfl⟩

/-- Without a delay all actions are done at once. -/
theorem atOnce_run (ran : Run (Moves machine 0) (occurrences 0) [] first history t) : AtOnce history := by
  induction ran with
  | start =>
    intro before after moment key action split
    simp at split
  | @move history t next move before moved ih =>
    refine ih.append ?_
    intro before after moment key action split
    cases moved with
    | call name act =>
      -- The call is the first of two things, and its run is the second.
      simp only [occurrences, callOccurrences, if_true] at split
      rcases before with _ | ⟨head, _ | ⟨second, tail⟩⟩
      · cases split
        exact ⟨[], rfl⟩
      · simp at split
      · simp at split
    | cancel => rcases before with _ | ⟨head, tail⟩ <;> simp [occurrences] at split
    | spawn | modify => simp [occurrences] at split
    | @turn _ turn taken patient =>
      rcases turn with job | ⟨now, task | sleeper⟩ | _
      · simp [occurrences, turnOccurrences] at split
      · rcases before with _ | ⟨head, tail⟩ <;> simp [occurrences, turnOccurrences] at split
      · simp [occurrences, turnOccurrences] at split
      · simp [occurrences, turnOccurrences] at split

/-! ## What moves make of the state -/

/-- What a turn makes of the state, apart from a delayed action. -/
def turnBesides (machine : Machine τ σ ρ) (clock : Nat) (turn : Turn (Work α τ) (Work α σ)) (state : ρ) : ρ :=
  match turn with
  -- Delayed actions count apart, so that only other work changes the state here.
  | .start (.other job) => (machine.start clock job state).1
  | .wake now (.other sleeper) => (machine.wake now sleeper state).1
  | .start (.delayed _) | .wake _ (.delayed _) | .pass => state

/-- What a move makes of the state, apart from delayed actions. -/
def besides (machine : Machine τ σ ρ) (t : DebouncedTimeline α τ σ ρ) : Move α τ σ ρ → ρ
  | .modify change => change t.state
  | .turn turn => turnBesides machine t.clock turn t.state
  | .call .. | .cancel | .spawn _ => t.state

/-- The state after the actions that were done. -/
def afterDone (act : α → ρ → ρ) (occurrences : List (Occurrence α)) (state : ρ) : ρ :=
  (occurrences.filterMap (·.done?)).foldl (fun state action => act action state) state

/-- A call does its action if there is no delay, and changes nothing else. -/
theorem state_call (act : α → ρ → ρ) (key : String) (action : α) :
    (call act delay key action t).state =
      afterDone act (callOccurrences delay t.clock key action) t.state := by
  unfold call callOccurrences
  split <;> rfl

/-- A turn does the action that is noted for it, and otherwise what its work does. -/
theorem Takes.state_eq_afterDone {turn : Turn (Work α τ) (Work α σ)} (taken : t.Takes machine turn next) :
    next.state =
      afterDone machine.act (turnOccurrences turn) (turnBesides machine.machine t.clock turn t.state) := by
  rw [taken.state_eq]
  rcases turn with (task | job) | ⟨now, task | sleeper⟩ | _ <;> rfl

/-- The actions that are noted for a move are done, and no others. -/
theorem state_moves {move : Move α τ σ ρ} (moved : Moves machine delay t move next) :
    next.state =
      afterDone machine.act (occurrences delay t move) (besides machine.machine t move) := by
  cases moved with
  | call key action => exact state_call machine.act key action
  | cancel | spawn | modify => rfl
  | turn taken => exact taken.state_eq_afterDone

/-! ## Exactness of delays -/

/-- What was done of all that was asked for, and what still waits. -/
structure IsDebounced (delay : Nat) (history : List (Occurrence α)) (t : DebouncedTimeline α τ σ ρ) :
    Prop where
  /-- Everything happens in the order of its moments, and until now. -/
  ordered : history.Pairwise (·.moment ≤ ·.moment) ∧ ∀ occurrence ∈ history, occurrence.moment ≤ t.clock
  /-- What is done was asked for exactly the delay before, and neither done nor given up since. -/
  asked : ∀ before after moment key action, history = before ++ .ran moment key action :: after →
    ∃ called, IsOpen before called key action ∧ moment = called + delay
  /-- A call ends when its delay is over at the latest, with its run unless it is given up. -/
  ends : ∀ key moment action next, ((moment, action), some next) ∈ fates key history →
    next.moment ≤ moment + delay ∧
      (next.supersedes key ∨ next = .ran (moment + delay) key action)
  /-- The delay of a call that has not ended is not over before now. -/
  prompt : ∀ key moment action, IsOpen history moment key action → t.clock ≤ moment + delay
  /-- The actions of a key are done once for each call that ends with a run, in their order. -/
  once : ∀ key, history.filterMap (·.run? key) =
    ((fates key history).filter (·.2.any (·.isRun))).map fun fate => (fate.1.1 + delay, fate.1.2)
  /-- When nothing is left to do, these are all calls whose delay is over and that were not given up. -/
  settled : t.IsSettled → ∀ key, history.filterMap (·.run? key) =
    ((fates key history).filter fun fate =>
      fate.1.1 + delay ≤ t.clock && !fate.2.any (·.supersedes key)).map
        fun fate => (fate.1.1 + delay, fate.1.2)
  /-- What waits are the actions of the calls that have not ended. -/
  waits : ∀ entry, entry ∈ pending t ↔
    ∃ moment, IsOpen history moment entry.key entry.action ∧ entry.delay = delay
  /-- There is a handle under the key of each such call, and under no other key. -/
  handled : ∀ key, (t.handles.get? key).isSome ↔ ∃ moment action, IsOpen history moment key action
  /-- There are as many handles, and as many tasks, as keys with such a call. -/
  counted : t.count = {key | ∃ moment action, IsOpen history moment key action}.ncard ∧
    (pending t).length = t.count
  /-- Without a delay actions are done inside their calls, and nothing waits. -/
  immediate : delay = 0 → AtOnce history ∧ t.count = 0

/-- When nothing is left to do, all calls whose delay is over have ended. -/
theorem Follows.isRun_eq (follows : Follows delay history t) (settled : t.IsSettled) {key : String}
    {moment : Nat} {action : α} {next : Option (Occurrence α)}
    (listed : ((moment, action), next) ∈ fates key history) :
    next.any (·.isRun) = (moment + delay ≤ t.clock && !next.any (·.supersedes key)) := by
  obtain ⟨before, after, split, found⟩ := mem_fates_iff.mp listed
  cases next with
  | none =>
    -- The call is open, so that its action sleeps until after the moment of the clock.
    have waits : (moment + delay, (⟨key, delay, action⟩ : Delayed α)) ∈ due t :=
      follows.mem_due_iff.mpr ⟨moment, isOpen_of_find?_eq_none split found, rfl, rfl⟩
    simp only [due, settled.1, List.filterMap_nil, List.nil_append, List.mem_filterMap, dueAt,
      Option.map_eq_some_iff, Prod.mk.injEq] at waits
    obtain ⟨sleeper, asleep, -, -, same, -⟩ := waits
    have beyond := settled.2 sleeper asleep
    simp [Nat.not_le.mpr (same ▸ beyond)]
  | some next =>
    obtain ⟨concerned, calm, rest, rfl, -⟩ := List.find?_eq_some_iff_append.mp found
    rcases (follows.whole.find?_concerns split found).2 with superseded | rfl
    · have other : next.isRun = false := by
        cases next with
        | called | cancelled => rfl
        | ran => cases superseded
      simp [superseded, other]
    -- The run is noted in the history, so its moment has passed.
    · have past := follows.past (.ran (moment + delay) key action) (by simp [split])
      have reached : moment + delay ≤ t.clock := past
      simp [Occurrence.isRun, Occurrence.supersedes, reached]

/-- What waits are the actions of open calls. -/
theorem Follows.mem_pending_iff (follows : Follows delay history t) (entry : Delayed α) :
    entry ∈ pending t ↔ ∃ moment, IsOpen history moment entry.key entry.action ∧ entry.delay = delay := by
  -- Entries are due with their moments, and an open call fixes the moment by the delay.
  simp only [← map_snd_due, List.mem_map]
  constructor
  · rintro ⟨⟨moment, entry⟩, member, rfl⟩
    obtain ⟨called, opened, -, same⟩ := follows.mem_due_iff.mp member
    exact ⟨called, opened, same⟩
  · rintro ⟨called, opened, same⟩
    exact ⟨(called + delay, entry), follows.mem_due_iff.mpr ⟨called, opened, rfl, same⟩, rfl⟩

/-- There is a handle under a key with an open call. -/
theorem Follows.isSome_get?_iff (follows : Follows delay history t) (key : String) :
    (t.handles.get? key).isSome ↔ ∃ moment action, IsOpen history moment key action := by
  -- A handle stands for a task, and a task for an open call.
  rw [DebouncedTimeline.isSome_get?_iff]
  simp only [follows.mem_pending_iff]
  constructor
  · rintro ⟨entry, ⟨moment, opened, -⟩, rfl⟩
    exact ⟨moment, entry.action, opened⟩
  · rintro ⟨moment, action, opened⟩
    exact ⟨⟨key, delay, action⟩, ⟨moment, opened, rfl⟩, rfl⟩

/-- There are as many handles as keys with an open call. -/
theorem Follows.count_eq (follows : Follows delay history t) :
    t.count = {key | ∃ moment action, IsOpen history moment key action}.ncard := by
  classical
  -- The keys of the waiting actions are listed once each, so that counting them is enough.
  have same : {key | ∃ moment action, IsOpen history moment key action} =
      ((pending t).map (·.key)).toFinset := by
    ext key
    simp [← follows.isSome_get?_iff, DebouncedTimeline.isSome_get?_iff]
  have distinct : ((pending t).map (·.key)).Nodup := by
    simpa [pending, Function.comp_def] using t.agree.keys
  rw [same, Set.ncard_coe_finset, List.toFinset_card_of_nodup distinct, List.length_map, length_pending]

/-- Whatever is asked for and cancelled while time passes, exactly the actions that are not given up are
done, each of them once and when its delay is over. -/
theorem isDebounced_run (fresh : first.count = 0)
    (ran : Run (Moves machine delay) (occurrences delay) [] first history t) :
    IsDebounced delay history t := by
  have follows := follows_run fresh ran
  refine ⟨⟨follows.ordered, follows.past⟩, ?_, ?_, ?_, follows.whole.runs_eq, ?_, follows.mem_pending_iff,
    follows.isSome_get?_iff, ⟨follows.count_eq, length_pending t⟩, ?_⟩
  · intro before after moment key action split
    exact (follows.whole before _ after split).due moment key action rfl
  · intro key moment action next listed
    obtain ⟨before, after, split, found⟩ := mem_fates_iff.mp listed
    exact follows.whole.find?_concerns split found
  · exact fun key moment action opened => follows.le_of_isOpen follows.ahead opened
  · intro settled key
    rw [follows.whole.runs_eq key]
    exact congrArg _ (List.filter_congr fun fate listed => follows.isRun_eq settled listed)
  · rintro rfl
    have instant := atOnce_run ran
    rw [← length_pending, List.length_eq_zero_iff]
    refine ⟨instant, List.eq_nil_iff_forall_not_mem.mpr fun entry member => ?_⟩
    -- An open call would have been followed by its run.
    obtain ⟨moment, ⟨before, after, split, calm⟩, -⟩ := (follows.mem_pending_iff entry).mp member
    obtain ⟨rest, rfl⟩ := instant _ _ _ _ _ split
    simpa [Occurrence.concerns] using calm _ (.head _)

/-- While time passes actions are done that have waited, and nothing else happens to them. -/
theorem isDebounced_advance (fresh : first.count = 0)
    (ran : Run (Moves machine delay) (occurrences delay) [] first history t) (milliseconds : Nat) :
    ∃ runs, (∀ occurrence ∈ runs, occurrence.isRun) ∧
      IsDebounced delay (history ++ runs) (t.advance machine milliseconds) ∧
      (t.advance machine milliseconds).IsSettled := by
  -- Each turn that passes nobody is a move.
  have advanced : ∃ runs, (∀ occurrence ∈ runs, occurrence.isRun) ∧
      Run (Moves machine delay) (occurrences delay) [] first (history ++ runs)
        (t.advance machine milliseconds) := by
    refine advance_keeps_passing (fun t => ∃ runs, (∀ occurrence ∈ runs, occurrence.isRun) ∧
      Run (Moves machine delay) (occurrences delay) [] first (history ++ runs) t)
      ?_ ⟨[], by simp, by simpa using ran⟩ milliseconds
    rintro t turn next ⟨runs, only, ran⟩ taken patient
    refine ⟨runs ++ turnOccurrences turn, fun occurrence member => ?_,
      List.append_assoc .. ▸ ran.move (.turn taken patient)⟩
    rcases List.mem_append.mp member with earlier | last
    · exact only occurrence earlier
    · rcases turn with job | ⟨now, task | sleeper⟩ | _ <;> simp_all [turnOccurrences, Occurrence.isRun]
  obtain ⟨runs, only, ran⟩ := advanced
  exact ⟨runs, only, isDebounced_run fresh ran, (isSettled_advance t milliseconds).1⟩

end DebouncedTimeline

end FormatPipeline.Schedule
