import FormatPipeline.Proofs.Schedule.Debouncing
import FormatPipeline.Schedule.Reentrant

/-! Delays stay exact when actions ask for others, and such actions never keep time from passing. -/

namespace FormatPipeline.Schedule

variable {α τ σ ρ : Type}

/-- What is asked for makes of the state, apart from delayed actions. -/
def Request.besides (request : Request α τ ρ) (running : Running α τ ρ) : Running α τ ρ :=
  match request with
  | .change f => running.change f
  | .call .. | .cancel | .spawn _ => running

namespace ReentrantTimeline

/-! ## Moves -/

/-- What can happen to a timeline on which actions can ask for others. -/
inductive Move (α τ σ ρ : Type) where
  /-- Something is asked for from outside. -/
  | ask (request : Request α τ ρ)
  | turn (turn : Turn (Work α τ) (Work α σ))
  /-- The action that was begun last goes on. -/
  | goOn

/-- A move leads from one timeline to another. While an action is being done nothing else happens, and
the clock passes nobody. -/
inductive Moves (machine : Machine τ σ ρ) (script : α → View ρ → Script α τ ρ) (delay : Nat) :
    ReentrantTimeline α τ σ ρ → Move α τ σ ρ → ReentrantTimeline α τ σ ρ → Prop
  | ask {t : ReentrantTimeline α τ σ ρ} (request : Request α τ ρ) (idle : t.state.actions = []) :
      Moves machine script delay t (.ask request) (t.answer script delay request)
  | turn {t next : ReentrantTimeline α τ σ ρ} {turn : Turn (Work α τ) (Work α σ)}
      (taken : t.Takes (machine.besideActions.debounced (.begin script)) turn next)
      (patient : t.PassesNobody next.clock) (idle : t.state.actions = []) :
      Moves machine script delay t (.turn turn) next
  | goOn {t : ReentrantTimeline α τ σ ρ} (busy : t.state.actions ≠ []) :
      Moves machine script delay t .goOn (t.goOn script delay)

/-- What the action that was begun last asks for next, if it is not done. -/
def asked? (t : ReentrantTimeline α τ σ ρ) : Option (Request α τ ρ) :=
  match t.state.actions with
  | [] => none
  | action :: _ =>
    match action t.view with
    | .done => none
    | .ask request _ => some request

/-- What a request means for the delayed actions. -/
def requestOccurrences (delay moment : Nat) : Request α τ ρ → List (Occurrence α)
  | .call key action => DebouncedTimeline.callOccurrences delay moment key action
  | .cancel => [.cancelled moment]
  | .change _ | .spawn _ => []

/-- What a move means for the delayed actions. -/
def occurrences (delay : Nat) (t : ReentrantTimeline α τ σ ρ) : Move α τ σ ρ → List (Occurrence α)
  | .ask request => requestOccurrences delay t.clock request
  | .turn turn => DebouncedTimeline.turnOccurrences turn
  -- An action that goes on asks like somebody outside, unless it is done.
  | .goOn => t.asked?.elim [] (requestOccurrences delay t.clock)

/-- What a move makes of the state and of the actions being done, apart from those that it begins. -/
def besides (machine : Machine τ σ ρ) (t : ReentrantTimeline α τ σ ρ) : Move α τ σ ρ → Running α τ ρ
  | .ask request => request.besides t.state
  | .turn turn => DebouncedTimeline.turnBesides machine.besideActions t.clock turn t.state
  | .goOn =>
    match t.state.actions with
    | [] => t.state
    | action :: rest =>
      match action t.view with
      | .done => { t.state with actions := rest }
      | .ask request next => request.besides { t.state with actions := next :: rest }

variable {machine : Machine τ σ ρ} {script : α → View ρ → Script α τ ρ} {delay : Nat}
  {history : List (Occurrence α)} {first t next later : ReentrantTimeline α τ σ ρ}

/-- What is asked for is done by one move of a timeline that does not know who asks. -/
theorem exists_move_answer (machine : Machine τ σ ρ) (script : α → View ρ → Script α τ ρ) (delay : Nat)
    (t : ReentrantTimeline α τ σ ρ) (request : Request α τ ρ) :
    ∃ move, DebouncedTimeline.Moves (machine.besideActions.debounced (.begin script)) delay t move
        (t.answer script delay request) ∧
      DebouncedTimeline.occurrences delay t move = requestOccurrences delay t.clock request ∧
      DebouncedTimeline.besides machine.besideActions t move = request.besides t.state := by
  -- For each request there is a move of its own.
  cases request with
  | change change => exact ⟨.modify (·.change change), .modify _, rfl, rfl⟩
  | call key action => exact ⟨.call key action, .call key action, rfl, rfl⟩
  | cancel => exact ⟨.cancel, .cancel, rfl, rfl⟩
  | spawn job => exact ⟨.spawn job, .spawn job, rfl, rfl⟩

/-- An action that goes on is done, or what is left of it takes its place before it is answered. -/
theorem goOn_cases (script : α → View ρ → Script α τ ρ) (delay : Nat) (busy : t.state.actions ≠ []) :
    ∃ action rest, t.state.actions = action :: rest ∧
      ((action t.view = .done ∧ t.goOn script delay = t.modify ({ · with actions := rest })) ∨
        ∃ request next, action t.view = .ask request next ∧
          t.goOn script delay =
            answer script delay (t.modify ({ · with actions := next :: rest })) request) := by
  -- The action that was begun last goes on, and its script says how.
  cases listed : t.state.actions with
  | nil => exact absurd listed busy
  | cons action rest =>
    refine ⟨action, rest, rfl, ?_⟩
    cases left : action t.view with
    | done => exact .inl ⟨rfl, by simp only [goOn, listed, left]⟩
    | ask request next => exact .inr ⟨request, next, rfl, by simp only [goOn, listed, left]⟩

/-- Every run is one in which nobody cares who asks. -/
theorem run_debounced (ran : Run (Moves machine script delay) (occurrences delay) [] first history t) :
    Run (DebouncedTimeline.Moves (machine.besideActions.debounced (.begin script)) delay)
      (DebouncedTimeline.occurrences delay) [] first history t := by
  induction ran with
  | start => exact .start
  | @move history t next move before moved ih =>
    cases moved with
    | ask request idle =>
      obtain ⟨move, moved, same, -⟩ := exists_move_answer machine script delay t request
      rw [occurrences, ← same]
      exact ih.move moved
    -- Between actions a turn of both timelines is the same one.
    | turn taken patient idle => exact ih.move (.turn taken patient)
    | goOn busy =>
      -- What is left of the action takes its place, which changes the state alone.
      obtain ⟨action, rest, listed, ⟨left, finished⟩ | ⟨request, next, left, answered⟩⟩ :=
        goOn_cases script delay busy
      · have nothing : occurrences delay t (.goOn : Move α τ σ ρ) = [] := by
          simp only [occurrences, asked?, listed, left, Option.elim_none]
        rw [finished, nothing]
        exact ih.move (.modify _)
      · have noted : occurrences delay t (.goOn : Move α τ σ ρ) =
            requestOccurrences delay t.clock request := by
          simp only [occurrences, asked?, listed, left, Option.elim_some]
        have replaced := ih.move (.modify ({ · with actions := next :: rest }))
        rw [DebouncedTimeline.occurrences, List.append_nil] at replaced
        obtain ⟨move, moved, same, -⟩ := exists_move_answer machine script delay
          (t.modify ({ · with actions := next :: rest })) request
        rw [answered, noted]
        exact same ▸ replaced.move moved

/-- The actions that are noted for a move are begun, and no others. -/
theorem state_moves {move : Move α τ σ ρ} (moved : Moves machine script delay t move next) :
    next.state =
      DebouncedTimeline.afterDone (.begin script) (occurrences delay t move) (besides machine t move) := by
  -- Requests change the state by themselves, and a turn begins the action that it notes.
  cases moved with
  | ask request idle =>
    obtain ⟨move, moved, same, apart⟩ := exists_move_answer machine script delay t request
    rw [occurrences, besides, ← same, ← apart]
    exact DebouncedTimeline.state_moves moved
  | turn taken patient idle => exact taken.state_eq_afterDone
  -- An action that ends changes nothing, and one that asks is answered like anyone else.
  | goOn busy =>
    obtain ⟨action, rest, listed, ⟨left, finished⟩ | ⟨request, next, left, answered⟩⟩ :=
      goOn_cases script delay busy
    · simp only [finished, occurrences, asked?, besides, listed, left, Option.elim_none]
      rfl
    · obtain ⟨move, moved, same, apart⟩ := exists_move_answer machine script delay
        (t.modify ({ · with actions := next :: rest })) request
      simp only [answered, occurrences, asked?, besides, listed, left, Option.elim_some]
      have state := DebouncedTimeline.state_moves moved
      rw [same] at state
      exact state.trans (congrArg _ apart)

/-! ## Time goes on -/

/-- A move for which nothing is asked from outside. -/
def Proceeds (machine : Machine τ σ ρ) (script : α → View ρ → Script α τ ρ) (delay : Nat)
    (t : ReentrantTimeline α τ σ ρ) (move : Move α τ σ ρ) (next : ReentrantTimeline α τ σ ρ) : Prop :=
  Moves machine script delay t move next ∧ ∀ request, move ≠ .ask request

/-- A timeline comes from another one without anything being asked from outside. -/
def LeadsTo (machine : Machine τ σ ρ) (script : α → View ρ → Script α τ ρ) (delay : Nat)
    (t later : ReentrantTimeline α τ σ ρ) : Prop :=
  -- Nothing but turns and actions that go on, whatever has happened before.
  ∀ history, ∃ runs,
    Run (Proceeds machine script delay) (occurrences delay) history t (history ++ runs) later

namespace LeadsTo

/-- Nothing has to happen. -/
theorem refl (t : ReentrantTimeline α τ σ ρ) : LeadsTo machine script delay t t :=
  fun history => ⟨[], by simpa using Run.start⟩

/-- One more move can follow. -/
theorem move {move : Move α τ σ ρ} (before : LeadsTo machine script delay t later)
    (moved : Proceeds machine script delay later move next) : LeadsTo machine script delay t next := by
  intro history
  obtain ⟨runs, ran⟩ := before history
  exact ⟨runs ++ occurrences delay later move, List.append_assoc .. ▸ ran.move moved⟩

/-- What a timeline leads to leads on. -/
theorem trans (before : LeadsTo machine script delay t next)
    (after : LeadsTo machine script delay next later) : LeadsTo machine script delay t later := by
  intro history
  obtain ⟨runs, ran⟩ := before history
  obtain ⟨further, goes⟩ := after (history ++ runs)
  exact ⟨runs ++ further, List.append_assoc .. ▸ ran.trans goes⟩

/-- A run goes on with what its end leads to. -/
theorem exists_run (leads : LeadsTo machine script delay t later)
    (ran : Run (Moves machine script delay) (occurrences delay) [] first history t) :
    ∃ runs, Run (Moves machine script delay) (occurrences delay) [] first (history ++ runs) later := by
  obtain ⟨runs, goes⟩ := leads history
  exact ⟨runs, ran.trans (goes.mono (·.1))⟩

end LeadsTo

/-- What is left of an action after it has asked for something. -/
def LeftOf (next action : View ρ → Script α τ ρ) : Prop :=
  ∃ view request, action view = .ask request next

/-- An action asks for finitely many things one after the other. -/
theorem acc_leftOf (action : View ρ → Script α τ ρ) : Acc LeftOf action := by
  -- The induction is on what the action does where it stands.
  have ends : ∀ (left : Script α τ ρ) request next, left = .ask request next → Acc LeftOf next := by
    intro left
    induction left with
    | done => nofun
    | ask request next ih =>
      rintro _ _ ⟨⟩
      refine ⟨_, ?_⟩
      rintro further ⟨view, request, same⟩
      exact ih view request further same
  refine ⟨_, ?_⟩
  rintro next ⟨view, request, same⟩
  exact ends _ request next same

variable (script) in
/-- With a delay, answering a request begins no action and puts nobody to sleep. -/
theorem answer_of_pos (positive : 0 < delay) (t : ReentrantTimeline α τ σ ρ) (request : Request α τ ρ) :
    (t.answer script delay request).state.actions = t.state.actions ∧
      (t.answer script delay request).clock = t.clock ∧
      (t.answer script delay request).sleeping.Sublist t.sleeping := by
  -- Only a call with no delay would begin an action at once.
  cases request with
  | change | spawn => exact ⟨rfl, rfl, .refl _⟩
  | cancel => exact ⟨rfl, rfl, List.filter_sublist⟩
  | call key action =>
    simp only [answer, DebouncedTimeline.call, Nat.ne_of_gt positive, if_false]
    exact ⟨rfl, rfl, List.filter_sublist⟩

/-- With a delay, the action that was begun last is done after a while. -/
theorem exists_rest (positive : 0 < delay) (action : View ρ → Script α τ ρ)
    {rest : List (View ρ → Script α τ ρ)} (listed : t.state.actions = action :: rest) :
    ∃ later, LeadsTo machine script delay t later ∧ later.state.actions = rest ∧
      later.clock = t.clock ∧ later.sleeping.Sublist t.sleeping := by
  -- What is left of the action gets less with each thing that it asks for.
  induction acc_leftOf action generalizing t with
  | intro action _ ih =>
    have busy : t.state.actions ≠ [] := by simp [listed]
    have goes : LeadsTo machine script delay t (t.goOn script delay) :=
      (LeadsTo.refl t).move ⟨.goOn busy, nofun⟩
    cases left : action t.view with
    | done =>
      simp only [goOn, listed, left] at goes
      exact ⟨_, goes, rfl, rfl, .refl _⟩
    | ask request next =>
      simp only [goOn, listed, left] at goes
      obtain ⟨same, clock, asleep⟩ :=
        answer_of_pos script positive (t.modify ({ · with actions := next :: rest })) request
      obtain ⟨later, leads, done, still, fewer⟩ := ih next ⟨_, _, left⟩ same
      exact ⟨later, goes.trans leads, done, still.trans clock, fewer.trans asleep⟩

/-- With a delay, all actions that are being done are done after a while. -/
theorem exists_idle (positive : 0 < delay) (t : ReentrantTimeline α τ σ ρ) :
    ∃ later, LeadsTo machine script delay t later ∧ later.state.actions = [] ∧
      later.clock = t.clock ∧ later.sleeping.Sublist t.sleeping := by
  generalize listed : t.state.actions = actions
  -- The induction is on the actions that are being done, the last of which is done first.
  induction actions generalizing t with
  | nil => exact ⟨t, .refl t, listed, rfl, .refl _⟩
  | cons action rest ih =>
    obtain ⟨next, leads, left, clock, fewer⟩ := exists_rest positive action listed
    obtain ⟨later, goes, idle, still, least⟩ := ih next left
    exact ⟨later, leads.trans goes, idle, still.trans clock, least.trans fewer⟩

/-- How many delayed actions sleep of which the delay is over now. -/
def overdue (t : ReentrantTimeline α τ σ ρ) : Nat :=
  (t.sleeping.filter fun sleeper => sleeper.2.task?.isSome && sleeper.1 ≤ t.clock).length

/-- No more are overdue where fewer sleep. -/
theorem overdue_le_of_sublist (still : later.clock = t.clock) (fewer : later.sleeping.Sublist t.sleeping) :
    later.overdue ≤ t.overdue := by
  rw [overdue, overdue, still]
  exact (fewer.filter _).length_le

/-- A turn begins the action that was overdue, or it begins none and makes none overdue. -/
theorem overdue_takes {turn : Turn (Work α τ) (Work α σ)}
    (taken : t.Takes (machine.besideActions.debounced (.begin script)) turn next)
    (still : next.clock = t.clock) (timed : ∀ entry ∈ DebouncedTimeline.pending t, 0 < entry.delay) :
    next.overdue < t.overdue ∨
      (next.overdue ≤ t.overdue ∧ next.state.actions = t.state.actions) := by
  have state := taken.state_eq
  cases taken.shifts with
  | @start before job after queued clock ready sleeping =>
    refine .inr ⟨?_, ?_⟩
    · cases job with
      | delayed task =>
        -- The delay has only begun.
        have later : 0 < task.delay := timed task.toDelayed (by
          simp [DebouncedTimeline.pending, tasksOf, queued])
        simp [overdue, sleeping, still, DebouncedMachine.start, Nat.ne_of_gt later]
      | other job =>
        cases asleep : (machine.besideActions.start t.clock job t.state).2 <;>
          simp [overdue, sleeping, still, DebouncedMachine.start, Machine.debounced, asleep]
    · rw [state]
      cases job <;> rfl
  | @wake before moment sleeper after now asleep due later clock ready sleeping =>
    obtain rfl : now = t.clock := clock.symm.trans still
    -- A task that wakes is one overdue task less; its action may be long.
    cases sleeper with
    | delayed task =>
      refine .inl ?_
      simp [overdue, sleeping, asleep, still, DebouncedMachine.wake, due]
    | other sleeper =>
      refine .inr ⟨?_, by rw [state]; rfl⟩
      cases again : (machine.besideActions.wake t.clock sleeper t.state).2 <;>
        simp [overdue, sleeping, asleep, still, DebouncedMachine.wake, Machine.debounced, again]
  | pass later ready sleeping =>
    exact .inr ⟨by simp [overdue, sleeping, still], by rw [state]; rfl⟩

/-- When no action is being done, all that is left to do at the moment of the clock is done after a
while. -/
theorem exists_settled (fresh : first.count = 0) (positive : 0 < delay)
    {t : ReentrantTimeline α τ σ ρ} {history : List (Occurrence α)}
    (ran : Run (Moves machine script delay) (occurrences delay) [] first history t)
    (idle : t.state.actions = []) :
    ∃ later, LeadsTo machine script delay t later ∧ later.state.actions = [] ∧
      later.clock = t.clock ∧ later.IsSettled := by
  -- By induction on the work that is due at once, since a turn that does not pass time uses some of it.
  cases stepped : t.held.step (machine.besideActions.debounced (.begin script)).onHeld (some t.clock) with
  | none =>
    have settled := Timeline.after_of_step_eq_none stepped
    exact ⟨t, .refl t, idle, rfl, settled⟩
  | some held =>
    obtain ⟨taken, bounded⟩ := Timeline.takes_of_step stepped
    have turned := DebouncedTimeline.takes_ofHeld taken
    have still := Nat.le_antisymm (bounded t.clock rfl (Nat.le_refl _)) turned.clock_le
    have patient := Timeline.passesNobody_of_step stepped
    have moved : LeadsTo machine script delay t _ :=
      (LeadsTo.refl t).move ⟨.turn turned patient idle, nofun⟩
    have timed : ∀ entry ∈ DebouncedTimeline.pending t, 0 < entry.delay := by
      intro entry member
      obtain ⟨-, -, same⟩ :=
        ((DebouncedTimeline.isDebounced_run fresh (run_debounced ran)).waits entry).mp member
      exact same ▸ positive
    rcases overdue_takes turned still timed with fewer | ⟨most, unbegun⟩
    · -- The action that was overdue is begun, and it is done after a while.
      obtain ⟨next, leads, done, clock, least⟩ := exists_idle positive _
      have nomore := overdue_le_of_sublist clock least
      obtain ⟨runs, further⟩ := (moved.trans leads).exists_run ran
      obtain ⟨later, goes, rest, stands, settled⟩ := exists_settled fresh positive further done
      exact ⟨later, (moved.trans leads).trans goes, rest, stands.trans (clock.trans still), settled⟩
    · obtain ⟨runs, further⟩ := moved.exists_run ran
      obtain ⟨later, goes, rest, stands, settled⟩ :=
        exists_settled fresh positive further (unbegun.trans idle)
      exact ⟨later, moved.trans goes, rest, stands.trans still, settled⟩
termination_by (t.overdue, t.ready.length,
  t.held.awakenings (machine.besideActions.debounced (.begin script)).onHeld)
decreasing_by
  · exact .left _ _ (Nat.lt_of_le_of_lt nomore fewer)
  · -- No more actions are overdue, and a job or an awakening is used up.
    have used := Timeline.step_decreases stepped
    rcases Nat.lt_or_eq_of_le most with fewer | same
    · exact .left _ _ fewer
    · rw [same]
      refine .right _ ?_
      rcases used with fewer | ⟨same, fewer⟩
      · exact .left _ _ fewer
      · exact same ▸ .right _ fewer

/-- With a delay any time can pass, with everything that is due on the way and at the end. -/
theorem exists_advanced (fresh : first.count = 0) (positive : 0 < delay)
    (ran : Run (Moves machine script delay) (occurrences delay) [] first history t) (milliseconds : Nat) :
    ∃ later, LeadsTo machine script delay t later ∧ later.state.actions = [] ∧
      later.clock = t.clock + milliseconds ∧ later.IsSettled := by
  induction milliseconds with
  | zero =>
    -- Whatever is being done comes first, then what is left to do now.
    obtain ⟨next, leads, idle, clock, -⟩ := exists_idle positive t
    obtain ⟨runs, further⟩ := leads.exists_run ran
    obtain ⟨later, goes, rest, still, settled⟩ := exists_settled fresh positive further idle
    exact ⟨later, leads.trans goes, rest, still.trans clock, settled⟩
  | succ milliseconds ih =>
    obtain ⟨next, leads, idle, clock, queue, asleep⟩ := ih
    -- Nobody wakes before the next millisecond, to which the clock can be put.
    have passed : next.Takes (machine.besideActions.debounced (.begin script)) .pass
        (.ofHeld next.issued { next.held with clock := next.clock + 1 } next.agree) :=
      ⟨.pass (Nat.le_succ _), rfl⟩
    have moved : LeadsTo machine script delay t _ :=
      leads.move ⟨.turn passed (fun _ => ⟨queue, asleep⟩) idle, nofun⟩
    obtain ⟨runs, further⟩ := moved.exists_run ran
    obtain ⟨later, goes, rest, still, settled⟩ := exists_settled fresh positive further idle
    exact ⟨later, moved.trans goes, rest, still.trans (congrArg (· + 1) clock), settled⟩

/-! ## Exactness of delays -/

/-- Whatever is asked for and cancelled while time passes, from outside or by the actions themselves,
exactly the actions that are not given up are done, each of them once and when its delay is over. -/
theorem debounced_run (fresh : first.count = 0)
    (ran : Run (Moves machine script delay) (occurrences delay) [] first history t) :
    DebouncedTimeline.IsDebounced delay history t ∧
    -- What is noted as done has been begun in that move, and what is not noted has not.
    (∀ move next, Moves machine script delay t move next → next.state =
      DebouncedTimeline.afterDone (.begin script) (occurrences delay t move) (besides machine t move)) ∧
    -- However long it goes on without being asked for more, nothing keeps actions from being done.
    (0 < delay → ∀ milliseconds, ∃ later, LeadsTo machine script delay t later ∧
      later.state.actions = [] ∧ later.clock = t.clock + milliseconds ∧ later.IsSettled) :=
  ⟨DebouncedTimeline.isDebounced_run fresh (run_debounced ran), fun _ _ moved => state_moves moved,
    fun positive => exists_advanced fresh positive ran⟩

/-- What happens next in the order of the timeline: the action that was begun last goes on, else the next
turn comes. -/
def proceed (machine : Machine τ σ ρ) (script : α → View ρ → Script α τ ρ) (delay : Nat)
    (t : ReentrantTimeline α τ σ ρ) : ReentrantTimeline α τ σ ρ :=
  -- An action is done to its end before anybody else has a turn.
  match t.state.actions with
  | [] => (t.step (machine.besideActions.debounced (.begin script)) none).getD t
  | _ :: _ => t.goOn script delay

/-- A timeline leads to what happens next in its order. -/
theorem leadsTo_proceed (machine : Machine τ σ ρ) (script : α → View ρ → Script α τ ρ) (delay : Nat)
    (t : ReentrantTimeline α τ σ ρ) : LeadsTo machine script delay t (t.proceed machine script delay) := by
  unfold proceed
  -- A turn is taken when no action is being done, and otherwise the action goes on.
  split
  next idle =>
    cases stepped : t.step (machine.besideActions.debounced (.begin script)) none with
    | none => exact .refl t
    | some next =>
      obtain ⟨taken, patient⟩ := DebouncedTimeline.takes_of_step stepped
      exact (LeadsTo.refl t).move ⟨.turn taken patient idle, nofun⟩
  next busy => exact (LeadsTo.refl t).move ⟨.goOn (by simp [busy]), nofun⟩

/-- Actions that add their number to a list; the first one asks for another one under its own key. -/
def sampleScript (number : Nat) (_ : View (List Nat)) : Script Nat Empty (List Nat) :=
  .ask (.change (· ++ [number])) fun view =>
    if view.state.length = 1 then .ask (.call "order" (number + 1)) fun _ => .done else .done

/-- A timeline on which an action was asked for. -/
def sampleAsked : ReentrantTimeline Nat Empty Empty (List Nat) :=
  ReentrantTimeline.answer sampleScript 1000 (.ofState ⟨[], []⟩) (.call "order" 0)

/-- The sample when the action has been done that asks for another one, and the other one as well. -/
def sampleDone : ReentrantTimeline Nat Empty Empty (List Nat) :=
  (List.range 9).foldl (fun t _ => t.proceed (.idle _) sampleScript 1000) sampleAsked

/-- In the sample both actions were done, each of them a second after it was asked for. -/
theorem debounced_sample :
    sampleDone.state.state = [0, 1] ∧ sampleDone.clock = 2000 ∧
    ∃ history, DebouncedTimeline.IsDebounced 1000 history sampleDone := by
  -- The steps of the sample are followed one by one.
  have leads : LeadsTo (.idle _) sampleScript 1000 sampleAsked sampleDone :=
    List.foldlRecOn _ _ (.refl _) fun t before number _ => before.trans (leadsTo_proceed _ _ _ t)
  have asked : Run (Moves (.idle _) sampleScript 1000) (occurrences 1000) [] (.ofState ⟨[], []⟩) _ sampleAsked :=
    Run.start.move (.ask (.call "order" 0) rfl)
  -- The history is found by the general statement, and the state by running the sample.
  obtain ⟨runs, ran⟩ := leads.exists_run asked
  exact ⟨by decide +kernel, by decide +kernel, _, (debounced_run rfl ran).1⟩

end ReentrantTimeline

end FormatPipeline.Schedule
