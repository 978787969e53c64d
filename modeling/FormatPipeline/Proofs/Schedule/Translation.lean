import FormatPipeline.Proofs.Schedule.Debounced

/-! Timelines that go the same way with other states and sleepers. -/

namespace FormatPipeline.Schedule

variable {α τ σ σ' ρ ρ' : Type}

/-- What follows from a turn, with the state and a sleeper translated. -/
def translated (asleep : σ → σ') (state : ρ → ρ') (outcome : ρ × Option (Nat × σ)) :
    ρ' × Option (Nat × σ') :=
  (state outcome.1, outcome.2.map fun (delay, sleeper) => (delay, asleep sleeper))

/-- Whether a machine does with translated states and sleepers what another one does with theirs. -/
structure Machine.Translates (machine : Machine τ σ ρ) (other : Machine τ σ' ρ') (asleep : σ → σ')
    (state : ρ → ρ') : Prop where
  start : ∀ now job s, other.start now job (state s) = translated asleep state (machine.start now job s)
  wake : ∀ now sleeper s,
    other.wake now (asleep sleeper) (state s) = translated asleep state (machine.wake now sleeper s)
  weight : ∀ sleeper, other.weight (asleep sleeper) = machine.weight sleeper

/-- Translates what is not a delayed action. -/
def Work.translate (asleep : σ → σ') : Work α σ → Work α σ'
  | delayed task => delayed task
  | other work => other (asleep work)

/-- Tasks stay as they are when other work is translated. -/
@[simp] theorem Work.task?_translate (asleep : σ → σ') (work : Work α σ) :
    (work.translate asleep).task? = work.task? := by
  cases work <;> rfl

/-- Work stays as it is when nothing is changed in what is not a delayed action. -/
theorem Work.translate_id (work : Work α σ) : work.translate id = work := by
  cases work <;> rfl

/-- Translates a state and leaves the handles as they are. -/
def Held.map (f : ρ → ρ') (held : Held ρ) : Held ρ' := ⟨held.handles, f held.state⟩

/-- With delayed actions a machine still does what another one does, if the actions do. -/
theorem Machine.Translates.debounced {machine : Machine τ σ ρ} {other : Machine τ σ' ρ'}
    {asleep : σ → σ'} {state : ρ → ρ'} (follows : machine.Translates other asleep state)
    {act : α → ρ → ρ} {act' : α → ρ' → ρ'} (acts : ∀ action s, act' action (state s) = state (act action s)) :
    (machine.debounced act).onHeld.Translates (other.debounced act').onHeld (Work.translate asleep)
      (Held.map state) where
  start now job held := by
    -- A delayed action goes to sleep as it is, and other jobs start as the machines do.
    cases job with
    | delayed task => rfl
    | other job =>
      simp only [DebouncedMachine.onHeld, DebouncedMachine.start, Machine.debounced, Held.map,
        follows.start, translated, Option.map_map]
      rfl
  wake now sleeper held := by
    -- A task that wakes is released alike, and then its action is done on both sides.
    cases sleeper with
    | delayed task =>
      exact congrArg (fun later => ((⟨held.handles.remove task.key, later⟩ : Held ρ'), none))
        (acts task.action held.state)
    | other sleeper =>
      simp only [DebouncedMachine.onHeld, DebouncedMachine.wake, DebouncedMachine.released,
        Machine.debounced, Held.map, Work.translate, follows.wake, translated, Option.map_map]
      rfl
  weight sleeper := by
    cases sleeper with
    | delayed task => rfl
    | other sleeper => exact follows.weight sleeper

/-- The earliest of translated sleepers is the earliest of the sleepers. -/
theorem earliest?_map (asleep : σ → σ') (sleeping : List (Nat × σ)) :
    earliest? (sleeping.map fun (moment, sleeper) => (moment, asleep sleeper)) =
      (earliest? sleeping).map fun (first, others) => ((first.1, asleep first.2),
        others.map fun (moment, sleeper) => (moment, asleep sleeper)) := by
  -- Moments are not translated, so that the same sleeper comes first.
  induction sleeping with
  | nil => rfl
  | cons entry rest ih =>
    simp only [List.map_cons, earliest?, ih]
    cases earliest? rest with
    | none => rfl
    | some found =>
      simp only [Option.map_some]
      split <;> rfl

namespace Timeline

/-- The timeline with its state and its sleepers translated. -/
def translate (asleep : σ → σ') (state : ρ → ρ') (t : Timeline τ σ ρ) : Timeline τ σ' ρ' :=
  ⟨t.clock, t.ready, t.sleeping.map fun (moment, sleeper) => (moment, asleep sleeper), state t.state⟩

variable {asleep : σ → σ'} {state : ρ → ρ'}

/-- What a turn leads to is translated with the timeline. -/
theorem settle_translate (t : Timeline τ σ ρ) (outcome : ρ × Option (Nat × σ)) :
    (t.translate asleep state).settle (translated asleep state outcome) =
      (t.settle outcome).translate asleep state := by
  obtain ⟨later, none | ⟨delay, sleeper⟩⟩ := outcome
  · rfl
  · simp [settle, translated, translate]

variable {machine : Machine τ σ ρ} {other : Machine τ σ' ρ'} {limit : Option Nat}

/-- Translated sleepers wake up as often. -/
theorem weightOf_map (follows : machine.Translates other asleep state) (sleeping : List (Nat × σ)) :
    weightOf other (sleeping.map fun (moment, sleeper) => (moment, asleep sleeper)) =
      weightOf machine sleeping := by
  induction sleeping with
  | nil => rfl
  | cons entry rest ih => simp only [List.map_cons, weightOf, follows.weight, ih]

/-- A step of the translated timeline is the translated step. -/
theorem step_translate (follows : machine.Translates other asleep state) (t : Timeline τ σ ρ) :
    (t.translate asleep state).step other limit =
      (t.step machine limit).map (translate asleep state) := by
  obtain ⟨clock, ready, sleeping, s⟩ := t
  -- The queue comes first on both sides, and after it the earliest sleeper.
  cases ready with
  | cons job rest =>
    simp only [step, translate, Option.map_some, follows.start]
    exact congrArg some (settle_translate ⟨clock, rest, sleeping, s⟩ _)
  | nil =>
    simp only [step, translate, earliest?_map]
    cases earliest? sleeping with
    | none => rfl
    | some found =>
      obtain ⟨⟨moment, sleeper⟩, others⟩ := found
      simp only [Option.map_some, follows.wake]
      split
      · rfl
      · exact congrArg some (settle_translate ⟨max clock moment, [], others, s⟩ _)

variable {continues : ρ → Bool} {continues' : ρ' → Bool}

/-- As many steps of the translated timeline are the translated steps. -/
theorem runFor_translate (follows : machine.Translates other asleep state)
    (goesOn : ∀ s, continues' (state s) = continues s) (steps : Nat) (t : Timeline τ σ ρ) :
    (t.translate asleep state).runFor other limit continues' steps =
      (t.runFor machine limit continues steps).translate asleep state := by
  -- The induction is on the number of steps, and the translated state asks for the same.
  induction steps generalizing t with
  | zero => rfl
  | succ steps ih =>
    have asked : continues' (t.translate asleep state).state = continues t.state := goesOn t.state
    simp only [runFor, asked, step_translate follows]
    split
    · cases t.step machine limit with
      | none => rfl
      | some next => exact ih next
    · rfl

/-- A run of the translated timeline is the translated run. -/
theorem run_translate (follows : machine.Translates other asleep state)
    (goesOn : ∀ s, continues' (state s) = continues s) (t : Timeline τ σ ρ) :
    (t.translate asleep state).run other limit continues' =
      (t.run machine limit continues).translate asleep state := by
  have jobs : (t.translate asleep state).ready = t.ready := rfl
  -- The number of steps that are made beforehand is the same, as weights are.
  have count : ((t.runFor machine limit continues t.ready.length).translate asleep state).awakenings other =
      (t.runFor machine limit continues t.ready.length).awakenings machine := weightOf_map follows _
  simp only [run, runFor_translate follows goesOn]
  rw [jobs, count]

/-- Time passes for the translated timeline as for the other one. -/
theorem advance_translate (follows : machine.Translates other asleep state) (milliseconds : Nat)
    (t : Timeline τ σ ρ) : (t.translate asleep state).advance other milliseconds =
      (t.advance machine milliseconds).translate asleep state := by
  have ran : (t.translate asleep state).run other (some (t.clock + milliseconds)) (fun _ => true) = _ :=
    run_translate follows (fun _ => rfl) t
  exact congrArg (fun later : Timeline τ σ' ρ' => { later with clock := t.clock + milliseconds }) ran

end Timeline

namespace DebouncedTimeline

variable {asleep : σ → σ'} {state : ρ → ρ'}

/-- Translated sleepers hold the same tasks. -/
theorem tasksOf_translate (asleep : σ → σ') (ready : List (Work α τ)) (sleeping : List (Nat × Work α σ)) :
    tasksOf ready (sleeping.map fun (moment, sleeper) => (moment, Work.translate asleep sleeper)) =
      tasksOf ready sleeping := by
  -- What holds no task is all that the translation changes.
  have same : (fun sleeper => sleeper.2.task?) ∘
      (fun (moment, sleeper) => (moment, Work.translate asleep sleeper)) =
        fun sleeper : Nat × Work α σ => sleeper.2.task? :=
    funext fun sleeper => Work.task?_translate asleep sleeper.2
  rw [tasksOf, List.filterMap_map, same, tasksOf]

/-- The timeline with its state and its other sleepers translated. -/
def translate (asleep : σ → σ') (state : ρ → ρ') (t : DebouncedTimeline α τ σ ρ) :
    DebouncedTimeline α τ σ' ρ' where
  toTimeline := t.toTimeline.translate (Work.translate asleep) state
  handles := t.handles
  issued := t.issued
  agree := tasksOf_translate asleep t.ready t.sleeping ▸ t.agree

/-- Aborting tasks of the translated timeline is the same as of the other one. -/
theorem abort_translate (numbers : List Nat) (t : Timeline (Work α τ) (Work α σ) ρ) :
    (t.translate (Work.translate asleep) state).abort numbers =
      (t.abort numbers).translate (Work.translate asleep) state := by
  simp [Timeline.abort, Timeline.translate, List.filter_map, Function.comp_def, Work.isNumbered]

/-- Giving up a key's action on the translated timeline is the same as on the other one. -/
theorem giveUp_translate (key : String) (t : DebouncedTimeline α τ σ ρ) :
    (t.translate asleep state).giveUp key = (t.giveUp key).translate asleep state := by
  simp only [giveUp, translate, abort_translate]

/-- Cancelling everything on the translated timeline is the same as on the other one. -/
theorem cancelAll_translate (t : DebouncedTimeline α τ σ ρ) :
    cancelAll (t.translate asleep state) = (cancelAll t).translate asleep state := by
  simp only [cancelAll, translate, abort_translate]

/-- What changes the translated state as the other one changes the translated timeline so. -/
theorem modify_translate {f : ρ → ρ} {g : ρ' → ρ'} (t : DebouncedTimeline α τ σ ρ)
    (same : g (state t.state) = state (f t.state)) :
    (t.translate asleep state).modify g = (t.modify f).translate asleep state :=
  congrArg (fun later => (t.translate asleep state).modify fun _ => later) same

/-- Asking for an action of the translated timeline is the same as of the other one. -/
theorem call_translate {act : α → ρ → ρ} {act' : α → ρ' → ρ'}
    (acts : ∀ action s, act' action (state s) = state (act action s)) (delay : Nat) (key : String)
    (action : α) (t : DebouncedTimeline α τ σ ρ) :
    call act' delay key action (t.translate asleep state) =
      (call act delay key action t).translate asleep state := by
  unfold call
  -- The earlier action is given up alike, whether the new one is done at once or waits.
  split
  · rw [giveUp_translate]
    exact modify_translate _ (acts action _)
  · simp only [giveUp_translate]
    rfl

variable {machine : DebouncedMachine α τ σ ρ} {other : DebouncedMachine α τ σ' ρ'}

/-- A number of steps of the translated timeline are the translated steps. -/
theorem runFor_translate
    (follows : machine.onHeld.Translates other.onHeld (Work.translate asleep) (Held.map state))
    {continues : ρ → Bool} {continues' : ρ' → Bool} (goesOn : ∀ s, continues' (state s) = continues s)
    (limit : Option Nat) (steps : Nat) (t : DebouncedTimeline α τ σ ρ) :
    (t.translate asleep state).runFor other limit continues' steps =
      (t.runFor machine limit continues steps).translate asleep state :=
  ext_held (Timeline.runFor_translate follows (fun held => goesOn held.state) steps t.held) rfl

/-- Time passes for the translated timeline as for the other one. -/
theorem advance_translate
    (follows : machine.onHeld.Translates other.onHeld (Work.translate asleep) (Held.map state))
    (milliseconds : Nat) (t : DebouncedTimeline α τ σ ρ) :
    (t.translate asleep state).advance other milliseconds =
      (t.advance machine milliseconds).translate asleep state :=
  ext_held (Timeline.advance_translate follows milliseconds t.held) rfl

/-- A run of the translated timeline is the translated run. -/
theorem run_translate
    (follows : machine.onHeld.Translates other.onHeld (Work.translate asleep) (Held.map state))
    {continues : ρ → Bool} {continues' : ρ' → Bool} (goesOn : ∀ s, continues' (state s) = continues s)
    (limit : Option Nat) (t : DebouncedTimeline α τ σ ρ) :
    (t.translate asleep state).run other limit continues' =
      (t.run machine limit continues).translate asleep state :=
  ext_held (Timeline.run_translate follows (fun held => goesOn held.state) t.held) rfl

/-- The translated timeline waits for the same as the other one. -/
theorem await_translate
    (follows : machine.onHeld.Translates other.onHeld (Work.translate asleep) (Held.map state))
    {isThere : ρ → Bool} {isThere' : ρ' → Bool} (same : ∀ s, isThere' (state s) = isThere s)
    (t : DebouncedTimeline α τ σ ρ) :
    (t.translate asleep state).await other isThere' =
      (t.await machine isThere).translate asleep state := by
  -- The run is translated first, and then what is due at its end.
  rw [await, run_translate follows (fun s => congrArg (!·) (same s)), advance_translate follows]
  rfl

end DebouncedTimeline

end FormatPipeline.Schedule
