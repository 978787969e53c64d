import FormatPipeline.Schedule.Debounce

/-! Delayed actions that ask for actions themselves while they are done. -/

namespace FormatPipeline.Schedule

/-- Something that is asked for, from outside or by an action. -/
inductive Request (α τ ρ : Type) where
  | change (change : ρ → ρ)
  | call (key : String) (action : α)
  | cancel
  /-- Other work is asked for. -/
  | spawn (job : τ)

/-- What an action can look at while it is done. -/
structure View (ρ : Type) where
  state : ρ
  clock : Nat
  /-- How many actions wait. -/
  count : Nat

/-- What is left of an action: it asks for one thing after the other, and each time looks around. -/
inductive Script (α τ ρ : Type) where
  | done
  | ask (request : Request α τ ρ) (next : View ρ → Script α τ ρ)

/-- A state beside the actions that are being done; each of them was begun by the next one. -/
structure Running (α τ ρ : Type) where
  actions : List (View ρ → Script α τ ρ)
  state : ρ

variable {α τ σ ρ : Type}

namespace Running

/-- Changes the state beside the actions. -/
def change (running : Running α τ ρ) (f : ρ → ρ) : Running α τ ρ :=
  { running with state := f running.state }

/-- Begins an action; the one that asked for it goes on when it is done. -/
def begin (script : α → View ρ → Script α τ ρ) (action : α) (running : Running α τ ρ) :
    Running α τ ρ :=
  { running with actions := script action :: running.actions }

end Running

/-- A machine for other work beside actions that are being done. -/
def Machine.besideActions (machine : Machine τ σ ρ) : Machine τ σ (Running α τ ρ) where
  start now job running :=
    let (state, sleeper) := machine.start now job running.state
    ({ running with state := state }, sleeper)
  wake now sleeper running :=
    let (state, next) := machine.wake now sleeper running.state
    ({ running with state := state }, next)
  weight := machine.weight
  weight_wake := machine.weight_wake

/-- A timeline on which delayed actions can ask for others. -/
abbrev ReentrantTimeline (α τ σ ρ : Type) := DebouncedTimeline α τ σ (Running α τ ρ)

namespace ReentrantTimeline

/-- What an action can look at now. -/
def view (t : ReentrantTimeline α τ σ ρ) : View ρ := ⟨t.state.state, t.clock, t.count⟩

variable (script : α → View ρ → Script α τ ρ) (delay : Nat)

/-- Does what is asked for. -/
def answer (t : ReentrantTimeline α τ σ ρ) : Request α τ ρ → ReentrantTimeline α τ σ ρ
  | .change change => t.modify (·.change change)
  | .call key action => DebouncedTimeline.call (.begin script) delay key action t
  | .cancel => DebouncedTimeline.cancelAll t
  | .spawn job => DebouncedTimeline.spawn t job

/-- Lets the action that was begun last go on: it asks for one more thing, or it is done. -/
def goOn (t : ReentrantTimeline α τ σ ρ) : ReentrantTimeline α τ σ ρ :=
  match t.state.actions with
  | [] => t
  | action :: rest =>
    match action t.view with
    | .done => t.modify ({ · with actions := rest })
    | .ask request next => answer script delay (t.modify ({ · with actions := next :: rest })) request

end ReentrantTimeline

end FormatPipeline.Schedule
