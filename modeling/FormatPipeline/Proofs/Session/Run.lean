import FormatPipeline.Proofs.Run
import FormatPipeline.Proofs.Schedule.Debounced
import FormatPipeline.Proofs.Workspace.Errands
import FormatPipeline.Proofs.Workspace.Settling

/-! Runs of a session: calls from outside and turns of waiting work, in any order. -/

namespace FormatPipeline

namespace Session

open Schedule (DebouncedTimeline Turn Work)

variable {ω : Type} [World ω]

/-- What can be asked of a session from outside before it is shut down. -/
inductive Call (ω : Type) where
  | set (key : String) (value : Json.Value)
  | toggle (key : String)
  | command (name : String)
  | saved (document : Handle)
  /-- Formatters are run on a document one after another. -/
  | chain (document : Handle) (names : List String) (mode : Mode)
  /-- One formatter is run on a document. -/
  | single (formatter : String) (document : Handle) (mode : Mode)
  | openDocument (document : Document)
  | edit (document : Handle) (text : String) (cursor : Option Position)
  | closeDocument (id : Nat)
  | changeScope (document : Handle) (inScope : Bool)
  | activate (id : Option Nat)
  /-- Something else changes the world. -/
  | world (change : ω → ω)

/-- The session after a call. -/
def answer (s : Session ω) : Call ω → Session ω
  | .set key value => s.set key value
  | .toggle key => s.toggle key
  | .command name => (s.command name).1
  | .saved document => (s.documentSaved document).1
  | .chain document names mode => (s.spawn (.chain · document names mode)).1
  | .single formatter document mode => (s.spawn (.single · formatter document mode)).1
  | .openDocument document => s.openDocument document
  | .edit document text cursor => s.changeDocument document (·.edited text cursor)
  | .closeDocument id => s.closeDocument id
  | .changeScope document inScope => s.changeScope document inScope
  | .activate id => (s.activateDocument id).1
  | .world change => s.modify fun w => { w with world := change w.world }

/-- A move of a session: a call, or a turn of its waiting work. -/
inductive Move (ω : Type) where
  | call (call : Call ω)
  | turn (turn : Turn (Work Update Errand) (Work Update Sleeper))

/-- A move leads from one session to another. -/
inductive Moves : Session ω → Move ω → Session ω → Prop
  | call {s : Session ω} (call : Call ω) : Moves s (.call call) (s.answer call)
  | turn {s next : Session ω} {turn : Turn (Work Update Errand) (Work Update Sleeper)}
      (taken : DebouncedTimeline.Takes machine s turn next) : Moves s (.turn turn) next

/-- Waiting is a number of moves if turns are. -/
theorem run_wait {ν : Type} {moves : Session ω → Move ω → Session ω → Prop}
    {notes : Session ω → Move ω → List ν} {first history : List ν} {start s : Session ω}
    (turns : ∀ {s next turn}, DebouncedTimeline.Takes machine s turn next → moves s (.turn turn) next)
    (before : Run moves notes first start history s) (milliseconds : Nat) :
    ∃ later, Run moves notes first start (history ++ later) (s.wait milliseconds) := by
  -- Time passes by turns, and each turn is a move.
  refine DebouncedTimeline.advance_keeps (fun s => ∃ later, Run moves notes first start
    (history ++ later) s) ?_ ⟨[], by simpa using before⟩ milliseconds
  rintro t turn next ⟨later, ran⟩ taken
  exact ⟨_, List.append_assoc .. ▸ ran.move (turns taken)⟩

/-- What is done in a turn. -/
def turnDeeds (s : Session ω) : Turn (Work Update Errand) (Work Update Sleeper) → List Deed
  | .start (.other errand) => Workspace.errandDeeds s.clock errand s.state
  | .wake now (.other sleeper) => Workspace.wakeDeeds now sleeper s.state
  | .start (.delayed _) | .wake _ (.delayed _) | .pass => []

/-- Unless a delayed update takes effect, what is done in a turn is all that it does. -/
theorem effect_takes {s next : Session ω} {turn : Turn (Work Update Errand) (Work Update Sleeper)}
    (taken : DebouncedTimeline.Takes machine s turn next)
    (other : ∀ now entry, turn ≠ .wake now (.delayed entry)) :
    s.state.Effect (s.turnDeeds turn) next.state := by
  -- The state follows from the work whose turn it was.
  rw [taken.state_eq]
  rcases turn with (task | errand) | ⟨now, task | sleeper⟩ | _
  · exact .refl _
  · exact Workspace.effect_startErrand s.clock errand s.state
  · exact absurd rfl (other now task)
  · exact Workspace.effect_wakeSleeper now sleeper s.state
  · exact .refl _

end Session

end FormatPipeline
