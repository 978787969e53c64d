/-! Runs: any number of moves in a row, with what is noted of each. -/

namespace FormatPipeline

/-- A state after any number of moves, with everything that was noted on the way. -/
inductive Run {σ μ ν : Type} (moves : σ → μ → σ → Prop) (notes : σ → μ → List ν) (first : List ν)
    (start : σ) : List ν → σ → Prop
  | start : Run moves notes first start first start
  | move {history : List ν} {state next : σ} {move : μ} (before : Run moves notes first start history state)
      (moved : moves state move next) : Run moves notes first start (history ++ notes state move) next

namespace Run

variable {σ μ ν : Type} {moves other : σ → μ → σ → Prop} {notes : σ → μ → List ν}
  {first history whole : List ν} {start state later : σ}

/-- A run from the end of another one goes on with it. -/
theorem trans (before : Run moves notes first start history state)
    (after : Run moves notes history state whole later) : Run moves notes first start whole later := by
  induction after with
  | start => exact before
  | move _ moved ih => exact ih.move moved

/-- A run stays one if more moves are allowed. -/
theorem mono (allowed : ∀ {state move next}, moves state move next → other state move next)
    (ran : Run moves notes first start history state) : Run other notes first start history state := by
  induction ran with
  | start => exact .start
  | move _ moved ih => exact ih.move (allowed moved)

/-- A run in which something else is noted of the same moves. -/
theorem flatMap {κ : Type} {others : σ → μ → List κ} (f : ν → List κ)
    (same : ∀ state move, others state move = (notes state move).flatMap f)
    (ran : Run moves notes first start history state) :
    Run moves others (first.flatMap f) start (history.flatMap f) state := by
  -- By induction on the run; the last move is translated by `same`, the earlier ones by `ih`.
  induction ran with
  | start => exact .start
  | @move _ state _ move _ moved ih =>
    rw [List.flatMap_append, ← same state move]
    exact ih.move moved

/-- A run in which less is noted of the same moves. -/
theorem map {κ : Type} {others : σ → μ → List κ} (f : ν → κ)
    (same : ∀ state move, others state move = (notes state move).map f)
    (ran : Run moves notes first start history state) :
    Run moves others (first.map f) start (history.map f) state := by
  simp only [List.map_eq_flatMap] at same ⊢
  exact ran.flatMap _ same

end Run

end FormatPipeline
