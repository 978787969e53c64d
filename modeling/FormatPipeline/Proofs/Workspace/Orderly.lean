import FormatPipeline.Proofs.Workspace.Progress
import FormatPipeline.Proofs.Workspace.Settling

/-! Pieces of work side by side: each is as far as its deeds have led, and all that runs is shown. -/

namespace FormatPipeline

/-- What one piece of work did, in its order. -/
def deedsOf (number : Nat) (history : List (Nat × Deed)) : List Deed :=
  (history.filter (·.1 == number)).map (·.2)

/-- What was done later comes behind. -/
theorem deedsOf_append (number : Nat) (history later : List (Nat × Deed)) :
    deedsOf number (history ++ later) = deedsOf number history ++ deedsOf number later := by
  simp [deedsOf]

/-- The deeds of one piece of work are its own. -/
theorem deedsOf_map_self (number : Nat) (deeds : List Deed) :
    deedsOf number (deeds.map (number, ·)) = deeds := by
  simp [deedsOf, List.filter_map, Function.comp_def]

/-- The deeds of one piece of work are those of no other one. -/
theorem deedsOf_map_of_ne {number other : Nat} (different : other ≠ number) (deeds : List Deed) :
    deedsOf number (deeds.map (other, ·)) = [] := by
  simp [deedsOf, List.filter_map, Function.comp_def, different]

/-- Further deeds of one piece of work come behind its own, and leave those of others. -/
theorem deedsOf_append_map (number : Nat) (history : List (Nat × Deed)) (deeds : List Deed) :
    deedsOf number (history ++ deeds.map (number, ·)) = deedsOf number history ++ deeds ∧
      ∀ other, other ≠ number →
        deedsOf other (history ++ deeds.map (number, ·)) = deedsOf other history := by
  refine ⟨by rw [deedsOf_append, deedsOf_map_self], fun other different => ?_⟩
  rw [deedsOf_append, deedsOf_map_of_ne (Ne.symm different), List.append_nil]

namespace Workspace

variable {ω : Type}

/-! ## Pieces of work side by side -/

/-- All work that was asked for waits as it should, or is complete. -/
structure Orderly (pieces : List Piece) (history : List (Nat × Deed)) (w : Workspace ω) : Prop where
  labels : w.busy.labels.Perm (pieces.flatMap Piece.labels)
  different : (pieces.map Piece.number).Nodup
  issued : ∀ piece ∈ pieces, piece.number < w.numbered
  waits : ∀ piece ∈ pieces, w.result? piece.number = none ∧
    Progress 0 false (deedsOf piece.number history) piece.known piece.running
  completes : ∀ number result, w.result? number = some result →
    Progress 0 false (deedsOf number history) result.outcomes false
  untouched : ∀ number, w.result? number = none → number ∉ pieces.map Piece.number →
    deedsOf number history = []
  unissued : ∀ number, w.numbered ≤ number → w.result? number = none

/-- Nothing happens to the work of a workspace. -/
structure Idle (w later : Workspace ω) : Prop where
  entries : later.busy.entries = w.busy.entries
  numbered : later.numbered = w.numbered
  finished : later.finished = w.finished
  spawns : later.outlet.spawns = w.outlet.spawns

/-- Nothing goes on happening. -/
theorem Idle.trans {w mid later : Workspace ω} (first : w.Idle mid) (second : mid.Idle later) :
    w.Idle later :=
  ⟨second.entries.trans first.entries, second.numbered.trans first.numbered,
    second.finished.trans first.finished, second.spawns.trans first.spawns⟩

/-- Nothing happens to work in a calm. -/
theorem Calm.idle {w later : Workspace ω} (calm : w.Calm later) : w.Idle later :=
  ⟨calm.entries, calm.numbered, calm.finished, calm.speech.spawns⟩

/-- A result that was kept is found. -/
theorem result?_of_finished {w later : Workspace ω} {number : Nat} {result : Result}
    (finished : later.finished = (number, result) :: w.finished) (other : Nat) :
    later.result? other = if other = number then some result else w.result? other := by
  unfold result?
  rw [finished, List.lookup_cons]
  -- The newest result is in front, where it is found before any earlier one of its number.
  by_cases same : other = number
  · simp [same]
  · simp [same, beq_eq_false_iff_ne.mpr same]

namespace Orderly

variable {pieces : List Piece} {history : List (Nat × Deed)} {w later : Workspace ω}

/-- The order in which work waits makes no difference. -/
theorem perm (orderly : Orderly pieces history w) {others : List Piece} (same : pieces.Perm others) :
    Orderly others history w where
  labels := orderly.labels.trans (same.flatMap_right _)
  -- Every part speaks of which work waits, and none of them of its place.
  different := (same.map _).nodup_iff.mp orderly.different
  issued := fun piece member => orderly.issued piece (same.mem_iff.mpr member)
  waits := fun piece member => orderly.waits piece (same.mem_iff.mpr member)
  completes := orderly.completes
  untouched := fun number missing absent =>
    orderly.untouched number missing fun present => absent ((same.map _).mem_iff.mp present)
  unissued := orderly.unissued

/-- As long as nothing happens to it, work stays orderly. -/
theorem idle (orderly : Orderly pieces history w) (idle : w.Idle later) :
    Orderly pieces history later := by
  -- Results and labels are all that order is judged by, besides the numbers.
  have results : later.result? = w.result? := by
    funext number
    simp only [result?, idle.finished]
  have labels : later.busy.labels = w.busy.labels := by
    simp only [BusySignal.labels, idle.entries]
  refine ⟨?_, orderly.different, ?_, ?_, ?_, ?_, ?_⟩
  · rw [labels]
    exact orderly.labels
  · rw [idle.numbered]
    exact orderly.issued
  · rw [results]
    exact orderly.waits
  · rw [results]
    exact orderly.completes
  · rw [results]
    exact orderly.untouched
  · rw [results, idle.numbered]
    exact orderly.unissued

/-- Work that is asked for waits for its turn. -/
theorem ask (orderly : Orderly pieces history w) :
    Orderly (⟨w.numbered, [], 0, false⟩ :: pieces) history w.takeNumber.1 := by
  -- The number was not given to anything before.
  have absent : w.numbered ∉ pieces.map Piece.number := by
    intro present
    obtain ⟨piece, member, same⟩ := List.mem_map.mp present
    have less := orderly.issued piece member
    omega
  have missing := orderly.unissued w.numbered (Nat.le_refl _)
  refine ⟨orderly.labels, List.nodup_cons.mpr ⟨absent, orderly.different⟩, ?_, ?_, orderly.completes, ?_, ?_⟩
  · intro piece member
    rcases List.mem_cons.mp member with rfl | earlier
    · exact Nat.lt_succ_self _
    · exact Nat.lt_succ_of_lt (orderly.issued piece earlier)
  · intro piece member
    rcases List.mem_cons.mp member with rfl | earlier
    · refine ⟨missing, ?_⟩
      dsimp only
      rw [orderly.untouched _ missing absent]
      exact .done _ _
    · exact orderly.waits piece earlier
  · -- What is not among more work was not among less.
    intro number none absent
    exact orderly.untouched number none fun present => absent (List.mem_cons_of_mem _ present)
  · exact fun number unissued => orderly.unissued number (Nat.le_of_succ_le unissued)

/-- All that was ever done was done in order. -/
theorem progress (orderly : Orderly pieces history w) (number : Nat) :
    ∃ last still, Progress 0 false (deedsOf number history) last still := by
  -- Work is complete, or it waits, or it was never begun.
  cases kept : w.result? number with
  | some result => exact ⟨_, _, orderly.completes number result kept⟩
  | none =>
    by_cases waiting : number ∈ pieces.map Piece.number
    · obtain ⟨piece, member, rfl⟩ := List.mem_map.mp waiting
      exact ⟨_, _, (orderly.waits piece member).2⟩
    · rw [orderly.untouched number kept waiting]
      exact ⟨0, false, .done _ _⟩

variable {piece next : Piece} {deeds : List Deed}

/-- Other work has other numbers than the first piece. -/
theorem number_ne (orderly : Orderly (piece :: pieces) history w) :
    ∀ other ∈ pieces, other.number ≠ piece.number := by
  intro other member same
  exact (List.nodup_cons.mp orderly.different).1 (List.mem_map.mpr ⟨other, member, same⟩)

/-- Work that is complete leaves other work orderly. -/
theorem complete (orderly : Orderly (piece :: pieces) history w) {result : Result}
    (labels : later.busy.labels.Perm (pieces.flatMap Piece.labels))
    (numbered : later.numbered = w.numbered)
    (finished : later.finished = (piece.number, result) :: w.finished)
    (progress : Progress piece.known piece.running deeds result.outcomes false) :
    Orderly pieces (history ++ deeds.map (piece.number, ·)) later := by
  -- The result belongs to this piece of work, and so do its deeds.
  have results := result?_of_finished finished
  obtain ⟨own, others⟩ := deedsOf_append_map piece.number history deeds
  refine ⟨labels, (List.nodup_cons.mp orderly.different).2, ?_, ?_, ?_, ?_, ?_⟩
  · intro other member
    rw [numbered]
    exact orderly.issued other (List.mem_cons_of_mem _ member)
  · intro other member
    have apart := orderly.number_ne other member
    rw [results, if_neg apart, others _ apart]
    exact orderly.waits other (List.mem_cons_of_mem _ member)
  · intro number found kept
    rw [results] at kept
    split at kept
    -- The work itself: its deeds have led to its result.
    next same =>
      cases kept
      rw [same, own]
      exact (orderly.waits piece List.mem_cons_self).2.append progress
    -- Other work keeps the result that it had.
    next apart =>
      rw [others number apart]
      exact orderly.completes number found kept
  · intro number missing absent
    rw [results] at missing
    split at missing
    · cases missing
    next apart =>
      rw [others number apart]
      refine orderly.untouched number missing fun present => ?_
      exact (List.mem_cons.mp present).elim apart absent
  · intro number unissued
    have issued := orderly.issued piece List.mem_cons_self
    rw [results, if_neg (by omega)]
    exact orderly.unissued number (numbered ▸ unissued)

/-- Work that waits again is as orderly as before. -/
theorem waitAgain (orderly : Orderly (piece :: pieces) history w) (same : next.number = piece.number)
    (labels : later.busy.labels.Perm ((next :: pieces).flatMap Piece.labels))
    (numbered : later.numbered = w.numbered) (finished : later.finished = w.finished)
    (progress : Progress piece.known piece.running deeds next.known next.running) :
    Orderly (next :: pieces) (history ++ deeds.map (piece.number, ·)) later := by
  -- No result is kept, and the piece stays where it was under its number.
  have results : later.result? = w.result? := by
    funext number
    simp only [result?, finished]
  have numbers : (next :: pieces).map Piece.number = (piece :: pieces).map Piece.number := by
    simp [same]
  obtain ⟨own, others⟩ := deedsOf_append_map piece.number history deeds
  obtain ⟨missing, before⟩ := orderly.waits piece List.mem_cons_self
  -- The number, the results and the labels are as they were, and only the piece in front makes progress.
  refine ⟨labels, numbers ▸ orderly.different, ?_, ?_, ?_, ?_, ?_⟩
  · intro other member
    rw [numbered]
    rcases List.mem_cons.mp member with rfl | waiting
    · exact same ▸ orderly.issued piece List.mem_cons_self
    · exact orderly.issued other (List.mem_cons_of_mem _ waiting)
  · intro other member
    rw [results]
    rcases List.mem_cons.mp member with rfl | waiting
    · rw [same, own]
      exact ⟨missing, before.append progress⟩
    · rw [others _ (orderly.number_ne other waiting)]
      exact orderly.waits other (List.mem_cons_of_mem _ waiting)
  · -- Work with a result is other work, since this piece has none.
    intro number found kept
    rw [results] at kept
    have apart : number ≠ piece.number := by
      rintro rfl
      simp [missing] at kept
    rw [others number apart]
    exact orderly.completes number found kept
  · intro number none absent
    rw [results] at none
    rw [numbers] at absent
    rw [others number fun same => absent (by simp [same])]
    exact orderly.untouched number none absent
  · rw [results, numbered]
    exact orderly.unissued

/-- Work that goes on while other work waits stays orderly. -/
theorem goesOn (orderly : Orderly (piece :: pieces) history w)
    {outcome : Workspace ω × Option (Nat × Sleeper)} (goes : w.GoesOn piece deeds outcome)
    (numbered : outcome.1.numbered = w.numbered) :
    Orderly ((outcome.2.map (·.2)).toList.map Sleeper.piece ++ pieces)
      (history ++ deeds.map (piece.number, ·)) outcome.1 := by
  have labels := goes.labels _ orderly.labels
  obtain ⟨later, waiting⟩ := outcome
  -- The piece is complete if it does not have to wait again.
  cases waiting with
  | none =>
    obtain ⟨result, finished, progress⟩ := goes.completes rfl
    exact orderly.complete labels numbered finished progress
  | some entry =>
    obtain ⟨same, finished, progress⟩ := goes.waits entry.1 entry.2 rfl
    exact orderly.waitAgain same labels numbered finished progress

end Orderly

end Workspace

end FormatPipeline
