import FormatPipeline.Proofs.Session.Chains

/-! Work has a number of its own as long as it waits, whatever else is asked for and done meanwhile. -/

namespace FormatPipeline

open Schedule (DebouncedTimeline Turn Work)

namespace Workspace

variable {ω : Type}

/-- Work is complete and gives a result under its number, or it goes on to wait under that number. -/
structure Concludes (w : Workspace ω) (number : Nat) (outcome : Workspace ω × Option (Nat × Sleeper)) :
    Prop where
  completes : outcome.2 = none → ∃ result, outcome.1.finished = (number, result) :: w.finished
  waits : ∀ waiting, outcome.2 = some waiting →
    waiting.2.number = number ∧ outcome.1.finished = w.finished

/-- Work that goes on concludes under its number. -/
theorem GoesOn.concludes {w : Workspace ω} {piece : Piece} {deeds : List Deed}
    {outcome : Workspace ω × Option (Nat × Sleeper)} (goes : w.GoesOn piece deeds outcome) :
    w.Concludes piece.number outcome where
  -- A result is noted under the number of the piece, and a sleeper goes by that number.
  completes done := by
    obtain ⟨result, finished, -⟩ := goes.completes done
    exact ⟨result, finished⟩
  waits waiting asleep := by
    obtain ⟨same, finished, -⟩ := goes.waits waiting.1 waiting.2 asleep
    exact ⟨waiting.2.number_piece.symm.trans same, finished⟩

/-- The results of other work stay. -/
theorem Concludes.result? {w : Workspace ω} {number other : Nat}
    {outcome : Workspace ω × Option (Nat × Sleeper)} (concludes : w.Concludes number outcome)
    (different : other ≠ number) : outcome.1.result? other = w.result? other := by
  -- Only the work that is over adds a result, and it has its own number.
  cases waiting : outcome.2 with
  | none =>
    obtain ⟨result, finished⟩ := concludes.completes waiting
    rw [result?_of_finished finished, if_neg different]
  | some sleeper =>
    have finished := (concludes.waits sleeper waiting).2
    simp only [Workspace.result?, finished]

variable [World ω]

/-- An errand concludes under its number, also a chain without formatters. -/
theorem concludes_startErrand (now : Nat) (errand : Errand) (w : Workspace ω) :
    w.Concludes errand.number (startErrand now errand w) := by
  by_cases formatters : errand.HasFormatters
  -- Work with formatters goes on; what is left is a chain that has nothing to run.
  · exact (goesOn_startErrand now errand w formatters).concludes
  · -- Only a chain can be without formatters, and it is complete at once.
    cases errand with
    | chain number handle names mode =>
      cases names with
      | nil => exact ⟨fun _ => ⟨_, rfl⟩, nofun⟩
      | cons name rest => exact absurd (by rintro _ _ _ _ ⟨⟩; exact List.cons_ne_nil _ _) formatters
    | formatActive | runOnActive | formatSaved | single =>
      exact absurd (by simp [Errand.HasFormatters]) formatters

/-- Work that goes on when its process has ended concludes under its number. -/
theorem concludes_wakeSleeper (now : Nat) (sleeper : Sleeper) (w : Workspace ω) :
    w.Concludes sleeper.number (wakeSleeper now sleeper w) :=
  sleeper.number_piece ▸ (goesOn_wakeSleeper now sleeper w).concludes

end Workspace

namespace Session

variable {ω : Type}

/-- The numbers of the work that waits for its turn or for a process. -/
def waiting (s : Session ω) : List Nat :=
  (DebouncedTimeline.jobs s).map Errand.number ++ (DebouncedTimeline.sleepers s).map Sleeper.number

/-- All work that waits has a number of its own, which was given and has no result yet. -/
structure Numbered (s : Session ω) : Prop where
  different : s.waiting.Nodup
  issued : ∀ number ∈ s.waiting, number < s.state.numbered
  incomplete : ∀ number ∈ s.waiting, s.state.result? number = none
  unissued : ∀ number, s.state.numbered ≤ number → s.state.result? number = none

/-- A session that was asked for nothing yet has given no number. -/
theorem Unused.numbered {s : Session ω} (unused : s.Unused) : s.Numbered := by
  have nobody : s.waiting = [] := by
    simp [waiting, DebouncedTimeline.jobs, DebouncedTimeline.sleepers, unused.jobs, unused.sleepers]
  have results : ∀ number, s.state.result? number = none := by
    simp [Workspace.result?, unused.finished]
  exact ⟨by simp [nobody], by simp [nobody], fun number _ => results number, fun number _ => results number⟩

namespace Numbered

variable {s next : Session ω}

/-- As long as work is not disturbed, it has its numbers. -/
theorem undisturbed (numbered : s.Numbered) (same : s.Undisturbed next) : next.Numbered := by
  -- Waiting work and results are all that the numbers are about, and both are the same.
  have waiting : next.waiting = s.waiting := by simp only [Session.waiting, same.jobs, same.sleepers]
  have results : ∀ number, next.state.result? number = s.state.result? number := by
    simp [Workspace.result?, same.state.finished]
  refine ⟨waiting ▸ numbered.different, ?_, ?_, ?_⟩
  · rw [waiting, same.state.numbered]
    exact numbered.issued
  · rw [waiting]
    exact fun number member => (results number).trans (numbered.incomplete number member)
  · rw [same.state.numbered]
    exact fun number above => (results number).trans (numbered.unissued number above)

/-- Work that is asked for waits under the next number. -/
theorem waiting_spawn {errand : Nat → Errand} (asked : ∀ number, (errand number).number = number)
    (s : Session ω) :
    (Session.spawn errand s).1.waiting.Perm (s.state.numbered :: s.waiting) := by
  -- The new job stands behind the other jobs and in front of the sleepers.
  have jobs : DebouncedTimeline.jobs (Session.spawn errand s).1 =
      DebouncedTimeline.jobs s ++ [errand s.state.numbered] := DebouncedTimeline.jobs_spawn _ _
  have sleepers : DebouncedTimeline.sleepers (Session.spawn errand s).1 = DebouncedTimeline.sleepers s := rfl
  simp only [waiting, jobs, sleepers, List.map_append, List.map_cons, asked, List.map_nil,
    List.append_assoc, List.singleton_append]
  exact List.perm_middle

/-- Work that is asked for gets a number of its own. -/
theorem spawn (numbered : s.Numbered) {errand : Nat → Errand}
    (asked : ∀ number, (errand number).number = number) : (Session.spawn errand s).1.Numbered := by
  have waiting := waiting_spawn asked s
  -- The new number is above all that were given, so nobody waits under it or has a result.
  have fresh : s.state.numbered ∉ s.waiting := fun member =>
    Nat.lt_irrefl _ (numbered.issued _ member)
  refine ⟨waiting.nodup_iff.mpr (List.nodup_cons.mpr ⟨fresh, numbered.different⟩),
    fun number member => ?_, fun number member => ?_, fun number above => ?_⟩
  · rcases List.mem_cons.mp (waiting.mem_iff.mp member) with rfl | earlier
    · exact Nat.lt_succ_self _
    · exact Nat.lt_succ_of_lt (numbered.issued number earlier)
  · rcases List.mem_cons.mp (waiting.mem_iff.mp member) with rfl | earlier
    · exact numbered.unissued _ (Nat.le_refl _)
    · exact numbered.incomplete number earlier
  · exact numbered.unissued number (Nat.le_of_succ_le above)

/-- Work that concludes gives its number back, or goes on to wait under it. -/
theorem conclude (numbered : s.Numbered) {number : Nat} {others : List Nat}
    (before : s.waiting.Perm (number :: others))
    {outcome : Workspace ω × Option (Nat × Sleeper)} (concludes : s.state.Concludes number outcome)
    (state : next.state = outcome.1) (same : outcome.1.numbered = s.state.numbered)
    (after : next.waiting.Perm ((outcome.2.map (·.2)).toList.map Sleeper.number ++ others)) :
    next.Numbered := by
  -- The number of the work is in nobody else's hands, and no other result changes.
  obtain ⟨own, different⟩ := List.nodup_cons.mp (before.nodup_iff.mp numbered.different)
  have issued := numbered.issued number (before.mem_iff.mpr List.mem_cons_self)
  have left : ∀ other ∈ others, other ∈ s.waiting ∧ outcome.1.result? other = s.state.result? other :=
    fun other member => ⟨before.mem_iff.mpr (List.mem_cons_of_mem _ member),
      concludes.result? fun equal => own (equal ▸ member)⟩
  have results : ∀ other ∈ next.waiting,
      other ∈ s.waiting ∧ outcome.1.result? other = s.state.result? other := by
    intro other member
    rcases List.mem_append.mp (after.mem_iff.mp member) with again | earlier
    · -- Only work that goes on to wait keeps its number, and it has given no result.
      obtain ⟨sleeper, lies, rfl⟩ := List.mem_map.mp again
      obtain ⟨waits, asleep, rfl⟩ := Option.map_eq_some_iff.mp (Option.mem_toList.mp lies)
      obtain ⟨rfl, finished⟩ := concludes.waits waits asleep
      exact ⟨before.mem_iff.mpr List.mem_cons_self, by simp only [Workspace.result?, finished]⟩
    · exact left other earlier
  refine ⟨after.nodup_iff.mpr ?_, fun other member => ?_, fun other member => ?_, fun other above => ?_⟩
  · cases asleep : outcome.2 with
    | none => exact different
    | some waits =>
      have again := (concludes.waits waits asleep).1
      simpa [again] using And.intro own different
  · rw [state, same]
    exact numbered.issued other (results other member).1
  · rw [state, (results other member).2]
    exact numbered.incomplete other (results other member).1
  · rw [state, same] at above
    rw [state, concludes.result? (by omega)]
    exact numbered.unissued other above

variable [World ω]

/-- After a call all work has its number. -/
theorem answer (numbered : s.Numbered) (call : Call ω) : (s.answer call).Numbered := by
  rcases answer_asks s call with ⟨t, errand, same, spawned, asked, -⟩ | same
  · rw [spawned]
    exact (numbered.undisturbed same).spawn asked
  · exact numbered.undisturbed same

/-- After a turn all work has its number. -/
theorem takes (numbered : s.Numbered) {turn : Turn (Work Update Errand) (Work Update Sleeper)}
    (taken : DebouncedTimeline.Takes machine s turn next) : next.Numbered := by
  rcases DebouncedTimeline.takes_cases taken with
    ⟨errand, rest, rfl, queued, jobs, sleepers, state⟩ |
    ⟨now, sleeper, rest, rfl, asleep, jobs, sleepers, state⟩ | ⟨-, -, jobs, sleepers, state⟩
  · -- An errand gives its place to what sleeps of it.
    have before : s.waiting.Perm (errand.number :: (rest.map Errand.number ++
        (DebouncedTimeline.sleepers s).map Sleeper.number)) := (queued.map _).append_right _
    have after := (jobs.map Errand.number).append (sleepers.map Sleeper.number)
    rw [List.map_append, ← List.append_assoc] at after
    refine numbered.conclude before (Workspace.concludes_startErrand s.clock errand s.state) state
      (Workspace.effect_startErrand s.clock errand s.state).numbered (after.trans ?_)
    rw [← List.append_assoc]
    exact List.perm_append_comm.append_right _
  · -- A sleeper gives its place to what sleeps of its work again.
    have before : s.waiting.Perm (sleeper.number ::
        ((DebouncedTimeline.jobs s).map Errand.number ++ rest.map Sleeper.number)) :=
      ((asleep.map _).append_left _).trans List.perm_middle
    have after : next.waiting.Perm _ := (sleepers.map Sleeper.number).append_left _
    rw [jobs, List.map_append, ← List.append_assoc] at after
    refine numbered.conclude before (Workspace.concludes_wakeSleeper now sleeper s.state) state
      (Workspace.effect_wakeSleeper now sleeper s.state).numbered (after.trans ?_)
    rw [← List.append_assoc]
    exact List.perm_append_comm.append_right _
  · exact numbered.undisturbed (undisturbed_delayed jobs sleepers state)

/-- After a move all work has its number. -/
theorem moves (numbered : s.Numbered) {move : Move ω} (moved : Moves s move next) : next.Numbered := by
  cases moved with
  | call call => exact numbered.answer call
  | turn taken => exact numbered.takes taken

omit [World ω]

/-- Work that has given its result does not wait any more. -/
theorem not_mem_waiting (numbered : s.Numbered) {number : Nat} {result : Result}
    (given : s.state.result? number = some result) : number ∉ s.waiting := by
  intro member
  rw [numbered.incomplete number member] at given
  cases given

/-- Work that waits for a process does not wait for its turn. -/
theorem number_ne (numbered : s.Numbered) {errand : Errand} {sleeper : Sleeper}
    (queued : errand ∈ DebouncedTimeline.jobs s) (asleep : sleeper ∈ DebouncedTimeline.sleepers s) :
    errand.number ≠ sleeper.number :=
  (List.nodup_append.mp numbered.different).2.2 _ (List.mem_map_of_mem queued) _
    (List.mem_map_of_mem asleep)

/-- Work waits for one process only. -/
theorem sleeper_eq (numbered : s.Numbered) {one other : Sleeper} {rest : List Sleeper}
    (asleep : (DebouncedTimeline.sleepers s).Perm (one :: rest))
    (member : other ∈ DebouncedTimeline.sleepers s) (same : other.number = one.number) :
    other = one := by
  have different := (List.nodup_append.mp numbered.different).2.1
  -- All others sleep under other numbers.
  have apart := (List.nodup_cons.mp ((asleep.map Sleeper.number).nodup_iff.mp different)).1
  rcases List.mem_cons.mp (asleep.mem_iff.mp member) with equal | behind
  · exact equal
  · exact absurd (same ▸ List.mem_map_of_mem behind) apart

end Numbered

/-- At any time of a run all work that waits has a number of its own. -/
theorem numbered_run [World ω] {s : Session ω} {ν : Type} {moves : Session ω → Move ω → Session ω → Prop}
    {notes : Session ω → Move ω → List ν} {history : List ν}
    (moved : ∀ {s move next}, moves s move next → Moves s move next) {first : Session ω}
    (unused : first.Unused) (ran : Run moves notes [] first history s) : s.Numbered := by
  induction ran with
  | start => exact unused.numbered
  | move before last ih => exact ih.moves (moved last)

/-! ## Whose turn it is -/

variable [World ω] {s next : Session ω} {turn : Turn (Work Update Errand) (Work Update Sleeper)}

/-- What is noted of a turn is noted with the number of its work. -/
theorem numberOf?_of_noted {number : Nat} {deed : Deed}
    (noted : (number, deed) ∈ s.deedsBy (.turn turn)) : numberOf? turn = some number := by
  -- A turn notes deeds under one number, or it notes none.
  rcases s.deedsBy_turn turn with ⟨own, turned, same⟩ | ⟨-, nothing, -⟩
  · rw [same] at noted
    obtain ⟨_, -, tagged⟩ := List.mem_map.mp noted
    cases tagged
    exact turned
  · rw [nothing] at noted
    cases noted

/-- Work does nothing in the turns of other work. -/
theorem deedsOf_deedsBy_of_ne {number : Nat} (other : numberOf? turn ≠ some number) :
    deedsOf number (s.deedsBy (.turn turn)) = [] := by
  -- Everything in the turn is noted with one number, which is another one.
  have apart : ∀ entry ∈ s.deedsBy (.turn turn), (entry.1 == number) = false := by
    rintro ⟨own, deed⟩ noted
    simpa using fun same : own = number => other (same ▸ numberOf?_of_noted noted)
  rw [deedsOf, List.filter_eq_nil_iff.mpr (by simpa using apart), List.map_nil]

/-- Only work that waits can take a turn. -/
theorem mem_waiting (taken : DebouncedTimeline.Takes machine s turn next) {number : Nat}
    (own : numberOf? turn = some number) : number ∈ s.waiting := by
  -- The work came from the queue or from sleep, and both are part of what waits.
  rcases DebouncedTimeline.takes_cases taken with
    ⟨errand, rest, rfl, queued, -⟩ | ⟨now, sleeper, rest, rfl, asleep, -⟩ | ⟨noJob, noSleeper, -⟩
  · cases own
    exact List.mem_append_left _ (List.mem_map_of_mem (queued.mem_iff.mpr List.mem_cons_self))
  · cases own
    exact List.mem_append_right _ (List.mem_map_of_mem (asleep.mem_iff.mpr List.mem_cons_self))
  · rw [numberOf?_idle noJob noSleeper] at own
    cases own

/-- Work that waits for a process takes its turn when the process has ended. -/
theorem Numbered.wakes (numbered : s.Numbered) (taken : DebouncedTimeline.Takes machine s turn next)
    {sleeper : Sleeper} (asleep : sleeper ∈ DebouncedTimeline.sleepers s)
    (own : numberOf? turn = some sleeper.number) :
    ∃ now rest, turn = .wake now (.other sleeper) ∧
      (DebouncedTimeline.sleepers next).Perm
        (((Workspace.wakeSleeper now sleeper s.state).2.map (·.2)).toList ++ rest) ∧
      next.state = (Workspace.wakeSleeper now sleeper s.state).1 := by
  -- The turn is the sleeper's own, since no other work has its number.
  rcases DebouncedTimeline.takes_cases taken with
    ⟨errand, rest, rfl, queued, -⟩ | ⟨now, other, rest, rfl, among, -, sleepers, state⟩ |
    ⟨noJob, noSleeper, -⟩
  · have job := queued.mem_iff.mpr List.mem_cons_self
    exact absurd (Option.some.inj own) (numbered.number_ne job asleep)
  -- Two sleepers with one number are one.
  · obtain rfl := numbered.sleeper_eq among asleep (Option.some.inj own).symm
    exact ⟨now, rest, rfl, sleepers, state⟩
  · rw [numberOf?_idle noJob noSleeper] at own
    cases own

/-! ## Work aside -/

/-- Nothing happens to the work of a number once it has begun. -/
structure Spares (number : Nat) (s next : Session ω) : Prop where
  result : next.state.result? number = s.state.result? number
  sleepers : ∀ sleeper ∈ DebouncedTimeline.sleepers s, sleeper.number = number →
    sleeper ∈ DebouncedTimeline.sleepers next

omit [World ω] in
/-- Where no work is disturbed, the work of a number is not. -/
theorem Undisturbed.spares (same : s.Undisturbed next) (number : Nat) :
    Spares number s next where
  result := by simp only [Workspace.result?, same.state.finished]
  sleepers := fun _ member _ => same.sleepers ▸ member

/-- Nothing happens in a call to work that has begun. -/
theorem spares_answer (number : Nat) (s : Session ω) (call : Call ω) :
    Spares number s (s.answer call) := by
  rcases answer_asks s call with ⟨t, errand, same, spawned, -, -⟩ | same
  · rw [spawned]
    have spared := same.spares number
    exact ⟨spared.result, spared.sleepers⟩
  · exact same.spares number

/-- Nothing happens in a turn of other work to work that has begun. -/
theorem spares_takes {number : Nat} (taken : DebouncedTimeline.Takes machine s turn next)
    (other : numberOf? turn ≠ some number) : Spares number s next := by
  have apart : ∀ {own : Nat}, numberOf? turn = some own → number ≠ own :=
    fun turned equal => other (equal ▸ turned)
  rcases DebouncedTimeline.takes_cases taken with
    ⟨errand, rest, rfl, -, -, sleepers, state⟩ |
    ⟨now, sleeper, rest, rfl, asleep, -, sleepers, state⟩ | ⟨-, -, jobs, sleepers, state⟩
  · have concludes := Workspace.concludes_startErrand s.clock errand s.state
    refine ⟨?_, fun _ member _ => sleepers.mem_iff.mpr (List.mem_append_right _ member)⟩
    rw [state]
    exact concludes.result? (apart rfl)
  · have concludes := Workspace.concludes_wakeSleeper now sleeper s.state
    refine ⟨?_, fun _ member own => ?_⟩
    · rw [state]
      exact concludes.result? (apart rfl)
    · -- Only the sleeper of other work wakes up.
      rcases List.mem_cons.mp (asleep.mem_iff.mp member) with rfl | behind
      · exact absurd own.symm (apart rfl)
      · exact sleepers.mem_iff.mpr (List.mem_append_right _ behind)
  · exact (undisturbed_delayed jobs sleepers state).spares number

end Session

end FormatPipeline
