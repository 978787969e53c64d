import FormatPipeline.Proofs.Session.Numbers
import FormatPipeline.Proofs.Workspace.Alone

/-! A chain that is asked for while nothing else waits: what it gives, and everything that is shown of it. -/

namespace FormatPipeline

open Schedule (DebouncedTimeline Timeline Work)

namespace Session

variable {ω : Type}

/-- Nothing waits and nothing is in progress, and the next number was not given before. -/
structure IsAtRest (s : Session ω) : Prop where
  ready : s.ready = []
  sleeping : s.sleeping = []
  entries : s.state.busy.entries = []
  unissued : s.state.result? s.state.numbered = none

/-- Orderly work is at rest when nothing waits. -/
theorem IsOrderly.isAtRest {first s : Session ω} {history : List (Nat × Deed)}
    (orderly : IsOrderly first history s) (ready : s.ready = []) (sleeping : s.sleeping = []) :
    s.IsAtRest where
  ready := ready
  sleeping := sleeping
  entries := by
    -- The labels in use are those of the work that waits, and there is none.
    have labels := orderly.orderly.labels
    simpa [pieces, DebouncedTimeline.jobs, DebouncedTimeline.sleepers, ready, sleeping,
      BusySignal.labels] using labels
  unissued := orderly.orderly.unissued _ (Nat.le_refl _)

variable [World ω]

/-- Only one piece of work is on the timeline, and it leads to a goal if nothing else happens. -/
inductive Alone (number : Nat) (goal : Nat × Workspace ω) (s : Session ω) : Prop
  | asked {errand : Errand} (ready : s.ready = [.other errand]) (sleeping : s.sleeping = [])
      (incomplete : s.state.result? number = none)
      (leads : Workspace.comesTo s.clock (Workspace.startErrand s.clock errand s.state) = goal)
  | waits {moment : Nat} {sleeper : Sleeper} (ready : s.ready = [])
      (sleeping : s.sleeping = [(moment, .other sleeper)]) (incomplete : s.state.result? number = none)
      (later : s.clock ≤ moment) (leads : Workspace.resumes moment sleeper s.state = goal)
  | complete (ready : s.ready = []) (sleeping : s.sleeping = []) (reached : (s.clock, s.state) = goal)

namespace Alone

variable {number : Nat} {goal : Nat × Workspace ω} {s next : Session ω}

/-- What is left of one piece of work leads to the same goal. -/
theorem settle {w : Workspace ω} {own : Nat} {outcome : Workspace ω × Option (Nat × Sleeper)}
    (incomplete : w.result? number = none) (concludes : w.Concludes own outcome) (ready : next.ready = [])
    (leads : Workspace.comesTo next.clock outcome = goal) (state : next.state = outcome.1)
    (sleeping : next.sleeping = ((outcome.2.map fun (delay, sleeper) =>
      (delay, (.other sleeper : Work Update Sleeper))).map fun (delay, sleeper) =>
        (next.clock + delay, sleeper)).toList) :
    Alone number goal next := by
  obtain ⟨later, none | ⟨delay, sleeper⟩⟩ := outcome
  · exact .complete ready sleeping (state ▸ leads)
  · -- Work that waits has given no result.
    refine .waits ready sleeping ?_ (Nat.le_add_right _ delay) (state ▸ leads)
    rw [state, Workspace.result?, (concludes.waits _ rfl).2]
    exact incomplete

/-- Every step of one piece of work leads to the same goal. -/
theorem step (alone : Alone number goal s) (stepped : DebouncedTimeline.step machine none s = some next) :
    Alone number goal next := by
  obtain ⟨taken, -⟩ := DebouncedTimeline.takes_of_step stepped
  cases alone with
  | @asked errand ready sleeping incomplete leads =>
    -- The errand is the next to have its turn.
    have turn : s.nextTurn = .start (.other errand) := by simp [Timeline.nextTurn, ready]
    rw [turn] at taken
    have state := taken.state_eq
    cases taken.shifts with
    | @start before _ after queued clock ready' sleeping' =>
      obtain ⟨rfl, rfl⟩ : before = [] ∧ after = [] := by
        simpa [ready, List.singleton_eq_append_iff] using queued
      rw [sleeping, List.nil_append] at sleeping'
      refine settle incomplete (Workspace.concludes_startErrand s.clock errand s.state) ready' ?_ state ?_
      · rw [clock]
        exact leads
      · rw [clock]
        exact sleeping'
  | @waits moment sleeper ready sleeping incomplete later leads =>
    -- Nobody else sleeps, and the clock is put to the moment at which the sleeper wakes.
    have turn : s.nextTurn = .wake moment (.other sleeper) := by
      simp [Timeline.nextTurn, ready, sleeping, Schedule.earliest?, Nat.max_eq_right later]
    rw [turn] at taken
    have state := taken.state_eq
    cases taken.shifts with
    | @wake before due _ after _ asleep _ _ clock ready' sleeping' =>
      obtain ⟨rfl, -, rfl⟩ : before = [] ∧ due = moment ∧ after = [] := by
        simpa [sleeping, List.singleton_eq_append_iff] using asleep
      rw [List.append_nil, List.nil_append] at sleeping'
      refine settle incomplete (Workspace.concludes_wakeSleeper moment sleeper s.state)
        (ready'.trans ready) ?_ state ?_
      · rw [clock]
        exact (Workspace.comesTo_wakeSleeper moment sleeper s.state).trans leads
      · rw [clock]
        exact sleeping'
  | complete ready sleeping =>
    -- Nothing is left that could have a turn.
    have stuck : DebouncedTimeline.step machine none s = none :=
      DebouncedTimeline.step_eq_none_iff.mpr ⟨ready, sleeping⟩
    simp [stuck] at stepped

/-- When nothing more is asked for or nothing more is left to do, one piece of work has reached its goal. -/
theorem reached (alone : Alone number goal s)
    (stopped : s.state.result? number = none → DebouncedTimeline.step machine none s = none) :
    s.ready = [] ∧ s.sleeping = [] ∧ (s.clock, s.state) = goal := by
  cases alone with
  -- Work that waits could go on, so that the timeline would not have stopped.
  | asked ready sleeping incomplete =>
    have stuck := DebouncedTimeline.step_eq_none_iff.mp (stopped incomplete)
    simp [ready] at stuck
  | waits ready sleeping incomplete =>
    have stuck := DebouncedTimeline.step_eq_none_iff.mp (stopped incomplete)
    simp [sleeping] at stuck
  | complete ready sleeping reached => exact ⟨ready, sleeping, reached⟩

end Alone

/-- Work that is asked for at rest leads to where it leads alone. -/
theorem perform_alone {s : Session ω} (atRest : s.IsAtRest) (errand : Nat → Errand) :
    let goal := Workspace.comesTo s.clock
      (Workspace.startErrand s.clock (errand s.state.numbered) s.state.takeNumber.1)
    (s.perform errand).1.state = goal.2 ∧ (s.perform errand).2 = goal.2.result? s.state.numbered := by
  intro goal
  -- At rest the timeline holds nothing but the work that is asked for.
  let asked : Session ω := (s.spawn errand).1
  let complete (w : Workspace ω) : Bool := [s.state.numbered].all fun number => (w.result? number).isSome
  have queue : asked.ready = [.other (errand s.state.numbered)] := by
    have behind : asked.ready = s.ready ++ [.other (errand s.state.numbered)] := rfl
    simpa [atRest.ready] using behind
  have alone : Alone s.state.numbered goal asked := .asked queue atRest.sleeping atRest.unissued rfl
  have ran := DebouncedTimeline.run_keeps Alone.step alone (!complete ·)
  obtain ⟨ready, sleeping, reached⟩ := ran.reached fun missing =>
    DebouncedTimeline.step_run (by
      generalize (asked.run machine none (!complete ·)).state = later at missing
      simp [complete, missing])
  -- Nothing is due any more when the result is there.
  have rested : (s.perform errand).1.state = (asked.run machine none (!complete ·)).state :=
    DebouncedTimeline.state_advance_of_idle ready sleeping 0
  have state : (s.perform errand).1.state = goal.2 := rested.trans (congrArg Prod.snd reached)
  exact ⟨state, congrArg (·.result? s.state.numbered) state⟩

/-- A chain that runs alone gives one step for each name in order, and from its beginning to its end
just its steps are shown, each from its start to its outcome. -/
theorem chainTrace_perform {s : Session ω} (atRest : s.IsAtRest) {handle : Handle} {document : Document}
    (opened : s.state.document? handle = some document) (enabled : s.state.busy.enabled = true)
    (shown : s.state.handling ≠ .hide) (names : List String) (proper : "Formatters" ∉ names)
    (mode : Mode) :
    let run := s.state.chainRun s.state.numbered handle mode
    let turns := run.turns names s.clock (s.state.takeNumber.1.beginBusy s.clock run.label)
    let trace := if names = [] then [] else framed run.label (turns.flatMap (·.events run))
    let performed := s.perform (.chain · handle names mode)
    performed.2 = some (.chain (turns.map (·.step run))) ∧ turns.map (·.name) = names ∧
      (∀ turn ∈ turns, turn.IsTraced run s.state document.path) ∧
      s.state.outlet.Shows trace performed.1.state.outlet ∧
      (s.state.outlet.writesLeft = none →
        performed.1.state.outlet.shown = s.state.outlet.shown ++ trace) := by
  intro run turns trace performed
  have alone := perform_alone atRest (.chain · handle names mode)
  let begun : Workspace ω := s.state.takeNumber.1.beginBusy s.clock run.label
  have labels : s.state.busy.labels = [] := by simp [BusySignal.labels, atRest.entries]
  -- Only the label of the chain itself is shown, and no formatter has the same one.
  have apart : ∀ name ∈ names, run.stepLabel name ∉ begun.busy.labels := by
    intro name member same
    have only : begun.busy.labels = [run.label] := by
      rw [Workspace.labels_beginBusy]
      exact congrArg (· ++ [run.label]) labels
    rw [only, List.mem_singleton] at same
    have other : name ≠ "Formatters" := fun equal => proper (equal ▸ member)
    exact Label.step_ne_chain other run.displayPath same
  -- The steps end at some moment, and each starts in a workspace that differs from the first in texts.
  obtain ⟨⟨moment, last, ends, works⟩, starts⟩ := run.ending_eq s.clock (w := begun) enabled apart
  have kept : ∀ (w : Workspace ω) (result : Result),
      (w.finish s.state.numbered result).result? s.state.numbered = some result := fun w result => by
    rw [Workspace.result?_of_finished rfl, if_pos rfl]
  have told : performed.2 = some (.chain (turns.map (·.step run))) ∧
      s.state.outlet.Shows trace performed.1.state.outlet := by
    by_cases empty : names = []
    · -- Without formatters there is no label to take down.
      subst empty
      have silent : (s.state.busy.remove s.clock run.label).2.1 = [] := by
        simp [BusySignal.remove, atRest.entries]
      obtain ⟨state, result⟩ := alone
      refine ⟨result.trans (kept _ _), ?_⟩
      rw [state]
      have ended : s.state.outlet.Shows ((s.state.busy.remove s.clock run.label).2.1.map .sent)
        (s.state.takeNumber.1.endBusy s.clock run.label).1.outlet := Outlet.shows_sendAll _ _
      rw [silent] at ended
      exact ended
    · -- With formatters everything is shown between the two messages about the chain's label.
      have led : Workspace.comesTo s.clock (Workspace.startErrand s.clock
          (.chain s.state.numbered handle names mode) s.state.takeNumber.1) =
          run.ending names s.clock begun := by
        rw [← Workspace.comesTo_runChain]
        exact congrArg _ (Workspace.startChain_of_ne_nil s.clock s.state.numbered handle empty mode _)
      rw [led, ends] at alone
      have framing := works.framed (w := s.state.takeNumber.1) moment
        (by simp [BusySignal.labels, Workspace.takeNumber, atRest.entries]) enabled
      obtain ⟨state, result⟩ := alone
      refine ⟨result.trans (kept _ _), ?_⟩
      rw [state]
      simp only [trace, empty, if_false]
      exact framing.shows
  refine ⟨told.1, run.map_name_turns names s.clock begun, ?_, told.2, fun lasting => (told.2.shown lasting).1⟩
  -- So the first workspace decides whether a formatter is known, and problems are shown all along.
  intro turn member
  have between := starts turn member
  obtain ⟨written, there, differs⟩ := DocumentTable.get?_of_blank between.documents opened
  have path : written.path = document.path := (Document.blank_eq_iff.mp differs).2.1
  exact path ▸ turn.isTraced run (between.retains.formatters turn.name).symm
    (between.handling ▸ shown) there

/-- A session with an open document, a formatter that has a binary, and another one that has none. -/
def sampleAlone : Session Scripted.Tables :=
  (sampleBeforeChains.answer (.openDocument (.opened 1 ⟨"/repo/main.py"⟩ none "" ⟨0, 0⟩ true))).modify
    fun w => { w with formatters := w.formatters ++ [.ofProfile ⟨"isort", [], [], "--settings", []⟩] }

/-- What is asked of the sample: an unknown formatter, and the two that it knows. -/
def sampleNames : List String := ["missing", "black", "isort"]

/-- In the sample each formatter is shown in its turn, though only one of them runs. -/
theorem chainTrace_sample :
    let performed := sampleAlone.perform (.chain · 0 sampleNames .buffer)
    performed.2 = some (.chain [⟨"missing", none⟩, ⟨"black", some (.ran .anywhere (.exited (some 0)))⟩,
        ⟨"isort", some .binaryNotFound⟩]) ∧
      performed.1.state.outlet.shown = framed "Formatters on /repo/main.py" (
        .sent (.notification ⟨"fmtchain: Unknown formatter missing", none, false⟩) ::
        framed "black on /repo/main.py" (.spawn "/usr/bin/black -q -" (some "") ::
          Workspace.placingEvents 1 "" ⟨0, 0⟩) ++
        framed "isort on /repo/main.py"
          [.sent (.notification ⟨"fmtchain: Could not find binary for isort", none, false⟩)]) ∧
      ∃ (run : ChainRun) (turns : List (StepTurn Scripted.Tables)),
        performed.2 = some (.chain (turns.map (·.step run))) ∧ turns.map (·.name) = sampleNames ∧
          (∀ turn ∈ turns, turn.IsTraced run sampleAlone.state ⟨"/repo/main.py"⟩) ∧
          performed.1.state.outlet.shown =
            sampleAlone.state.outlet.shown ++ framed run.label (turns.flatMap (·.events run)) := by
  -- The sample is at rest with one document open, so that the general statement applies.
  have atRest : sampleAlone.IsAtRest := ⟨rfl, rfl, by decide +kernel, by decide +kernel⟩
  have opened : sampleAlone.state.document? 0 =
    some (.opened 1 ⟨"/repo/main.py"⟩ none "" ⟨0, 0⟩ true) := by decide +kernel
  obtain ⟨steps, names, traced, -, shown⟩ := chainTrace_perform atRest opened (by decide +kernel)
    (by decide +kernel) sampleNames (by decide +kernel) .buffer
  exact ⟨by decide +kernel, by decide +kernel, _, _, steps, names, traced, shown (by decide +kernel)⟩

end Session

end FormatPipeline
