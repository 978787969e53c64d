import FormatPipeline.Proofs.Schedule.Pending
import FormatPipeline.Proofs.Session.Run
import FormatPipeline.Proofs.Workspace.Orderly
import FormatPipeline.Proofs.World.Scripted

/-! Chains that run side by side: what the busy signal shows of them, and the order within each. -/

namespace FormatPipeline

open Schedule (DebouncedTimeline Delayed Turn Work)
open Workspace (Idle Orderly)

/-- Whether an errand is no chain, or a chain with formatters. -/
def Errand.HasFormatters (errand : Errand) : Prop :=
  ∀ number document names mode, errand = .chain number document names mode → names ≠ []

/-- The chain that waits for a process, and the formatter whose process it is. -/
def Sleeper.chain? : Sleeper → Option (ChainRun × String)
  | chain run name _ _ _ => some (run, name)
  | single .. => none

/-- The labels that are shown are those of chains and of their formatters. -/
theorem Sleeper.labels_piece (sleeper : Sleeper) :
    sleeper.piece.labels = sleeper.chain?.toList.flatMap fun (run, name) =>
      [run.label, run.stepLabel name] := by
  cases sleeper <;> rfl

/-- The number of waiting work is its own. -/
theorem Sleeper.number_piece (sleeper : Sleeper) : sleeper.piece.number = sleeper.number := by
  cases sleeper <;> rfl

namespace Session

variable {ω : Type}

/-- The work that waits for its turn or for a process. -/
def pieces (s : Session ω) : List Piece :=
  (DebouncedTimeline.jobs s).map Errand.piece ++ (DebouncedTimeline.sleepers s).map Sleeper.piece

/-- The chains that have begun and are not complete, and the formatters that they run. -/
def chainsInFlight (s : Session ω) : List (ChainRun × String) :=
  (DebouncedTimeline.sleepers s).filterMap Sleeper.chain?

/-- Nothing happens to the work of a session. -/
structure Undisturbed (s next : Session ω) : Prop where
  jobs : DebouncedTimeline.jobs next = DebouncedTimeline.jobs s
  sleepers : DebouncedTimeline.sleepers next = DebouncedTimeline.sleepers s
  state : s.state.Idle next.state

namespace Undisturbed

/-- Doing nothing disturbs no work. -/
theorem refl (s : Session ω) : s.Undisturbed s := ⟨rfl, rfl, ⟨rfl, rfl, rfl, rfl⟩⟩

/-- What disturbs no work can go on. -/
theorem trans {s mid next : Session ω} (first : s.Undisturbed mid) (second : mid.Undisturbed next) :
    s.Undisturbed next :=
  ⟨second.jobs.trans first.jobs, second.sleepers.trans first.sleepers,
    first.state.trans second.state⟩

end Undisturbed

/-- A change of the workspace in which nothing happens to its work disturbs none. -/
theorem undisturbed_modify (s : Session ω) {change : Workspace ω → Workspace ω}
    (idle : s.state.Idle (change s.state)) : s.Undisturbed (s.modify change : Session ω) :=
  ⟨rfl, rfl, idle⟩

variable [World ω]

/-- A delayed update disturbs no work when its turn comes. -/
theorem undisturbed_delayed {s next : Session ω}
    (jobs : DebouncedTimeline.jobs next = DebouncedTimeline.jobs s)
    (sleepers : DebouncedTimeline.sleepers next = DebouncedTimeline.sleepers s)
    (state : next.state = s.state ∨ ∃ update : Update, next.state = update.apply s.state) :
    s.Undisturbed next := by
  refine ⟨jobs, sleepers, ?_⟩
  -- Nothing changes, or an update is applied, which only concerns settings.
  rcases state with same | ⟨update, same⟩
  · rw [same]
    exact ⟨rfl, rfl, rfl, rfl⟩
  · rw [same]
    exact (Workspace.calm_apply update s.state).idle

/-- Telling someone about a change of a setting disturbs no work. -/
theorem undisturbed_notify (key : String) (value : Json.Value) (s : Session ω)
    (subscription : Subscription) : s.Undisturbed (s.notify key value subscription) := by
  unfold notify
  dsimp only
  -- Nobody is told, the update is applied at once, or it is asked for with a delay.
  split
  · exact undisturbed_modify s (Workspace.calm_apply _ s.state).idle
  · split
    · split
      · -- An earlier update is dropped, and the new one takes effect or waits in its place.
        obtain ⟨jobs, sleepers⟩ := DebouncedTimeline.others_call Update.apply _ key _ s
        refine ⟨jobs, sleepers, ?_⟩
        unfold DebouncedTimeline.call
        split
        · exact (Workspace.calm_apply _ s.state).idle
        · exact ⟨rfl, rfl, rfl, rfl⟩
      · exact .refl s
    · exact .refl s

/-- Setting a setting disturbs no work. -/
theorem undisturbed_set (key : String) (value : Json.Value) (s : Session ω) :
    s.Undisturbed (s.set key value) := by
  unfold set
  dsimp only
  have stored : s.Undisturbed (s.modify fun w => { w with store := (s.state.store.set key value).1 } :
      Session ω) := undisturbed_modify s ⟨rfl, rfl, rfl, rfl⟩
  generalize (s.modify fun w => { w with store := (s.state.store.set key value).1 } :
    Session ω) = next at stored
  -- Those who are told about the change are told one by one.
  induction (s.state.store.set key value).2 generalizing next with
  | nil => exact stored
  | cons subscription rest ih =>
    exact ih _ (stored.trans (undisturbed_notify key value next subscription))

/-- Whether a call is about settings, documents or the world, so that it asks for no work. -/
def Call.IsIdle : Call ω → Prop
  | .command _ | .saved _ | .chain .. | .single .. => False
  | _ => True

/-- A call that asks for no work disturbs none. -/
theorem undisturbed_answer (s : Session ω) (call : Call ω) (idle : call.IsIdle) :
    s.Undisturbed (s.answer call) := by
  cases call with
  | set key value => exact undisturbed_set key value s
  | toggle key => exact undisturbed_set key _ s
  | openDocument | edit | world => exact ⟨rfl, rfl, ⟨rfl, rfl, rfl, rfl⟩⟩
  -- The tile may be drawn again, but work is left alone.
  | closeDocument id =>
    have closed := (Workspace.calm_documentClosed
      { s.state with documents := s.state.documents.close id } id).1.idle
    exact ⟨rfl, rfl, ⟨closed.entries, closed.numbered, closed.finished, closed.spawns⟩⟩
  | changeScope document inScope =>
    simp only [answer, changeScope]
    -- Whether someone is told of the change makes no difference to work.
    split
    next changed _ =>
      have told := (Workspace.calm_scopeChanged (s.changeDocument document fun document =>
        { document with inScope := inScope }).state changed).1.idle
      exact ⟨rfl, rfl, ⟨told.entries, told.numbered, told.finished, told.spawns⟩⟩
    next => exact ⟨rfl, rfl, ⟨rfl, rfl, rfl, rfl⟩⟩
  | activate id =>
    simp only [answer, activateDocument]
    split
    next => exact .refl s
    next documents _ =>
      have shown := (Workspace.calm_activeChanged { s.state with documents := documents }
        documents.active?).1.idle
      exact ⟨rfl, rfl, ⟨shown.entries, shown.numbered, shown.finished, shown.spawns⟩⟩
  | command | saved | chain | single => exact idle.elim

/-- Whether a call asks for chains with formatters only. -/
def Call.HasFormatters : Call ω → Prop
  | .chain _ names _ => names ≠ []
  | _ => True

/-- A call asks for one piece of work, or it disturbs none. -/
theorem answer_asks (s : Session ω) (call : Call ω) :
    (∃ t errand, s.Undisturbed t ∧ s.answer call = (Session.spawn errand t).1 ∧
      (∀ number, (errand number).number = number) ∧
      (call.HasFormatters → ∀ number, (errand number).HasFormatters)) ∨
    s.Undisturbed (s.answer call) := by
  cases call with
  | set | toggle => exact .inr (undisturbed_answer s _ trivial)
  | command name =>
    have logged : s.Undisturbed (s.modify (·.debug ("Command: " ++ name)) : Session ω) :=
      undisturbed_modify s (Workspace.Calm.of_onlySays (Workspace.onlySays_debug _ _)).idle
    simp only [answer, command]
    -- A command formats, turns a switch over, runs one formatter, or is unknown.
    split
    · exact .inl ⟨_, .formatActive, logged, rfl, fun _ => rfl, fun _ _ => by simp [Errand.HasFormatters]⟩
    · split
      · exact .inr (logged.trans (undisturbed_set _ _ _))
      · split
        · exact .inr logged
        next formatter found =>
          split
          · exact .inl ⟨_, (.runOnActive · formatter), logged, rfl, fun _ => rfl,
              fun _ _ => by simp [Errand.HasFormatters]⟩
          · exact .inr logged
  | saved document =>
    simp only [answer, documentSaved]
    -- A document that was saved is formatted if it is watched.
    split
    · split
      · exact .inl ⟨s, (.formatSaved · document), .refl s, rfl, fun _ => rfl,
          fun _ _ => by simp [Errand.HasFormatters]⟩
      · exact .inr (.refl s)
    · exact .inr (.refl s)
  | chain document names mode =>
    refine .inl ⟨s, (.chain · document names mode), .refl s, rfl, fun _ => rfl, fun formatters _ => ?_⟩
    -- The chain is the one that was asked for, with the formatters of the call.
    rintro _ _ _ _ ⟨⟩
    exact formatters
  | single formatter document mode =>
    exact .inl ⟨s, (.single · formatter document mode), .refl s, rfl, fun _ => rfl,
      fun _ _ => by simp [Errand.HasFormatters]⟩
  | openDocument | edit | closeDocument | changeScope | activate | world =>
    exact .inr (undisturbed_answer s _ trivial)

/-! ## Runs -/

/-- What is done in a move, with the numbers of the work that does it. -/
def deedsBy (s : Session ω) : Move ω → List (Nat × Deed)
  -- Delayed updates are no work, and calls only ask for work.
  | .turn (.start (.other errand)) =>
    (Workspace.errandDeeds s.clock errand s.state).map (errand.number, ·)
  | .turn (.wake now (.other sleeper)) =>
    (Workspace.wakeDeeds now sleeper s.state).map (sleeper.number, ·)
  | _ => []

/-- The number of the work whose turn it is. -/
def numberOf? : Turn (Work Update Errand) (Work Update Sleeper) → Option Nat
  | .start (.other errand) => some errand.number
  | .wake _ (.other sleeper) => some sleeper.number
  | .start (.delayed _) | .wake _ (.delayed _) | .pass => none

/-- What is done in a turn is noted with the number of the work whose turn it is. -/
theorem deedsBy_turn (s : Session ω) (turn : Turn (Work Update Errand) (Work Update Sleeper)) :
    (∃ number, numberOf? turn = some number ∧
      s.deedsBy (.turn turn) = (s.turnDeeds turn).map (number, ·)) ∨
    (numberOf? turn = none ∧ s.deedsBy (.turn turn) = [] ∧ s.turnDeeds turn = []) := by
  -- A delayed update has no number, and neither has time that passes.
  cases turn with
  | start work =>
    cases work with
    | delayed entry => exact .inr ⟨rfl, rfl, rfl⟩
    | other errand => exact .inl ⟨errand.number, rfl, rfl⟩
  | wake now work =>
    cases work with
    | delayed entry => exact .inr ⟨rfl, rfl, rfl⟩
    | other sleeper => exact .inl ⟨sleeper.number, rfl, rfl⟩
  | pass => exact .inr ⟨rfl, rfl, rfl⟩

omit [World ω] in
/-- A turn of a delayed update, or of nobody, is the turn of no work. -/
theorem numberOf?_idle {turn : Turn (Work Update Errand) (Work Update Sleeper)}
    (noJob : ∀ errand, turn ≠ .start (.other errand))
    (noSleeper : ∀ now sleeper, turn ≠ .wake now (.other sleeper)) : numberOf? turn = none := by
  -- The two kinds of turns with a number are those that are ruled out.
  unfold numberOf?
  split
  next errand => exact absurd rfl (noJob errand)
  next now sleeper => exact absurd rfl (noSleeper now sleeper)
  · rfl
  · rfl
  · rfl

/-- Without work whose turn it is nothing is done. -/
theorem deedsBy_of_none {s : Session ω} {turn : Turn (Work Update Errand) (Work Update Sleeper)}
    (none : numberOf? turn = none) : s.deedsBy (.turn turn) = [] := by
  rcases s.deedsBy_turn turn with ⟨number, own, -⟩ | ⟨-, nothing, -⟩
  · rw [none] at own
    cases own
  · exact nothing

/-- What is noted of a turn is what is done in it. -/
theorem map_snd_deedsBy (s : Session ω) (turn : Turn (Work Update Errand) (Work Update Sleeper)) :
    (s.deedsBy (.turn turn)).map (·.2) = s.turnDeeds turn := by
  rcases s.deedsBy_turn turn with ⟨number, -, noted⟩ | ⟨-, nothing, idle⟩
  · simp [noted, Function.comp_def]
  · rw [nothing, idle, List.map_nil]

/-- A call starts no process. -/
theorem spawns_answer (s : Session ω) (call : Call ω) :
    (s.answer call).state.outlet.spawns = s.state.outlet.spawns := by
  rcases answer_asks s call with ⟨t, errand, same, spawned, -⟩ | same
  · rw [spawned]
    exact same.state.spawns
  · exact same.state.spawns

/-- The processes that are started in a turn are those that are noted of it. -/
theorem spawns_takes {s next : Session ω} {turn : Turn (Work Update Errand) (Work Update Sleeper)}
    (taken : DebouncedTimeline.Takes machine s turn next) : next.state.outlet.spawns =
      s.state.outlet.spawns ++ (s.deedsBy (.turn turn)).filterMap (·.2.spawn?) := by
  have noted : (s.deedsBy (.turn turn)).filterMap (·.2.spawn?) =
      (s.turnDeeds turn).filterMap Deed.spawn? := by
    rw [← map_snd_deedsBy, List.filterMap_map]
    rfl
  -- Each kind of turn starts exactly the processes that its deeds tell of.
  rcases DebouncedTimeline.takes_cases taken with
    ⟨errand, rest, rfl, -, -, -, state⟩ | ⟨now, sleeper, rest, rfl, -, -, -, state⟩ |
    ⟨noJob, noSleeper, jobs, sleepers, state⟩
  · rw [noted, state]
    exact (Workspace.effect_startErrand s.clock errand s.state).spawns
  · rw [noted, state]
    exact (Workspace.effect_wakeSleeper now sleeper s.state).spawns
  -- An update starts no process.
  · rw [deedsBy_of_none (numberOf?_idle noJob noSleeper), List.filterMap_nil, List.append_nil]
    exact (undisturbed_delayed jobs sleepers state).state.spawns

/-- The processes that are started in a run are those that are noted of it. -/
theorem spawns_run {moves : Session ω → Move ω → Session ω → Prop}
    (moved : ∀ {s move next}, moves s move next → Moves s move next) {outlet : Outlet}
    {start s : Session ω} {early history : List (Nat × Deed)}
    (begun : start.state.outlet.spawns = outlet.spawns ++ early.filterMap (·.2.spawn?))
    (ran : Run moves deedsBy early start history s) :
    s.state.outlet.spawns = outlet.spawns ++ history.filterMap (·.2.spawn?) := by
  -- The induction is on the run; calls start no process, and turns start those that are noted.
  induction ran with
  | start => exact begun
  | @move history s next move before last ih =>
    rw [List.filterMap_append, ← List.append_assoc, ← ih]
    cases moved last with
    | call call => exact (spawns_answer s call).trans (List.append_nil _).symm
    | turn taken => exact spawns_takes taken

/-- A move after which only chains with formatters are asked for. -/
def ChainMoves (s : Session ω) (move : Move ω) (next : Session ω) : Prop :=
  Moves s move next ∧ ∀ call, move = .call call → call.HasFormatters

/-- All work of a session is orderly, and every process that was started belongs to it. -/
structure IsOrderly (first : Session ω) (history : List (Nat × Deed)) (s : Session ω) : Prop where
  orderly : Orderly s.pieces history s.state
  formatters : ∀ errand ∈ DebouncedTimeline.jobs s, errand.HasFormatters
  spawns : s.state.outlet.spawns =
    first.state.outlet.spawns ++ history.filterMap (·.2.spawn?)

namespace IsOrderly

variable {first s next : Session ω} {history : List (Nat × Deed)}

omit [World ω] in
/-- Work that is not disturbed stays orderly. -/
theorem undisturbed (current : IsOrderly first history s) (same : s.Undisturbed next) :
    IsOrderly first history next where
  -- Pieces are made of jobs and sleepers, and those are the same.
  orderly := by
    have pieces : next.pieces = s.pieces := by
      simp only [pieces, same.jobs, same.sleepers]
    rw [pieces]
    exact current.orderly.idle same.state
  formatters := by
    rw [same.jobs]
    exact current.formatters
  spawns := same.state.spawns.trans current.spawns

omit [World ω] in
/-- Work that is asked for is orderly. -/
theorem spawn (current : IsOrderly first history s) {errand : Nat → Errand}
    (asked : ∀ number, (errand number).number = number ∧ (errand number).HasFormatters) :
    IsOrderly first history (Session.spawn errand s).1 := by
  have jobs : DebouncedTimeline.jobs (Session.spawn errand s).1 =
      DebouncedTimeline.jobs s ++ [errand s.state.numbered] :=
    DebouncedTimeline.jobs_spawn _ _
  refine ⟨?_, ?_, current.spawns⟩
  · -- The new job stands behind the others, which makes no difference.
    have piece : (errand s.state.numbered).piece = ⟨s.state.numbered, [], 0, false⟩ := by
      rw [Errand.piece, (asked _).1]
    have pieces : (Session.spawn errand s).1.pieces =
        (DebouncedTimeline.jobs s).map Errand.piece ++
          ⟨s.state.numbered, [], 0, false⟩ :: (DebouncedTimeline.sleepers s).map Sleeper.piece := by
      rw [Session.pieces, jobs, ← piece]
      simp only [List.map_append, List.append_assoc]
      rfl
    rw [pieces]
    exact current.orderly.ask.perm List.perm_middle.symm
  · rw [jobs]
    intro job member
    rcases List.mem_append.mp member with earlier | last
    · exact current.formatters job earlier
    · rw [List.mem_singleton.mp last]
      exact (asked _).2

/-- Calls keep work orderly. -/
theorem answer (current : IsOrderly first history s) {call : Call ω}
    (formatters : call.HasFormatters) : IsOrderly first history (s.answer call) := by
  rcases answer_asks s call with ⟨t, errand, same, spawned, asked, proper⟩ | same
  · rw [spawned]
    exact (current.undisturbed same).spawn fun number => ⟨asked number, proper formatters number⟩
  · exact current.undisturbed same

/-- Turns keep work orderly. -/
theorem takes (current : IsOrderly first history s)
    {turn : Turn (Work Update Errand) (Work Update Sleeper)}
    (taken : DebouncedTimeline.Takes machine s turn next) :
    IsOrderly first (history ++ s.deedsBy (.turn turn)) next := by
  -- The processes of the turn come behind those of the history.
  have spawns : next.state.outlet.spawns = first.state.outlet.spawns ++
      (history ++ s.deedsBy (.turn turn)).filterMap (·.2.spawn?) := by
    rw [spawns_takes taken, current.spawns, List.filterMap_append, List.append_assoc]
  rcases DebouncedTimeline.takes_cases taken with
    ⟨errand, rest, rfl, queued, jobs, sleepers, state⟩ |
    ⟨now, sleeper, rest, rfl, asleep, jobs, sleepers, state⟩ |
    ⟨noJob, noSleeper, jobs, sleepers, state⟩
  · -- An errand begins.
    have proper := current.formatters errand (queued.mem_iff.mpr List.mem_cons_self)
    have effect := Workspace.effect_startErrand s.clock errand s.state
    have goes := Workspace.goesOn_startErrand s.clock errand s.state proper
    have before : s.pieces.Perm (errand.piece ::
        (rest.map Errand.piece ++ (DebouncedTimeline.sleepers s).map Sleeper.piece)) :=
      (queued.map _).append_right _
    have after := (current.orderly.perm before).goesOn goes effect.numbered
    refine ⟨?_, fun job member => ?_, spawns⟩
    · -- The errand gives its place to what sleeps of it, if anything does.
      have same : next.pieces.Perm (rest.map Errand.piece ++
          (((Workspace.startErrand s.clock errand s.state).2.map (·.2)).toList.map Sleeper.piece ++
            (DebouncedTimeline.sleepers s).map Sleeper.piece)) := by
        rw [← List.map_append]
        exact (jobs.map _).append (sleepers.map _)
      rw [state]
      refine after.perm (.trans ?_ same.symm)
      rw [← List.append_assoc, ← List.append_assoc]
      exact List.perm_append_comm.append_right _
    · exact current.formatters job (queued.mem_iff.mpr (List.mem_cons_of_mem _ (jobs.mem_iff.mp member)))
  · -- A process has ended.
    have effect := Workspace.effect_wakeSleeper now sleeper s.state
    have goes := Workspace.goesOn_wakeSleeper now sleeper s.state
    have before : s.pieces.Perm (sleeper.piece ::
        ((DebouncedTimeline.jobs s).map Errand.piece ++ rest.map Sleeper.piece)) :=
      ((asleep.map _).append_left _).trans List.perm_middle
    have after := (current.orderly.perm before).goesOn goes effect.numbered
    rw [sleeper.number_piece] at after
    refine ⟨?_, fun job member => ?_, spawns⟩
    · -- The sleeper gives its place to what sleeps of its work again, if anything does.
      have same : next.pieces.Perm ((DebouncedTimeline.jobs s).map Errand.piece ++
          (((Workspace.wakeSleeper now sleeper s.state).2.map (·.2)).toList.map Sleeper.piece ++
            rest.map Sleeper.piece)) := by
        rw [← List.map_append, Session.pieces, jobs]
        exact (sleepers.map _).append_left _
      rw [state]
      refine after.perm (.trans ?_ same.symm)
      rw [← List.append_assoc, ← List.append_assoc]
      exact List.perm_append_comm.append_right _
    · exact current.formatters job (jobs ▸ member)
  · -- A turn of a delayed update does no work, and it disturbs none.
    rw [deedsBy_of_none (numberOf?_idle noJob noSleeper), List.append_nil]
    exact current.undisturbed (undisturbed_delayed jobs sleepers state)

end IsOrderly

omit [World ω] in
/-- The labels of all waiting work are those of the chains in flight. -/
theorem flatMap_labels_pieces (s : Session ω) :
    s.pieces.flatMap Piece.labels = s.chainsInFlight.flatMap fun (run, name) =>
      [run.label, run.stepLabel name] := by
  -- Nothing is shown of work whose turn has not come.
  have early : ((DebouncedTimeline.jobs s).map Errand.piece).flatMap Piece.labels = [] := by
    simp [List.flatMap_map, Errand.piece]
  rw [pieces, List.flatMap_append, early, List.nil_append, chainsInFlight]
  induction DebouncedTimeline.sleepers s with
  | nil => rfl
  | cons sleeper rest ih =>
    rw [List.map_cons, List.flatMap_cons, ih, sleeper.labels_piece, List.filterMap_cons]
    cases sleeper.chain? <;> simp

/-- A session that was asked for nothing yet. -/
structure Unused (s : Session ω) : Prop where
  jobs : s.ready = []
  sleepers : s.sleeping = []
  entries : s.state.busy.entries = []
  finished : s.state.finished = []

omit [World ω] in
/-- Nothing can be out of order before anything is asked for. -/
theorem Unused.isOrderly {first : Session ω} (unused : first.Unused) : IsOrderly first [] first := by
  -- Without any work there is nothing that could be out of order.
  have jobs : DebouncedTimeline.jobs first = [] := by simp [DebouncedTimeline.jobs, unused.jobs]
  have sleepers : DebouncedTimeline.sleepers first = [] := by
    simp [DebouncedTimeline.sleepers, unused.sleepers]
  have pieces : first.pieces = [] := by simp [pieces, jobs, sleepers]
  have results : ∀ number, first.state.result? number = none := by
    simp [Workspace.result?, unused.finished]
  refine ⟨?_, by simp [jobs], by simp⟩
  rw [pieces]
  exact ⟨by simp [BusySignal.labels, unused.entries], by simp, by simp, by simp, by simp [results],
    fun _ _ _ => rfl, fun number _ => results number⟩

/-- Work stays orderly in every run in which only chains with formatters are asked for. -/
theorem isOrderly_run {first s : Session ω} {history : List (Nat × Deed)} (unused : first.Unused)
    (ran : Run ChainMoves deedsBy [] first history s) : IsOrderly first history s := by
  induction ran with
  | start => exact unused.isOrderly
  | move before moved ih =>
    obtain ⟨moved, formatters⟩ := moved
    -- Calls do nothing yet, and turns do what is noted of them.
    cases moved with
    | call call =>
      have same := ih.answer (formatters call rfl)
      exact (List.append_nil _).symm ▸ same
    | turn taken => exact ih.takes taken

/-- What is shown of chains is what they do, and each of them runs its formatters in order. -/
structure ChainsInOrder (first : Session ω) (history : List (Nat × Deed)) (s : Session ω) : Prop where
  labels : s.state.busy.labels.Perm
    (s.chainsInFlight.flatMap fun (run, name) => [run.label, run.stepLabel name])
  atRest : s.chainsInFlight = [] → s.state.busy.entries = []
  /-- Before the process of a formatter is started, exactly the outcomes before it are known. -/
  inOrder : ∀ number earlier position line stdin later,
    deedsOf number history = earlier ++ .spawned position line stdin :: later →
      ∀ other, .settled other ∈ earlier ↔ other < position
  /-- Every process that was started is in the history. -/
  spawns : s.state.outlet.spawns = first.state.outlet.spawns ++ history.filterMap (·.2.spawn?)
  /-- Chains in flight are not complete, and their outcomes are those that became known. -/
  inFlight : ∀ run name, (run, name) ∈ s.chainsInFlight → s.state.result? run.number = none ∧
    ∀ position, .settled position ∈ deedsOf run.number history ↔ position < run.steps.length
  /-- Work that has done something and is not complete waits for a process. -/
  begun : ∀ number, deedsOf number history ≠ [] → s.state.result? number = none →
    ∃ sleeper ∈ DebouncedTimeline.sleepers s, sleeper.number = number

/-- Chains are in order at any time of a run, however they are interleaved. -/
theorem chainsInOrder_run {first s : Session ω} {history : List (Nat × Deed)} (unused : first.Unused)
    (ran : Run ChainMoves deedsBy [] first history s) : ChainsInOrder first history s := by
  obtain ⟨orderly, -, spawns⟩ := isOrderly_run unused ran
  have labels := orderly.labels
  rw [flatMap_labels_pieces] at labels
  refine ⟨labels, ?_, ?_, spawns, ?_, ?_⟩
  · -- With no chain in flight there is no label left.
    intro nobody
    rw [nobody] at labels
    simpa [BusySignal.labels] using labels
  · -- All that a piece of work ever did was done in order, so also up to any of its deeds.
    intro number earlier position line stdin later same other
    obtain ⟨last, still, progress⟩ := orderly.progress number
    rw [same] at progress
    exact progress.settled_of_spawned other
  · -- A chain in flight sleeps, and it is as far as its deeds have led.
    intro run name flying
    obtain ⟨sleeper, asleep, chain⟩ := List.mem_filterMap.mp flying
    cases sleeper with
    | single number scope flight => simp [Sleeper.chain?] at chain
    | chain run name rest scope flight =>
      cases chain
      have waits := orderly.waits _ (List.mem_append_right _ (List.mem_map_of_mem asleep))
      refine ⟨waits.1, fun position => ?_⟩
      have known : .settled position ∈ deedsOf run.number history ↔
          0 ≤ position ∧ position < run.steps.length := waits.2.settled_mem_iff position
      simpa using known
  · -- Work that is not complete waits, or it has done nothing at all.
    intro number did missing
    by_cases waiting : number ∈ s.pieces.map Piece.number
    · obtain ⟨piece, member, rfl⟩ := List.mem_map.mp waiting
      rcases List.mem_append.mp member with early | asleep
      · -- Before its turn an errand has done nothing.
        obtain ⟨errand, -, rfl⟩ := List.mem_map.mp early
        exact absurd (orderly.waits _ member).2.eq_nil did
      · obtain ⟨sleeper, listed, rfl⟩ := List.mem_map.mp asleep
        exact ⟨sleeper, listed, sleeper.number_piece.symm⟩
    · exact absurd (orderly.untouched number missing waiting) did

/-- A session without settings, whose formatter has a binary. -/
def sampleBeforeChains : Session Scripted.Tables :=
  .ofState (Workspace.sample.calls "black" [.set (.globalBin "black")])

/-- Two chains with the same labels side by side, one of them with a formatter that nobody knows. -/
def sampleChains : Session Scripted.Tables :=
  (((sampleBeforeChains.answer
    (.openDocument (.opened 1 ⟨"/repo/main.py"⟩ none "" ⟨0, 0⟩ true))).answer
    (.chain 0 ["black", "black"] .buffer)).answer (.chain 0 ["missing", "black"] .buffer)).wait 0

/-- The sample's chains are in order while both are in flight. -/
theorem chainsInOrder_sample :
    sampleChains.chainsInFlight.map (·.2) = ["black", "black"] ∧
    ∃ history, ChainsInOrder sampleBeforeChains history sampleChains := by
  have started : Run ChainMoves deedsBy [] sampleBeforeChains [] sampleBeforeChains := .start
  -- Both chains have the same label, and the first one still runs when the second is asked for.
  have asked := ((started.move ⟨.call (.openDocument (.opened 1 ⟨"/repo/main.py"⟩ none "" ⟨0, 0⟩ true)),
    by rintro _ ⟨⟩; trivial⟩).move ⟨.call (.chain 0 ["black", "black"] .buffer),
    by rintro _ ⟨⟩; exact List.cons_ne_nil _ _⟩).move ⟨.call (.chain 0 ["missing", "black"] .buffer),
    by rintro _ ⟨⟩; exact List.cons_ne_nil _ _⟩
  obtain ⟨later, waited⟩ := run_wait (fun taken => ⟨.turn taken, nofun⟩) asked 0
  exact ⟨by decide +kernel, _, chainsInOrder_run ⟨rfl, rfl, by decide +kernel, by decide +kernel⟩ waited⟩

end Session

end FormatPipeline
