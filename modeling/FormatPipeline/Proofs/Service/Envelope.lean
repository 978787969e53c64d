import FormatPipeline.Proofs.Session.Telling
import FormatPipeline.Proofs.Workspace.Steps

/-! A service from its first message to its last one: when it ends, all work is done and nothing is shown. -/

namespace FormatPipeline

open Schedule (DebouncedTimeline Timeline Turn Work)

/-- A chain that begins. -/
structure Beginning where
  number : Nat
  document : Handle
  /-- The formatters that are to run, in their order. -/
  names : List String
  mode : Mode
  deriving DecidableEq, Repr

namespace Session

variable {ω : Type} [World ω] {first s next : Session ω}

/-! ## Chains that have begun -/

omit [World ω] in
/-- The chain that begins in a turn, if one does. -/
def begins (s : Session ω) (turn : Turn (Work Update Errand) (Work Update Sleeper)) : List Beginning :=
  ((errand? turn).bind fun errand => (s.state.chainOf? errand).map fun (document, names, mode) =>
    ⟨errand.number, document, names, mode⟩).toList

/-- A chain has a step for each of its formatters, or it waits with those before it. -/
def Pursues (s : Session ω) (chain : Beginning) : Prop :=
  -- The steps come in the order of the names, whether all of them are over or not.
  (∃ steps, s.state.result? chain.number = some (.chain steps) ∧
    steps.map (·.name) = chain.names) ∨
  ∃ run name rest scope flight, .chain run name rest scope flight ∈ DebouncedTimeline.sleepers s ∧
    run.number = chain.number ∧ run.steps.reverse.map (·.name) ++ name :: rest = chain.names

omit [World ω] in
/-- Where no work is disturbed, chains are pursued as before. -/
theorem Pursues.undisturbed {chain : Beginning} (pursues : s.Pursues chain) (same : s.Undisturbed next) :
    next.Pursues chain := by
  unfold Pursues Workspace.result? at pursues ⊢
  rw [same.state.finished, same.sleepers]
  exact pursues

omit [World ω] in
/-- What a chain passes in a turn is part of what it is to run. -/
theorem pursues_of_passes {chain : Beginning} {run : ChainRun} {earlier : List (Nat × Result)}
    {names : List String} {passed : List ChainStep} {outcome : Workspace ω × Option (Nat × Sleeper)}
    (passes : run.Passes earlier names passed outcome) (state : next.state = outcome.1)
    (asleep : ∀ sleeper ∈ outcome.2.map (·.2), sleeper ∈ DebouncedTimeline.sleepers next)
    (number : run.number = chain.number)
    (listed : run.steps.reverse.map (·.name) ++ names = chain.names) : next.Pursues chain := by
  cases passes with
  | @complete later all finished =>
    refine .inl ⟨run.steps.reverse ++ passed, ?_, by rw [List.map_append, all, listed]⟩
    rw [state, Workspace.result?, finished, number]
    simp
  | @waits later waiting name rest delay scope flight same upTo finished =>
    refine .inr ⟨waiting, name, rest, scope, flight, asleep _ (by simp), by rw [same, number], ?_⟩
    -- The steps of the turn stand between those before it and the next formatter.
    rw [← listed, ← upTo, same]
    simp

omit [World ω] in
/-- Work that goes on leaves the results of other work. -/
theorem result?_of_goesOn {w : Workspace ω} {piece : Piece} {deeds : List Deed}
    {outcome : Workspace ω × Option (Nat × Sleeper)} (goes : w.GoesOn piece deeds outcome)
    (missing : w.result? piece.number = none) {number : Nat} {result : Result}
    (kept : w.result? number = some result) : outcome.1.result? number = some result := by
  obtain ⟨later, waiting⟩ := outcome
  -- The only new result can be that of the work that goes on, which had none.
  cases waiting with
  | none =>
    obtain ⟨own, finished, -⟩ := goes.completes rfl
    have other : number ≠ piece.number := by
      rintro rfl
      cases kept.symm.trans missing
    rw [Workspace.result?_of_finished finished, if_neg other]
    exact kept
  | some entry =>
    obtain ⟨-, finished, -⟩ := goes.waits entry.1 entry.2 rfl
    rw [Workspace.result?, finished]
    exact kept

/-- Chains are pursued in every turn. -/
theorem Pursues.takes {history : List (Nat × Deed)} {chain : Beginning} (pursues : s.Pursues chain)
    (current : IsOrderly first history s) {turn : Turn (Work Update Errand) (Work Update Sleeper)}
    (taken : DebouncedTimeline.Takes machine s turn next) : next.Pursues chain := by
  rcases DebouncedTimeline.takes_cases taken with
    ⟨errand, rest, rfl, queued, jobs, sleepers, state⟩ |
    ⟨now, sleeper, rest, rfl, asleep, jobs, sleepers, state⟩ |
    ⟨-, -, jobs, sleepers, state⟩
  · -- An errand that begins wakes nobody.
    have listed : errand ∈ DebouncedTimeline.jobs s := queued.mem_iff.mpr List.mem_cons_self
    have goes := Workspace.goesOn_startErrand s.clock errand s.state (current.formatters errand listed)
    have missing := (current.orderly.waits errand.piece
      (List.mem_append_left _ (List.mem_map_of_mem listed))).1
    rcases pursues with ⟨steps, kept, all⟩ | ⟨run, name, left, scope, flight, member, own⟩
    · refine .inl ⟨steps, ?_, all⟩
      rw [state]
      exact result?_of_goesOn goes missing kept
    · exact .inr ⟨run, name, left, scope, flight,
        sleepers.mem_iff.mpr (List.mem_append_right _ member), own⟩
  · have listed : sleeper ∈ DebouncedTimeline.sleepers s := asleep.mem_iff.mpr List.mem_cons_self
    have goes := Workspace.goesOn_wakeSleeper now sleeper s.state
    have missing := (current.orderly.waits sleeper.piece
      (List.mem_append_right _ (List.mem_map_of_mem listed))).1
    rcases pursues with ⟨steps, kept, all⟩ | ⟨run, name, left, scope, flight, member, number, own⟩
    · refine .inl ⟨steps, ?_, all⟩
      rw [state]
      exact result?_of_goesOn goes missing kept
    · rcases List.mem_cons.mp (asleep.mem_iff.mp member) with rfl | others
      · -- The chain itself goes on with the formatter that it waited for.
        obtain ⟨passed, passes, -⟩ :=
          Workspace.passes_wakeSleeper now run name left scope flight s.state
        refine pursues_of_passes passes state (fun sleeper awake => ?_) number own
        exact sleepers.mem_iff.mpr (List.mem_append_left _ (Option.mem_toList.mpr awake))
      · exact .inr ⟨run, name, left, scope, flight,
          sleepers.mem_iff.mpr (List.mem_append_right _ others), number, own⟩
  · exact pursues.undisturbed (undisturbed_delayed jobs sleepers state)

/-- A chain is pursued from its beginning on. -/
theorem pursues_begins {history : List (Nat × Deed)} (current : IsOrderly first history s)
    {turn : Turn (Work Update Errand) (Work Update Sleeper)}
    (taken : DebouncedTimeline.Takes machine s turn next) {chain : Beginning} (begun : chain ∈ s.begins turn) :
    next.Pursues chain := by
  -- What begins in a turn is the chain of the errand that is started.
  simp only [begins, Option.mem_toList, Option.bind_eq_some_iff,
    Option.map_eq_some_iff] at begun
  obtain ⟨errand, starts, ⟨document, names, mode⟩, found, rfl⟩ := begun
  obtain rfl := eq_of_errand? starts
  rcases DebouncedTimeline.takes_cases taken with
    ⟨job, rest, turn, queued, -, sleepers, state⟩ | ⟨_, _, _, turn, -⟩ | ⟨noJob, -⟩
  · cases turn
    -- The chain has formatters, so that it passes some of them and then waits or is over.
    have proper := current.formatters errand (queued.mem_iff.mpr List.mem_cons_self)
    obtain ⟨passed, passes, -⟩ := Workspace.passes_startErrand s.clock found
      (Workspace.names_ne_nil found proper)
    refine pursues_of_passes passes state (fun sleeper awake => ?_) rfl (by simp [Workspace.chainRun])
    exact sleepers.mem_iff.mpr (List.mem_append_left _ (Option.mem_toList.mpr awake))
  · cases turn
  · exact absurd rfl (noJob errand)

/-! ## Work that waits -/

/-- Whatever waits after a turn has waited before under its number. -/
theorem numbers_takes {history : List (Nat × Deed)} (current : IsOrderly first history s)
    {turn : Turn (Work Update Errand) (Work Update Sleeper)}
    (taken : DebouncedTimeline.Takes machine s turn next) :
    ∀ piece ∈ next.pieces, ∃ other ∈ s.pieces, other.number = piece.number := by
  intro piece member
  rcases DebouncedTimeline.takes_cases taken with
    ⟨errand, rest, rfl, queued, jobs, sleepers, -⟩ |
    ⟨now, sleeper, rest, rfl, asleep, jobs, sleepers, -⟩ |
    ⟨-, -, jobs, sleepers, -⟩
  · have listed : errand ∈ DebouncedTimeline.jobs s := queued.mem_iff.mpr List.mem_cons_self
    have goes := Workspace.goesOn_startErrand s.clock errand s.state (current.formatters errand listed)
    rcases List.mem_append.mp member with early | late
    · obtain ⟨job, left, rfl⟩ := List.mem_map.mp early
      have queued := queued.mem_iff.mpr (List.mem_cons_of_mem _ (jobs.mem_iff.mp left))
      exact ⟨_, List.mem_append_left _ (List.mem_map_of_mem queued), rfl⟩
    · obtain ⟨sleeper, left, rfl⟩ := List.mem_map.mp late
      rcases List.mem_append.mp (sleepers.mem_iff.mp left) with new | old
      · -- What sleeps of the errand has its number.
        obtain ⟨⟨delay, _⟩, waits, rfl⟩ := Option.map_eq_some_iff.mp (Option.mem_toList.mp new)
        exact ⟨_, List.mem_append_left _ (List.mem_map_of_mem listed), (goes.waits _ _ waits).1.symm⟩
      · exact ⟨_, List.mem_append_right _ (List.mem_map_of_mem old), rfl⟩
  · have listed : sleeper ∈ DebouncedTimeline.sleepers s := asleep.mem_iff.mpr List.mem_cons_self
    -- A sleeper that goes on sleeping keeps its number as well.
    have goes := Workspace.goesOn_wakeSleeper now sleeper s.state
    rcases List.mem_append.mp member with early | late
    · exact ⟨piece, List.mem_append_left _ (jobs ▸ early), rfl⟩
    · obtain ⟨other, left, rfl⟩ := List.mem_map.mp late
      rcases List.mem_append.mp (sleepers.mem_iff.mp left) with new | old
      · obtain ⟨⟨delay, _⟩, waits, rfl⟩ := Option.map_eq_some_iff.mp (Option.mem_toList.mp new)
        exact ⟨_, List.mem_append_right _ (List.mem_map_of_mem listed), (goes.waits _ _ waits).1.symm⟩
      · have asleep := asleep.mem_iff.mpr (List.mem_cons_of_mem _ old)
        exact ⟨_, List.mem_append_right _ (List.mem_map_of_mem asleep), rfl⟩
  -- When time passes, no piece of work changes.
  · refine ⟨piece, ?_, rfl⟩
    rw [pieces, jobs, sleepers] at member
    exact member

omit [World ω] in
/-- Work that is asked for is all that waits more. -/
theorem mem_pieces_spawn {errand : Nat → Errand} {piece : Piece}
    (member : piece ∈ (Session.spawn errand s).1.pieces) :
    piece ∈ s.pieces ∨ piece = (errand s.state.numbered).piece := by
  -- The jobs are listed before the sleepers, and the new one is the last of them.
  rw [pieces, jobs_spawn, List.map_append, List.append_assoc] at member
  rcases List.mem_append.mp member with early | late
  · exact .inl (List.mem_append_left _ early)
  · rcases List.mem_cons.mp late with new | asleep
    · exact .inr new
    · exact .inl (List.mem_append_right _ asleep)

omit [World ω] in
/-- Where nothing waits at all, no work does. -/
theorem pieces_of_idle (ready : s.ready = []) (sleeping : s.sleeping = []) : s.pieces = [] := by
  simp [pieces, DebouncedTimeline.jobs, DebouncedTimeline.sleepers, ready, sleeping]

/-- Where nothing is left to do, no work waits. -/
theorem pieces_of_stuck (stuck : DebouncedTimeline.step machine none s = none) : s.pieces = [] :=
  let ⟨ready, sleeping⟩ := DebouncedTimeline.step_eq_none_iff.mp stuck
  pieces_of_idle ready sleeping

omit [World ω] in
/-- Where no work waits, delayed updates are all that is left in the end. -/
theorem waiting_stop (idle : s.pieces = []) : s.stop.ready = [] ∧ s.stop.sleeping = [] := by
  obtain ⟨jobs, sleepers⟩ := List.append_eq_nil_iff.mp idle
  rw [List.map_eq_nil_iff] at jobs sleepers
  -- Other work is there neither before nor after the delayed updates are forgotten.
  have others := DebouncedTimeline.others_cancelAll s.unobserveAll
  have forgotten := DebouncedTimeline.pending_cancelAll s.unobserveAll
  exact DebouncedTimeline.idle_of_others (others.1.trans jobs) (others.2.trans sleepers) forgotten

end Session

namespace Service

variable {ω : Type} [World ω] {first : Session ω} {service next : Service ω}

/-! ## Moves -/

/-- The chains that begin in a move. -/
def begins (service : Service ω) : Move → List Beginning
  | .turn turn => service.session.begins turn
  | .message _ | .skip _ => []

/-- Chains are pursued in every move. -/
theorem pursues_moves {history : List (Nat × Deed)} {chain : Beginning}
    (pursues : service.session.Pursues chain)
    (current : Session.IsOrderly first history service.session) {move : Move}
    (moved : Moves service move next) : next.session.Pursues chain := by
  cases moved with
  | message message =>
    rw [session_answer]
    have taken := service.takesUp_handle message
    generalize service.asks? message = errand at taken
    generalize (service.handle message).1 = later at taken ⊢
    cases taken with
    | errand same =>
      -- Work that is asked for sleeps later, and it has no result yet.
      have kept := pursues.undisturbed same
      exact kept
    | nothing same => exact pursues.undisturbed same
  | skip text => exact pursues.undisturbed (service.undisturbed_warn text)
  | turn taken => exact pursues.takes current taken

/-- All work that waits is remembered by the service. -/
def Remembers (service : Service ω) : Prop :=
  ∀ piece ∈ service.session.pieces, piece.number ∈ service.chains

/-- Moves keep all work remembered that waits. -/
theorem remembers_moves {before after : List (Nat × Deed)} (remembers : service.Remembers)
    (current : Session.IsOrderly first before service.session) {move : Move}
    (moved : Moves service move next) (later : Session.IsOrderly first after next.session) :
    next.Remembers := by
  cases moved with
  | message message =>
    rw [session_answer] at later
    have given : (service.handle message).1.Remembers := by
      have taken := service.takesUp_handle message
      generalize asked : service.asks? message = errand at taken
      generalize (service.handle message).1 = later at taken ⊢
      cases taken with
      | @errand errand s same =>
        -- The new errand is remembered behind all others.
        intro piece member
        have old : ∀ piece ∈ s.pieces, piece.number ∈ service.chains := by
          rw [Session.pieces, same.jobs, same.sleepers]
          exact remembers
        rcases Session.mem_pieces_spawn member with waits | rfl
        · exact List.mem_append_left _ (old piece waits)
        · refine List.mem_append_right _ (List.mem_singleton.mpr ?_)
          exact (number_of_asks? asked _).1
      | nothing same chains =>
        -- The message begins nothing, so all work is old work.
        intro piece member
        rw [chains]
        rw [Session.pieces, same.jobs, same.sleepers] at member
        exact remembers piece member
    unfold answer
    generalize service.handle message = outcome at given later ⊢
    obtain ⟨next, goesOn⟩ := outcome
    cases goesOn with
    | true =>
      -- Only chains with a result are forgotten, and work that waits has none.
      intro piece member
      have missing := (later.orderly.waits piece member).1
      exact List.mem_filter.mpr ⟨given piece member, by simpa [isRunning] using missing⟩
    | false => exact given
  | skip text => exact remembers
  | turn taken =>
    intro piece member
    obtain ⟨other, waited, same⟩ := Session.numbers_takes current taken piece member
    exact same ▸ remembers other waited

/-- Moves tell the editor something or nothing. -/
theorem talks_moves {move : Move} (moved : Moves service move next) :
    service.session.state.Talks next.session.state := by
  cases moved with
  | message message =>
    rw [session_answer]
    -- A message is made of calls and of texts for the log.
    exact (service.serves_handle message).keeps (fun s => service.session.state.Talks s.state)
      (fun importance text before => before.trans (Workspace.reports_log _ importance text).talks)
      (fun _ before => before.trans (Session.talks_answer _ _)) (.of_same rfl rfl)
  | skip text => exact (Workspace.reports_log _ .warn _).talks
  | turn taken => exact Session.talks_takes taken

/-! ## The run -/

section Run

variable {ν : Type} {notes : Service ω → Move → List ν} {told noted : List ν} {profiles : List Profile}
  {delay : Nat}

/-- What is told in a run is told after what was told before. -/
theorem talks_run {start : Service ω} (ran : Run Moves notes told start noted service) :
    start.session.state.Talks service.session.state := by
  induction ran with
  | start => exact .of_same rfl rfl
  | move before moved ih => exact ih.trans (talks_moves moved)

/-- Work is orderly in a run, whatever is noted of it. -/
theorem exists_isOrderly (unused : first.Unused)
    (ran : Run Moves notes told ⟨first.start profiles delay, []⟩ noted service) :
    ∃ history, Session.IsOrderly (first.start profiles delay) history service.session := by
  obtain ⟨history, ordered⟩ := ran.noting deeds []
  exact ⟨history, isOrderly_run unused ordered⟩

/-- Every chain that has begun in a run is pursued. -/
theorem pursues_run {begun : List Beginning} (unused : first.Unused)
    (ran : Run Moves begins [] ⟨first.start profiles delay, []⟩ begun service) :
    ∀ chain ∈ begun, service.session.Pursues chain := by
  induction ran with
  | start => simp
  | @move begun service next move before moved ih =>
    obtain ⟨history, current⟩ := exists_isOrderly unused before
    intro chain member
    rcases List.mem_append.mp member with early | late
    · exact pursues_moves (ih chain early) current moved
    · -- Chains begin in turns only.
      cases moved with
      | turn taken => exact Session.pursues_begins current taken late
      | message | skip => cases late

/-- All work that waits is remembered at any time of a run. -/
theorem remembers_run (unused : first.Unused)
    (ran : Run Moves notes told ⟨first.start profiles delay, []⟩ noted service) :
    service.Remembers := by
  -- The induction is on the run; a message both asks for work and remembers it.
  induction ran with
  | start =>
    have started := unused.start profiles delay
    intro piece member
    rw [Session.pieces_of_idle started.jobs started.sleepers] at member
    cases member
  | move before moved ih =>
    obtain ⟨history, current⟩ := exists_isOrderly unused before
    obtain ⟨after, later⟩ := exists_isOrderly unused (before.move moved)
    exact remembers_moves ih current moved later

/-! ## The end -/

/-- Letting time pass up to some moment is a number of moves. -/
theorem run_steps {start : Service ω} (ran : Run Moves notes told start noted service)
    (limit : Option Nat) (continues : Workspace ω → Bool) :
    ∃ later, Run Moves notes told start later
      { service with session := service.session.run Session.machine limit continues } := by
  -- What is kept from step to step is that some list of moves leads to the session.
  let reached (s : Session ω) : Prop :=
    ∃ later, Run Moves notes told start later { service with session := s }
  have kept : ∀ {t next}, reached t → DebouncedTimeline.step Session.machine limit t = some next →
      reached next := by
    rintro t next ⟨later, ran⟩ stepped
    exact ⟨_, ran.move (.turn (DebouncedTimeline.takes_of_step stepped).1)⟩
  have before : reached service.session := ⟨noted, ran⟩
  exact DebouncedTimeline.run_keeps kept before continues

/-- When the chains of a service have been waited for, no work waits any more. -/
theorem pieces_awaited (unused : first.Unused)
    (ran : Run Moves notes told ⟨first.start profiles delay, []⟩ noted service) :
    ∃ later, Run Moves notes told ⟨first.start profiles delay, []⟩ later
        { service with session := service.session.awaitAll service.chains } ∧
      (service.session.awaitAll service.chains).pieces = [] := by
  let complete (w : Workspace ω) : Bool := service.chains.all fun number => (w.result? number).isSome
  obtain ⟨later, waited⟩ := run_steps ran none (!complete ·)
  have stops := @DebouncedTimeline.step_run _ _ _ _ Session.machine none (!complete ·) service.session
  have all : service.session.awaitAll service.chains =
      (service.session.run Session.machine none (!complete ·)).advance Session.machine 0 := rfl
  rw [all]
  generalize service.session.run Session.machine none (!complete ·) = t at waited stops ⊢
  have idle : Session.pieces t = [] := by
    cases done : complete t.state with
    | true =>
      -- Work that waits would be that of a chain without a result.
      refine List.eq_nil_iff_forall_not_mem.mpr fun piece member => ?_
      obtain ⟨history, current⟩ := exists_isOrderly unused waited
      have missing := (current.orderly.waits piece member).1
      have present := List.all_eq_true.mp done _ (remembers_run unused waited piece member)
      simp [missing] at present
    | false =>
      -- Nothing is left to do, neither in the queue nor asleep.
      exact Session.pieces_of_stuck (stops (by simp [done]))
  -- What is due at the same moment are delayed updates.
  refine DebouncedTimeline.advance_keeps (fun s => ∃ later, Run Moves notes told ⟨first.start profiles delay, []⟩
    later { service with session := s } ∧ Session.pieces s = []) ?_ ⟨later, waited, idle⟩ 0
  rintro t turn next ⟨later, ran, idle⟩ taken
  obtain ⟨history, current⟩ := exists_isOrderly unused ran
  refine ⟨_, ran.move (.turn taken), List.eq_nil_iff_forall_not_mem.mpr fun piece member => ?_⟩
  obtain ⟨other, waited, -⟩ := Session.numbers_takes current taken piece member
  rw [idle] at waited
  cases waited

end Run

omit [World ω] in
/-- As long as messages can be written and flushed, the commands are sent before anything else. -/
theorem announce_of_lasting (profiles : List Profile) (lasting : first.state.outlet.writesLeft = none)
    (flushed : first.state.outlet.flushesLeft = none) :
    announce profiles first = (first.modify (·.send (.commands (Command.namesOf profiles))), none) := by
  simp [announce, Workspace.send, Outlet.send, Outlet.trySend, DebouncedTimeline.modify, Timeline.modify,
    lasting, flushed]

omit [World ω] in
/-- Whatever is told of work while nothing is shown at first and at last has been taken down. -/
theorem latest_progress_of_idle {w later : Workspace ω} {told : List Outgoing} (tells : w.Tells told later)
    (idle : later.busy.entries = []) {label : String} (started : .progressStarted label ∈ told) :
    latest (·.progress? label) told = some false := by
  have shows := tells.shows label
  have nothing : later.busy.shows label = false := by
    simp [BusySignal.shows, BusySignal.labels, idle]
  rw [nothing] at shows
  -- A message about the label is there, so that there is a latest one.
  cases last : latest (·.progress? label) told with
  | none =>
    have silent : ∀ message ∈ told, message.progress? label = none := by
      simpa [latest] using last
    simpa [Outgoing.progress?] using silent _ started
  | some shown =>
    rw [last] at shows
    exact congrArg some shows.symm

omit [World ω] in
/-- Sending the commands asks for nothing. -/
theorem unused_announce (unused : first.Unused) (profiles : List Profile) :
    (announce profiles first).1.Unused :=
  ⟨unused.jobs, unused.sleepers, unused.entries, unused.finished⟩

/-- A service that has sent its commands and has handled no message yet. -/
def opened (profiles : List Profile) (delay : Nat) (first : Session ω) : Service ω :=
  ⟨(announce profiles first).1.start profiles delay, []⟩

/-- The input is a number of moves, and so is waiting for the chains that are left in the end. -/
theorem stop_run (profiles : List Profile) (delay : Nat) (input : List Feed) (unused : first.Unused)
    (lasting : first.state.outlet.writesLeft = none) (flushed : first.state.outlet.flushesLeft = none) :
    ∃ begun service, Run Moves begins [] (opened profiles delay first) begun service ∧
      service.session.pieces = [] ∧ (run profiles delay input first).1 = service.session.stop := by
  -- The greeting comes first, then the moves of the input, then the moves of waiting.
  have announced := announce_of_lasting profiles lasting flushed
  have ready := unused_announce unused profiles
  have started : Run Moves begins [] (opened profiles delay first) [] (opened profiles delay first) :=
    .start
  obtain ⟨begun, read⟩ := run_takeFeed input started []
  obtain ⟨later, waited, idle⟩ := pieces_awaited ready read
  refine ⟨later, _, waited, idle, ?_⟩
  simp only [run, announced, opened, finish, modify]

/-- A service begins with its commands and ends without a tile, when all work is done and taken down. -/
theorem envelope_run (profiles : List Profile) (delay : Nat) (input : List Feed) {first : Session ω}
    (unused : first.Unused) (lasting : first.state.outlet.writesLeft = none)
    (flushed : first.state.outlet.flushesLeft = none) :
    let last := (run profiles delay input first).1
    (∃ told, last.state.outlet.messages = first.state.outlet.messages ++
          .commands (Command.namesOf profiles) :: told ++ [.status none] ∧
        (∀ names, .commands names ∉ told) ∧
        ∀ label, .progressStarted label ∈ told → latest (·.progress? label) told = some false) ∧
      (last.ready = [] ∧ last.sleeping = []) ∧
      (∃ begun service, Run Moves begins [] (opened profiles delay first) begun service ∧
        service.session.stop = last) ∧
      ∀ begun service, Run Moves begins [] (opened profiles delay first) begun service →
        service.session.stop = last → ∀ chain ∈ begun, ∃ steps,
          last.state.result? chain.number = some (.chain steps) ∧ steps.map (·.name) = chain.names := by
  obtain ⟨begun, service, ran, idle, ended⟩ := stop_run profiles delay input unused lasting flushed
  -- The list of commands is written first, and nothing else is written before the start.
  have announced := announce_of_lasting profiles lasting flushed
  have ready := unused_announce unused profiles
  obtain ⟨history, current⟩ := exists_isOrderly ready ran
  refine ⟨?_, ?_, ⟨begun, service, ran, ended.symm⟩, ?_⟩
  · -- All that is told in between is told of a service at work, which shows nothing in the end.
    obtain ⟨told, tells⟩ := (Session.talks_start profiles delay _).trans (talks_run ran)
    have nothing : service.session.state.busy.entries = [] := by
      have labels := current.orderly.labels
      rw [idle] at labels
      simpa [BusySignal.labels] using labels
    obtain ⟨written, greeting⟩ := Outlet.messages_send lasting (.commands (Command.namesOf profiles))
    have sent := (tells.trans (Session.tells_stop service.session)).sent
    rw [announced] at sent
    refine ⟨told, ?_, tells.commands, fun label => latest_progress_of_idle tells nothing⟩
    rw [ended, (sent written).2]
    simp only [DebouncedTimeline.modify, Timeline.modify, Workspace.send, greeting, List.append_assoc,
      List.cons_append, List.nil_append]
  · rw [ended]
    exact Session.waiting_stop idle
  · intro begun another ran same chain member
    have nobody : DebouncedTimeline.sleepers another.session = [] := by
      have waiting := (Session.waiting_stop idle).2
      have kept : DebouncedTimeline.sleepers another.session.stop =
          -- Every chain that was begun is complete or asleep, and nobody sleeps when the service has ended.
          DebouncedTimeline.sleepers another.session :=
        (DebouncedTimeline.others_cancelAll another.session).2
      rw [← kept, same, ended, DebouncedTimeline.sleepers, waiting]
      rfl
    rcases pursues_run ready ran chain member with complete | ⟨run, name, rest, scope, flight, asleep, -⟩
    · rw [← same]
      exact complete
    · simp [nobody] at asleep

/-- A session with a busy signal and a binary for its formatter, which has done nothing. -/
def sampleEnveloped : Session Scripted.Tables :=
  .initial (Scripted.sample []) .silent (.ofDefaults
    [(Settings.busySignalKey, .bool true), ("black.global.binPath", .string "black")])

/-- Messages of an editor that asks for a formatter. -/
def sampleMessages : List Json.Value := [
  .object [("type", .string "openDocument"), ("id", .ofNat 1), ("path", .string "/repo/main.py"),
    ("text", .string "old"), ("cursor", Position.toJson ⟨0, 0⟩), ("inScope", .bool true)],
  .object [("type", .string "activeDocumentChanged"), ("id", .ofNat 1)],
  .object [("type", .string "command"), ("name", .string "fmtchain:black")]]

/-- The messages, a line that is no message, and a line that is no text, after which nothing is read. -/
def sampleInput : List Feed :=
  sampleMessages.map (fun message => .bytes (message.compact ++ "\n").toUTF8.toList) ++
    [.bytes [123, 10, 255, 10]]

/-- In the sample a chain is complete when the service ends, and its label has been taken down. -/
theorem envelope_sample :
    let last := (run [Scripted.sampleProfile] 0 sampleInput sampleEnveloped).1
    last.state.finished.length = 1 ∧ (last.ready = [] ∧ last.sleeping = []) ∧
      ∃ told, last.state.outlet.messages =
          .commands (Command.namesOf [Scripted.sampleProfile]) :: told ++ [.status none] ∧
        .progressStarted (Label.chain "/repo/main.py") ∈ told ∧
        latest (·.progress? (Label.chain "/repo/main.py")) told = some false := by
  intro last
  obtain ⟨⟨told, sent, -, shown⟩, idle, -⟩ :=
    envelope_run [Scripted.sampleProfile] 0 sampleInput
      (⟨rfl, rfl, rfl, rfl⟩ : sampleEnveloped.Unused) rfl rfl
  have sent : last.state.outlet.messages =
      .commands (Command.namesOf [Scripted.sampleProfile]) :: told ++ [.status none] := sent
  obtain ⟨complete, started⟩ : last.state.finished.length = 1 ∧
      .progressStarted (Label.chain "/repo/main.py") ∈ last.state.outlet.messages := by
    decide +kernel
  -- The message is neither the first nor the last.
  have between : .progressStarted (Label.chain "/repo/main.py") ∈ told := by
    rw [sent] at started
    simpa using started
  exact ⟨complete, idle, told, sent, between, shown _ between⟩

end Service

end FormatPipeline
