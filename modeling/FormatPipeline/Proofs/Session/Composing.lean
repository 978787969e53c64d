import FormatPipeline.Proofs.Session.Numbers
import FormatPipeline.Proofs.Session.Placing
import FormatPipeline.Proofs.Workspace.Composing

/-! A chain that reads a buffer, while calls and other work leave its document alone: the steps compose,
and each of them takes up the text and the cursor that the steps before it have left. -/

namespace FormatPipeline

open Schedule (DebouncedTimeline Timeline Turn Work)

variable {ω : Type}

/-! ## Buffers that stay -/

/-- A document of a number holds a buffer. -/
def DocumentTable.Holds (table : DocumentTable) (handle : Handle) (id : Nat) (buffer : Buffer) : Prop :=
  ∃ document, table.get? handle = some document ∧ document.id = id ∧ document.buffer = buffer

namespace DocumentTable.Holds

variable {table : DocumentTable} {handle : Handle} {id : Nat} {buffer : Buffer}

/-- A document that is changed elsewhere than in its buffer holds the buffer still. -/
theorem modify (holds : table.Holds handle id buffer) (other : Handle) {change : Document → Document}
    (kept : handle = other → ∀ document, (change document).id = document.id ∧
      (change document).buffer = document.buffer) : (table.modify other change).Holds handle id buffer := by
  obtain ⟨document, present, rfl, rfl⟩ := holds
  unfold Holds
  rw [get?_modify, present]
  -- The document itself may change in anything but its buffer.
  by_cases same : handle = other
  · exact ⟨_, rfl, by simpa [same] using kept same document⟩
  · exact ⟨document, by simp [same], rfl, rfl⟩

/-- What is put into other documents leaves the buffer. -/
theorem foldl_put (holds : table.Holds handle id buffer) {placings : List Placing}
    (elsewhere : ∀ placing ∈ placings, placing.document ≠ handle) :
    (placings.foldl Placing.put table).Holds handle id buffer := by
  -- The induction is on the placings, none of which concerns the document.
  induction placings generalizing table with
  | nil => exact holds
  | cons placing rest ih =>
    have other := elsewhere placing List.mem_cons_self
    exact ih (holds.modify placing.document fun same => absurd same.symm other)
      fun later member => elsewhere later (List.mem_cons_of_mem _ member)

/-- A call that is no edit of the document leaves its buffer. -/
theorem alter (holds : table.Holds handle id buffer) {call : Session.Call ω}
    (unedited : ∀ text cursor, call ≠ .edit handle text cursor) :
    (call.alter table).Holds handle id buffer := by
  cases call with
  | openDocument other =>
    -- A document that is opened comes behind all others, whose handles stay.
    obtain ⟨document, present, same⟩ := holds
    exact ⟨document, by simpa [Session.Call.alter, get?_insert, ne_length_of_get? present], same⟩
  | edit other text cursor =>
    exact holds.modify other fun same => absurd (same ▸ rfl) (unedited text cursor)
  | closeDocument => exact holds
  | changeScope other inScope =>
    -- Whether formatters apply to a document is no part of its buffer.
    exact holds.modify other fun _ _ => ⟨rfl, rfl⟩
  | activate active =>
    simp only [Session.Call.alter]
    cases activated : table.activate? active with
    | none => exact holds
    | some later =>
      rw [activate?_eq_some activated]
      exact holds
  | set | toggle | command | saved | chain | single | world => exact holds

end DocumentTable.Holds

namespace Session

variable [World ω] {s next : Session ω}

/-- A move in which no document is opened with its cursor out of its text. -/
def SightedMoves (s : Session ω) (move : Move ω) (next : Session ω) : Prop :=
  Moves s move next ∧ ∀ call, move = .call call → call.IsSighted

/-- A move in which only the work of a number can put a text into a document. -/
structure LeavesTo (number : Nat) (handle : Handle) (s : Session ω) (move : Move ω)
    (next : Session ω) : Prop where
  moved : Moves s move next
  unedited : ∀ text cursor, move ≠ .call (.edit handle text cursor)
  unwritten : ∀ other id text, (other, .wrote handle id text) ∈ s.deedsBy move → other = number

/-- A document holds a buffer, and since an outlet nothing but its own placings were put into it. -/
structure Keeps (outlet : Outlet) (handle : Handle) (id : Nat) (buffer : Buffer) (own : List Placing)
    (history : List (Nat × Deed)) (s : Session ω) : Prop where
  holds : s.state.documents.Holds handle id buffer
  told : ∃ placings, outlet.Pairs placings s.state.outlet ∧
    placings.map Placing.deed = (history.map (·.2)).filter Deed.isWriting ∧
    placings.filter (·.document == handle) = own

namespace Keeps

variable {outlet : Outlet} {handle : Handle} {id : Nat} {buffer : Buffer} {own : List Placing}
  {history : List (Nat × Deed)}

/-- A call that is no edit of the document leaves its buffer. -/
theorem answer (keeps : Keeps outlet handle id buffer own history s) {call : Call ω}
    (unedited : ∀ text cursor, call ≠ .edit handle text cursor) :
    Keeps outlet handle id buffer own history (s.answer call) := by
  obtain ⟨documents, silent⟩ := alters_answer call s
  -- No edit is made, and a call puts nothing into documents.
  obtain ⟨placings, told, rest⟩ := keeps.told
  refine ⟨?_, placings, List.append_nil placings ▸ told.trans silent, rest⟩
  rw [documents]
  exact keeps.holds.alter unedited

/-- A turn in which nothing is put into the document leaves its buffer. -/
theorem takes (keeps : Keeps outlet handle id buffer own history s)
    {turn : Turn (Work Update Errand) (Work Update Sleeper)} (taken : DebouncedTimeline.Takes machine s turn next)
    (unwritten : ∀ number id text, (number, .wrote handle id text) ∉ s.deedsBy (.turn turn)) :
    Keeps outlet handle id buffer own (history ++ s.deedsBy (.turn turn)) next := by
  obtain ⟨earlier, told, deeds, mine⟩ := keeps.told
  obtain ⟨placings, places⟩ := places_takes taken
  have elsewhere : ∀ placing ∈ placings, placing.document ≠ handle := by
    rintro placing member rfl
    -- What is put into the document would be noted of the turn.
    have written : placing.deed ∈ (s.turnDeeds turn).filter Deed.isWriting :=
      places.deeds ▸ List.mem_map_of_mem member
    have done := (List.mem_filter.mp written).1
    rw [← map_snd_deedsBy] at done
    obtain ⟨⟨number, deed⟩, noted, rfl⟩ := List.mem_map.mp done
    exact unwritten number placing.id placing.text noted
  refine ⟨?_, earlier ++ placings, told.trans places.told, ?_, ?_⟩
  · rw [places.documents]
    exact keeps.holds.foldl_put elsewhere
  · rw [List.map_append, List.map_append, List.filter_append, map_snd_deedsBy, deeds, places.deeds]
  · have none : placings.filter (·.document == handle) = [] := by simpa using elsewhere
    rw [List.filter_append, none, List.append_nil, mine]

omit [World ω] in
/-- What the chain puts into its document is the buffer that is kept from then on. -/
theorem puts (keeps : Keeps outlet handle id buffer own history s) {left : Buffer} {placings : List Placing}
    {later : List (Nat × Deed)} (holds : next.state.documents.Holds handle id left)
    (told : s.state.outlet.Pairs placings next.state.outlet)
    (mine : ∀ placing ∈ placings, placing.document = handle)
    (writes : (later.map (·.2)).filter Deed.isWriting =
      (history.map (·.2)).filter Deed.isWriting ++ placings.map Placing.deed) :
    Keeps outlet handle id left (own ++ placings) later next := by
  obtain ⟨earlier, before, deeds, same⟩ := keeps.told
  refine ⟨holds, earlier ++ placings, before.trans told, ?_, ?_⟩
  -- The placings of the chain come behind those before, on the timeline and in the history.
  · rw [List.map_append, deeds, writes]
  -- All of them are put into the document of the chain.
  · have all : placings.filter (·.document == handle) = placings :=
      List.filter_eq_self.mpr fun placing member => by simp [mine placing member]
    rw [List.filter_append, all, same]

end Keeps

/-! ## Traces -/

/-- The moves of a run, each with the session in which it was made. -/
def visits (s : Session ω) (move : Move ω) : List (Session ω × Move ω) := [(s, move)]

/-- What is done in a trace, with the numbers of the work that does it. -/
def deedsIn (trace : List (Session ω × Move ω)) : List (Nat × Deed) :=
  trace.flatMap fun (s, move) => s.deedsBy move

/-- The steps of a chain that start in a move. -/
def startsBy (number : Nat) (s : Session ω) : Move ω → List (StartedStep ω)
  | .turn (.start (.other errand)) =>
    if errand.number = number then Workspace.errandStarts s.clock errand s.state else []
  | .turn (.wake now (.other sleeper)) =>
    if sleeper.number = number then Workspace.wakeStarts now sleeper s.state else []
  | _ => []

/-- The steps of a chain that start in a trace, each as it does in the workspace that it finds. -/
def startsIn (number : Nat) (trace : List (Session ω × Move ω)) : List (StartedStep ω) :=
  trace.flatMap fun (s, move) => s.startsBy number move

/-- What is done in a further move comes behind the rest. -/
theorem deedsIn_append_visits (trace : List (Session ω × Move ω)) (s : Session ω) (move : Move ω) :
    deedsIn (trace ++ visits s move) = deedsIn trace ++ s.deedsBy move := by
  simp [deedsIn, visits]

/-- What starts in a further move comes behind the rest. -/
theorem startsIn_append_visits (number : Nat) (trace : List (Session ω × Move ω)) (s : Session ω)
    (move : Move ω) :
    startsIn number (trace ++ visits s move) = startsIn number trace ++ s.startsBy number move := by
  simp [startsIn, visits]

/-- No step of a chain starts in the turn of other work. -/
theorem startsBy_of_ne {number : Nat} {turn : Turn (Work Update Errand) (Work Update Sleeper)}
    (other : numberOf? turn ≠ some number) (s : Session ω) : s.startsBy number (.turn turn) = [] := by
  -- Only a turn of the chain's own work could start one of its steps.
  rcases turn with (task | errand) | ⟨now, task | sleeper⟩ | _
  · rfl
  · exact if_neg fun same => other (congrArg some same)
  · rfl
  · exact if_neg fun same => other (congrArg some same)
  · rfl

/-! ## Chains on a buffer -/

/-- A chain that has passed some steps is complete, or waits for the process of the next one. -/
inductive Stage (run : ChainRun) (names : List String) (buffer : Buffer)
    (passed : List (StartedStep ω)) (s : Session ω) : Option (StartedStep ω) → Prop
  | complete (all : passed.map (·.name) = names)
      (result : s.state.result? run.number =
        some (.chain ((bufferSteps buffer 0 passed).map BufferStep.step))) :
      Stage run names buffer passed s none
  | waits {next : ChainRun} {name : String} {rest : List String} {world : ω} {line : String}
      {scope : Scope} (upTo : passed.map (·.name) ++ name :: rest = names)
      (same : next = { run with steps := ((bufferSteps buffer 0 passed).map BufferStep.step).reverse })
      (asleep : .chain next name rest scope
        ((passed.foldl Buffer.behind buffer).flight run.document .buffer world line) ∈
          DebouncedTimeline.sleepers s) :
      Stage run names buffer passed s (some ⟨name, .launched world line scope⟩)

/-- A chain stays at its stage as long as nothing happens to its work. -/
theorem Stage.spared {run : ChainRun} {names : List String} {buffer : Buffer}
    {passed : List (StartedStep ω)} {flying : Option (StartedStep ω)}
    (stage : Stage run names buffer passed s flying) (spares : Spares run.number s next) :
    Stage run names buffer passed next flying := by
  -- A complete chain has its result kept, and one that waits sleeps on.
  cases stage with
  | complete all result => exact .complete all (spares.result.trans result)
  | waits upTo same asleep =>
    exact .waits upTo same (spares.sleepers _ asleep (by rw [same]; rfl))

/-- A chain has carried the buffer of its document through some steps, and what it did since an outlet
is what they do, up to the process that it waits for. -/
structure Conveys (outlet : Outlet) (run : ChainRun) (names : List String) (document : Document)
    (trace : List (Session ω × Move ω)) (passed : List (StartedStep ω))
    (flying : Option (StartedStep ω)) (s : Session ω) : Prop where
  keeps : Keeps outlet run.document document.id (passed.foldl Buffer.behind document.buffer)
    ((bufferSteps document.buffer 0 passed).filterMap (·.placing? run.document document.id))
    (deedsIn trace) s
  starts : startsIn run.number trace = passed ++ flying.toList
  deeds : deedsOf run.number (deedsIn trace) =
    (bufferSteps document.buffer 0 passed).flatMap (·.deeds run.document document.id) ++
      flying.toList.flatMap fun step =>
        (⟨passed.length, passed.foldl Buffer.behind document.buffer, step⟩ : BufferStep ω).spawned
  stage : Stage run names document.buffer passed s flying

namespace Conveys

variable {outlet : Outlet} {run : ChainRun} {names : List String} {document : Document}
  {trace : List (Session ω × Move ω)} {passed : List (StartedStep ω)} {flying : Option (StartedStep ω)}

/-- A chain that carries the buffer on has carried it through the steps before and those since. -/
theorem of_carries (run : ChainRun) (passed : List (StartedStep ω)) {history : List (Nat × Deed)}
    {written : Document} {rest : List String} {more : List (StartedStep ω)} {deeds : List Deed}
    {outcome : Workspace ω × Option (Nat × Sleeper)}
    (keeps : Keeps outlet run.document document.id (passed.foldl Buffer.behind document.buffer)
      ((bufferSteps document.buffer 0 passed).filterMap (·.placing? run.document document.id)) history s)
    (present : s.state.document? run.document = some written)
    (carries : { run with
        steps := ((bufferSteps document.buffer 0 passed).map BufferStep.step).reverse }.Carries
      s.state written rest more flying deeds outcome)
    (upTo : passed.map (·.name) ++ rest = names) (state : next.state = outcome.1)
    {others : List Sleeper}
    (sleepers : (DebouncedTimeline.sleepers next).Perm ((outcome.2.map (·.2)).toList ++ others))
    (starts : startsIn run.number trace = (passed ++ more) ++ flying.toList)
    (does : deedsOf run.number (deedsIn trace) =
      (bufferSteps document.buffer 0 passed).flatMap (·.deeds run.document document.id) ++ deeds)
    (writes : ((deedsIn trace).map (·.2)).filter Deed.isWriting =
      (history.map (·.2)).filter Deed.isWriting ++ deeds.filter Deed.isWriting) :
    Conveys outlet run names document trace (passed ++ more) flying next := by
  obtain ⟨same, found, id, buffer⟩ := keeps.holds
  obtain rfl : written = same := Option.some.inj (present.symm.trans found)
  -- The steps since then come behind those before, on the buffer that these have left.
  have whole : bufferSteps document.buffer 0 (passed ++ more) =
      bufferSteps document.buffer 0 passed ++ bufferSteps written.buffer passed.length more := by
    rw [bufferSteps_append, buffer, Nat.zero_add]
  have last : (passed ++ more).foldl Buffer.behind document.buffer =
      more.foldl Buffer.behind written.buffer := by
    rw [List.foldl_append, buffer]
  -- Whether the chain is complete or not, its document holds what the last of them has left.
  have kept {later : Workspace ω} (ends : next.state = later)
      (opened : later.document? run.document =
        some (written.withBuffer (more.foldl Buffer.behind written.buffer)))
      (told : s.state.outlet.Pairs ((bufferSteps written.buffer passed.length more).filterMap
        (·.placing? run.document document.id)) later.outlet)
      (own : deeds.filter Deed.isWriting = ((bufferSteps written.buffer passed.length more).filterMap
        (·.placing? run.document document.id)).map Placing.deed) :
      Keeps outlet run.document document.id ((passed ++ more).foldl Buffer.behind document.buffer)
        ((bufferSteps document.buffer 0 (passed ++ more)).filterMap
          (·.placing? run.document document.id))
        (deedsIn trace) next := by
    subst ends
    rw [whole, List.filterMap_append, last]
    exact keeps.puts ⟨_, opened, id, rfl⟩ told (fun _ => document_of_placing?) (own ▸ writes)
  cases carries with
  | complete all opened further finished =>
    -- No process is left, and the result has the steps of the whole row.
    simp only [List.length_reverse, List.length_map, length_bufferSteps, List.reverse_reverse, id]
      at opened further finished does kept
    refine ⟨kept state opened further (writings_bufferSteps _ _ _), starts, ?_, .complete ?_ ?_⟩
    · rw [does, whole, List.flatMap_append]
      exact (List.append_nil _).symm
    · rw [List.map_append, all, upTo]
    · rw [state, Workspace.result?_of_finished finished, if_pos rfl, whole, List.map_append]
  | @waits later _ name _ world line scope _ following opened further finished same =>
    -- The process that the chain waits for reads the text behind the whole row.
    simp only [List.length_reverse, List.length_map, length_bufferSteps, id]
      at opened further finished does same kept sleepers
    have asleep := sleepers.mem_iff.mpr (List.mem_append_left _ List.mem_cons_self)
    refine ⟨kept state opened further ?_, starts, ?_, .waits ?_ ?_ (last ▸ asleep)⟩
    · rw [List.filter_append, writings_bufferSteps]
      exact List.append_nil _
    · rw [does, whole, List.flatMap_append, List.append_assoc, last, List.length_append]
      rfl
    · rw [← upTo, ← following, List.map_append, List.append_assoc]
    · rw [same, whole, List.map_append, List.reverse_append]

/-- A chain that begins carries the buffer of its document. -/
theorem begins {errand : Errand} {handle : Handle}
    (chain : s.state.chainOf? errand = some (handle, names, .buffer))
    (present : s.state.document? handle = some document)
    (taken : DebouncedTimeline.Takes machine s (.start (.other errand)) next) :
    ∃ passed flying, Conveys s.state.outlet (s.state.chainRun errand.number handle .buffer) names
      document (visits s (.turn (.start (.other errand)))) passed flying next := by
  obtain ⟨passed, flying, carries, starts⟩ := Workspace.carries_startErrand s.clock chain present
  rcases DebouncedTimeline.takes_cases taken with
    ⟨_, rest, ⟨⟩, -, -, sleepers, state⟩ | ⟨_, _, _, ⟨⟩, _⟩ | ⟨noJob, -⟩
  · -- When the chain begins, nothing has been put into the document yet.
    have keeps : Keeps s.state.outlet handle document.id document.buffer [] [] s :=
      ⟨⟨document, present, rfl, rfl⟩, [], .refl _, rfl, rfl⟩
    have noted : deedsIn (visits s (.turn (.start (.other errand)))) =
      s.deedsBy (.turn (.start (.other errand))) := deedsIn_append_visits [] s _
    have begun : startsIn errand.number (visits s (.turn (.start (.other errand)))) =
        [] ++ passed ++ flying.toList := by
      rw [← List.nil_append (visits s _), startsIn_append_visits, List.nil_append, ← starts]
      exact if_pos rfl
    have does : deedsOf errand.number (deedsIn (visits s (.turn (.start (.other errand))))) =
        Workspace.errandDeeds s.clock errand s.state := by
      rw [noted]
      exact deedsOf_map_self _ _
    have writes := congrArg (List.filter Deed.isWriting) (map_snd_deedsBy s (.start (.other errand)))
    rw [← noted] at writes
    exact ⟨passed, flying, of_carries (s.state.chainRun errand.number handle .buffer) [] keeps present
      carries rfl state sleepers begun does writes⟩
  -- A turn that starts a job is neither of the other two.
  · exact absurd rfl (noJob errand)

/-- A call that is no edit of the document leaves the chain as it is. -/
theorem answer (conveys : Conveys outlet run names document trace passed flying s) {call : Call ω}
    (unedited : ∀ text cursor, call ≠ .edit run.document text cursor) :
    Conveys outlet run names document (trace ++ visits s (.call call)) passed flying (s.answer call) := by
  -- A call does no work, and starts none.
  have deeds : deedsIn (trace ++ visits s (.call call)) = deedsIn trace :=
    (deedsIn_append_visits trace s _).trans (List.append_nil _)
  have starts : startsIn run.number (trace ++ visits s (.call call)) = startsIn run.number trace :=
    (startsIn_append_visits run.number trace s _).trans (List.append_nil _)
  exact ⟨deeds ▸ conveys.keeps.answer unedited, starts.trans conveys.starts,
    (congrArg (deedsOf run.number) deeds).trans conveys.deeds,
    conveys.stage.spared (spares_answer _ s call)⟩

/-- A turn of other work that does not write into the document leaves the chain as it is. -/
theorem passes (conveys : Conveys outlet run names document trace passed flying s)
    {turn : Turn (Work Update Errand) (Work Update Sleeper)} (taken : DebouncedTimeline.Takes machine s turn next)
    (other : numberOf? turn ≠ some run.number)
    (unwritten : ∀ number id text, (number, .wrote run.document id text) ∈ s.deedsBy (.turn turn) →
      number = run.number) :
    Conveys outlet run names document (trace ++ visits s (.turn turn)) passed flying next := by
  -- The turn adds neither deeds nor steps of the chain, and its sleeper sleeps on.
  refine ⟨?_, ?_, ?_, conveys.stage.spared (spares_takes taken other)⟩
  · rw [deedsIn_append_visits]
    exact conveys.keeps.takes taken fun number id text noted =>
      other (unwritten number id text noted ▸ numberOf?_of_noted noted)
  · rw [startsIn_append_visits, startsBy_of_ne other, List.append_nil, conveys.starts]
  · rw [deedsIn_append_visits, deedsOf_append, deedsOf_deedsBy_of_ne other, List.append_nil, conveys.deeds]

/-- A chain whose process has ended carries the buffer on. -/
theorem wakes (conveys : Conveys outlet run names document trace passed flying s)
    (numbered : s.Numbered) (buffer : run.mode = .buffer)
    {turn : Turn (Work Update Errand) (Work Update Sleeper)} (taken : DebouncedTimeline.Takes machine s turn next)
    (own : numberOf? turn = some run.number) :
    ∃ more flying, Conveys outlet run names document (trace ++ visits s (.turn turn)) (passed ++ more)
      flying next := by
  obtain ⟨keeps, started, deeds, stage⟩ := conveys
  cases stage with
  | complete all result =>
    -- Work that has a result has no further turn.
    exact absurd (mem_waiting taken own) (numbered.not_mem_waiting result)
  | @waits _ name behind world line scope upTo equal asleep =>
    subst equal
    let mid : ChainRun :=
      { run with steps := ((bufferSteps document.buffer 0 passed).map BufferStep.step).reverse }
    let sleeper : Sleeper := .chain mid name behind scope
      ((passed.foldl Buffer.behind document.buffer).flight run.document .buffer world line)
    obtain ⟨now, rest, rfl, sleepers, state⟩ := numbered.wakes taken asleep own
    obtain ⟨written, present, id, kept⟩ := keeps.holds
    -- The steps that are behind tell the place of the step that waits, whose buffer the document holds.
    have position : mid.steps.length = passed.length := by simp [mid, length_bufferSteps]
    obtain ⟨more, flying, carries, starts⟩ :=
      Workspace.carries_wakeSleeper now mid name behind scope world line buffer present
    rw [kept, position] at carries
    rw [kept] at starts
    -- The process was started before, and its end is noted now.
    have begun : startsIn run.number (trace ++ visits s (.turn (.wake now (.other sleeper)))) =
        passed ++ (⟨name, .launched world line scope⟩ :: more) ++ flying.toList := by
      have since : s.startsBy run.number (.turn (.wake now (.other sleeper))) = more ++ flying.toList :=
        (if_pos rfl).trans starts
      rw [startsIn_append_visits, started, since]
      simp
    -- So the deeds are those of the steps behind, the start of the process, and what the turn does.
    have does : deedsOf run.number (deedsIn (trace ++ visits s (.turn (.wake now (.other sleeper))))) =
        (bufferSteps document.buffer 0 passed).flatMap (·.deeds run.document document.id) ++
          .spawned passed.length line (some (passed.foldl Buffer.behind document.buffer).text) ::
            Workspace.wakeDeeds now sleeper s.state := by
      have since : deedsOf run.number (s.deedsBy (.turn (.wake now (.other sleeper)))) =
        Workspace.wakeDeeds now sleeper s.state := deedsOf_map_self run.number _
      rw [deedsIn_append_visits, deedsOf_append, deeds, since, List.append_assoc]
      rfl
    have writes : ((deedsIn (trace ++ visits s (.turn (.wake now (.other sleeper))))).map (·.2)).filter
        Deed.isWriting = ((deedsIn trace).map (·.2)).filter Deed.isWriting ++
          (Workspace.wakeDeeds now sleeper s.state).filter Deed.isWriting := by
      rw [deedsIn_append_visits, List.map_append, List.filter_append, map_snd_deedsBy]
      rfl
    exact ⟨_, flying, of_carries run passed keeps present carries upTo state sleepers begun does writes⟩

end Conveys

/-- However calls and other work come between, a chain carries the buffer of its document on. -/
theorem conveys_run {start later : Session ω} {outlet : Outlet} {run : ChainRun} {names : List String}
    {document : Document} {early trace : List (Session ω × Move ω)} {begun : List (StartedStep ω)}
    {waits : Option (StartedStep ω)} (numbered : start.Numbered) (buffer : run.mode = .buffer)
    (conveys : Conveys outlet run names document early begun waits start)
    (ran : Run (LeavesTo run.number run.document) visits early start trace later) :
    later.Numbered ∧ ∃ passed flying, Conveys outlet run names document trace passed flying later := by
  -- Only the turns of its own work take the chain further; all other moves leave it as it is.
  induction ran with
  | start => exact ⟨numbered, begun, waits, conveys⟩
  | @move trace s next move before moves ih =>
    obtain ⟨numbered, passed, flying, conveys⟩ := ih
    obtain ⟨moved, unedited, unwritten⟩ := moves
    refine ⟨numbered.moves moved, ?_⟩
    cases moved with
    | call call =>
      exact ⟨passed, flying, conveys.answer fun text cursor edits =>
        unedited text cursor (congrArg Move.call edits)⟩
    | @turn _ turn taken =>
      by_cases own : numberOf? turn = some run.number
      · obtain ⟨more, flying, later⟩ := conveys.wakes numbered buffer taken own
        exact ⟨_, flying, later⟩
      · exact ⟨passed, flying, conveys.passes taken own unwritten⟩

/-- At any time of a run every cursor is in its text. -/
theorem sighted_run {first : Session ω} {history : List (Nat × Deed)}
    (unopened : first.state.documents.documents = [])
    (ran : Run SightedMoves deedsBy [] first history s) :
    s.state.documents.IsSighted := by
  -- The induction is on the run; calls are proper ones, and turns clamp what they put.
  induction ran with
  | start => simp [DocumentTable.IsSighted, unopened]
  | move before moved ih =>
    obtain ⟨moved, proper⟩ := moved
    cases moved with
    | call call => exact isSighted_answer ih (proper call rfl)
    | turn taken => exact isSighted_takes ih taken

/-- The steps of a chain compose: each takes up the text and the cursor that the ones before it have
left. -/
structure Composes (outlet : Outlet) (number : Nat) (handle : Handle) (names : List String)
    (document : Document) (trace : List (Session ω × Move ω)) (passed : List (StartedStep ω))
    (flying : Option (StartedStep ω)) (s : Session ω) : Prop where
  /-- The steps are those that the chain has started, each in the world in which it did. -/
  starts : startsIn number trace = passed ++ flying.toList
  /-- The steps have their turns in the order of the names. -/
  inOrder : (passed ++ flying.toList).map (·.name) <+: names
  /-- Each step starts its process, and puts its output into the document, and no more is done. -/
  deeds : deedsOf number (deedsIn trace) =
    (bufferSteps document.buffer 0 passed).flatMap (·.deeds handle document.id) ++
      flying.toList.flatMap fun step =>
        (⟨passed.length, passed.foldl Buffer.behind document.buffer, step⟩ : BufferStep ω).spawned
  /-- Every process that was started meanwhile is in the trace. -/
  spawns : s.state.outlet.spawns = outlet.spawns ++ (deedsIn trace).filterMap (·.2.spawn?)
  /-- The input of a process is the text behind all steps before it. -/
  inputs : ∀ position line stdin, .spawned position line stdin ∈ deedsOf number (deedsIn trace) →
    stdin = some ((passed.take position).foldl Buffer.behind document.buffer).text
  /-- The text and the cursor are those behind all steps that have passed. -/
  buffer : (s.state.document? handle).map (·.buffer) =
    some (passed.foldl Buffer.behind document.buffer)
  /-- The editor is told of the texts and cursors that are put into documents, and for the document
  of the chain these are just the outputs of its steps. -/
  told : ∃ (placings : List Placing) (sent : List Outgoing),
    placings.map Placing.deed = ((deedsIn trace).map (·.2)).filter Deed.isWriting ∧
    placings.filter (·.document == handle) =
      (bufferSteps document.buffer 0 passed).filterMap (·.placing? handle document.id) ∧
    s.state.outlet.messages = outlet.messages ++ sent ∧
    sent.filter Outgoing.isPlacing <+: placings.flatMap Placing.messages ∧
    (outlet.writesLeft = none → sent.filter Outgoing.isPlacing = placings.flatMap Placing.messages)
  /-- There is a result as soon as all steps have passed, and it tells of them. -/
  result : (flying.isSome ∧ s.state.result? number = none) ∨
    (flying = none ∧ passed.map (·.name) = names ∧ s.state.result? number =
      some (.chain ((bufferSteps document.buffer 0 passed).map BufferStep.step)))
  /-- If all processes that run give back their input, the text and the cursor stay as they were. -/
  echo : (∀ step ∈ bufferSteps document.buffer 0 passed, ∀ output, step.output? = some output →
      output.stdout = step.buffer.text) →
    passed.foldl Buffer.behind document.buffer = document.buffer

/-- A chain that has carried the buffer of its document composes its steps. -/
theorem Conveys.composes {outlet : Outlet} {run : ChainRun} {names : List String} {document : Document}
    {trace : List (Session ω × Move ω)} {passed : List (StartedStep ω)}
    {flying : Option (StartedStep ω)}
    (conveys : Conveys outlet run names document trace passed flying s) (numbered : s.Numbered)
    (spawns : s.state.outlet.spawns = outlet.spawns ++ (deedsIn trace).filterMap (·.2.spawn?))
    (sighted : document.IsSighted) :
    Composes outlet run.number run.document names document trace passed flying s := by
  obtain ⟨keeps, starts, deeds, stage⟩ := conveys
  obtain ⟨written, present, id, buffer⟩ := keeps.holds
  obtain ⟨placings, told, writes, own⟩ := keeps.told
  obtain ⟨sent, messages, bounded, complete⟩ := told.messages
  have opened : s.state.document? run.document = some written := present
  have inside : document.buffer.cursor.IsIn document.buffer.text := sighted
  refine ⟨starts, ?_, deeds, spawns, ?_, by rw [opened, ← buffer]; rfl,
    ⟨placings, sent, writes, own, messages, bounded, complete⟩, ?_,
    fun echo => foldl_behind_of_echo inside echo⟩
  · cases stage with
    | complete all => simp [all]
    | waits upTo => exact ⟨_, by simpa using upTo⟩
  · intro position line stdin spawned
    rw [deeds] at spawned
    rcases List.mem_append.mp spawned with earlier | last
    · exact stdin_of_spawned earlier
    · -- The process that the chain waits for comes behind all steps that have passed.
      cases stage with
      | complete => cases last
      | waits =>
        cases List.mem_singleton.mp last
        rw [List.take_length]
  · cases stage with
    | complete all result => exact .inr ⟨rfl, all, result⟩
    | waits upTo same asleep =>
      -- Work that waits has no result yet.
      refine .inl ⟨rfl, numbered.incomplete run.number (List.mem_append_right _ ?_)⟩
      exact List.mem_map.mpr ⟨_, asleep, by rw [same]; rfl⟩

/-- A chain that reads a buffer composes its steps, as long as calls and other work leave its document
alone. -/
theorem composedSteps_run {first later : Session ω} {before : List (Nat × Deed)}
    {trace : List (Session ω × Move ω)} {errand : Errand} {handle : Handle} {names : List String}
    {document : Document} (unused : first.Unused) (unopened : first.state.documents.documents = [])
    (ran : Run SightedMoves deedsBy [] first before s)
    (chain : s.state.chainOf? errand = some (handle, names, .buffer))
    (opened : s.state.document? handle = some document)
    (begun : DebouncedTimeline.Takes machine s (.start (.other errand)) next)
    (left : Run (LeavesTo errand.number handle) visits (visits s (.turn (.start (.other errand)))) next
      trace later) :
    ∃ passed flying, Composes s.state.outlet errand.number handle names document trace passed flying
      later := by
  -- What came before only matters in that numbers differ and that the cursor exists.
  have numbered : s.Numbered := numbered_run (fun moved => moved.1) unused ran
  obtain ⟨early, waits, conveys⟩ := Conveys.begins chain opened begun
  obtain ⟨last, passed, flying, conveys⟩ := conveys_run (numbered.takes begun) rfl conveys left
  -- The processes of the run are those of its deeds, which are noted of each move of the trace.
  have deeds : Run (LeavesTo errand.number handle) deedsBy
      (deedsIn (visits s (.turn (.start (.other errand))))) next (deedsIn trace) later :=
    left.flatMap _ fun s move => by simp [visits]
  have noted : deedsIn (visits s (.turn (.start (.other errand)))) =
    s.deedsBy (.turn (.start (.other errand))) := deedsIn_append_visits [] s _
  have spawns := spawns_run (fun leaves => leaves.moved) (spawns_takes begun) (noted ▸ deeds)
  exact ⟨passed, flying, conveys.composes last spawns ((sighted_run unopened ran).get? opened)⟩

/-- The session after the next turn in the order of its timeline. -/
def turned (s : Session ω) : Session ω := (s.step machine none).getD s

/-- The next turn is taken if there is one. -/
theorem takes_turned (more : (s.step machine none).isSome) :
    DebouncedTimeline.Takes machine s s.nextTurn s.turned := by
  obtain ⟨t, stepped⟩ := Option.isSome_iff_exists.mp more
  unfold turned
  rw [stepped]
  exact (DebouncedTimeline.takes_of_step stepped).1

/-- Turns of the work itself leave its document to it. -/
theorem leavesTo_of_own {turn : Turn (Work Update Errand) (Work Update Sleeper)} {number : Nat}
    (handle : Handle) (taken : DebouncedTimeline.Takes machine s turn next) (own : numberOf? turn = some number) :
    LeavesTo number handle s (.turn turn) next where
  moved := .turn taken
  unedited := nofun
  unwritten := fun _ _ _ noted => Option.some.inj ((numberOf?_of_noted noted).symm.trans own)

/-- A process of the sample's formatter that gives another text, the only one that does. -/
def sampleRule : Scripted.Rule := ⟨"black", some 1, 1, none, some "new", none, "", "", some 0⟩

/-- A session with an open document, and a formatter whose first process gives another text. -/
def sampleOpened : Session Scripted.Tables :=
  (sampleBeforeChains.answer (.world fun tables => { tables with rules := [sampleRule] })).answer
    (.openDocument (.opened 1 ⟨"/repo/main.py"⟩ none "old text" ⟨0, 5⟩ true))

/-- The first formatter of the chain that is asked of the sample is one that nobody knows. -/
def sampleBuffer : Session Scripted.Tables :=
  sampleOpened.answer (.chain 0 ["missing", "black", "black"] .buffer)

/-- Another document is edited while the first process of the chain runs. -/
def sampleAside : Session Scripted.Tables :=
  (sampleBuffer.turned.answer (.openDocument (.opened 2 ⟨"/repo/other.py"⟩ none "" ⟨0, 0⟩ true))).answer
    (.edit 1 "other" none)

/-- In the sample the second process reads what the first one gave, and its cursor is in that text. -/
theorem composedSteps_sample :
    let later := sampleAside.turned.turned
    (later.state.document? 0).map (·.buffer) = some ⟨"new", ⟨0, 3⟩⟩ ∧
    later.state.outlet.messages.filter Outgoing.isPlacing =
      [.setText 1 "new", .setCursor 1 ⟨0, 3⟩, .setText 1 "new", .setCursor 1 ⟨0, 3⟩] ∧
    ∃ trace passed flying,
      deedsOf 0 (deedsIn trace) = [.settled 0, .spawned 1 "/usr/bin/black -q -" (some "old text"),
        .wrote 0 1 "new", .settled 1, .spawned 2 "/usr/bin/black -q -" (some "new"), .wrote 0 1 "new",
        .settled 2] ∧
      Composes sampleBuffer.state.outlet 0 0 ["missing", "black", "black"]
        (.opened 1 ⟨"/repo/main.py"⟩ none "old text" ⟨0, 5⟩ true) trace passed flying later := by
  intro later
  let errand : Errand := .chain 0 0 ["missing", "black", "black"] .buffer
  -- The chain is asked for on an open document.
  have started : Run SightedMoves deedsBy [] sampleBeforeChains [] sampleBeforeChains := .start
  have ruled := started.move ⟨.call (.world fun tables => { tables with rules := [sampleRule] }),
    by rintro _ ⟨⟩; trivial⟩
  have opened := ruled.move ⟨.call (.openDocument
    (.opened 1 ⟨"/repo/main.py"⟩ none "old text" ⟨0, 5⟩ true)),
    by rintro _ ⟨⟩; exact Document.isSighted_opened _ _ _ _ _ _⟩
  have asked : Run SightedMoves deedsBy [] sampleBeforeChains _ sampleBuffer :=
    opened.move ⟨.call (.chain 0 ["missing", "black", "black"] .buffer), by rintro _ ⟨⟩; trivial⟩
  -- The errand of the chain is the first in the queue, so the next turn begins it.
  have first : sampleBuffer.nextTurn = .start (.other errand) := by
    have zero : sampleOpened.state.numbered = 0 := by decide +kernel
    have queued : sampleBuffer.ready = [.other (.chain sampleOpened.state.numbered 0
      ["missing", "black", "black"] .buffer)] := rfl
    rw [Timeline.nextTurn, queued, zero]
  have begun : DebouncedTimeline.Takes machine sampleBuffer (.start (.other errand)) sampleBuffer.turned :=
    first ▸ takes_turned (by decide +kernel)
  -- While its first process runs, another document is opened and edited.
  have alone : Run (LeavesTo 0 0) visits (visits sampleBuffer (.turn (.start (.other errand))))
    sampleBuffer.turned _ sampleBuffer.turned := .start
  have another := alone.move ⟨.call (.openDocument (.opened 2 ⟨"/repo/other.py"⟩ none "" ⟨0, 0⟩ true)),
    nofun, nofun⟩
  have aside : Run (LeavesTo 0 0) visits _ sampleBuffer.turned _ sampleAside :=
    another.move ⟨.call (.edit 1 "other" none), nofun, nofun⟩
  -- Two more turns end the two processes, which nobody else's turn interferes with.
  have woken := aside.move (leavesTo_of_own 0 (takes_turned (by decide +kernel)) (by decide +kernel))
  have left := woken.move (leavesTo_of_own 0 (takes_turned (by decide +kernel)) (by decide +kernel))
  have present : sampleBuffer.state.document? 0 =
    some (.opened 1 ⟨"/repo/main.py"⟩ none "old text" ⟨0, 5⟩ true) := by decide +kernel
  obtain ⟨passed, flying, composes⟩ := composedSteps_run
    ⟨rfl, rfl, by decide +kernel, by decide +kernel⟩ (by decide +kernel) asked rfl present begun left
  exact ⟨by decide +kernel, by decide +kernel, _, passed, flying, by decide +kernel, composes⟩

end Session

end FormatPipeline
