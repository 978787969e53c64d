import FormatPipeline.Proofs.Workspace.Placing
import FormatPipeline.Proofs.Workspace.Stepping

/-! Steps of a chain that read a buffer: each takes up the text and the cursor that the steps before it
have left. -/

namespace FormatPipeline

/-- The document with another text, and with another cursor. -/
def Document.withBuffer (document : Document) (buffer : Buffer) : Document :=
  { document with text := buffer.text, cursor := buffer.cursor }

/-- A step of a chain at its position, with the buffer that it takes up. -/
structure BufferStep (ω : Type) where
  position : Nat
  buffer : Buffer
  started : StartedStep ω

variable {ω : Type} [World ω]

/-- The buffer behind a step: the output of its process and the cursor in it, or else the one before. -/
def Buffer.behind (buffer : Buffer) (step : StartedStep ω) : Buffer :=
  match step.start.output? (some buffer.text) with
  -- The cursor is where it was, as far as the new text goes.
  | some output => ⟨output.stdout, buffer.cursor.clamp output.stdout⟩
  | none => buffer

/-- Steps one after another from a position on, each with the buffer behind the one before. -/
def bufferSteps (buffer : Buffer) (position : Nat) : List (StartedStep ω) → List (BufferStep ω)
  | [] => []
  | step :: rest => ⟨position, buffer, step⟩ :: bufferSteps (buffer.behind step) (position + 1) rest

namespace BufferStep

/-- What the process of a step gives, if it runs. -/
def output? (step : BufferStep ω) : Option ProcessOutput :=
  step.started.start.output? (some step.buffer.text)

/-- The process that is started, with the text of the buffer as its input. -/
def spawned (step : BufferStep ω) : List Deed :=
  match step.started.start with
  | .launched _ line _ => [.spawned step.position line (some step.buffer.text)]
  | .unknown | .missing => []

/-- What is put into the document: the output, and the cursor in it. -/
def placing? (handle : Handle) (id : Nat) (step : BufferStep ω) : Option Placing :=
  step.output?.map fun output =>
    ⟨handle, id, output.stdout, step.buffer.cursor.clamp output.stdout, Position.isIn_clamp _ _⟩

/-- Everything that is done: a process is started, its output is put into the document, and the
outcome is known. -/
def deeds (handle : Handle) (id : Nat) (step : BufferStep ω) : List Deed :=
  step.spawned ++ (step.placing? handle id).toList.map Placing.deed ++ [.settled step.position]

/-- What the result of the chain says of a step. -/
def step (step : BufferStep ω) : ChainStep where
  name := step.started.name
  outcome := step.started.start.outcome? (some step.buffer.text)

end BufferStep

/-! ## Steps in a row -/

/-- Steps behind others take up the buffer that those leave. -/
theorem bufferSteps_append (buffer : Buffer) (position : Nat) (first second : List (StartedStep ω)) :
    bufferSteps buffer position (first ++ second) = bufferSteps buffer position first ++
      bufferSteps (first.foldl Buffer.behind buffer) (position + first.length) second := by
  -- The buffer moves on with the steps in front, so it varies in the induction.
  induction first generalizing buffer position with
  | nil => rfl
  | cons step rest ih =>
    simp only [List.cons_append, bufferSteps, ih, List.foldl_cons, List.length_cons]
    rw [Nat.add_assoc, Nat.add_comm 1]

/-- Every step has its place in the row. -/
theorem length_bufferSteps (buffer : Buffer) (position : Nat) (steps : List (StartedStep ω)) :
    (bufferSteps buffer position steps).length = steps.length := by
  induction steps generalizing buffer position with
  | nil => rfl
  | cons step rest ih => rw [bufferSteps, List.length_cons, ih, List.length_cons]

/-- Each step takes up the buffer that the ones before it leave. -/
theorem mem_bufferSteps {buffer : Buffer} {position : Nat} {steps : List (StartedStep ω)}
    {step : BufferStep ω} (member : step ∈ bufferSteps buffer position steps) :
    ∃ index, step.position = position + index ∧
      step.buffer = (steps.take index).foldl Buffer.behind buffer ∧ steps[index]? = some step.started := by
  -- Behind the first step everything is one place further, from the buffer that it leaves.
  induction steps generalizing buffer position with
  | nil => cases member
  | cons first rest ih =>
    rcases List.mem_cons.mp member with rfl | behind
    · exact ⟨0, rfl, rfl, rfl⟩
    · obtain ⟨index, place, before, same⟩ := ih behind
      exact ⟨index + 1, by omega, before, same⟩

/-- What steps put into a document is written when they are over. -/
theorem writings_bufferSteps (handle : Handle) (id : Nat) (steps : List (BufferStep ω)) :
    (steps.flatMap (·.deeds handle id)).filter Deed.isWriting =
      (steps.filterMap (·.placing? handle id)).map Placing.deed := by
  -- Neither the start of a process nor a known outcome puts anything into a document.
  have one : ∀ step : BufferStep ω, (step.deeds handle id).filter Deed.isWriting =
      (step.placing? handle id).toList.map Placing.deed := by
    intro step
    unfold BufferStep.deeds BufferStep.spawned
    cases step.started.start <;> cases step.placing? handle id <;> rfl
  induction steps with
  | nil => rfl
  | cons step rest ih =>
    rw [List.flatMap_cons, List.filter_append, one, ih, List.filterMap_cons]
    cases step.placing? handle id <;> rfl

/-- Steps put their outputs into the document that they run on. -/
theorem document_of_placing? {handle : Handle} {id : Nat} {steps : List (BufferStep ω)}
    {placing : Placing} (member : placing ∈ steps.filterMap (·.placing? handle id)) :
    placing.document = handle := by
  obtain ⟨step, -, placed⟩ := List.mem_filterMap.mp member
  obtain ⟨output, -, rfl⟩ := Option.map_eq_some_iff.mp placed
  rfl

/-- The input of a process is the text that the steps before it leave. -/
theorem stdin_of_spawned {buffer : Buffer} {handle : Handle} {id position : Nat} {line : String}
    {stdin : Option String} {steps : List (StartedStep ω)}
    (spawned : .spawned position line stdin ∈ (bufferSteps buffer 0 steps).flatMap (·.deeds handle id)) :
    stdin = some ((steps.take position).foldl Buffer.behind buffer).text := by
  obtain ⟨step, member, does⟩ := List.mem_flatMap.mp spawned
  obtain ⟨index, place, before, -⟩ := mem_bufferSteps member
  rw [Nat.zero_add] at place
  unfold BufferStep.deeds BufferStep.spawned at does
  -- What is put into the document is no process.
  have own : .spawned position line stdin ∉ (step.placing? handle id).toList.map Placing.deed := by
    simp [Placing.deed]
  cases start : step.started.start with
  | unknown | missing => simp [start, Placing.deed] at does
  | launched world launched scope =>
    simp only [start, List.mem_append, own, List.mem_singleton, Deed.spawned.injEq, or_false,
      reduceCtorEq] at does
    obtain ⟨rfl, -, rfl⟩ := does
    rw [before, place]

/-- Steps leave the buffer as it is whose processes give back their input, if its cursor exists. -/
theorem foldl_behind_of_echo {buffer : Buffer} (inside : buffer.cursor.IsIn buffer.text)
    {steps : List (StartedStep ω)} {position : Nat}
    (echo : ∀ step ∈ bufferSteps buffer position steps, ∀ output, step.output? = some output →
      output.stdout = step.buffer.text) : steps.foldl Buffer.behind buffer = buffer := by
  induction steps generalizing position with
  | nil => rfl
  | cons step rest ih =>
    have same : buffer.behind step = buffer := by
      unfold Buffer.behind
      cases ran : step.start.output? (some buffer.text) with
      | none => rfl
      | some output =>
        -- The cursor was in the text before, so clamping leaves it where it is.
        have text := echo ⟨position, buffer, step⟩ List.mem_cons_self output ran
        dsimp only at text ⊢
        rw [text, inside.clamp]
    have behind : ∀ step ∈ bufferSteps buffer (position + 1) rest, ∀ output,
        step.output? = some output → output.stdout = step.buffer.text :=
      fun step member => echo step (List.mem_cons_of_mem _ (same.symm ▸ member))
    rw [List.foldl_cons, same]
    exact ih behind

/-! ## Processes -/

namespace Workspace

/-- A process that has ended leaves its document with the buffer behind its step, and the editor is
told of that. -/
theorem landed_flight {w : Workspace ω} {handle : Handle} {document : Document}
    (opened : w.document? handle = some document) (position : Nat) (name line : String) (world : ω)
    (scope : Scope) :
    let flight := document.buffer.flight handle .buffer world line
    let started : StartedStep ω := ⟨name, .launched world line scope⟩
    let step : BufferStep ω := ⟨position, document.buffer, started⟩
    (w.landed flight).get? handle = some (document.withBuffer (document.buffer.behind started)) ∧
      placingsOf (w.flightEvents flight) =
        (step.placing? handle document.id).toList.flatMap Placing.messages ∧
      w.flightDeeds flight = (step.placing? handle document.id).toList.map Placing.deed := by
  intro flight started step
  -- The document holds the buffer that the process was started on, so it is found as it was left.
  have present : w.documents.get? handle = some document := opened
  have found : w.document? flight.document = some document := opened
  have mode : flight.mode = .buffer := rfl
  have output? : started.start.output? (some document.buffer.text) = flight.result.toOption := rfl
  unfold landed flightEvents flightDeeds textDeeds BufferStep.placing? BufferStep.output? Buffer.behind
  -- Only a process that could be started puts anything into the document.
  cases result : flight.result with
  | error reasons =>
    rw [result] at output?
    simp only [step, output?, Except.toOption, Option.map_none, Option.toList_none]
    exact ⟨present, by rw [List.append_nil, placingsOf_notices]; rfl, rfl⟩
  | ok output =>
    rw [result] at output?
    simp only [mode, step, output?, found, Except.toOption, Option.map_some, Option.toList_some]
    refine ⟨?_, ?_, rfl⟩
    · have own : flight.document = handle := rfl
      rw [own, DocumentTable.get?_modify, present]
      simp [Document.placed, Document.withBuffer, flight, Buffer.flight]
    · rw [placingsOf_append, placingsOf_notices]
      rfl

end Workspace

/-! ## Chains -/

/-- A chain carries the buffer of its document from step to step: it is complete, or the text of the
buffer goes to a process whose end it waits for. -/
inductive ChainRun.Carries (run : ChainRun) (w : Workspace ω) (document : Document) (names : List String) :
    List (StartedStep ω) → Option (StartedStep ω) → List Deed → Workspace ω × Option (Nat × Sleeper) → Prop
  | complete {passed : List (StartedStep ω)} {later : Workspace ω} (all : passed.map (·.name) = names)
      (opened : later.document? run.document =
        some (document.withBuffer (passed.foldl Buffer.behind document.buffer)))
      (told : w.outlet.Pairs ((bufferSteps document.buffer run.steps.length passed).filterMap
        (·.placing? run.document document.id)) later.outlet)
      (finished : later.finished = (run.number, .chain (run.steps.reverse ++
        (bufferSteps document.buffer run.steps.length passed).map BufferStep.step)) :: w.finished) :
      Carries run w document names passed none
        ((bufferSteps document.buffer run.steps.length passed).flatMap
          (·.deeds run.document document.id))
        (later, none)
  | waits {passed : List (StartedStep ω)} {later : Workspace ω} {next : ChainRun} {name : String}
      {rest : List String} {world : ω} {line : String} {scope : Scope} {delay : Nat}
      (upTo : passed.map (·.name) ++ name :: rest = names)
      (opened : later.document? run.document =
        some (document.withBuffer (passed.foldl Buffer.behind document.buffer)))
      (told : w.outlet.Pairs ((bufferSteps document.buffer run.steps.length passed).filterMap
        (·.placing? run.document document.id)) later.outlet)
      (finished : later.finished = w.finished)
      (same : next = { run with steps :=
        ((bufferSteps document.buffer run.steps.length passed).map BufferStep.step).reverse ++ run.steps }) :
      Carries run w document names passed (some ⟨name, .launched world line scope⟩)
        ((bufferSteps document.buffer run.steps.length passed).flatMap
            (·.deeds run.document document.id) ++
          [.spawned (run.steps.length + passed.length) line
            (some (passed.foldl Buffer.behind document.buffer).text)])
        (later, some (delay, .chain next name rest scope
          ((passed.foldl Buffer.behind document.buffer).flight run.document .buffer world line)))

namespace ChainRun.Carries

variable {run : ChainRun} {w mid : Workspace ω} {document : Document} {names rest : List String}
  {passed : List (StartedStep ω)} {flying : Option (StartedStep ω)} {deeds : List Deed}
  {result : Workspace ω × Option (Nat × Sleeper)}

/-- What a chain carries behind a step comes behind what is done in that step. -/
theorem cons (started : StartedStep ω)
    (told : w.outlet.Pairs ((⟨run.steps.length, document.buffer, started⟩ : BufferStep ω).placing?
      run.document document.id).toList mid.outlet)
    (finished : mid.finished = w.finished)
    (carries : (run.record started.name
        (⟨run.steps.length, document.buffer, started⟩ : BufferStep ω).step.outcome).Carries mid
      (document.withBuffer (document.buffer.behind started)) rest passed flying deeds result) :
    run.Carries w document (started.name :: rest) (started :: passed) flying
      ((⟨run.steps.length, document.buffer, started⟩ : BufferStep ω).deeds run.document document.id ++
        deeds) result := by
  let step : BufferStep ω := ⟨run.steps.length, document.buffer, started⟩
  -- The step stands in front, and the others are one place further.
  have whole : bufferSteps document.buffer run.steps.length (started :: passed) =
    step :: bufferSteps (document.buffer.behind started) (run.steps.length + 1) passed := rfl
  have placings : (bufferSteps document.buffer run.steps.length (started :: passed)).filterMap
        (·.placing? run.document document.id) =
      (step.placing? run.document document.id).toList ++
        (bufferSteps (document.buffer.behind started) (run.steps.length + 1) passed).filterMap
          (·.placing? run.document document.id) := by
    rw [whole, List.filterMap_cons]
    cases step.placing? run.document document.id <;> rfl
  cases carries with
  | complete all opened further done =>
    -- The step is recorded in front of those that follow, so the result is the whole row.
    refine .complete (congrArg (started.name :: ·) all) opened (placings ▸ told.trans further) ?_
    rw [done, finished, whole]
    simp [record, step, BufferStep.step, Document.buffer, Document.withBuffer]
  | @waits _ _ _ _ _ line _ _ upTo opened further done same =>
    -- The process that is waited for stands one place further as well.
    have deeds : step.deeds run.document document.id ++
          ((bufferSteps (document.buffer.behind started) (run.steps.length + 1) passed).flatMap
            (·.deeds run.document document.id) ++
          [.spawned (run.steps.length + 1 + passed.length) line
            (some (passed.foldl Buffer.behind (document.buffer.behind started)).text)]) =
        (bufferSteps document.buffer run.steps.length (started :: passed)).flatMap
          (·.deeds run.document document.id) ++
        [.spawned (run.steps.length + (started :: passed).length) line
          (some ((started :: passed).foldl Buffer.behind document.buffer).text)] := by
      rw [whole, List.flatMap_cons, List.append_assoc, List.length_cons, Nat.add_assoc,
        Nat.add_comm 1 passed.length]
      rfl
    refine deeds ▸ .waits (congrArg (started.name :: ·) upTo) opened (placings ▸ told.trans further)
      (done.trans finished) (same.trans ?_)
    rw [whole]
    simp [record, step, BufferStep.step, Document.buffer, Document.withBuffer]

/-- What is silent about documents and results can come before a chain carries its buffer. -/
theorem after (carries : run.Carries mid document names passed flying deeds result)
    (told : w.outlet.Pairs [] mid.outlet) (finished : mid.finished = w.finished) :
    run.Carries w document names passed flying deeds result := by
  cases carries with
  | complete all opened further done => exact .complete all opened (told.trans further) (finished ▸ done)
  | waits upTo opened further done same =>
    exact .waits upTo opened (told.trans further) (done.trans finished) same

end ChainRun.Carries

namespace Workspace

omit [World ω] in
/-- Documents stay as they are when work is no longer shown, and the editor is told nothing of them. -/
theorem quiet_endBusyLogged {w mid : Workspace ω} {placings : List Placing} {handle : Handle}
    {document : Document} (now : Nat) (label : String) (opened : mid.document? handle = some document)
    (told : w.outlet.Pairs placings mid.outlet) (finished : mid.finished = w.finished) :
    (mid.endBusyLogged now label).document? handle = some document ∧
      w.outlet.Pairs placings (mid.endBusyLogged now label).outlet ∧
      (mid.endBusyLogged now label).finished = w.finished := by
  have places := places_endBusyLogged mid now label
  -- The busy signal sends no text and no cursor, so the placings stay those of the step.
  refine ⟨?_, List.append_nil placings ▸ told.trans places.told, ?_⟩
  · simp only [document?, places.documents]
    exact opened
  · exact (labels_endBusyLogged mid now label).2.trans finished

/-- Steps that read a buffer carry it from one to the next. -/
theorem carries_runChain (now : Nat) (run : ChainRun) (names : List String) {w : Workspace ω}
    {document : Document} (buffer : run.mode = .buffer)
    (opened : w.document? run.document = some document) :
    ∃ passed flying, run.Carries w document names passed flying (chainDeeds now run names w)
        (runChain now run names w) ∧
      chainStarts now run names w = passed ++ flying.toList := by
  -- Every step leaves a buffer to the rest of the names, with one step recorded more.
  induction names generalizing run w document with
  | nil =>
    obtain ⟨still, told, finished⟩ := quiet_endBusyLogged now run.label opened (.refl w.outlet) rfl
    refine ⟨[], none, .complete rfl still told ?_, rfl⟩
    simp [finish, finished, bufferSteps]
  | cons name rest ih =>
    have begun : w.outlet.Pairs [] (w.beginBusy now (run.stepLabel name)).outlet :=
      (places_beginBusy w now (run.stepLabel name)).told
    obtain ⟨deeds, begins, does⟩ := w.begins_beginStep now run name
    rw [does rest, runChain_cons, chainStarts]
    generalize w.startOf run name = start at begins ⊢
    generalize w.beginStep now run name = outcome at begins ⊢
    cases begins with
    | unknown =>
      -- A name that nobody has is only reported, and the buffer stays.
      have places := places_report w (.unknownFormatter name)
      have still : (w.report (.unknownFormatter name)).document? run.document = some document := by
        simp only [document?, places.documents]
        exact opened
      obtain ⟨passed, flying, carries, starts⟩ := ih (run.record name none) buffer still
      exact ⟨_, flying, carries.cons ⟨name, .unknown⟩ places.told
        (abides_report w (.unknownFormatter name)).unshown.finished, congrArg (_ :: ·) starts⟩
    | @missing mid documents works =>
      -- Without a binary there is nothing to put into the document.
      have told : w.outlet.Pairs [] mid.outlet := by
        refine begun.trans (.of_shows works.shows ?_)
        simpa using placingsOf_notices w.handling [.binaryNotFound name]
      have there : mid.document? run.document = some document := by
        simp only [document?, documents]
        exact opened
      obtain ⟨still, told, finished⟩ :=
        quiet_endBusyLogged now (run.stepLabel name) there told works.abides.unshown.finished
      obtain ⟨passed, flying, carries, starts⟩ := ih (run.record name (some .binaryNotFound)) buffer still
      exact ⟨_, flying, carries.cons ⟨name, .missing⟩ told finished, congrArg (_ :: ·) starts⟩
    | @ended mid own line scope flight found launched documents works =>
      obtain rfl : own = document := Option.some.inj (found.symm.trans opened)
      rw [buffer] at launched works ⊢
      subst launched
      -- The process has ended at once, so the rest takes up what it leaves.
      obtain ⟨left, placed, written⟩ := landed_flight opened run.steps.length name line w.world scope
      let started : StartedStep ω := ⟨name, .launched w.world line scope⟩
      let step : BufferStep ω := ⟨run.steps.length, own.buffer, started⟩
      have told : w.outlet.Pairs (step.placing? run.document own.id).toList mid.outlet :=
        begun.trans ⟨_, works.shows, placed⟩
      have there : mid.document? run.document = some (own.withBuffer (own.buffer.behind started)) := by
        simp only [document?, documents]
        exact left
      obtain ⟨still, told, finished⟩ :=
        quiet_endBusyLogged now (run.stepLabel name) there told works.abides.unshown.finished
      obtain ⟨passed, flying, carries, starts⟩ := ih (run.record name step.step.outcome) buffer still
      have deeds : step.deeds run.document own.id =
          .spawned run.steps.length line (own.buffer.input? .buffer) ::
            (w.flightDeeds (own.buffer.flight run.document .buffer w.world line) ++
              [.settled run.steps.length]) := by
        rw [written]
        rfl
      exact ⟨_, flying, deeds ▸ carries.cons (w := w) started told finished, congrArg (_ :: ·) starts⟩
    | @waits mid own line scope delay flight found launched documents works =>
      obtain rfl : own = document := Option.some.inj (found.symm.trans opened)
      rw [buffer] at launched works ⊢
      subst launched
      -- The text goes to the process, and the chain waits with nothing told yet.
      have there : mid.document? run.document = some own := by
        simp only [document?, documents]
        exact opened
      exact ⟨[], some ⟨name, .launched w.world line scope⟩, .waits rfl there
        (begun.trans (.of_shows works.shows rfl)) works.abides.unshown.finished rfl, rfl⟩

/-- A chain that begins carries the buffer of its document. -/
theorem carries_startErrand {errand : Errand} {w : Workspace ω} {handle : Handle}
    {names : List String} {document : Document} (now : Nat)
    (chain : w.chainOf? errand = some (handle, names, .buffer))
    (opened : w.document? handle = some document) :
    ∃ passed flying, (w.chainRun errand.number handle .buffer).Carries w document names passed flying
        (errandDeeds now errand w) (startErrand now errand w) ∧
      errandStarts now errand w = passed ++ flying.toList := by
  let run := w.chainRun errand.number handle .buffer
  rw [startErrand_of_chainOf? now chain]
  simp only [errandDeeds, errandStarts, chain]
  by_cases empty : names = []
  · -- A chain without formatters ends as it begins.
    subst empty
    have ended := places_endBusy w now run.label
    refine ⟨[], none, .complete rfl ?_ ended.told rfl, rfl⟩
    have same : (startChain now errand.number handle [] .buffer w).1.documents = w.documents :=
      ended.documents
    have still : (startChain now errand.number handle [] .buffer w).1.document? handle = some document := by
      simp only [document?, same]
      exact opened
    exact still
  · rw [startChain_of_ne_nil now _ handle empty]
    obtain ⟨passed, flying, carries, starts⟩ :=
      carries_runChain now run names (w := w.beginBusy now run.label) rfl opened
    exact ⟨passed, flying, carries.after (places_beginBusy w now run.label).told rfl, starts⟩

/-- A chain whose process has ended leaves the buffer behind that step, and carries it on. -/
theorem carries_wakeSleeper {w : Workspace ω} {document : Document} (now : Nat) (run : ChainRun)
    (name : String) (rest : List String) (scope : Scope) (world : ω) (line : String)
    (buffer : run.mode = .buffer) (opened : w.document? run.document = some document) :
    let sleeper : Sleeper :=
      .chain run name rest scope (document.buffer.flight run.document .buffer world line)
    ∃ passed flying, run.Carries w document (name :: rest)
        (⟨name, .launched world line scope⟩ :: passed) flying
        (.spawned run.steps.length line (some document.buffer.text) :: wakeDeeds now sleeper w)
        (wakeSleeper now sleeper w) ∧
      wakeStarts now sleeper w = passed ++ flying.toList := by
  intro sleeper
  let flight := document.buffer.flight run.document .buffer world line
  let started : StartedStep ω := ⟨name, .launched world line scope⟩
  let step : BufferStep ω := ⟨run.steps.length, document.buffer, started⟩
  -- First the output of the process is put into the document, and then the chain goes on behind it.
  obtain ⟨left, placed, written⟩ := landed_flight opened run.steps.length name line world scope
  obtain ⟨shows, documents⟩ := shows_finishProcess w flight
  have told : w.outlet.Pairs (step.placing? run.document document.id).toList
    (w.finishProcess flight).1.outlet := ⟨_, shows, placed⟩
  have there : (w.finishProcess flight).1.document? run.document =
      some (document.withBuffer (document.buffer.behind started)) := by
    simp only [document?, documents]
    exact left
  have finished := (abides_finishProcess w flight).unshown.finished
  obtain ⟨still, told, finished⟩ := quiet_endBusyLogged now (run.stepLabel name) there told finished
  obtain ⟨passed, flying, carries, starts⟩ :=
    carries_runChain now (run.record name step.step.outcome) rest buffer still
  have carried := carries.cons (w := w) started told finished
  have deeds : step.deeds run.document document.id =
      .spawned run.steps.length line (some document.buffer.text) ::
        (w.flightDeeds flight ++ [.settled run.steps.length]) := by
    rw [written]
    rfl
  rw [deeds, List.cons_append, List.append_assoc] at carried
  -- The outcome that is recorded is the one that the process gives.
  have gives : some (Outcome.ran scope (w.finishProcess flight).2) = step.step.outcome := by
    rw [finishProcess_gives]
    rfl
  rw [← gives] at carried starts
  exact ⟨passed, flying, carried, starts⟩

end Workspace

end FormatPipeline
