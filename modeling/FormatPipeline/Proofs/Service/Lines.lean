import FormatPipeline.Proofs.Service.Coherence
import FormatPipeline.Proofs.Text.Utf8

/-! Which lines of its input a service handles as messages, and what it makes of the others. -/

namespace FormatPipeline

/-! ## Blank texts -/

/-- What is left behind the blanks of a text is a part of the text. -/
theorem Json.mem_of_mem_skipBlanks {cs : List Char} {c : Char} (member : c ∈ skipBlanks cs) : c ∈ cs :=
  (List.dropWhile_suffix _).mem member

/-- A message begins with a bracket or a brace behind blanks. -/
theorem Decoding.skipBlanks_of_readMessage {cs : List Char}
    {message : Incoming.Kind × Content × List Char} (read : readMessage cs = .ok message) :
    ∃ c ∈ ['\x7b', '['], ∃ rest, Json.skipBlanks cs = c :: rest := by
  unfold readMessage at read
  -- Anything else is refused after it has been read.
  split at read
  next rest behind => exact ⟨_, by simp, rest, behind⟩
  next rest behind => exact ⟨_, by simp, rest, behind⟩
  next =>
    cases scalar : Json.readScalar (Json.skipBlanks cs) with
    | error fault => simp [lift, scalar, Bind.bind, Except.bind] at read
    | ok found => simp [lift, scalar, Bind.bind, Except.bind, throw, throwThe, MonadExceptOf.throw] at read

/-- No message is blank. -/
theorem Incoming.not_allBlank_of_decode {text : String} {message : Incoming}
    (decoded : decode text = .ok message) : Text.allBlank text = false := by
  unfold decode at decoded
  cases read : Decoding.readMessage text.toList with
  | error fault => simp [read, Bind.bind, Except.bind] at decoded
  | ok found =>
    obtain ⟨c, bracket, rest, behind⟩ := Decoding.skipBlanks_of_readMessage read
    have member : c ∈ text.toList := Json.mem_of_mem_skipBlanks (by simp [behind])
    have visible : ['\x7b', '['].all (!Text.isBlank ·) := by decide
    -- The bracket itself is no blank.
    simp only [Text.allBlank, List.all_eq_false]
    exact ⟨c, member, by simpa using List.all_eq_true.mp visible c bracket⟩

namespace Service

/-! ## Lines -/

/-- A line without a carriage return at its end. -/
def withoutReturn (line : List UInt8) : List UInt8 :=
  if line.getLast? = some 13 then line.dropLast else line

/-- The lines of the bytes; what follows the last line end is a line if there is something. -/
def lines (bytes : List UInt8) : List (List UInt8) :=
  let pieces := bytes.splitOn 10
  pieces.dropLast.map withoutReturn ++ pieces.getLast?.toList.filter (!·.isEmpty)

/-- A line is cut off at the first line end. -/
theorem lines_append_cons {line : List UInt8} (whole : 10 ∉ line) (rest : List UInt8) :
    lines (line ++ 10 :: rest) = withoutReturn line :: lines rest := by
  have inside : ∀ byte ∈ line, (byte == 10) = false := by
    intro byte member
    simpa using ne_of_mem_of_not_mem member whole
  have pieces : (line ++ 10 :: rest).splitOn 10 = line :: rest.splitOn 10 :=
    List.splitOnP_append_cons_of_forall_mem inside 10 (by simp) rest
  -- There is always a last piece behind the line end.
  have more : rest.splitOn 10 ≠ [] := List.splitOnP_ne_nil _ _
  simp [lines, pieces, List.dropLast_cons_of_ne_nil more, List.getLast?_cons_of_ne_nil more]

/-- Without a line end there is at most one line. -/
theorem lines_of_notMem {line : List UInt8} (whole : 10 ∉ line) :
    lines line = [line].filter (!·.isEmpty) := by
  have inside : ∀ byte ∈ line, (byte == 10) = false := by
    intro byte member
    simpa using ne_of_mem_of_not_mem member whole
  have pieces : line.splitOn 10 = [line] := List.splitOnP_eq_singleton inside
  simp [lines, pieces]

/-- The line end is taken off a line that was read byte by byte. -/
theorem withoutLineEnd_cons (reversed : List UInt8) :
    (withoutLineEnd (10 :: reversed)).reverse = withoutReturn reversed.reverse := by
  cases reversed with
  | nil => rfl
  | cons byte rest => by_cases returned : byte = 13 <;> simp [withoutLineEnd, withoutReturn, returned]

/-- Nothing is taken off a line without a line end. -/
theorem withoutLineEnd_of_notMem {reversed : List UInt8} (whole : 10 ∉ reversed) :
    withoutLineEnd reversed = reversed := by
  unfold withoutLineEnd
  split <;> simp_all

/-- The list up to the first element of a kind, with that element. -/
def upTo {α : Type} (isLast : α → Bool) : List α → List α
  | [] => []
  | a :: rest => if isLast a then [a] else a :: upTo isLast rest

/-- What the input brings: a line as soon as it is complete, or a pause. -/
inductive Arrival where
  | line (bytes : List UInt8)
  | pause (milliseconds : Nat)
  deriving DecidableEq

/-- The line that arrives. -/
def Arrival.line? : Arrival → Option (List UInt8)
  | line bytes => some bytes
  | pause _ => none

/-- A line that arrives is that line. -/
@[simp] theorem Arrival.line?_line (bytes : List UInt8) : (line bytes).line? = some bytes := rfl

/-- In a pause no line arrives. -/
@[simp] theorem Arrival.line?_pause (milliseconds : Nat) : (pause milliseconds).line? = none := rfl

/-- The lines that bytes complete, and the beginning of the next one; `reversed` was read before. -/
def complete (reversed : List UInt8) : List UInt8 → List (List UInt8) × List UInt8
  | [] => ([], reversed)
  | byte :: rest =>
    -- A return in front of the line end belongs to the end.
    if byte = 10 then
      let (lines, left) := complete [] rest
      (withoutReturn reversed.reverse :: lines, left)
    else complete (byte :: reversed) rest

/-- What the input brings in its order; `reversed` was read of the first line before. -/
def arrivals (reversed : List UInt8) : List Feed → List Arrival
  -- A line that the input breaks off counts, unless it is empty.
  | [] => if reversed.isEmpty then [] else [.line reversed.reverse]
  | .pause milliseconds :: rest => .pause milliseconds :: arrivals reversed rest
  | .bytes bytes :: rest =>
    let (lines, left) := complete reversed bytes
    lines.map .line ++ arrivals left rest

/-- The bytes of the input, without the pauses. -/
def bytesOf (input : List Feed) : List UInt8 := input.flatMap fun
  | .bytes bytes => bytes
  | .pause _ => []

/-- What was read of a line has no line end in it. -/
theorem notMem_complete {reversed : List UInt8} (whole : 10 ∉ reversed) (bytes : List UInt8) :
    10 ∉ (complete reversed bytes).2 := by
  -- A line end empties what was read, and any other byte is added in front of it.
  induction bytes generalizing reversed with
  | nil => exact whole
  | cons byte rest ih =>
    unfold complete
    split
    · exact ih (by simp)
    next other => exact ih (by simpa using ⟨Ne.symm other, whole⟩)

/-- The lines that bytes complete come before those of the bytes that follow. -/
theorem lines_complete (reversed : List UInt8) (whole : 10 ∉ reversed) (bytes behind : List UInt8) :
    lines (reversed.reverse ++ bytes ++ behind) =
      (complete reversed bytes).1 ++ lines ((complete reversed bytes).2.reverse ++ behind) := by
  induction bytes generalizing reversed with
  | nil => simp [complete]
  | cons byte rest ih =>
    unfold complete
    split
    next ends =>
      -- The first line is complete, and another one begins.
      subst ends
      have later := ih [] (by simp)
      rw [List.append_assoc, List.cons_append, lines_append_cons (by simpa using whole)]
      simpa using later
    next other =>
      have later := ih (byte :: reversed) (by simpa using ⟨Ne.symm other, whole⟩)
      simpa using later

/-- The lines that arrive are those of the bytes, however the bytes and the pauses are spread. -/
theorem filterMap_arrivals (reversed : List UInt8) (whole : 10 ∉ reversed) (input : List Feed) :
    (arrivals reversed input).filterMap Arrival.line? = lines (reversed.reverse ++ bytesOf input) := by
  -- The induction is on the input, and what was read of the line so far is carried along.
  induction input generalizing reversed with
  | nil =>
    have free : 10 ∉ reversed.reverse := by simpa using whole
    have last := lines_of_notMem free
    cases reversed <;> simp_all [arrivals, bytesOf]
  | cons feed rest ih =>
    cases feed with
    -- A pause completes no line.
    | pause milliseconds =>
      have later := ih reversed whole
      simpa [arrivals, bytesOf, List.filterMap_cons] using later
    | bytes bytes =>
      -- Bytes complete lines, and what is left of them begins the next one.
      have later := ih _ (notMem_complete whole bytes)
      have completed := lines_complete reversed whole bytes (bytesOf rest)
      rw [← later] at completed
      simpa [arrivals, bytesOf, List.filterMap_map, Function.comp_def] using completed.symm

/-! ## What a service makes of a line -/

/-- The message that a line is. -/
def message? (line : List UInt8) : Option Incoming :=
  match Text.utf8Fault? line with
  | some _ => none
  | none => (Incoming.decode (Text.ofBytes line)).toOption

/-- Whether a message is the last one. -/
def isLast : Incoming → Bool
  | .shutdown => true
  | _ => false

/-- Whether a line asks for the end. -/
def asksForEnd (line : List UInt8) : Bool := (message? line).any isLast

/-- A line holds a message: its bytes are those of a text that is the message. -/
def Holds (line : List UInt8) (message : Incoming) : Prop :=
  ∃ text, Text.toBytes text = line ∧ Incoming.decode text = .ok message

/-- A line is the message that it holds. -/
theorem message?_eq_some_iff {line : List UInt8} {message : Incoming} :
    message? line = some message ↔ Holds line message := by
  unfold message? Holds
  cases fault : Text.utf8Fault? line with
  | some found =>
    -- A line with a fault holds no text at all.
    simp only [reduceCtorEq, false_iff, not_exists, not_and]
    intro text same
    rw [(Text.utf8Fault?_eq_none_iff line).mpr ⟨text, same⟩] at fault
    cases fault
  | none =>
    obtain ⟨text, rfl⟩ := (Text.utf8Fault?_eq_none_iff line).mp fault
    simp only [Text.ofBytes_toBytes]
    constructor
    · intro decoded
      refine ⟨text, rfl, ?_⟩
      cases outcome : Incoming.decode text with
      | error error => simp [outcome, Except.toOption] at decoded
      | ok found => simpa [outcome, Except.toOption] using decoded
    · rintro ⟨other, same, decoded⟩
      -- Texts with the same bytes are the same.
      have equal : other = text := by rw [← Text.ofBytes_toBytes other, same, Text.ofBytes_toBytes]
      simp [← equal, decoded, Except.toOption]

/-- What is logged about a line that is no message. -/
def complaint? (line : List UInt8) : Option String :=
  match Incoming.decode (Text.ofBytes line) with
  -- Blank lines are skipped without a word.
  | .error error => if Text.allBlank (Text.ofBytes line) then none else some (malformedText error)
  | .ok _ => none

variable {ω : Type} [World ω]

/-- The service after an arrival: a message is handled, and any other line is at most logged. -/
def heed (service : Service ω) : Arrival → Service ω
  | .pause milliseconds => service.modify (Session.wait milliseconds)
  | .line line =>
    match message? line with
    | some message => service.answer message
    | none => (complaint? line).elim service service.warn

/-- While nothing comes, the work that is due goes on. -/
@[simp] theorem heed_pause (service : Service ω) (milliseconds : Nat) :
    service.heed (.pause milliseconds) = service.modify (Session.wait milliseconds) := rfl

/-- Handles a line that has no line end any more. -/
def hear (service : Service ω) (line : List UInt8) : Service ω × Option Ending :=
  match Text.utf8Fault? line with
  | some fault => (service, some (.notUtf8 fault))
  | none => service.handleLine (Text.ofBytes line)

/-- Handles arrivals up to the last one or an earlier ending. -/
def hearAll (service : Service ω) : List Arrival → Service ω × Option Ending
  | [] => (service, none)
  | .pause milliseconds :: rest => hearAll (service.modify (Session.wait milliseconds)) rest
  | .line line :: rest =>
    match service.hear line with
    | (service, some ending) => (service, some ending)
    | (service, none) => hearAll service rest

/-- Only the message that asks for the end keeps the service from going on. -/
theorem snd_handle (service : Service ω) (message : Incoming) :
    (service.handle message).2 = !isLast message := by
  -- Whatever another message does to the service, the service goes on afterwards.
  cases message with
  | openDocument | closeDocument | setting | command | shutdown => rfl
  | updateDocument id text cursor =>
    simp only [handle]
    split <;> rfl
  | scopeChanged id inScope =>
    simp only [handle]
    split <;> rfl
  | activeDocumentChanged id =>
    simp only [handle]
    split <;> rfl
  | saved id =>
    simp only [handle]
    split
    · rfl
    · split <;> rfl

/-- Handling a message leads to its answer. -/
theorem answer_eq (service : Service ω) (message : Incoming) :
    service.answer message =
      if (service.handle message).2 then (service.handle message).1.retainRunning
      else (service.handle message).1 := by
  unfold answer
  split <;> simp_all

/-- A line of text is heeded, and ends the service if it asks for that. -/
theorem hear_of_text (service : Service ω) {line : List UInt8} (text : Text.utf8Fault? line = none) :
    service.hear line =
      (service.heed (.line line), if asksForEnd line then some .shutdown else none) := by
  unfold hear handleLine
  simp only [text]
  cases decoded : Incoming.decode (Text.ofBytes line) with
  | error error =>
    have unheard : message? line = none := by simp [message?, text, decoded, Except.toOption]
    -- Nothing is said about a blank line.
    by_cases blank : Text.allBlank (Text.ofBytes line)
    · simp [heed, asksForEnd, unheard, complaint?, decoded, blank]
    · simp [heed, asksForEnd, unheard, complaint?, decoded, blank]
  | ok message =>
    have heard : message? line = some message := by simp [message?, text, decoded, Except.toOption]
    have visible := Incoming.not_allBlank_of_decode decoded
    have goesOn := service.snd_handle message
    have answered := service.answer_eq message
    simp only [visible, heed, heard, asksForEnd, answered, Option.any_some]
    generalize service.handle message = outcome at goesOn ⊢
    obtain ⟨later, goes⟩ := outcome
    dsimp only at goesOn ⊢
    subst goesOn
    cases message <;> rfl

/-- The arrivals are handled up to a line that ends the service. -/
theorem takeBytes_eq (service : Service ω) (reversed bytes : List UInt8) :
    service.takeBytes reversed bytes =
      match service.hearAll ((complete reversed bytes).1.map .line) with
      | (later, some ending) => (later, [], some ending)
      | (later, none) => (later, (complete reversed bytes).2, none) := by
  induction bytes generalizing service reversed with
  | nil => rfl
  | cons byte rest ih =>
    unfold takeBytes complete
    split
    next ends =>
      subst ends
      have heard : service.handleBytes (10 :: reversed) = service.hear (withoutReturn reversed.reverse) := by
        rw [handleBytes, withoutLineEnd_cons]
        rfl
      rw [heard, List.map_cons, hearAll]
      -- What follows the line is only handled if the line does not end the service.
      generalize service.hear (withoutReturn reversed.reverse) = outcome
      obtain ⟨later, none | ending⟩ := outcome
      · exact ih later []
      · rfl
    next => exact ih service (byte :: reversed)

/-- The first ending among arrivals is the last thing that is handled. -/
theorem hearAll_append (service : Service ω) (first second : List Arrival) :
    service.hearAll (first ++ second) =
      match service.hearAll first with
      | (later, some ending) => (later, some ending)
      | (later, none) => later.hearAll second := by
  -- The induction is on the first arrivals; only a line can end the service.
  induction first generalizing service with
  | nil => rfl
  | cons arrival rest ih =>
    cases arrival with
    | pause milliseconds => exact ih _
    | line line =>
      simp only [List.cons_append, hearAll]
      generalize service.hear line = outcome
      obtain ⟨later, none | ending⟩ := outcome
      · exact ih later
      · rfl

/-- Handling the input is handling what it brings. -/
theorem takeFeed_eq_hearAll (service : Service ω) {reversed : List UInt8} (whole : 10 ∉ reversed)
    (input : List Feed) : service.takeFeed reversed input = service.hearAll (arrivals reversed input) := by
  induction input generalizing service reversed with
  | nil =>
    unfold takeFeed arrivals
    split
    · rfl
    · -- The last line has no line end.
      have heard : service.handleBytes reversed = service.hear reversed.reverse := by
        rw [handleBytes, withoutLineEnd_of_notMem whole]
        rfl
      rw [heard, hearAll]
      generalize service.hear reversed.reverse = outcome
      obtain ⟨later, none | ending⟩ := outcome <;> rfl
  | cons feed rest ih =>
    cases feed with
    | pause milliseconds => exact ih _ whole
    | bytes bytes =>
      have left := notMem_complete whole bytes
      simp only [takeFeed, arrivals, hearAll_append, takeBytes_eq]
      generalize service.hearAll ((complete reversed bytes).1.map .line) = outcome
      obtain ⟨later, none | ending⟩ := outcome
      · exact ih later left
      · rfl

/-! ## The messages of the input -/

/-- The arrivals up to a line that asks for the end. -/
def heard (arrivals : List Arrival) : List Arrival := upTo (fun arrival => arrival.line?.any asksForEnd) arrivals

/-- A pause is heard. -/
@[simp] theorem heard_pause (milliseconds : Nat) (rest : List Arrival) :
    heard (.pause milliseconds :: rest) = .pause milliseconds :: heard rest := rfl

/-- A line is heard, and is the last one if it asks for the end. -/
@[simp] theorem heard_line (line : List UInt8) (rest : List Arrival) :
    heard (.line line :: rest) = if asksForEnd line then [.line line] else .line line :: heard rest := rfl

/-- The lines among them are the lines up to the one that asks for the end. -/
theorem filterMap_heard (arrivals : List Arrival) :
    (heard arrivals).filterMap Arrival.line? = upTo asksForEnd (arrivals.filterMap Arrival.line?) := by
  -- Both sides stop at the same line, and pauses are passed over.
  induction arrivals with
  | nil => rfl
  | cons arrival rest ih =>
    cases arrival with
    | pause milliseconds => simpa [List.filterMap_cons] using ih
    | line line =>
      by_cases last : asksForEnd line
      · simp [upTo, last]
      · simp [upTo, last, ih]

/-- How the service ends when all lines are texts. -/
def endingOf (lines : List (List UInt8)) : Option Ending :=
  if lines.any asksForEnd then some .shutdown else none

/-- A service that ends at a line that is no text does not end as it should. -/
theorem endingOf_ne_notUtf8 (lines : List (List UInt8)) (fault : Text.Utf8Fault) :
    endingOf lines ≠ some (.notUtf8 fault) := by
  unfold endingOf
  split <;> simp

/-- Arrivals are heeded up to the line that asks for the end or to the end of the input if all lines up
to there are texts, and only then. -/
theorem hearAll_eq_iff (service : Service ω) (arrivals : List Arrival) :
    service.hearAll arrivals =
        ((heard arrivals).foldl heed service, endingOf (arrivals.filterMap Arrival.line?)) ↔
      ∀ line ∈ (heard arrivals).filterMap Arrival.line?, Text.utf8Fault? line = none := by
  induction arrivals generalizing service with
  | nil => simp [hearAll, heard, upTo, endingOf]
  | cons arrival rest ih =>
    cases arrival with
    | pause milliseconds =>
      have later := ih (service.modify (Session.wait milliseconds))
      simpa [hearAll, List.filterMap_cons] using later
    | line line =>
      cases text : Text.utf8Fault? line with
      | some fault =>
        -- The service ends at a line that is no text, and in a way of its own.
        have ended : service.hearAll (.line line :: rest) = (service, some (.notUtf8 fault)) := by
          simp [hearAll, hear, text]
        have first : line ∈ (heard (.line line :: rest)).filterMap Arrival.line? := by
          rw [heard_line]
          split <;> simp
        constructor
        · intro same
          rw [ended] at same
          exact absurd (congrArg Prod.snd same).symm (endingOf_ne_notUtf8 _ fault)
        · intro texts
          simp [texts line first] at text
      | none =>
        have heeded := service.hear_of_text text
        -- A line that asks for the end is the last one heard; any other hands on to the rest.
        by_cases last : asksForEnd line
        · simp [hearAll, heeded, last, endingOf, text]
        · have later := ih (service.heed (.line line))
          simpa [hearAll, heeded, last, endingOf, text] using later

/-- A line that is no message leaves the service as it is, except that a text may be logged. -/
theorem heed_of_noMessage (service : Service ω) {line : List UInt8} (unheard : message? line = none) :
    service.heed (.line line) = service ∨
      ∃ text, service.heed (.line line) =
        service.modify fun s => s.modify fun w => { w with outlet := w.outlet.record (.log text) } := by
  cases complained : complaint? line with
  | none => exact .inl (by simp [heed, unheard, complained])
  | some text =>
    have warned : service.heed (.line line) = service.warn text := by simp [heed, unheard, complained]
    -- Nothing is logged either when warnings are too unimportant.
    by_cases logged : service.session.state.outlet.level.logs .warn
    · refine .inr ⟨Outlet.warningWord ++ " " ++ text, ?_⟩
      rw [warned]
      simp [warn, modify, Schedule.DebouncedTimeline.modify, Schedule.Timeline.modify, Workspace.warn,
        Outlet.warn, Outlet.log, logged]
    · refine .inl ?_
      rw [warned]
      simp [warn, modify, Schedule.DebouncedTimeline.modify, Schedule.Timeline.modify, Workspace.warn,
        Outlet.warn, Outlet.log, logged]

/-- A service handles the messages among the lines of its input in their order, up to the one that asks
for the end, and leaves every other line at a log text at most; this is so exactly when all lines up to
there are texts, since a line that is none ends the service with an error. -/
theorem takeFeed_eq_iff (service : Service ω) (input : List Feed) :
    ((heard (arrivals [] input)).filterMap Arrival.line? = upTo asksForEnd (lines (bytesOf input))) ∧
    (service.takeFeed [] input =
        ((heard (arrivals [] input)).foldl heed service, endingOf (lines (bytesOf input))) ↔
      ∀ line ∈ upTo asksForEnd (lines (bytesOf input)), ∃ text, Text.toBytes text = line) ∧
    (∀ (later : Service ω) (line : List UInt8) (message : Incoming), Holds line message →
      later.heed (.line line) = later.answer message) ∧
    ∀ (later : Service ω) (line : List UInt8), (∀ message, ¬ Holds line message) →
      later.heed (.line line) = later ∨
        ∃ text, later.heed (.line line) =
          later.modify fun s => s.modify fun w => { w with outlet := w.outlet.record (.log text) } := by
  -- The lines that arrive are cut from the bytes alone.
  have arrived : (arrivals [] input).filterMap Arrival.line? = lines (bytesOf input) := by
    simpa using filterMap_arrivals [] (by simp) input
  have handled := service.hearAll_eq_iff (arrivals [] input)
  simp only [filterMap_heard, arrived, Text.utf8Fault?_eq_none_iff] at handled
  refine ⟨by rw [filterMap_heard, arrived], ?_, ?_, ?_⟩
  · rw [takeFeed_eq_hearAll service (by simp)]
    exact handled
  -- A line that holds a message is answered with it.
  · intro later line message holds
    simp [heed, message?_eq_some_iff.mpr holds]
  -- Any other line leaves at most a text in the log.
  · intro later line other
    refine later.heed_of_noMessage ?_
    cases found : message? line with
    | none => rfl
    | some message => exact absurd (message?_eq_some_iff.mp found) (other message)

/-- A line that is no text ends the service, so that the line behind it is not heard any more, which in
this input asks for the end. -/
theorem takeFeed_brokenLine :
    let ending : List UInt8 := [91, 34, 115, 104, 117, 116, 100, 111, 119, 110, 34, 93]
    let input : List Feed := [.bytes [255, 10], .bytes ending]
    Text.ofBytes ending = "[\"shutdown\"]" ∧ lines (bytesOf input) = [[255], ending] ∧
      message? [255] = none ∧ asksForEnd ending ∧
      (sampleFirst.takeFeed [] input).2 = some (.notUtf8 ⟨0, some 1⟩) ∧
      sampleFirst.takeFeed [] input ≠
        ((heard (arrivals [] input)).foldl heed sampleFirst, endingOf (lines (bytesOf input))) := by
  intro ending input
  -- The line end cuts the bytes into the broken line and the one that asks for the end.
  have split : lines ([255] ++ 10 :: ending) = [[255], ending] := by
    rw [lines_append_cons (by decide), lines_of_notMem (by decide)]
    rfl
  have broken : (sampleFirst.takeFeed [] input) = (sampleFirst, some (.notUtf8 ⟨0, some 1⟩)) := rfl
  refine ⟨by decide, split, rfl, by decide +kernel, congrArg Prod.snd broken, ?_⟩
  rw [broken]
  -- A service that skipped the line would go on to the end that is asked for.
  intro same
  obtain ⟨-, ended⟩ := Prod.mk.inj same
  exact endingOf_ne_notUtf8 _ _ ended.symm

end Service

end FormatPipeline
