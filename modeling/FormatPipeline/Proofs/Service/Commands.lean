import FormatPipeline.Proofs.Service.Selection
import FormatPipeline.Proofs.Service.Work

/-! Commands: a chain runs on the document that is active when it begins, and not when it was asked for. -/

namespace FormatPipeline

open Schedule (DebouncedTimeline Turn Work)

/-- A choice of documents by the editor. -/
inductive Choice where
  /-- A document is opened, in place of one that is open under its number. -/
  | opened (id : Nat)
  | closed (id : Nat)
  /-- An open document, or none, is made active. -/
  | activated (id : Option Nat)
  deriving DecidableEq, Repr

namespace Choice

/-- The number that a choice makes active, if it makes a document or none active. -/
def activated? : Choice → Option (Option Nat)
  | activated id => some id
  | opened _ | closed _ => none

/-- Whether a choice takes a document of the number away. -/
def replaces (id : Nat) : Choice → Bool
  | opened other | closed other => other == id
  | activated _ => false

end Choice

namespace DocumentTable

/-- The choices in a message that are carried out. -/
def choices (table : DocumentTable) : Incoming → List Choice
  | .openDocument id .. => [.opened id]
  | .closeDocument id => [.closed id]
  -- Only a document that is open can be made active.
  | .activeDocumentChanged id => if (table.activate? id).isSome then [.activated id] else []
  | .updateDocument .. | .scopeChanged .. | .saved _ | .setting .. | .command _ | .shutdown => []

/-- What has become of a document that was active under a number, after some choices. -/
structure Follows (id : Nat) (handle : Handle) (history : List Choice) (table : DocumentTable) : Prop where
  sound : table.Sound
  present : (table.get? handle).map (·.id) = some id
  known : table.handle? id = some handle ↔ ∀ choice ∈ history, choice.replaces id = false
  chosen : (∀ choice ∈ history, choice.replaces id = false) →
    (table.activeId = some id ↔ (latest Choice.activated? history).getD (some id) = some id)

namespace Follows

variable {id : Nat} {handle : Handle} {history : List Choice} {table : DocumentTable}

/-- Before any choice the document is active. -/
theorem start (sound : table.Sound) (active : table.activeId = some id)
    (known : table.handle? id = some handle) : Follows id handle [] table := by
  obtain ⟨document, present, named⟩ := sound id handle known
  exact ⟨sound, by simp [present, named], by simp [known], fun _ => by simp [active, latest]⟩

/-- What is written in documents makes no difference. -/
theorem of_blank (follows : Follows id handle history table) {other : DocumentTable}
    (blank : other.blank = table.blank) : Follows id handle history other := by
  -- Numbers, handles and the active number are no part of what is written.
  have activeId : other.activeId = table.activeId := congrArg (·.activeId) blank
  have handles : other.handle? id = table.handle? id := congrArg (·.handle? id) blank
  refine ⟨follows.sound.of_blank blank, ?_, handles ▸ follows.known, activeId ▸ follows.chosen⟩
  have same := congrArg (fun table => (table.get? handle).map (·.id)) blank
  simp only [get?_blank, Option.map_map] at same
  exact same.trans follows.present

/-- The document is still active if it was not taken away and its number was chosen last. -/
theorem active?_iff (follows : Follows id handle history table) :
    table.active? = some handle ↔ (∀ choice ∈ history, choice.replaces id = false) ∧
      (latest Choice.activated? history).getD (some id) = some id := by
  constructor
  · intro active
    -- The document of the handle has one number only.
    obtain ⟨other, chosen, known⟩ := Option.bind_eq_some_iff.mp active
    obtain ⟨document, present, named⟩ := follows.sound other handle known
    have same := follows.present
    rw [present, Option.map_some, named, Option.some.injEq] at same
    subst same
    have kept := follows.known.mp known
    exact ⟨kept, (follows.chosen kept).mp chosen⟩
  · rintro ⟨kept, last⟩
    rw [active?, (follows.chosen kept).mpr last, Option.bind_some]
    exact follows.known.mpr kept

/-- A document that is opened takes the place of the one that had its number. -/
theorem insert (follows : Follows id handle history table) (document : Document) :
    Follows id handle (history ++ [.opened document.id]) (table.insert document).1 := by
  obtain ⟨own, present, named⟩ := Option.map_eq_some_iff.mp follows.present
  refine ⟨follows.sound.insert document, ?_, ?_, fun kept => ?_⟩
  · simp [get?_insert, ne_length_of_get? present, present, named]
  · rw [handle?_insert, List.forall_mem_append, ← follows.known]
    by_cases same : id = document.id
    · -- The new document has a handle of its own.
      simp [same, Choice.replaces, (ne_length_of_get? present).symm]
    · simp [same, Choice.replaces, Ne.symm same]
  · rw [latest_append_singleton]
    exact follows.chosen fun choice member => kept choice (List.mem_append_left _ member)

/-- A document that is closed is known by no number. -/
theorem close (follows : Follows id handle history table) (other : Nat) :
    Follows id handle (history ++ [.closed other]) (table.close other) := by
  refine ⟨follows.sound.close other, follows.present, ?_, fun kept => ?_⟩
  · rw [handle?_close, List.forall_mem_append, ← follows.known]
    by_cases same : id = other
    · simp [same, Choice.replaces]
    · simp [same, Choice.replaces, Ne.symm same]
  · rw [latest_append_singleton]
    have before := follows.chosen fun choice member => kept choice (List.mem_append_left _ member)
    have apart : other ≠ id := by simpa [Choice.replaces] using kept (.closed other) (by simp)
    refine Iff.trans ?_ before
    -- Only the active number can be inactive after that, and the document keeps its own.
    simp only [DocumentTable.close]
    split
    next chosen => simp [chosen, apart]
    next => rfl

/-- A document that is made active is the last choice. -/
theorem activate (follows : Follows id handle history table) {other : Option Nat}
    {later : DocumentTable} (activated : table.activate? other = some later) :
    Follows id handle (history ++ [.activated other]) later := by
  obtain rfl := activate?_eq_some activated
  refine ⟨follows.sound, follows.present, ?_, fun _ => ?_⟩
  -- The handle of the document is the one that its number had before.
  · rw [List.forall_mem_append, ← follows.known]
    simp [Choice.replaces, handle?]
  · simp [latest_append_singleton, Choice.activated?]

/-- The document is followed through every message. -/
theorem after (follows : Follows id handle history table) (message : Incoming) :
    Follows id handle (history ++ table.choices message) (table.after message) := by
  cases message with
  | openDocument number path displayPath text cursor inScope =>
    exact follows.insert (.opened number path displayPath text cursor inScope)
  | closeDocument number => exact follows.close number
  | activeDocumentChanged number =>
    simp only [choices, DocumentTable.after]
    -- A document that is not open cannot be chosen.
    cases activated : table.activate? number with
    | none => simpa using follows
    | some later => simpa using follows.activate activated
  | scopeChanged number inScope =>
    rw [choices, List.append_nil, DocumentTable.after]
    cases table.handle? number with
    | none => exact follows
    | some place =>
      refine ⟨follows.sound.modify place fun _ => rfl, ?_, follows.known, follows.chosen⟩
      obtain ⟨own, present, named⟩ := Option.map_eq_some_iff.mp follows.present
      rw [get?_modify, present]
      by_cases here : handle = place <;> simp [here, named]
  | updateDocument | saved | setting | command | shutdown =>
    rw [choices, List.append_nil]
    exact follows

end Follows

end DocumentTable

namespace Service

variable {ω : Type} [World ω] {service next : Service ω}

/-- The choices that are carried out in a move. -/
def choices (service : Service ω) : Move → List Choice
  | .message message => service.session.state.documents.choices message
  | .skip _ | .turn _ => []

/-- The document is followed through every move. -/
theorem follows_moves {id : Nat} {handle : Handle} {history : List Choice}
    (follows : service.session.state.documents.Follows id handle history) {move : Move}
    (moved : Moves service move next) :
    next.session.state.documents.Follows id handle (history ++ service.choices move) := by
  -- Only messages choose documents, and texts make no difference.
  refine DocumentTable.Follows.of_blank ?_ (blank_documents_moves moved)
  cases move with
  | message message => exact follows.after message
  | skip | turn =>
    rw [choices, List.append_nil]
    exact follows

omit [World ω] in
/-- A chain that is asked for by a command runs on the document that is active when it begins. -/
theorem active?_of_asks? {name : String} {errand : Nat → Errand} {number : Nat} {w : Workspace ω}
    {document : Handle} {names : List String} {mode : Mode}
    (asked : service.asks? (.command name) = some errand)
    (chain : w.chainOf? (errand number) = some (document, names, mode)) :
    w.documents.active? = some document ∧ mode = .buffer := by
  simp only [asks?] at asked
  -- Both kinds of errands look the active document up.
  split at asked
  · cases asked
    simp only [Workspace.chainOf?, Option.ite_none_left_eq_some, Option.map_eq_some_iff,
      Prod.mk.injEq] at chain
    obtain ⟨-, _, active, rfl, -, rfl⟩ := chain
    exact ⟨active, rfl⟩
  · split at asked
    · cases asked
    · obtain ⟨formatter, -, found⟩ := Option.bind_eq_some_iff.mp asked
      simp only [Option.ite_none_right_eq_some, Option.some.injEq] at found
      obtain ⟨-, rfl⟩ := found
      simp only [Workspace.chainOf?, Option.map_eq_some_iff, Prod.mk.injEq] at chain
      obtain ⟨_, active, rfl, -, rfl⟩ := chain
      exact ⟨active, rfl⟩

/-- A command starts its chain on the document that was active when it was given, if it still is. -/
theorem commandedDocument_run {profiles : List Profile} {delay : Nat} {first : Session ω}
    {noted : List Incoming} {since : List Choice} {later : Service ω} {name : String}
    {errand : Nat → Errand} {id : Nat} {handle : Handle} {begun : Errand} {after : Session ω}
    (unused : first.Unused) (unopened : first.state.documents = .empty)
    (unset : first.state.coordination.activeDocument = none)
    (before : Run Moves receipts [] ⟨first.start profiles delay, []⟩ noted service)
    (asked : service.asks? (.command name) = some errand)
    (active : service.session.state.documents.activeId = some id)
    (known : service.session.state.documents.handle? id = some handle)
    (ran : Run Moves choices [] (service.answer (.command name)) since later)
    (taken : DebouncedTimeline.Takes Session.machine later.session (.start (.other begun)) after)
    (same : begun.number = service.session.state.numbered) :
    begun = errand service.session.state.numbered ∧
      ∀ document names mode, later.session.state.chainOf? begun = some (document, names, mode) →
        after.state = (Workspace.startChain later.session.clock begun.number document names mode
          later.session.state).1 ∧
        later.session.state.documents.active? = some document ∧ mode = .buffer ∧
        (document = handle ↔ (∀ choice ∈ since, choice.replaces id = false) ∧
          (latest Choice.activated? since).getD (some id) = some id) := by
  have own := eq_of_asks? unused before asked ran taken same
  refine ⟨own, fun document names mode chain => ?_⟩
  have follows : later.session.state.documents.Follows id handle since := by
    clear taken chain
    induction ran with
    | start =>
      -- The command itself makes no choice.
      have sound := (isInStep_run unopened unset before).sound
      have given := (DocumentTable.Follows.start sound active known)
      have moved : Moves service (.message (.command name)) (service.answer (.command name)) :=
        .message _
      exact follows_moves given moved
    | move before moved ih => exact follows_moves ih moved
  obtain ⟨chosen, mode⟩ := active?_of_asks? asked (own ▸ chain)
  refine ⟨?_, chosen, mode, ?_⟩
  · exact Session.state_of_chainOf? taken chain
  -- The document is the one that is active at that time, which the choices since have decided.
  · rw [← follows.active?_iff, chosen, Option.some.injEq]

/-- Another document of the sample as it is opened. -/
def sampleSecondOpening : Incoming :=
  .openDocument 2 ⟨"/repo/other.py"⟩ none "other" ⟨0, 0⟩ true

/-- A service with an active document. -/
def sampleActive : Service Scripted.Tables :=
  (((sampleFirst.answer (.setting "black.global.binPath" (.string "black"))).answer
    (sampleOpening "old")).answer sampleSecondOpening).answer (.activeDocumentChanged (some 1))

/-- The messages up to there. -/
def sampleActiveReceipts : List Incoming :=
  [.setting "black.global.binPath" (.string "black"), sampleOpening "old", sampleSecondOpening,
    .activeDocumentChanged (some 1)]

/-- The active document is reached by a run. -/
theorem run_active : Run Moves receipts [] sampleFirst sampleActiveReceipts sampleActive := by
  have set : Run Moves receipts [] sampleFirst _ _ :=
    Run.start.move (.message (.setting "black.global.binPath" (.string "black")))
  have opened := (set.move (.message (sampleOpening "old"))).move (.message sampleSecondOpening)
  exact opened.move (.message (.activeDocumentChanged (some 1)))

/-- A service that was given a command, and opened the other document again before its turn came. -/
def sampleCommanded : Service Scripted.Tables :=
  (sampleActive.answer (.command "fmtchain:black")).answer sampleSecondOpening

/-- When another document is opened in between, the chain runs on the document of the command. -/
theorem commandedDocument_sample : ∃ begun after,
    DebouncedTimeline.Takes Session.machine sampleCommanded.session (.start (.other begun)) after ∧
      begun.number = sampleActive.session.state.numbered ∧
      ∀ document names mode,
        sampleCommanded.session.state.chainOf? begun = some (document, names, mode) → document = 0 := by
  -- The next turn starts the errand of the command.
  have more : (sampleCommanded.session.step Session.machine none).isSome := by decide +kernel
  obtain ⟨after, stepped⟩ := Option.isSome_iff_exists.mp more
  have taken := (DebouncedTimeline.takes_of_step stepped).1
  have numbered : (Session.errand? sampleCommanded.session.nextTurn).map (·.number) =
      some sampleActive.session.state.numbered := by decide +kernel
  obtain ⟨begun, begins, same⟩ := Option.map_eq_some_iff.mp numbered
  rw [Session.eq_of_errand? begins] at taken
  refine ⟨begun, after, taken, same, fun document names mode chain => ?_⟩
  have asked : (sampleActive.asks? (.command "fmtchain:black")).isSome := by decide +kernel
  obtain ⟨errand, asked⟩ := Option.isSome_iff_exists.mp asked
  -- In between another document is opened, and the choice of the first one stands.
  have moved : Moves (sampleActive.answer (.command "fmtchain:black")) (.message sampleSecondOpening)
    sampleCommanded := .message sampleSecondOpening
  have ran : Run Moves choices [] (sampleActive.answer (.command "fmtchain:black")) [.opened 2]
    sampleCommanded := Run.start.move moved
  have active : sampleActive.session.state.documents.activeId = some 1 := by decide +kernel
  have known : sampleActive.session.state.documents.handle? 1 = some 0 := by decide +kernel
  obtain ⟨-, runs⟩ := commandedDocument_run ⟨rfl, rfl, rfl, rfl⟩ rfl rfl run_active asked active known
    ran taken same
  -- The document of the command is still the last choice.
  exact (runs document names mode chain).2.2.2.mpr (by decide)

/-- A service that was given a command, and whose other document became active before its turn came. -/
def sampleSwitched : Service Scripted.Tables :=
  (sampleActive.answer (.command "fmtchain:black")).answer (.activeDocumentChanged (some 2))

/-- The chain of a command runs on the other document, which became active only after it. -/
theorem commandedDocument_switched :
    Run Moves receipts [] sampleFirst sampleActiveReceipts sampleActive ∧
      sampleActive.session.state.documents.active? = some 0 ∧
      Run Moves choices [] (sampleActive.answer (.command "fmtchain:black")) [.activated (some 2)]
        sampleSwitched ∧
      ∃ begun after,
        DebouncedTimeline.Takes Session.machine sampleSwitched.session (.start (.other begun)) after ∧
          begun.number = sampleActive.session.state.numbered ∧
          sampleSwitched.session.state.chainOf? begun = some (1, ["black"], .buffer) := by
  -- The next turn starts the errand of the command.
  have more : (sampleSwitched.session.step Session.machine none).isSome := by decide +kernel
  obtain ⟨after, stepped⟩ := Option.isSome_iff_exists.mp more
  have taken := (DebouncedTimeline.takes_of_step stepped).1
  have moved : Moves (sampleActive.answer (.command "fmtchain:black"))
    (.message (.activeDocumentChanged (some 2))) sampleSwitched := .message _
  -- In between the other document is made active.
  have ran : Run Moves choices [] (sampleActive.answer (.command "fmtchain:black")) _ sampleSwitched :=
    Run.start.move moved
  have switched : (sampleActive.answer (.command "fmtchain:black")).choices
    (.message (.activeDocumentChanged (some 2))) = [.activated (some 2)] := by decide +kernel
  rw [switched] at ran
  refine ⟨run_active, by decide +kernel, ran, ?_⟩
  -- What begins is a chain on the document that is active by then.
  have begins : (Session.errand? sampleSwitched.session.nextTurn).map (fun begun =>
      (begun.number, sampleSwitched.session.state.chainOf? begun)) =
      some (sampleActive.session.state.numbered, some (1, ["black"], .buffer)) := by decide +kernel
  obtain ⟨begun, begins, same⟩ := Option.map_eq_some_iff.mp begins
  rw [Session.eq_of_errand? begins] at taken
  obtain ⟨numbered, chain⟩ := Prod.mk.inj same
  exact ⟨begun, after, taken, numbered, chain⟩

end Service

end FormatPipeline
