import FormatPipeline.Message.Incoming
import FormatPipeline.Proofs.Document.Table
import FormatPipeline.Proofs.Workspace.Deeds

/-! What editor and service tell each other about texts, and the mirrors that follow from it. -/

namespace FormatPipeline

/-- Something that editor and service have exchanged. -/
inductive Exchange where
  /-- A message of the editor was handled. -/
  | received (message : Incoming)
  /-- A mirror was given a text, which was sent to the editor. -/
  | wrote (sender : Handle) (id : Nat) (text : String)

namespace Exchange

/-- The text that the editor has under a number afterwards, if it has another one than before. -/
def text? (id : Nat) : Exchange → Option String
  -- Opening, editing and formatting replace the whole text.
  | received (.openDocument number _ _ text _ _) => if number = id then some text else none
  | received (.updateDocument number text _) => if number = id then some text else none
  | wrote _ number text => if number = id then some text else none
  | received _ => none

/-- The text that a mirror of a document has afterwards; texts of other mirrors do not reach it. -/
def textFor? (mirror : Handle) (id : Nat) : Exchange → Option String
  | wrote sender number text => if sender = mirror ∧ number = id then some text else none
  | received message => text? id (received message)

/-- The number and the text that were sent to the editor. -/
def sent? : Exchange → Option (Nat × String)
  | wrote _ id text => some (id, text)
  | received _ => none

/-- A deed as far as the editor learns about it. -/
def ofDeed? : Deed → Option Exchange
  | .wrote document id text => some (.wrote document id text)
  | _ => none

/-- What reaches a mirror is what the editor has. -/
theorem text?_of_textFor? {mirror : Handle} {id : Nat} {exchange : Exchange} {text : String}
    (found : exchange.textFor? mirror id = some text) : exchange.text? id = some text := by
  cases exchange with
  | received message => exact found
  | wrote sender number written =>
    simp only [textFor?, Option.ite_none_right_eq_some] at found
    simpa [text?, found.1.2] using found.2

/-- Of what the editor has, only texts of other mirrors do not reach a mirror. -/
theorem textFor?_or (mirror : Handle) {id : Nat} {exchange : Exchange} {text : String}
    (found : exchange.text? id = some text) :
    exchange.textFor? mirror id = some text ∨
      ∃ sender, sender ≠ mirror ∧ exchange = .wrote sender id text := by
  cases exchange with
  | received message => exact .inl found
  | wrote sender number written =>
    simp only [text?, Option.ite_none_right_eq_some, Option.some.injEq] at found
    obtain ⟨rfl, rfl⟩ := found
    -- A text that was sent reaches the mirror that sent it, and no other one.
    by_cases own : sender = mirror
    · exact .inl (by simp [textFor?, own])
    · exact .inr ⟨sender, own, rfl⟩

end Exchange

/-! ## The latest exchange -/

/-- The latest of what a list has of something, the list being in the order of time. -/
def latest {α β : Type} (part : α → Option β) (history : List α) : Option β :=
  history.reverse.findSome? part

/-- What comes last counts, unless it has nothing of what is asked for. -/
theorem latest_append_singleton {α β : Type} (part : α → Option β) (history : List α) (last : α) :
    latest part (history ++ [last]) = (part last).or (latest part history) := by
  cases found : part last <;> simp [latest, found]

/-- The text that the editor has under a number. -/
def editorText (id : Nat) (history : List Exchange) : Option String := latest (·.text? id) history

/-- The text that reached a mirror last. -/
def mirrorText (mirror : Handle) (id : Nat) (history : List Exchange) : Option String :=
  latest (·.textFor? mirror id) history

/-- One more exchange reaches a mirror or leaves it as it was. -/
theorem mirrorText_append (mirror : Handle) (id : Nat) (history : List Exchange) (last : Exchange) :
    mirrorText mirror id (history ++ [last]) =
      (last.textFor? mirror id).or (mirrorText mirror id history) :=
  latest_append_singleton _ history last

/-- The latest exchange that gave the editor the text that it has under a number. -/
def lastAbout (id : Nat) (history : List Exchange) : Option Exchange :=
  latest (fun exchange => (exchange.text? id).map fun _ => exchange) history

/-- A mirror differs from the editor exactly when another mirror has sent a different text last. -/
theorem editorText_eq_iff {mirror : Handle} {id : Nat} {history : List Exchange} {text : String}
    (own : mirrorText mirror id history = some text) :
    editorText id history = some text ↔
      ∀ sender other, lastAbout id history = some (.wrote sender id other) →
        sender = mirror ∨ other = text := by
  unfold mirrorText latest at own
  unfold editorText lastAbout latest
  generalize history.reverse = events at own ⊢
  induction events with
  | nil => simp at own
  | cons exchange earlier ih =>
    cases found : exchange.text? id with
    | none =>
      -- What is about nothing of interest can be passed over.
      have passed : exchange.textFor? mirror id = none := by
        cases reached : exchange.textFor? mirror id with
        | none => rfl
        | some text => simp [Exchange.text?_of_textFor? reached] at found
      simp only [List.findSome?_cons, passed] at own
      simpa [List.findSome?_cons, found] using ih own
    | some last =>
      simp only [List.findSome?_cons, found, Option.map_some, Option.some.injEq]
      -- The latest text reached the mirror, or another mirror sent it.
      rcases Exchange.textFor?_or mirror found with reached | ⟨sender, different, rfl⟩
      · -- What reached the mirror is its own text, whoever sent it.
        simp only [List.findSome?_cons, reached, Option.some.injEq] at own
        subst own
        refine ⟨fun _ sender other same => ?_, fun _ => rfl⟩
        subst same
        simp only [Exchange.text?, if_true, Option.some.injEq] at found
        exact .inr found
      · -- The mirror missed the text, which makes no difference if it has the same one.
        constructor
        · rintro rfl sender other ⟨⟩
          exact .inr rfl
        · intro stale
          exact (stale sender last rfl).resolve_left different

/-! ## Mirrors -/

/-- Every open document has the text that reached its mirror last. -/
def Mirrors (history : List Exchange) (handles : List (Nat × Handle)) (contents : List (Nat × String)) :
    Prop :=
  ∀ id mirror, handles.lookup id = some mirror →
    ∃ text, contents[mirror]? = some (id, text) ∧ mirrorText mirror id history = some text

namespace Mirrors

variable {history : List Exchange} {handles : List (Nat × Handle)} {contents : List (Nat × String)}

/-- An exchange about no open document changes no mirror. -/
theorem receive (mirrors : Mirrors history handles contents) {message : Incoming}
    (other : ∀ id mirror, handles.lookup id = some mirror → (Exchange.received message).text? id = none) :
    Mirrors (history ++ [.received message]) handles contents := by
  intro id mirror present
  obtain ⟨text, listed, last⟩ := mirrors id mirror present
  refine ⟨text, listed, ?_⟩
  -- No mirror is kept for the document, so the last text for each one is the one before.
  rw [mirrorText_append, Exchange.textFor?, other id mirror present]
  exact last

/-- A document that is opened gets a mirror of its own, in place of an earlier one. -/
theorem insert (mirrors : Mirrors history handles contents) (id : Nat) (path : Path)
    (displayPath : Option String) (text : String) (cursor : Position) (inScope : Bool) :
    Mirrors (history ++ [.received (.openDocument id path displayPath text cursor inScope)])
      ((id, contents.length) :: handles.filter (·.1 != id)) (contents ++ [(id, text)]) := by
  intro other mirror present
  rw [mirrorText_append]
  by_cases here : other = id
  · -- The new mirror has the text with which the document was opened.
    subst here
    obtain rfl : mirror = contents.length := by simpa using present.symm
    exact ⟨text, by simp, by simp [Exchange.textFor?, Exchange.text?]⟩
  · -- Mirrors of other documents stay where they are.
    rw [List.lookup_cons, beq_eq_false_iff_ne.mpr here, lookup_filter_of_ne handles here] at present
    obtain ⟨last, listed, reached⟩ := mirrors other mirror present
    refine ⟨last, ?_, ?_⟩
    · rw [List.getElem?_append_left (List.getElem?_eq_some_iff.mp listed).1]
      exact listed
    · have elsewhere : (Exchange.received (.openDocument id path displayPath text cursor inScope)).textFor?
          mirror other = none := by simp [Exchange.textFor?, Exchange.text?, Ne.symm here]
      rw [elsewhere]
      exact reached

/-- An edit of an open document reaches its mirror. -/
theorem edit (mirrors : Mirrors history handles contents) {id : Nat} {mirror : Handle}
    (opened : handles.lookup id = some mirror) (text : String) (cursor : Option Position) :
    Mirrors (history ++ [.received (.updateDocument id text cursor)]) handles
      (contents.modify mirror fun entry => (entry.1, text)) := by
  obtain ⟨before, own, -⟩ := mirrors id mirror opened
  intro other place present
  obtain ⟨last, listed, reached⟩ := mirrors other place present
  rw [mirrorText_append, List.getElem?_modify]
  by_cases here : other = id
  · -- The edited mirror takes the text over.
    subst here
    obtain rfl : mirror = place := by simpa [opened] using present
    exact ⟨text, by simp [own], by simp [Exchange.textFor?, Exchange.text?]⟩
  · -- The mirrors of different documents are different.
    have apart : mirror ≠ place := by
      rintro rfl
      simp only [own, Option.some.injEq, Prod.mk.injEq] at listed
      exact here listed.1.symm
    have elsewhere : (Exchange.received (.updateDocument id text cursor)).textFor? place other =
        none := by simp [Exchange.textFor?, Exchange.text?, Ne.symm here]
    rw [elsewhere]
    exact ⟨last, by simpa [apart] using listed, reached⟩

/-- A document that is closed has no mirror any longer. -/
theorem close (mirrors : Mirrors history handles contents) (id : Nat) :
    Mirrors (history ++ [.received (.closeDocument id)]) (handles.filter (·.1 != id)) contents := by
  refine receive (fun other mirror present => ?_) fun _ _ _ => rfl
  -- The document itself is not open any more, and others are found as before.
  by_cases here : other = id
  · rw [here, lookup_filter_self] at present
    cases present
  · rw [lookup_filter_of_ne handles here] at present
    exact mirrors other mirror present

/-- A deed reaches the mirror into which it puts a text, and no other one. -/
theorem deed (mirrors : Mirrors history handles contents) {deed : Deed}
    (named : ∀ handle id text, deed = .wrote handle id text →
      (contents[handle]?).map (·.1) = some id) :
    Mirrors (history ++ (Exchange.ofDeed? deed).toList) handles (deed.write contents) := by
  cases deed with
  | spawned position line stdin => simpa [Exchange.ofDeed?, Deed.write] using mirrors
  | settled position => simpa [Exchange.ofDeed?, Deed.write] using mirrors
  | wrote sender number text =>
    have owner := named sender number text rfl
    intro id mirror present
    obtain ⟨last, listed, reached⟩ := mirrors id mirror present
    simp only [Exchange.ofDeed?, Option.toList_some, Deed.write]
    rw [mirrorText_append, List.getElem?_modify]
    -- The mirror that sends a text has it, under the number of its document.
    by_cases own : sender = mirror
    · subst own
      simp only [listed, Option.map_some, Option.some.injEq] at owner
      exact ⟨text, by simp [listed], by simp [Exchange.textFor?, owner]⟩
    · have elsewhere : (Exchange.wrote sender number text).textFor? mirror id = none := by
        simp [Exchange.textFor?, own]
      rw [elsewhere]
      exact ⟨last, by simpa [own] using listed, reached⟩

/-- Deeds reach the mirrors into which they put texts. -/
theorem deeds (deeds : List Deed) (mirrors : Mirrors history handles contents)
    (named : ∀ handle id text, .wrote handle id text ∈ deeds →
      (contents[handle]?).map (·.1) = some id) :
    Mirrors (history ++ deeds.filterMap Exchange.ofDeed?) handles (deeds.foldl Deed.write contents) := by
  induction deeds generalizing history contents with
  | nil => simpa using mirrors
  | cons deed rest ih =>
    have first := mirrors.deed fun handle id text same => named handle id text (same ▸ List.mem_cons_self)
    -- A deed changes no number of a document.
    have numbers := Workspace.Effect.map_fst_foldl_write [deed] contents
    have later := ih first fun handle id text member => by
      have same := named handle id text (List.mem_cons_of_mem _ member)
      rw [← List.getElem?_map] at same ⊢
      exact numbers ▸ same
    rw [List.append_assoc] at later
    cases reaches : Exchange.ofDeed? deed <;> simpa [List.filterMap_cons, reaches] using later

end Mirrors

end FormatPipeline
