import FormatPipeline.Proofs.Shell.Reading
import FormatPipeline.Shell.Parsing

/-! Words one after another are parsed as one simple command. -/

namespace FormatPipeline.Shell

/-- Whether no character of a word has a meaning of its own when the word is expanded. -/
def Word.isInert (word : Word) : Bool := word.all fun piece => match piece with
  | .plain c => c != '*' && c != '?' && c != '['
  | .quoted _ | .quotes => true
  | _ => false

/-- The pieces of an inert word are inert, one by one. -/
theorem Word.isInert_cons {piece : Piece} {rest : Word} :
    isInert (piece :: rest) ↔ isInert [piece] ∧ isInert rest := by
  simp [isInert]

/-- Tokens of words and the end of the text. -/
def lineTokens (words : List (Word × Nat)) (last : Nat) : Tokens := asTokens words ++ [(.finish, last)]

/-- There is nothing to refuse in an inert word. -/
theorem checkWord_inert (fuel line : Nat) {word : Word} (inert : word.isInert) :
    checkWord fuel line word = .ok () := by
  cases fuel with
  | zero => simp [checkWord]
  | succ fuel =>
    unfold checkWord
    -- The pieces are looked at one by one, and none of them is a substitution.
    induction word with
    | nil => rfl
    | cons piece rest ih =>
      obtain ⟨first, others⟩ := Word.isInert_cons.mp inert
      have later := ih others
      cases piece with
      | plain | quoted | quotes => exact later
      | parameter | substitution | backquoted | arithmetic | broken => simp [Word.isInert] at first

/-- At the end of the text there is no redirection. -/
theorem parseRedirection?_finish (fuel last : Nat) :
    parseRedirection? (fuel + 1) [(.finish, last)] = .ok none := by
  cases fuel <;> simp only [parseRedirection?, checkNext] <;> rfl

/-- All words behind the first one belong to the same simple command. -/
theorem parseSimple_words (words : List (Word × Nat)) (done : List Word) (line last fuel : Nat)
    (inert : ∀ entry ∈ words, entry.1.isInert) (behind : done ≠ [])
    (enough : words.length + 2 ≤ fuel) :
    parseSimple fuel line [] done [] (lineTokens words last) =
      .ok (.simple line [] (done.reverse ++ words.map (·.1)) [], [(.finish, last)]) := by
  -- One word after another is put behind those that are done.
  induction words generalizing done fuel with
  | nil =>
    obtain ⟨fuel, rfl⟩ := Nat.exists_eq_add_of_le' enough
    have tokens : lineTokens [] last = [(.finish, last)] := rfl
    simp only [tokens, List.length_nil, parseSimple, parseRedirection?_finish, List.reverse_nil,
      List.map_nil, List.append_nil]
    rfl
  | cons first rest ih =>
    obtain ⟨word, place⟩ := first
    obtain ⟨fuel, rfl⟩ := Nat.exists_eq_add_of_le' enough
    have size : fuel + (((word, place) :: rest).length + 2) = (fuel + (rest.length + 2)) + 1 := by
      simp only [List.length_cons]
      omega
    have plain : word.isInert := inert (word, place) (by simp)
    have later := ih (word :: done) (fuel + (rest.length + 2))
      (fun entry member => inert entry (by simp [member])) (by simp) (by omega)
    -- An assignment is only looked for in front of the first word.
    have begun : done.isEmpty = false := by simpa using behind
    have tokens : lineTokens ((word, place) :: rest) last = (.word word, place) :: lineTokens rest last := rfl
    rw [size, tokens, parseSimple]
    simp only [checkWord_inert _ _ plain, begun, Bool.false_and, Bool.false_eq_true, if_false]
    rw [List.map_cons, List.append_cons, ← List.reverse_cons]
    exact later

section SimpleCommand

variable (word : Word) (rest : List (Word × Nat)) (line last fuel : Nat)

/-- A word that is none of the reserved ones is not taken for one. -/
theorem reserved?_lineTokens
    (unreserved : ∀ cs, word.bare? = some cs → String.ofList cs ∉ reservedWords) :
    reserved? (lineTokens ((word, line) :: rest) last) = none := by
  have next : (lineTokens ((word, line) :: rest) last).next = .word word := rfl
  -- Only the first word of a command is looked up among the reserved ones.
  simp only [reserved?, next]
  cases bare : word.bare? with
  | none => rfl
  | some cs => simpa using unreserved cs bare

variable (inert : ∀ entry ∈ (word, line) :: rest, entry.1.isInert)
  (unreserved : ∀ cs, word.bare? = some cs → String.ofList cs ∉ reservedWords)
  (unassigned : assignment? word = none)

include inert unreserved unassigned

/-- Words of which the first one is neither reserved nor an assignment are a simple command. -/
theorem parseCommand_words (enough : rest.length + 4 ≤ fuel) :
    parseCommand fuel (lineTokens ((word, line) :: rest) last) =
      .ok (.simple line [] (word :: rest.map (·.1)) [], [(.finish, last)]) := by
  obtain ⟨fuel, rfl⟩ := Nat.exists_eq_add_of_le' enough
  have size : fuel + (rest.length + 4) = (fuel + (rest.length + 2)) + 1 + 1 := by omega
  have next : (lineTokens ((word, line) :: rest) last).next = .word word := rfl
  have free := reserved?_lineTokens word rest line last unreserved
  rw [size, parseCommand]
  simp only [next, free]
  -- The first word is looked at before the others.
  have plain : word.isInert := inert (word, line) (by simp)
  have others := parseSimple_words rest [word] line last (fuel + (rest.length + 2))
    (fun entry member => inert entry (by simp [member])) (by simp) (by omega)
  have tokens : lineTokens ((word, line) :: rest) last = (.word word, line) :: lineTokens rest last := rfl
  rw [tokens, parseSimple]
  simp only [checkWord_inert _ _ plain, unassigned, Option.isSome_none, Bool.and_false]
  exact others

/-- Nothing joins such a command to another one. -/
theorem parsePipeline_words (enough : rest.length + 6 ≤ fuel) :
    parsePipeline fuel (lineTokens ((word, line) :: rest) last) =
      .ok (.simple line [] (word :: rest.map (·.1)) [], [(.finish, last)]) := by
  -- The fuel covers one level for the pipeline and one for its first command.
  obtain ⟨fuel, rfl⟩ := Nat.exists_eq_add_of_le' enough
  have size : fuel + (rest.length + 6) = (fuel + (rest.length + 4)) + 1 + 1 := by omega
  have free := reserved?_lineTokens word rest line last unreserved
  have command := parseCommand_words word rest line last (fuel + (rest.length + 4)) inert unreserved
    unassigned (by omega)
  rw [size, parsePipeline, free, if_neg (by simp), parsePipes, command]
  rfl

/-- A line of such words is one command and nothing else. -/
theorem parseLine_words (enough : rest.length + 8 ≤ fuel) :
    parseLine fuel (lineTokens ((word, line) :: rest) last) =
      .ok (.command (.simple line [] (word :: rest.map (·.1)) []), [(.finish, last)]) := by
  obtain ⟨fuel, rfl⟩ := Nat.exists_eq_add_of_le' enough
  have size : fuel + (rest.length + 8) = (fuel + (rest.length + 6) + 1) + 1 := by omega
  have next : (lineTokens ((word, line) :: rest) last).next = .word word := rfl
  have pipeline := parsePipeline_words word rest line last (fuel + (rest.length + 6) + 1) inert
    unreserved unassigned (by omega)
  -- Behind the pipeline there is only the end of the text.
  have joined : parseAndOr ((fuel + (rest.length + 6) + 1) + 1) (lineTokens ((word, line) :: rest) last) =
      .ok (.simple line [] (word :: rest.map (·.1)) [], [(.finish, last)]) := by
    rw [parseAndOr, pipeline]
    exact parseAndOrRest.eq_def _ _ _
  rw [parseLine, next, size, parseLineRest, next]
  dsimp only
  rw [joined]
  rfl

end SimpleCommand

end FormatPipeline.Shell
