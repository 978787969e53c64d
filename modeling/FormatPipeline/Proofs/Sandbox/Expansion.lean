import FormatPipeline.Proofs.Shell.Parsing
import FormatPipeline.Sandbox.Interpreter

/-! Words in which nothing is to be expanded reach a command as they are, in every job. -/

namespace FormatPipeline.Sandbox

open Shell (Mark Piece Word)

/-- What is expanded one by one without a failure is put together in its order. -/
theorem foldl_expanded {α β : Type} {job : Job} {expand : Expanded (List β) → α → Expanded (List β)}
    (made : α → β) {items : List α}
    (expands : ∀ item ∈ items, ∀ done, expand (job, some done) item = (job, some (done ++ [made item])))
    (done : List β) : items.foldl expand (job, some done) = (job, some (done ++ items.map made)) := by
  induction items generalizing done with
  | nil => simp
  | cons item rest ih =>
    have later := ih (fun other member => expands other (by simp [member])) (done ++ [made item])
    rw [List.foldl_cons, expands item (by simp), later]
    simp

/-! ## One word -/

/-- The glyph of a piece in which nothing is to be expanded. -/
def glyphOf : Piece → Glyph
  | .plain c => .char ⟨c, true⟩ false
  | .quoted c => .char ⟨c, false⟩ false
  | _ => .quotes

/-- The marks of the characters of a word. -/
def marksIn (word : Word) : List Mark := marksOf (word.map glyphOf)

/-- A piece of an inert word comes to its glyph. -/
theorem expandPiece_inert {piece : Piece} (inert : Word.isInert [piece]) (job : Job) (fuel : Nat) :
    expandPiece (fuel + 1) job .fields piece = (job, some [glyphOf piece]) := by
  cases piece with
  | plain c => simp [expandPiece, glyphOf]
  | quoted c => simp [expandPiece, glyphOf]
  | quotes => simp [expandPiece, glyphOf]
  | parameter | substitution | backquoted | arithmetic | broken => simp [Word.isInert] at inert

/-- The pieces of an inert word come to their glyphs. -/
theorem expandPieces_inert {word : Word} (inert : word.isInert) (job : Job) (fuel : Nat) :
    expandPieces (fuel + 2) job .fields word = (job, some (word.map glyphOf)) := by
  rw [expandPieces]
  -- Each piece is expanded on its own, as a word of one piece.
  refine (foldl_expanded glyphOf (fun piece member done => ?_) []).trans ?_
  · have alone : Word.isInert [piece] := by
      simpa [Word.isInert] using List.all_eq_true.mp inert piece member
    simp only [expandPiece_inert alone]
  · rw [List.nil_append]

/-- The rest of an inert word belongs to the field that is under way. -/
theorem fieldsOf_underWay (separators : List Char) (current : List Mark) {word : Word}
    (inert : word.isInert) :
    fieldsOf separators (some current) false (word.map glyphOf) = [current.reverse ++ marksIn word] := by
  induction word generalizing current with
  | nil => simp [fieldsOf, marksIn, marksOf]
  | cons piece rest ih =>
    obtain ⟨first, others⟩ := Word.isInert_cons.mp inert
    -- No character of the word ends a field, since none comes from a value.
    cases piece with
    | plain c =>
      have later := ih (⟨c, true⟩ :: current) others
      simpa [fieldsOf, glyphOf, marksIn, marksOf] using later
    | quoted c =>
      have later := ih (⟨c, false⟩ :: current) others
      simpa [fieldsOf, glyphOf, marksIn, marksOf] using later
    | quotes =>
      have later := ih current others
      simpa [fieldsOf, glyphOf, marksIn, marksOf] using later
    | parameter | substitution | backquoted | arithmetic | broken => simp [Word.isInert] at first

/-- An inert word is one field, whatever the separators are. -/
theorem fieldsOf_inert (separators : List Char) {word : Word} (inert : word.isInert)
    (nonempty : word ≠ []) : fieldsOf separators none false (word.map glyphOf) = [marksIn word] := by
  cases word with
  | nil => exact absurd rfl nonempty
  | cons piece rest =>
    obtain ⟨first, others⟩ := Word.isInert_cons.mp inert
    -- The first piece begins the field.
    cases piece with
    | plain c =>
      have later := fieldsOf_underWay separators [⟨c, true⟩] others
      simpa [fieldsOf, glyphOf, marksIn, marksOf] using later
    | quoted c =>
      have later := fieldsOf_underWay separators [⟨c, false⟩] others
      simpa [fieldsOf, glyphOf, marksIn, marksOf] using later
    | quotes =>
      have later := fieldsOf_underWay separators [] others
      simpa [fieldsOf, glyphOf, marksIn, marksOf] using later
    | parameter | substitution | backquoted | arithmetic | broken => simp [Word.isInert] at first

/-- The marks of an inert word have its characters, and no pattern begins at one of them. -/
theorem marksIn_inert {word : Word} (inert : word.isInert) :
    (marksIn word).map (·.char) = word.literal ∧
      (marksIn word).any (fun mark => mark.special && "*?[".toList.contains mark.char) = false := by
  -- No constructor that expands occurs in an inert word, and a plain wildcard is not inert either.
  induction word with
  | nil => simp [marksIn, marksOf, Word.literal]
  | cons piece rest ih =>
    obtain ⟨first, others⟩ := Word.isInert_cons.mp inert
    obtain ⟨same, none⟩ := ih others
    cases piece with
    | plain c => simp_all [marksIn, marksOf, glyphOf, Word.literal, Word.isInert]
    | quoted c => simp_all [marksIn, marksOf, glyphOf, Word.literal]
    | quotes => simp_all [marksIn, marksOf, glyphOf, Word.literal]
    | parameter | substitution | backquoted | arithmetic | broken => simp [Word.isInert] at first

/-- A word that begins with no tilde names no home directory. -/
theorem replaceTildes_of_ne (job : Job) {word : Word} (tildeless : word.head? ≠ some (.plain '~')) :
    replaceTildes job false word = word := by
  have none : homeTilde? job word = none := by
    -- A tilde that is quoted does not count, so the first piece need not be looked at any further.
    unfold homeTilde?
    split
    · exact absurd rfl tildeless
    · rfl
  simp [replaceTildes, none]

/-- A word that stays as it is: one in which nothing is expanded, and which is there. -/
structure Stays (word : Word) : Prop where
  inert : word.isInert
  nonempty : word ≠ []
  tildeless : word.head? ≠ some (.plain '~')

/-- A word that stays as it is comes to its text alone, in every job. -/
theorem expandWord_stays {word : Word} (stays : Stays word) (job : Job) (fuel : Nat) :
    expandWord (fuel + 3) job word = (job, some [String.ofList word.literal]) := by
  obtain ⟨same, none⟩ := marksIn_inert stays.inert
  rw [expandWord, replaceTildes_of_ne job stays.tildeless, expandPieces_inert stays.inert]
  -- There is one field, and it is no pattern for paths.
  simp only [fieldsOf_inert _ stays.inert stays.nonempty, List.flatMap_cons, List.flatMap_nil, pathsOf,
    none, same]
  simp

/-! ## The words of a command -/

/-- Words that stay as they are come to their texts. -/
theorem expandWords_stay {words : List Word} (stay : ∀ word ∈ words, Stays word) (job : Job)
    (fuel : Nat) :
    expandWords (fuel + 4) job false words =
      (job, some (words.map fun word => String.ofList word.literal)) := by
  rw [expandWords]
  -- No word changes the job, so all of them are expanded in the same one.
  refine (foldl_expanded (fun word => String.ofList word.literal)
    (fun word member done => ?_) []).trans ?_
  · simp only [Bool.false_and, Bool.false_eq_true, if_false, expandWord_stays (stay word member)]
  · rw [List.nil_append]

/-- The words of a command that declares no variables come to their texts, in every job. -/
theorem expandCommand_stay {first : Word} {rest : List Word} (stays : Stays first)
    (stay : ∀ word ∈ rest, Stays word) (external : String.ofList first.literal ≠ "command")
    (undeclared : declaresVariables (String.ofList first.literal) = false) (job : Job) (fuel : Nat) :
    expandCommand (fuel + 5) job (first :: rest) =
      (job, some ((first :: rest).map fun word => String.ofList word.literal)) := by
  have others := expandWords_stay stay job fuel
  rw [expandCommand, expandWord_stays stays]
  -- The first word is the name of the command, which asks for no assignments.
  simp [external, undeclared, others]

end FormatPipeline.Sandbox
