import FormatPipeline.Shell.Quoting
import FormatPipeline.Shell.Reading

/-! Which words a shell reads: quoted texts, and texts without any special character. -/

namespace FormatPipeline.Shell

/-! ## The rules for double quotes -/

/-- The text behind an opening double quote, and what stands behind the closing one, if there is one
and nothing between them is expanded. -/
def quotedText? : List Char → Option (List Char × List Char)
  | [] => none
  -- Together with the end of its line a backslash disappears.
  | '\\' :: '\n' :: rest => quotedText? rest
  | '\\' :: c :: rest =>
    -- It takes away the meaning of a character that has one, and else it stands for itself.
    (quotedText? rest).map fun (text, behind) =>
      ((if c ∈ ['$', '\x60', '"', '\\'] then [c] else ['\\', c]) ++ text, behind)
  | '"' :: rest => some ([], rest)
  | c :: rest =>
    -- Here an expansion begins, or the text breaks off behind a backslash.
    if c ∈ ['$', '\x60', '\\'] then none
    else (quotedText? rest).map fun (text, behind) => (c :: text, behind)

/-- The characters that are written with a backslash are those from which it takes a meaning away. -/
theorem isSpecialInQuotes_iff {c : Char} : isSpecialInQuotes c ↔ c ∈ ['$', '\x60', '"', '\\'] := by
  simp [isSpecialInQuotes, or_assoc, or_left_comm]

/-- A character is read as it is written between quotes. -/
theorem quotedText?_escapeChar (c : Char) (rest : List Char) :
    quotedText? (escapeChar c ++ rest) =
      (quotedText? rest).map fun (text, behind) => (c :: text, behind) := by
  unfold escapeChar
  split
  next special =>
    have inLine : c ≠ '\n' := by
      rintro rfl
      exact absurd special (by decide)
    simp only [List.cons_append, List.nil_append, quotedText?, isSpecialInQuotes_iff.mp special, if_true]
  next meek =>
    -- It neither begins an expansion nor ends the quotes nor takes away a meaning.
    obtain ⟨notDollar, notBackquote, unquoted, bare⟩ : c ≠ '$' ∧ c ≠ '\x60' ∧ c ≠ '"' ∧ c ≠ '\\' := by
      simpa using mt isSpecialInQuotes_iff.mpr meek
    simp [quotedText?, notDollar, notBackquote, bare]

/-- What is written for a text between quotes is read as the text, whatever its characters are. -/
theorem quotedText?_escaped (cs rest : List Char) :
    quotedText? (cs.flatMap escapeChar ++ '"' :: rest) = some (cs, rest) := by
  induction cs with
  | nil => simp [quotedText?]
  | cons c cs ih => simp [quotedText?_escapeChar, ih]

/-- A backslash goes with a dollar sign and not with a letter, and an expansion is no text. -/
example : quotedText? "\\$a\\b\"c".toList = some ("$a\\b".toList, ['c']) ∧
    quotedText? "$a\"".toList = none := by decide

/-- Two texts are not written alike between quotes. -/
theorem quoteChars_injective : Function.Injective quoteChars := by
  intro cs others same
  -- Both are read back from what is written behind the opening quote.
  have first := quotedText?_escaped cs []
  have second := quotedText?_escaped others []
  rw [quoteChars, quoteChars, List.cons.injEq] at same
  rw [same.2, second] at first
  simpa using first.symm

/-! ## Words with their lines -/

/-- Words with the lines on which they end, as tokens. -/
def asTokens (words : List (Word × Nat)) : Tokens :=
  words.map fun entry => (.word entry.1, entry.2)

namespace Reader

/-- A reader that stands between two words, outside quotes. -/
def between (tokens : Tokens) (line : Nat) : Reader := ⟨tokens, none, [], .text, line, false, []⟩

/-- A reader inside a word, outside quotes; the pieces of the word are in reverse order. -/
def within (tokens : Tokens) (line : Nat) (reversed : Word) : Reader :=
  ⟨tokens, some reversed, [], .text, line, false, []⟩

/-- A reader between double quotes. -/
def quoting (tokens : Tokens) (line : Nat) (reversed : Word) : Reader :=
  ⟨tokens, some reversed, [.double], .text, line, false, []⟩

variable {tokens : Tokens} {line : Nat} {reversed : Word} {c : Char}

/-! ## Characters outside quotes -/

/-- A character on whose account no path is quoted ends no word and begins nothing. -/
theorem stepBare_of_ordinary (r : Reader) (ordinary : needsQuotes c = false)
    (visible : r.word = none → c ≠ '#') : r.stepBare c = r.add (.plain c) := by
  -- Every character with a rule of its own asks for quotes, except the hash sign.
  have apart : ∀ special ∈ ['\'', '"', '$', '\x60', '\n', ' ', '\t', '(', ')', '&', '|', ';', '<', '>'],
      c ≠ special := by
    rintro special member rfl
    have asks : ['\'', '"', '$', '\x60', '\n', ' ', '\t', '(', ')', '&', '|', ';', '<', '>'].all
        needsQuotes := by decide
    simp [List.all_eq_true.mp asks c member] at ordinary
  unfold stepBare
  split
  case h_15 =>
    -- A hash sign begins a comment only where no word is under way.
    cases word : r.word with
    | none => exact absurd rfl (visible word)
    | some reversed => rfl
  case h_16 => rfl
  all_goals exact absurd rfl (apart _ (by simp))

/-- Such a character goes on with a word. -/
theorem step_within (ordinary : needsQuotes c = false) (bare : c ≠ '\\') :
    (within tokens line reversed).step c = within tokens line (.plain c :: reversed) := by
  -- A line end would need quotes.
  have sameLine : c ≠ '\n' := by
    rintro rfl
    exact absurd ordinary (by decide)
  -- The reader is inside of a word, so that a hash would not begin a comment either.
  have added := stepBare_of_ordinary (within tokens line reversed) ordinary (by simp [within])
  simp only [within] at added ⊢
  simp [step, read, advance, bare, sameLine, stepChar, stepText, added, add]

/-- Such a character begins a word, unless it begins a comment. -/
theorem step_between (ordinary : needsQuotes c = false) (bare : c ≠ '\\') (visible : c ≠ '#') :
    (between tokens line).step c = within tokens line [.plain c] := by
  have sameLine : c ≠ '\n' := by
    rintro rfl
    exact absurd ordinary (by decide)
  -- Only at the beginning of a word could a hash begin a comment.
  have added := stepBare_of_ordinary (between tokens line) ordinary fun _ => visible
  simp only [between] at added ⊢
  simp [step, read, advance, bare, sameLine, stepChar, stepText, added, add, within]

/-- A text of such characters goes on with a word. -/
theorem foldl_step_within {cs : List Char}
    (ordinary : ∀ c ∈ cs, needsQuotes c = false ∧ c ≠ '\\') :
    cs.foldl step (within tokens line reversed) =
      within tokens line ((cs.map .plain).reverse ++ reversed) := by
  -- The induction is on the characters, each of which is added to the word.
  induction cs generalizing reversed with
  | nil => rfl
  | cons c rest ih =>
    obtain ⟨plain, bare⟩ := ordinary c (by simp)
    rw [List.foldl_cons, step_within plain bare, ih fun c member => ordinary c (by simp [member])]
    simp

/-! ## Characters between quotes -/

/-- A character without a meaning between quotes stands for itself there. -/
theorem step_quoting (meek : c ∉ ['$', '\x60', '"', '\\']) :
    (quoting tokens line reversed).step c =
      quoting tokens (if c = '\n' then line + 1 else line) (.quoted c :: reversed) := by
  obtain ⟨notDollar, notBackquote, notQuote, notBackslash⟩ :
      c ≠ '$' ∧ c ≠ '\x60' ∧ c ≠ '"' ∧ c ≠ '\\' := by simpa using meek
  -- Only the end of a line is counted as well.
  by_cases ends : c = '\n'
  · subst ends
    rfl
  · simp [quoting, step, read, advance, notBackslash, ends, stepChar, stepText, stepDouble, add]

/-- Between quotes a backslash goes with the characters that have a meaning there. -/
theorem escapesInQuotes_quoting (c : Char) :
    (quoting tokens line reversed).escapesInQuotes c ↔ c ∈ ['$', '\x60', '"', '\\'] := by
  simp [escapesInQuotes, quoting, or_assoc, or_comm, or_left_comm]

/-- Behind a backslash a character stands for itself, together with the backslash if it has no
meaning there. -/
theorem step_step_backslash (inLine : c ≠ '\n') :
    ((quoting tokens line reversed).step '\\').step c =
      quoting tokens line
        (((if c ∈ ['$', '\x60', '"', '\\'] then [c] else ['\\', c]).map .quoted).reverse ++
          reversed) := by
  have escaping : (quoting tokens line reversed).step '\\' =
      ⟨tokens, some reversed, [.double], .text, line, true, []⟩ := rfl
  have escaped : (⟨tokens, some reversed, [.double], .text, line, true, []⟩ : Reader).step c =
      (quoting tokens line reversed).stepEscapedText c := by
    simp [step, read, advance, inLine, stepEscaped, settle, quoting]
  have inside : (quoting tokens line reversed).inQuotes = true := rfl
  have meaning : (quoting tokens line reversed).escapesInQuotes c ↔ c ∈ ['$', '\x60', '"', '\\'] :=
    escapesInQuotes_quoting c
  rw [escaping, escaped, stepEscapedText]
  by_cases special : c ∈ ['$', '\x60', '"', '\\']
  · rw [if_neg fun bare => bare.2 (meaning.mpr special), if_pos special]
    rfl
  · -- The backslash comes first.
    rw [if_pos ⟨inside, mt meaning.mp special⟩, if_neg special]
    rfl

/-- Quotes end where they are closed, with everything between them kept. -/
theorem step_closing_quote (kept : dropQuotes reversed = reversed) :
    (quoting tokens line reversed).step '"' = within tokens line reversed := by
  simp [quoting, within, step, read, advance, stepChar, stepText, stepDouble, kept]

/-- Quotes are only dropped around all arguments of a script, and not behind a quoted character. -/
theorem dropQuotes_quoted (cs : List Char) (kept : dropQuotes reversed = reversed) :
    dropQuotes ((cs.map .quoted).reverse ++ reversed) = (cs.map .quoted).reverse ++ reversed := by
  rw [← List.map_reverse]
  cases cs.reverse with
  | nil => exact kept
  | cons c rest => rfl

/-- Between quotes a text is read by the rules, up to the quote that closes them. -/
theorem foldl_step_quotedText? {source text behind : List Char}
    (meant : quotedText? source = some (text, behind)) (kept : dropQuotes reversed = reversed) :
    ∃ read last, source = read ++ behind ∧
      read.foldl step (quoting tokens line reversed) =
        within tokens last ((text.map .quoted).reverse ++ reversed) := by
  -- The pieces that are read grow with the text, and there is never anything to drop behind them.
  fun_induction quotedText? source generalizing text line reversed with
  | case1 => simp at meant
  -- A line that is broken leaves no piece behind.
  | case2 rest ih =>
    obtain ⟨read, last, rfl, done⟩ := @ih (line + 1) reversed text meant kept
    exact ⟨'\\' :: '\n' :: read, last, rfl, done⟩
  | case3 c rest inLine ih =>
    obtain ⟨⟨later, _⟩, found, same⟩ := Option.map_eq_some_iff.mp meant
    obtain ⟨rfl, rfl⟩ := Prod.mk.inj same
    obtain ⟨read, last, rfl, done⟩ := @ih line _ later found (dropQuotes_quoted _ kept)
    refine ⟨'\\' :: c :: read, last, rfl, ?_⟩
    rw [List.foldl_cons, List.foldl_cons, step_step_backslash inLine, done]
    simp
  -- The closing quote ends the word that was quoted, and the pieces are those read so far.
  | case4 rest =>
    obtain ⟨rfl, rfl⟩ : [] = text ∧ rest = behind := by simpa using meant
    exact ⟨['"'], line, rfl, step_closing_quote kept⟩
  | case5 c rest => simp at meant
  | case6 c rest _ _ unquoted meek ih =>
    obtain ⟨⟨later, _⟩, found, same⟩ := Option.map_eq_some_iff.mp meant
    obtain ⟨rfl, rfl⟩ := Prod.mk.inj same
    obtain ⟨read, last, rfl, done⟩ := @ih (if c = '\n' then line + 1 else line) _ later
      found (dropQuotes_quoted [c] kept)
    refine ⟨c :: read, last, rfl, ?_⟩
    rw [List.foldl_cons, step_quoting (by simpa [show c ≠ '"' from unquoted] using meek)]
    simpa using done

/-! ## Words -/

/-- Between two words, a text is read as a word. -/
def Spells (text : List Char) (word : Word) : Prop :=
  ∀ tokens line, ∃ last, text.foldl step (between tokens line) = within tokens last word.reverse

/-- A text between quotes is read as the word of its characters. -/
theorem spells_quoteChars (cs : List Char) : Spells (quoteChars cs) (.quotes :: cs.map .quoted) := by
  intro tokens line
  have opened : (between tokens line).step '"' = quoting tokens line [.quotes] := rfl
  -- By the rules nothing is left behind the closing quote.
  obtain ⟨read, last, same, done⟩ :=
    @foldl_step_quotedText? tokens line [.quotes] _ _ _ (quotedText?_escaped cs []) rfl
  refine ⟨last, ?_⟩
  rw [quoteChars, List.foldl_cons, opened, same, List.append_nil, done, List.reverse_cons]

/-- A text of ordinary characters is read as the word of these characters. -/
theorem spells_plain {cs : List Char} (nonempty : cs ≠ [])
    (ordinary : ∀ c ∈ cs, needsQuotes c = false ∧ c ≠ '\\') (visible : cs.head? ≠ some '#') :
    Spells cs (cs.map .plain) := by
  intro tokens line
  -- The first character begins the word, and the others go on with it.
  cases cs with
  | nil => exact absurd rfl nonempty
  | cons c rest =>
    obtain ⟨plain, bare⟩ := ordinary c (by simp)
    have others : ∀ c ∈ rest, needsQuotes c = false ∧ c ≠ '\\' :=
      fun c member => ordinary c (by simp [member])
    refine ⟨line, ?_⟩
    rw [List.foldl_cons, step_between plain bare (by simpa using visible), foldl_step_within others]
    simp

/-- The end of a word behind other words is the end of a word and of nothing else. -/
theorem close_within (done : List (Word × Nat)) (word : Word) :
    (within (asTokens done) line word.reverse).close =
      between (asTokens ((word, line) :: done)) line := by
  unfold close
  simp only [within, List.reverse_reverse]
  -- There are only words in front of it, so that it tells the end of no text.
  split
  next front _ => cases done <;> cases front
  next front _ => cases done <;> cases front
  next => rfl

/-- A blank ends a word. -/
theorem step_blank (done : List (Word × Nat)) (word : Word) :
    (within (asTokens done) line word.reverse).step ' ' =
      between (asTokens ((word, line) :: done)) line :=
  close_within done word

/-- The end of the text ends a word. -/
theorem finish_within (done : List (Word × Nat)) (word : Word) :
    (within (asTokens done) line word.reverse).finish =
      asTokens ((word, line) :: done).reverse ++ [(.finish, line)] := by
  -- Nothing is left open that would have to be closed before the end.
  have concluded : { (within (asTokens done) line word.reverse).conclude with inside := [] } =
      within (asTokens done) line word.reverse := rfl
  unfold finish
  rw [concluded, close_within done word]
  simp [between, push, asTokens]

/-- Words with a blank between neighbours are read one by one. -/
theorem finish_foldl_step_words (done : List (Word × Nat)) (line : Nat)
    (spelled : List (List Char × Word)) (nonempty : spelled ≠ []) (spells : ∀ entry ∈ spelled, Spells entry.1 entry.2) :
    ∃ words last, words.map (·.1) = spelled.map (·.2) ∧
      (([' '].intercalate (spelled.map (·.1))).foldl step (between (asTokens done) line)).finish =
        asTokens (done.reverse ++ words) ++ [(.finish, last)] := by
  -- Each word is put behind those that are done, and the last one is ended by the end of the text.
  induction spelled generalizing done line with
  | nil => exact absurd rfl nonempty
  | cons first rest ih =>
    obtain ⟨text, word⟩ := first
    obtain ⟨last, read⟩ := spells (text, word) (by simp) (asTokens done) line
    cases rest with
    | nil =>
      refine ⟨[(word, last)], last, rfl, ?_⟩
      rw [List.map_cons, List.map_nil, List.intercalate_singleton, read, finish_within done word]
      simp
    | cons second others =>
      obtain ⟨words, final, same, finished⟩ := ih ((word, last) :: done) last
        (by simp) fun entry member => spells entry (by simp [member])
      refine ⟨(word, last) :: words, final, by simp [same], ?_⟩
      rw [List.map_cons, List.map_cons, List.intercalate_cons_cons, List.foldl_append,
        List.foldl_append, read, List.foldl_cons, List.foldl_nil, step_blank done word]
      rw [List.map_cons] at finished
      rw [finished]
      simp

end Reader

/-- A line of words with a blank between neighbours is read as these words. -/
theorem readTokens_words (spelled : List (List Char × Word)) (nonempty : spelled ≠ [])
    (spells : ∀ entry ∈ spelled, Reader.Spells entry.1 entry.2) :
    ∃ words last, words.map (·.1) = spelled.map (·.2) ∧
      readTokens ([' '].intercalate (spelled.map (·.1))) = asTokens words ++ [(.finish, last)] :=
  Reader.finish_foldl_step_words [] 1 spelled nonempty spells

end FormatPipeline.Shell
