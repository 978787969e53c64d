import FormatPipeline.Formatter.Arguments
import FormatPipeline.Proofs.Sandbox.Expansion
import FormatPipeline.Sandbox.Basic
import Mathlib.Data.List.Forall2

/-! The command line of a formatter reaches it as the words that were meant. -/

namespace FormatPipeline

/-- The arguments that are meant for the formatter itself, with the texts of the paths. -/
def Profile.meantFor (profile : Profile) (file : Path) (config : Option Path) (mode : Mode) :
    List String :=
  -- A configuration file is announced by its flag.
  let configured := match config with
    | some path => [profile.configFlag, path.text]
    | none => []
  let target := match mode with
    | .buffer => stdinMarker
    | .file => file.text
  profile.arguments mode ++ configured ++ [target]

namespace Sandbox

open Shell (Word needsQuotes quote quoteChars quoteIfNeeded commandLine quotedText? readTokens
  parseLine fuelFor)

/-- The characters with a meaning for the shell on whose account no path is quoted. -/
def isOverlooked (c : Char) : Bool := c == '\\' || c == '*' || c == '?' || c == '['

/-- A path that is quoted, or has no character that is overlooked. -/
def IsGuarded (path : Path) : Prop :=
  path.text.toList.any needsQuotes ∨ path.text.toList.any isOverlooked = false

instance (path : Path) : Decidable (IsGuarded path) := inferInstanceAs (Decidable (_ ∨ _))

/-- A character that means nothing to the shell, wherever it stands in a word. -/
def isHarmless (c : Char) : Bool := !needsQuotes c && !isOverlooked c && c != '#' && c != '~'

/-- A text that can be written on a command line as it is. -/
def isPlainWord (text : String) : Bool := !text.isEmpty && text.toList.all isHarmless

/-! ## Texts -/

/-- What is written is read as one word, which stays as it is and has the text that is meant. -/
structure Conveys (written text : String) (word : Word) : Prop where
  spells : Shell.Reader.Spells written.toList word
  stays : Stays word
  literal : String.ofList word.literal = text

/-- A word of characters without quotes has these characters. -/
theorem literal_plain (cs : List Char) : Word.literal (cs.map .plain) = cs := by
  induction cs with
  | nil => rfl
  | cons c rest ih => simp [Word.literal, ih]

/-- A word of quoted characters has these characters. -/
theorem literal_quoted (cs : List Char) : Word.literal (cs.map .quoted) = cs := by
  induction cs with
  | nil => rfl
  | cons c rest ih => simp [Word.literal, ih]

/-- Between quotes every path is conveyed. -/
theorem conveys_quote (path : Path) :
    Conveys (quote path) path.text (.quotes :: path.text.toList.map .quoted) where
  spells := by
    rw [quote, String.toList_ofList]
    exact Shell.Reader.spells_quoteChars path.text.toList
  stays := ⟨by simp [Word.isInert], by simp, by simp⟩
  literal := by simp [Word.literal, literal_quoted]

/-- By the rules for double quotes a path is read back from what is written for it, which is one word
as a whole: the shell expands nothing in this word, in no job, and its text is that of the path. So two
paths are never written alike. -/
theorem readBack_quote :
    (∀ path : Path,
      (∃ source, (quote path).toList = '"' :: source ∧
        quotedText? source = some (path.text.toList, [])) ∧
      ∃ (word : Word) (line last : Nat),
        readTokens (quote path).toList = [(.word word, line), (.finish, last)] ∧ word.isInert ∧
          ∀ job fuel, expandWord (fuel + 3) job word = (job, some [path.text])) ∧
      Function.Injective quote := by
  refine ⟨fun path => ⟨?_, ?_⟩, fun path other same => ?_⟩
  -- Each escaped character is read back up to the closing quote.
  · refine ⟨path.text.toList.flatMap Shell.escapeChar ++ ['"'], ?_, Shell.quotedText?_escaped _ []⟩
    rw [quote, String.toList_ofList, quoteChars]
  -- The word is read as one word, which the shell then leaves as it is.
  · have conveys := conveys_quote path
    obtain ⟨words, last, read, tokens⟩ := Shell.readTokens_words [((quote path).toList, _)] (by simp)
      (by simpa using conveys.spells)
    obtain ⟨line, rfl⟩ : ∃ line, words = [(.quotes :: path.text.toList.map .quoted, line)] := by
      simpa [List.map_eq_singleton_iff] using read
    refine ⟨_, line, last, by simpa [Shell.asTokens] using tokens, conveys.stays.inert, fun job fuel => ?_⟩
    rw [expandWord_stays conveys.stays, conveys.literal]
  -- Equal words hold equal characters, and a path is its text.
  · have chars : path.text.toList = other.text.toList :=
      Shell.quoteChars_injective (String.ofList_injective same)
    cases path
    cases other
    simpa [String.toList_inj] using chars

/-- Without quotes a text is conveyed when the shell finds nothing to do in it. -/
theorem conveys_bare {text : String} (nonempty : text.toList ≠ [])
    (ordinary : ∀ c ∈ text.toList, needsQuotes c = false ∧ isOverlooked c = false)
    (visible : text.toList.head? ≠ some '#') (tildeless : text.toList.head? ≠ some '~') :
    Conveys text text (text.toList.map .plain) where
  spells := by
    -- Each character is read as it stands, since none of them needs quotes.
    refine Shell.Reader.spells_plain nonempty (fun c member => ?_) visible
    obtain ⟨plain, noticed⟩ := ordinary c member
    exact ⟨plain, by rintro rfl; simp [isOverlooked] at noticed⟩
  stays := by
    -- Nothing in the word is expanded, and it begins with no tilde.
    refine ⟨?_, by simpa using nonempty, ?_⟩
    · simp only [Word.isInert, List.all_map, List.all_eq_true]
      intro c member
      have noticed := (ordinary c member).2
      simp only [isOverlooked, Bool.or_eq_false_iff] at noticed
      simp [noticed, bne]
    · cases characters : text.toList with
      | nil => simp
      | cons c rest => simpa [characters] using tildeless
  literal := by rw [literal_plain, String.ofList_toList]

/-- A plain word is conveyed as it is. -/
theorem conveys_plainWord {text : String} (plain : isPlainWord text) :
    Conveys text text (text.toList.map .plain) := by
  simp only [isPlainWord, Bool.and_eq_true, Bool.not_eq_true', List.all_eq_true] at plain
  obtain ⟨nonempty, harmless⟩ := plain
  have apart : ∀ c ∈ text.toList, needsQuotes c = false ∧ isOverlooked c = false ∧ c ≠ '#' ∧ c ≠ '~' :=
    fun c member => by simpa [isHarmless, and_assoc] using harmless c member
  -- No character of the word is special, at its beginning or later.
  refine conveys_bare (by simpa using nonempty) (fun c member => ?_) ?_ ?_
  · exact ⟨(apart c member).1, (apart c member).2.1⟩
  · intro first
    exact (apart '#' (List.mem_of_mem_head? first)).2.2.1 rfl
  · intro first
    exact (apart '~' (List.mem_of_mem_head? first)).2.2.2 rfl

/-- What the word of a path begins with: quotes, or the leading slash. -/
def BeginsPath (word : Word) : Prop := word.head? = some .quotes ∨ word.head? = some (.plain '/')

/-- A guarded absolute path is conveyed. -/
theorem conveys_quoteIfNeeded {path : Path} (absolute : path.isAbsolute) (guarded : IsGuarded path) :
    ∃ word, Conveys (quoteIfNeeded path) path.text word ∧ BeginsPath word := by
  have first : path.text.toList.head? = some '/' := by simpa [Path.isAbsolute] using absolute
  unfold quoteIfNeeded
  split
  next => exact ⟨_, conveys_quote path, .inl rfl⟩
  next bare =>
    -- A path that is not quoted has none of the characters that are overlooked.
    have unnoticed : path.text.toList.any isOverlooked = false := guarded.resolve_left bare
    have ordinary : ∀ c ∈ path.text.toList, needsQuotes c = false ∧ isOverlooked c = false := by
      intro c member
      simp only [Bool.not_eq_true] at bare
      have plain := List.any_eq_false.mp bare c member
      have noticed := List.any_eq_false.mp unnoticed c member
      exact ⟨by simpa using plain, by simpa using noticed⟩
    refine ⟨_, conveys_bare ?_ ordinary (by simp [first]) (by simp [first]), .inr ?_⟩
    · rintro empty
      simp [empty] at first
    · simp [first]

/-! ## Command lines -/

/-- Texts are written so that each of them is conveyed. -/
def ConveyAll (written texts : List String) : Prop :=
  List.Forall₂ (fun written text => ∃ word, Conveys written text word) written texts

/-- Texts that are conveyed one by one are the texts of words that are read and stay as they are. -/
theorem ConveyAll.words {written texts : List String} (convey : ConveyAll written texts) :
    ∃ spelled : List (List Char × Word), spelled.map (·.1) = written.map String.toList ∧
      (∀ entry ∈ spelled, Shell.Reader.Spells entry.1 entry.2 ∧ Stays entry.2) ∧
      spelled.map (fun entry => String.ofList entry.2.literal) = texts := by
  -- The induction is on the words, each of which has its own spelling.
  induction convey with
  | nil => exact ⟨[], rfl, by simp, rfl⟩
  | @cons written text _ _ first _ ih =>
    obtain ⟨word, conveys⟩ := first
    obtain ⟨spelled, same, good, meant⟩ := ih
    refine ⟨(written.toList, word) :: spelled, by simp [same], ?_, by simp [meant, conveys.literal]⟩
    rintro entry member
    rcases List.mem_cons.mp member with rfl | later
    · exact ⟨conveys.spells, conveys.stays⟩
    · exact good entry later

/-- The arguments of a formatter are written so that those that are meant are conveyed. -/
theorem conveyAll_argumentsFor {profile : Profile} {config : Option Path} {mode : Mode} (file : Path)
    (plain : ∀ word ∈ profile.configFlag :: profile.arguments mode, isPlainWord word)
    (absolute : ∀ path ∈ config, path.isAbsolute) (guarded : ∀ path ∈ config, IsGuarded path) :
    ConveyAll (profile.argumentsFor file config mode) (profile.meantFor file config mode) := by
  have usual : ConveyAll (profile.arguments mode) (profile.arguments mode) := by
    refine List.forall₂_same.mpr fun word member => ?_
    exact ⟨_, conveys_plainWord (plain word (List.mem_cons_of_mem _ member))⟩
  have flag := conveys_plainWord (plain profile.configFlag (by simp))
  have marker : Conveys stdinMarker stdinMarker _ := conveys_plainWord (by decide)
  unfold Profile.argumentsFor Profile.meantFor
  refine List.rel_append (List.rel_append usual ?_) ?_
  · -- An absolute path is not empty, so that it is written.
    cases config with
    | none => exact .nil
    | some path =>
      have present : path.text.isEmpty = false := by
        have first : path.text.toList.head? = some '/' := by
          simpa [Path.isAbsolute] using absolute path rfl
        by_contra empty
        simp_all
      obtain ⟨word, conveys, _⟩ := conveys_quoteIfNeeded (absolute path rfl) (guarded path rfl)
      simp only [present, Bool.false_eq_true, if_false]
      exact .cons ⟨_, flag⟩ (.cons ⟨word, conveys⟩ .nil)
  -- The last argument is the marker or the file, which is always in quotes.
  · cases mode with
    | buffer => exact .cons ⟨_, marker⟩ .nil
    | file => exact .cons ⟨_, conveys_quote file⟩ .nil

/-- The word of a path is no reserved word. -/
theorem BeginsPath.unreserved {word : Word} (path : BeginsPath word) :
    ∀ cs, word.bare? = some cs → String.ofList cs ∉ Shell.reservedWords := by
  intro cs bare
  rcases path with quotes | slash
  · -- A word with quotes in it is not bare.
    cases word with
    | nil => simp at quotes
    | cons piece rest =>
      obtain rfl : piece = .quotes := by simpa using quotes
      simp [Word.bare?] at bare
  · cases word with
    | nil => simp at slash
    | cons piece rest =>
      obtain rfl : piece = .plain '/' := by simpa using slash
      obtain ⟨others, _, rfl⟩ : ∃ others, Word.bare? rest = some others ∧ '/' :: others = cs := by
        simpa [Word.bare?] using bare
      -- No reserved word begins with a slash.
      intro member
      have apart : ∀ reserved ∈ Shell.reservedWords, reserved.toList.head? ≠ some '/' := by decide
      exact apart _ member (by simp)

/-- The word of a path assigns nothing. -/
theorem BeginsPath.unassigned {word : Word} (path : BeginsPath word) : Shell.assignment? word = none := by
  -- Neither quotes nor a slash belong to the name of a variable.
  cases word with
  | nil => simp [BeginsPath] at path
  | cons piece rest =>
    rcases path with quotes | slash
    · obtain rfl : piece = .quotes := by simpa using quotes
      simp [Shell.assignment?, Word.bare?, Shell.isName]
    · obtain rfl : piece = .plain '/' := by simpa using slash
      have : Shell.isNameChar '/' = false := by decide
      simp [Shell.assignment?, this, Word.bare?, Shell.isName]

/-- What the shell makes of a command line: one command and nothing else, whose words come to these
texts in every job. -/
def RunsWith (line : String) (texts : List String) : Prop :=
  -- The line is one simple command, whose words come to the texts in whatever job.
  let tokens := readTokens line.toList
  ∃ number words last,
    parseLine (fuelFor tokens.length) tokens =
      .ok (.command (.simple number [] words []), [(.finish, last)]) ∧
    ∀ job fuel, expandCommand (fuel + 5) job words = (job, some texts)

/-- A guarded absolute path runs with the arguments that are conveyed. -/
theorem runsWith_commandLine {binary : Path} {written texts : List String} (absolute : binary.isAbsolute)
    (guarded : IsGuarded binary) (convey : ConveyAll written texts) :
    RunsWith (commandLine binary written) (binary.text :: texts) := by
  obtain ⟨word, conveys, path⟩ := conveys_quoteIfNeeded absolute guarded
  obtain ⟨spelled, same, good, meant⟩ := convey.words
  have line : (commandLine binary written).toList =
      [' '].intercalate (((quoteIfNeeded binary).toList, word) :: spelled |>.map (·.1)) := by
    simp [commandLine, Text.joinWith, String.toList_intercalate, same]
  -- The words that are read are those of the binary and of its arguments.
  obtain ⟨entries, last, read, tokens⟩ := Shell.readTokens_words
    (((quoteIfNeeded binary).toList, word) :: spelled) (by simp) (by
      rintro entry member
      rcases List.mem_cons.mp member with rfl | later
      · exact conveys.spells
      · exact (good entry later).1)
  obtain ⟨⟨first, number⟩, rest, rfl, rfl, others⟩ : ∃ entry rest, entries = entry :: rest ∧
      entry.1 = word ∧ rest.map (·.1) = spelled.map (·.2) := by
    cases entries with
    | nil => simp at read
    | cons entry rest => exact ⟨entry, rest, rfl, by simpa using read⟩
  have stay : ∀ word ∈ rest.map (·.1), Stays word := by
    rw [others]
    intro word member
    obtain ⟨entry, among, rfl⟩ := List.mem_map.mp member
    exact (good entry among).2
  have inert : ∀ entry ∈ (first, number) :: rest, entry.1.isInert := by
    intro entry member
    rcases List.mem_cons.mp member with rfl | later
    · exact conveys.stays.inert
    · exact (stay entry.1 (List.mem_map_of_mem later)).inert
  -- They are parsed as one command.
  have parsed := Shell.parseLine_words _ _ _ last (fuelFor (rest.length + 2)) inert
    path.unreserved path.unassigned (by unfold fuelFor; omega)
  have size : (Shell.asTokens ((first, number) :: rest) ++ [(Shell.Token.finish, last)]).length = rest.length + 2 := by
    simp [Shell.asTokens]
  refine ⟨number, first :: rest.map (·.1), last, ?_, fun job fuel => ?_⟩
  · rw [line, tokens, size]
    exact parsed
  · -- A path is not the name of a command that reads its arguments in another way.
    have slash : binary.text.toList.head? = some '/' := by simpa [Path.isAbsolute] using absolute
    have apart : ∀ name ∈ ["command", "alias", "export", "local", "readonly"], binary.text ≠ name := by
      rintro name member same
      have begins : ∀ name ∈ ["command", "alias", "export", "local", "readonly"],
          name.toList.head? ≠ some '/' := by decide
      exact begins name member (same ▸ slash)
    simp only [List.mem_cons, forall_eq_or_imp, List.not_mem_nil] at apart
    have expanded := expandCommand_stay conveys.stays stay (by simp [conveys.literal, apart])
      (by simp [declaresVariables, conveys.literal, apart]) job fuel
    rw [expanded, others, List.map_cons, List.map_map, conveys.literal, ← meant]
    rfl

variable {profile : Profile} {memo : ArgumentMemo} {binary file : Path} {config : Option Path}
  {mode : Mode}

/-- A formatter is run with its usual arguments, the flag and the path of its configuration file, and
what it is to format, and with the texts of all paths as they are, when no path is left without quotes
that has an overlooked character, and nothing else is remembered for these paths. -/
theorem runsWith_build (absolute : binary.isAbsolute) (configAbsolute : ∀ path ∈ config, path.isAbsolute)
    (plain : ∀ word ∈ profile.configFlag :: profile.arguments mode, isPlainWord word)
    (guarded : IsGuarded binary) (configGuarded : ∀ path ∈ config, IsGuarded path)
    (remembered : ∀ known,
      memo.find? (file.components, config.map (·.components), mode) = some known →
      known = profile.argumentsFor file config mode) :
    RunsWith (commandLine binary (memo.build profile file config mode).1)
      (binary.text :: profile.meantFor file config mode) := by
  -- The arguments are those that are written for these paths, now or earlier.
  have written : (memo.build profile file config mode).1 = profile.argumentsFor file config mode := by
    unfold ArgumentMemo.build
    dsimp only
    split
    next known present => exact remembered known present
    next => rfl
  rw [written]
  exact runsWith_commandLine absolute guarded
    (conveyAll_argumentsFor file plain configAbsolute configGuarded)

/-- The words of a file in place, where a blank and a parenthesis cause quotes. -/
theorem runsWith_sample :
    RunsWith
      (commandLine ⟨"/opt/my tools/black"⟩
        (ArgumentMemo.build .empty ⟨"black", ["-q"], ["-q"], "--config", []⟩ ⟨"/repo/$a*.py"⟩
          (some ⟨"/repo (new)/[a]/pyproject.toml"⟩) .file).1)
      ["/opt/my tools/black", "-q", "--config", "/repo (new)/[a]/pyproject.toml", "/repo/$a*.py"] :=
  runsWith_build (by decide) (by decide) (by decide) (by decide) (by decide) (by simp)

/-- A backslash in the path of a binary is lost, since it causes no quotes. -/
theorem runsWith_backslash :
    let profile : Profile := ⟨"black", ["-q"], ["-q"], "--config", []⟩
    let arguments := (ArgumentMemo.build .empty profile ⟨"/main.py"⟩ none .buffer).1
    Path.isAbsolute ⟨"/a\\b"⟩ ∧
      (∀ word ∈ profile.configFlag :: profile.arguments .buffer, isPlainWord word) ∧
      ¬ RunsWith (commandLine ⟨"/a\\b"⟩ arguments)
        ("/a\\b" :: profile.meantFor ⟨"/main.py"⟩ none .buffer) := by
  refine ⟨by decide, by decide, ?_⟩
  rintro ⟨number, words, last, parsed, runs⟩
  -- The shell reads the character behind the backslash, and not the backslash.
  let first : Word := [.plain '/', .plain 'a', .quoted 'b']
  let others : List Word := [[.plain '-', .plain 'q'], [.plain '-']]
  have tokens : readTokens (commandLine ⟨"/a\\b"⟩ ["-q", "-"]).toList =
      Shell.lineTokens ((first, 1) :: others.map (·, 1)) 1 := rfl
  have line := Shell.parseLine_words first (others.map (·, 1)) 1 1 (fuelFor 4) (by decide) (by decide)
    (by decide) (by decide)
  obtain rfl : words = first :: others := by
    have same := parsed.symm.trans ((congrArg _ tokens).trans line)
    simp only [Except.ok.injEq, Prod.mk.injEq, Shell.Chunk.command.injEq, Shell.Script.simple.injEq] at same
    exact same.1.2.2.1
  have stays : Stays first := ⟨by decide, by simp [first], by simp [first]⟩
  have stay : ∀ word ∈ others, Stays word := by
    simp only [others, List.mem_cons, List.not_mem_nil, or_false, forall_eq_or_imp, forall_eq]
    exact ⟨⟨by decide, by simp, by simp⟩, ⟨by decide, by simp, by simp⟩⟩
  -- So the name of the command has two characters behind the slash, in every job.
  let job := Sandbox.newJob ⟨.empty, none, [], []⟩ none
  have expanded := expandCommand_stay stays stay (by decide) (by decide) job 0
  have texts := (congrArg Prod.snd expanded).symm.trans (congrArg Prod.snd (runs job 0))
  exact absurd texts (by decide)

end Sandbox

end FormatPipeline
