import FormatPipeline.Proofs.Lookup.Choice
import FormatPipeline.Proofs.Lookup.Memory
import FormatPipeline.Proofs.Path.Lexical

/-! Searches in a repository find nothing outside it exactly as far as no name leads out. -/

namespace FormatPipeline

/-- A repository in which a file lies, as far as the search for the file goes. -/
structure FileSystem.Encloses (files : FileSystem) (file repository : Path) : Prop where
  absolute : file.isAbsolute
  /-- The innermost directory around the file that has the marker. -/
  innermost : file.around.find? files.marks = some repository
  /-- The spelling of the file does not lead out of the repository in between. -/
  inside : ∀ directory ∈ files.searched file, directory.LiesIn repository

/-- Whether an entry is the earliest of several that stands for a path. -/
def FileSystem.DecidedBy (files : FileSystem) (directories : List Path) (entries : List String)
    (entry : String) : Prop :=
  -- What the entries behind it stand for makes no difference.
  ∃ earlier later path, entries = earlier ++ entry :: later ∧
    (∀ other ∈ earlier, ∀ path, ¬ files.StandsFor directories other path) ∧
    files.StandsFor directories entry path

/-- The entries that are searched for before a path ends the search. -/
def bareEntries (entries : List String) : List String := entries.takeWhile (!isPathEntry ·)

/-! ## Directories that are searched -/

namespace FileSystem

variable {files : FileSystem}

/-- The directories that are searched for an absolute path have components. -/
theorem components_ne_nil_of_searched {file directory : Path} (absolute : file.isAbsolute)
    (searched : directory ∈ files.searched file) : directory.components ≠ [] := by
  intro empty
  have rooted := Path.head?_components_of_mem_around absolute (mem_of_mem_upToMarked searched)
  simp [empty] at rooted

/-- A repository encloses every file around which it is the innermost one, and whose path has no
double dots. -/
theorem encloses_of_straight {file repository : Path} (absolute : file.isAbsolute)
    (innermost : file.around.find? files.marks = some repository) (straight : .up ∉ file.components) :
    files.Encloses file repository := by
  refine ⟨absolute, innermost, fun directory searched => ?_⟩
  obtain ⟨marked, before, behind, split, unmarked⟩ := List.find?_eq_some_iff_append.mp innermost
  have nested := Path.pairwise_around file
  rw [split, List.map_append, List.map_cons] at nested
  -- Only the repository and the directories in front of it are searched.
  have cut : files.searched file = before ++ [repository] := by
    unfold FileSystem.searched upToMarked
    rw [innermost, split, List.takeWhile_append_of_pos unmarked,
      List.takeWhile_cons_of_neg (by simpa using marked)]
    simp
  rw [cut] at searched
  rcases List.mem_append.mp searched with deeper | last
  · obtain ⟨ofFile, others⟩ := List.pairwise_cons.mp nested
    have spelled : directory.components ∈ before.map Path.components := List.mem_map_of_mem deeper
    obtain ⟨way, same⟩ : repository.components <+: directory.components :=
      (List.pairwise_append.mp others).2.2 _ spelled _ List.mem_cons_self
    have begins := ofFile directory.components (List.mem_append_left _ spelled)
    refine Path.liesIn_of_staysFrom same.symm (Path.staysFrom_of_names (fun component member => ?_) 0)
    -- Behind the root there are only names in the path of the file.
    obtain ⟨rest, rooted⟩ := Path.components_of_isAbsolute absolute
    obtain ⟨more, top⟩ := List.head?_eq_some_iff.mp
      (Path.head?_components_of_mem_around absolute (List.mem_of_find?_eq_some innermost))
    rw [← same, top, rooted, List.cons_append, List.cons_prefix_cons] at begins
    have named : component ∈ Path.namesIn rest := begins.2.subset (List.mem_append_right more member)
    rcases Path.isName_or_up_of_mem named with isName | rfl
    · exact isName
    · exact absurd (rooted ▸ List.mem_cons_of_mem _ named) straight
  · obtain rfl := List.mem_singleton.mp last
    exact .rfl

/-- What is chosen is readable. -/
theorem Chooses.readable {directories : List Path} {names : List String} {path : Path}
    (chosen : files.Chooses directories names path) : files.isReadable path := by
  cases chosen with
  | chosen _ _ readable => exact readable

/-- What is chosen by names that stay inside lies in the repository. -/
theorem Encloses.liesIn_of_chooses {file repository : Path} (encloses : files.Encloses file repository)
    {names : List String} (stay : ∀ name ∈ names, Path.staysInside name) {path : Path}
    (chosen : files.Chooses (files.searched file) names path) : path.LiesIn repository := by
  obtain ⟨directory, searched, name, named, rfl⟩ := chosen.exists_join
  have some := components_ne_nil_of_searched encloses.absolute searched
  exact (Path.liesIn_join some (stay name named)).trans (encloses.inside directory searched)

/-- If a directory has a readable name, then the names choose a path in the directories. -/
theorem exists_chooses {directories : List Path} {directory : Path} (placed : directory ∈ directories)
    {names : List String} {name : String} (member : name ∈ names)
    (readable : files.isReadable (directory.join name)) : ∃ path, files.Chooses directories names path := by
  cases found : directories.findSome? (files.named? names) with
  | none => exact absurd readable (lacks_iff.mpr found directory placed name member)
  | some path => exact ⟨path, chooses_iff.mpr found⟩

end FileSystem

/-! ## Entries -/

namespace Text

/-- A character that is not blank stays in front when trailing blanks are dropped. -/
theorem head?_dropEndWhile {c : Char} {rest : List Char} (busy : isBlank c = false) :
    (dropEndWhile isBlank (c :: rest)).head? = some c := by
  unfold dropEndWhile
  rw [List.reverse_cons, List.dropWhile_append]
  split <;> simp [busy]

/-- The texts of a list have a common bound on their lengths. -/
theorem exists_length_le (texts : List String) :
    ∃ length, ∀ text ∈ texts, text.toList.length ≤ length := by
  -- The longer of the new text and the bound so far bounds them all.
  induction texts with
  | nil => exact ⟨0, fun _ member => absurd member List.not_mem_nil⟩
  | cons text rest ih =>
    obtain ⟨length, bound⟩ := ih
    refine ⟨max text.toList.length length, fun other member => ?_⟩
    rcases List.mem_cons.mp member with rfl | behind
    · exact Nat.le_max_left _ _
    · exact Nat.le_trans (bound other behind) (Nat.le_max_right _ _)

/-- Trimming makes no text longer. -/
theorem length_trim_le (text : String) : (trim text).toList.length ≤ text.toList.length := by
  have front := (List.dropWhile_suffix (l := text.toList) isBlank).length_le
  have back := (List.dropWhile_suffix (l := (text.toList.dropWhile isBlank).reverse) isBlank).length_le
  simp only [trim, String.toList_ofList, dropEndWhile, List.length_reverse] at front back ⊢
  omega

end Text

/-- An entry that is searched for is relative. -/
theorem head?_ne_of_bare {entry : String} (bare : ¬ isPathEntry entry) :
    entry.toList.head? ≠ some '/' := by
  intro slash
  cases chars : entry.toList with
  | nil => simp [chars] at slash
  -- A slash is no blank, so that trimming leaves it in front.
  | cons c rest =>
    obtain rfl : c = '/' := by simpa [chars] using slash
    have busy : Text.isBlank '/' = false := by decide
    have front := @Text.head?_dropEndWhile _ rest busy
    exact bare (by simp [isPathEntry, Text.trim, chars, busy, front])

/-- Entries that are searched for are no paths. -/
theorem bare_of_mem {entries : List String} {entry : String} (member : entry ∈ bareEntries entries) :
    ¬ isPathEntry entry := by
  have all := List.all_eq_true.mp List.all_takeWhile entry member
  simpa using all

/-- A path stands for itself, so that no entry behind it is searched for. -/
theorem mem_bareEntries_of_decidedBy {files : FileSystem} {directories : List Path}
    {entries : List String} {entry : String} (decided : files.DecidedBy directories entries entry)
    (bare : ¬ isPathEntry entry) : entry ∈ bareEntries entries := by
  obtain ⟨earlier, later, _, rfl, silent, -⟩ := decided
  -- Whatever stands before the entry that decides would have decided itself if it were a path.
  have searched : ∀ other ∈ earlier, (!isPathEntry other) = true := by
    intro other member
    cases path : isPathEntry other with
    | false => rfl
    | true => exact absurd (.spelled path) (silent other member _)
  unfold bareEntries
  rw [List.takeWhile_append_of_pos searched, List.takeWhile_cons_of_pos (by simpa using bare)]
  simp

/-! ## Settings that are accepted -/

/-- Names that are accepted are those that are searched for. -/
theorem BinaryFinder.localBins_of_accepted {finder : BinaryFinder} {names : List String}
    (accepted : (finder.setLocalBins names).2 = none) :
    (finder.setLocalBins names).1.localBins = names := by
  -- A refused list keeps the old names, so that acceptance leaves two branches.
  unfold setLocalBins at accepted ⊢
  split
  next same => exact same.symm
  next changed =>
    rw [if_neg changed] at accepted
    split
    next entry invalid => simp [invalid] at accepted
    next => rfl

/-- Valid names are accepted. -/
theorem BinaryFinder.accepted_setLocalBins (finder : BinaryFinder) {names : List String}
    (valid : names.all isValidFileName) : (finder.setLocalBins names).2 = none := by
  have none : names.find? (!isValidFileName ·) = none := by simpa using valid
  unfold setLocalBins
  split
  · rfl
  · rw [none]

/-- Candidates that are accepted are those that are searched for. -/
theorem ConfigFinder.candidates_of_accepted {files : FileSystem} {finder : ConfigFinder}
    {entries : List String} (accepted : (finder.setCandidates files entries).value.2 = none) :
    (finder.setCandidates files entries).value.1.candidates = entries := by
  unfold setCandidates at accepted ⊢
  split
  -- The list is the old one, or it was checked and taken.
  next same => exact same.symm
  next changed =>
    rw [if_neg changed] at accepted
    simp only [Probed.value_bind] at accepted ⊢
    split
    next error invalid => simp [invalid] at accepted
    next => rfl

/-- Usable candidates are accepted. -/
theorem ConfigFinder.accepted_setCandidates {files : FileSystem} (finder : ConfigFinder)
    {entries : List String} (usable : entries.all (isUsableCandidate files)) :
    (finder.setCandidates files entries).value.2 = none := by
  -- No entry is invalid, so neither way through the setter reports one.
  have none := (value_firstInvalid_eq_none files finder.formatter entries).mpr usable
  unfold setCandidates
  split
  · rfl
  · simp [none]

/-! ## A world with one repository -/

/-- A file system in which one directory has the marker, and some paths are readable. -/
def FileSystem.withRepository (repository : Path) (readable : Path → Bool) : FileSystem where
  pathExists path := path = repository.join ".git"
  isReadable := readable
  isExecutable _ := false
  home := none
  which _ := none

/-- A directory of the root, by the characters of its name. -/
def Path.ofName (text : List Char) : Path := ⟨.ofList ('/' :: text)⟩

section

variable {text : List Char}

/-- A file in a directory of the root lies in that directory. -/
theorem Path.parent?_ofName (free : '/' ∉ text) (busy : isIdle text = false) :
    (ofName (text ++ ['/', 'f'])).parent? = some (ofName text) := by
  -- The path has just two pieces, the name of the directory and that of the file.
  have cut : Text.pieces '/' (text ++ ['/', 'f']) = [text, ['f']] := by
    have split := Text.pieces_append '/' text ['f']
    rw [Text.pieces_of_notMem free] at split
    exact split
  have file : isIdle ['f'] = false := by decide
  simp [parent?, outward, ofName, splitAnchor, cut, outwardPieces, file, busy, Text.glue]

/-- A directory of the root has the root and its name as components. -/
theorem Path.components_ofName (free : '/' ∉ text) (busy : isIdle text = false)
    (plain : text ≠ ['.', '.']) : (ofName text).components = [.root, .name text] := by
  simp [components, ofName, componentsOf_slash, namesIn, Text.pieces_of_notMem free, busy,
    Component.ofPiece, plain]

variable (free : '/' ∉ text) (busy : Path.isIdle text = false) (readable : Path → Bool)

include free busy in
/-- Only the repository itself is searched for a file in it. -/
theorem FileSystem.searched_withRepository :
    (withRepository (.ofName text) readable).searched (.ofName (text ++ ['/', 'f'])) =
      [.ofName text] := by
  have marked : (withRepository (.ofName text) readable).marks (.ofName text) = true := by
    -- The directory carries the mark itself, so the search ends with the first directory.
    simp [marks, withRepository]
  simp [searched, Path.around, Path.parent?_ofName free busy, Path.ancestors, upToMarked_cons, marked]

include free busy in
/-- The repository encloses a file in it. -/
theorem FileSystem.encloses_withRepository :
    (withRepository (.ofName text) readable).Encloses (.ofName (text ++ ['/', 'f'])) (.ofName text) where
  absolute := by simp [Path.isAbsolute, Path.ofName]
  innermost := by
    have marked : (withRepository (.ofName text) readable).marks (.ofName text) = true := by
      simp [marks, withRepository]
    simp [Path.around, Path.parent?_ofName free busy, Path.ancestors, marked]
  -- Only the repository itself is searched for the file in it.
  inside := by
    rw [searched_withRepository free busy readable]
    intro directory member
    obtain rfl := List.mem_singleton.mp member
    exact .rfl

end

/-- What is in a directory of the root has a longer spelling than the name of the directory. -/
theorem Path.length_join_ofName (text : List Char) {name : String}
    (relative : name.toList.head? ≠ some '/') :
    text.length < ((ofName text).join name).text.toList.length := by
  have spelled : (ofName text).text.toList = '/' :: text := by simp [ofName]
  unfold join
  rw [if_neg relative]
  split <;> simp only [String.toList_append, spelled, List.length_append, List.length_cons] <;> omega

/-- There are valid names of any length. -/
theorem exists_longer (length : Nat) : ∃ text : List Char, length < text.length ∧ '/' ∉ text ∧
    Path.isIdle text = false ∧ text ≠ ['.', '.'] ∧ isValidFileName (.ofList text) := by
  have busy : Text.isBlank 'r' = false := by decide
  have printable : Text.isControl 'r' = false := by decide
  have allowed : isForbiddenInName 'r' = false := by decide
  -- A long enough row of one harmless letter is such a name.
  refine ⟨List.replicate (length + 3) 'r', ?_, ?_, ?_, ?_, ?_⟩
  · rw [List.length_replicate]
    omega
  · simp [List.mem_replicate]
  · simp [Path.isIdle, List.replicate_succ]
  · simp [List.replicate_succ]
  · simp [isValidFileName, Text.allBlank, busy, printable, allowed]

/-! ## The names that keep a search inside -/

/-! ### Binaries -/

/-- A binary from a finder whose memory is right about the files is one that its names choose. -/
theorem BinaryFinder.chooses_of_resolve {files : FileSystem} {finder : BinaryFinder}
    (sound : finder.Sound files) {file path : Path}
    (resolved : (finder.resolve files file).value.1 = some (path, .inRepository)) :
    ∃ chosen, files.Chooses (files.searched file) finder.localBins chosen ∧
      chosen.components = path.components := by
  have same := value_resolve sound file
  rw [SameAnswer, resolved] at same
  unfold found at same
  cases inside : (Lookup.firstAround files file finder.localBins).value with
  | none =>
    -- Without a path in the repository the answer has the other scope.
    cases user : finder.globalBin <;> simp [inside, user] at same
  | some chosen =>
    rw [Lookup.value_firstAround] at inside
    have equal : path.components = chosen.components := by
      simpa [Lookup.value_firstAround, inside] using same
    exact ⟨chosen, FileSystem.chooses_iff.mpr inside, equal.symm⟩

/-- A path that names choose is resolved, up to its spelling. -/
theorem BinaryFinder.resolve_of_chooses {files : FileSystem} {finder : BinaryFinder}
    (sound : finder.Sound files) {file chosen : Path}
    (chooses : files.Chooses (files.searched file) finder.localBins chosen) :
    ∃ path, (finder.resolve files file).value.1 = some (path, .inRepository) ∧
      path.components = chosen.components := by
  -- The memory agrees with the search without one, and the search finds what is chosen.
  have same := value_resolve sound file
  unfold SameAnswer found at same
  rw [Lookup.value_firstAround, FileSystem.chooses_iff.mp chooses] at same
  cases resolved : (finder.resolve files file).value.1 with
  | none => simp [resolved] at same
  | some answer =>
    obtain ⟨path, scope⟩ := answer
    obtain ⟨equal, rfl⟩ : path.components = chosen.components ∧ scope = .inRepository := by
      simpa [resolved] using same
    exact ⟨path, rfl, equal⟩

/-- Whether a binary that is found by names in a repository always lies in it. -/
def BinaryFinder.Confined (names : List String) : Prop :=
  -- The files are any that enclose the repository, whatever else is readable.
  ∀ (files : FileSystem) (file repository : Path) (finder : BinaryFinder) (path : Path),
    files.Encloses file repository → finder.Sound files → (finder.setLocalBins names).2 = none →
    ((finder.setLocalBins names).1.resolve files file).value.1 = some (path, .inRepository) →
    path.LiesIn repository

/-- Accepted names that stay inside find binaries in the repository only. -/
theorem BinaryFinder.liesIn_of_resolve {files : FileSystem} {file repository : Path}
    {finder : BinaryFinder} {names : List String} {path : Path}
    (encloses : files.Encloses file repository) (sound : finder.Sound files)
    (accepted : (finder.setLocalBins names).2 = none) (stay : ∀ name ∈ names, Path.staysInside name)
    (resolved : ((finder.setLocalBins names).1.resolve files file).value.1 = some (path, .inRepository)) :
    path.LiesIn repository := by
  -- What is found is chosen by a name, and up to its spelling that is where the name leads.
  obtain ⟨chosen, chooses, equal⟩ := chooses_of_resolve (sound_setLocalBins sound names) resolved
  rw [localBins_of_accepted accepted] at chooses
  have inside := encloses.liesIn_of_chooses stay chooses
  rwa [Path.LiesIn, Path.place_congr equal] at inside

/-- A valid name that is readable in one directory only is found there by every finder whose memory is
right. -/
theorem BinaryFinder.exists_resolve {files : FileSystem} {finder : BinaryFinder}
    (sound : finder.Sound files) {names : List String} (valid : names.all isValidFileName)
    {file directory : Path} (searched : directory ∈ files.searched file) {name : String}
    (member : name ∈ names) (only : files.isReadable = (· = directory.join name)) :
    ∃ path, ((finder.setLocalBins names).1.resolve files file).value.1 = some (path, .inRepository) ∧
      path.components = (directory.join name).components := by
  have present : files.isReadable (directory.join name) := by
    rw [only]
    exact decide_eq_true rfl
  -- Something is chosen because one name is readable, and nothing else is readable.
  obtain ⟨chosen, chooses⟩ := FileSystem.exists_chooses searched member present
  have isTarget := chooses.readable
  rw [only] at isTarget
  obtain rfl : chosen = directory.join name := of_decide_eq_true isTarget
  rw [← localBins_of_accepted (finder.accepted_setLocalBins valid)] at chooses
  exact resolve_of_chooses (sound_setLocalBins sound names) chooses

/-- Names that are accepted find binaries in the repository only, exactly if all of them stay inside. -/
theorem BinaryFinder.confined_iff_staysInside {names : List String} (valid : names.all isValidFileName) :
    Confined names ↔ ∀ name ∈ names, Path.staysInside name := by
  constructor
  · intro confined name member
    refine eq_true_of_ne_false fun leaves => ?_
    -- The repository has a longer name than the one that leads out, and only that path is readable.
    obtain ⟨text, longer, free, busy, plain, -⟩ := exists_longer name.toList.length
    let repository := Path.ofName text
    let files := FileSystem.withRepository repository (· = repository.join name)
    let finder := ofFormatter ""
    have sound : finder.Sound files := sound_ofFormatter files ""
    have searched : repository ∈ files.searched (.ofName (text ++ ['/', 'f'])) := by
      rw [FileSystem.searched_withRepository free busy]
      exact List.mem_singleton_self repository
    obtain ⟨path, resolved, equal⟩ := exists_resolve sound valid searched member rfl
    have inside := confined files _ repository finder path
      (FileSystem.encloses_withRepository free busy _) sound (finder.accepted_setLocalBins valid) resolved
    rw [Path.LiesIn, Path.place_congr equal] at inside
    exact Path.not_liesIn_join (Path.components_ofName free busy plain) longer leaves inside
  · intro stay files file repository finder path encloses sound accepted resolved
    exact liesIn_of_resolve encloses sound accepted stay resolved

/-- Whether all that names which stay inside find for a file lies in a repository, whatever can be read. -/
def FileSystem.Confines (files : FileSystem) (file repository : Path) : Prop :=
  -- The names are any that never lead out of where they begin.
  ∀ (readable : Path → Bool) (names : List String) (finder : BinaryFinder) (path : Path),
    let files := { files with isReadable := readable }
    finder.Sound files → (finder.setLocalBins names).2 = none → (∀ name ∈ names, Path.staysInside name) →
    ((finder.setLocalBins names).1.resolve files file).value.1 = some (path, .inRepository) →
    path.LiesIn repository

/-- The innermost repository around a file confines the search for it exactly if it encloses the file. -/
theorem FileSystem.encloses_iff_confines {files : FileSystem} {file repository : Path}
    (absolute : file.isAbsolute) (innermost : file.around.find? files.marks = some repository) :
    files.Encloses file repository ↔ files.Confines file repository := by
  constructor
  · intro encloses readable names finder path files sound accepted stay resolved
    have same : files.Encloses file repository := ⟨encloses.absolute, encloses.innermost, encloses.inside⟩
    exact BinaryFinder.liesIn_of_resolve same sound accepted stay resolved
  · intro confines
    refine ⟨absolute, innermost, fun directory searched => Decidable.byContradiction fun outside => ?_⟩
    -- A name that is longer than the repository is readable in the directory only.
    obtain ⟨text, longer, free, busy, plain, valid⟩ := exists_longer repository.text.toList.length
    let readable : Path → Bool := (· = directory.join (.ofList text))
    let finder := BinaryFinder.ofFormatter ""
    have sound : finder.Sound { files with isReadable := readable } := BinaryFinder.sound_ofFormatter _ ""
    have valid : [String.ofList text].all isValidFileName := by simpa using valid
    obtain ⟨path, resolved, equal⟩ :=
      BinaryFinder.exists_resolve sound valid searched (List.mem_singleton_self _) rfl
    have some := components_ne_nil_of_searched absolute searched
    have stays : Path.staysInside (.ofList text) := Path.staysInside_name free busy plain
    have inside := confines readable [.ofList text] finder path sound (finder.accepted_setLocalBins valid)
      (by simpa using stays) resolved
    rw [Path.LiesIn, Path.place_congr equal] at inside
    exact Path.not_liesIn_join_name free busy plain some longer outside inside

/-! ### Configuration files -/

/-- A configuration file from a finder whose memory is right about the files is the path of the entry
that decides. -/
theorem ConfigFinder.resolve_of_decidedBy {files : FileSystem} {finder : ConfigFinder}
    (sound : finder.Sound files) {entries : List String}
    (accepted : (finder.setCandidates files entries).value.2 = none) {file : Path} {entry : String}
    (decided : files.DecidedBy (files.searched file) entries entry) :
    ∃ path chosen, ((finder.setCandidates files entries).value.1.resolve files file).value.1 = some path ∧
      files.StandsFor (files.searched file) entry chosen ∧ path.components = chosen.components := by
  -- What decides without a memory decides with one, up to the spelling of the path.
  obtain ⟨earlier, later, chosen, split, silent, stands⟩ := decided
  have same := value_resolve (sound_setCandidates sound entries) file
  have found := value_search_eq_iff.mpr (.chosen split silent stands)
  rw [candidates_of_accepted accepted, found] at same
  obtain ⟨path, resolved, equal⟩ := Option.map_eq_some_iff.mp same
  exact ⟨path, chosen, resolved, stands, equal⟩

/-- If an entry that is searched for stands for a path, then one that is searched for decides. -/
theorem FileSystem.exists_decidedBy {files : FileSystem} {file path : Path} {entries : List String}
    {entry : String} (member : entry ∈ bareEntries entries)
    (stands : files.StandsFor (files.searched file) entry path) :
    ∃ other ∈ bareEntries entries, files.DecidedBy (files.searched file) entries other := by
  have gives := ConfigFinder.given?_eq_some_iff.mpr stands
  have some : ((bareEntries entries).findSome? (ConfigFinder.given? files file)).isSome := by
    rw [List.findSome?_isSome_iff]
    exact ⟨entry, member, by rw [gives]; rfl⟩
  obtain ⟨_, first⟩ := Option.isSome_iff_exists.mp some
  obtain ⟨earlier, other, later, split, given, silent⟩ := List.findSome?_eq_some_iff.mp first
  -- The entries behind the first path come after all of these.
  have whole : bareEntries entries ++ entries.dropWhile (!isPathEntry ·) = entries :=
    List.takeWhile_append_dropWhile
  rw [split, List.append_assoc, List.cons_append] at whole
  exact ⟨other, by simp [split], earlier, _, _, whole.symm,
    fun before isBefore => ConfigFinder.given?_eq_none_iff.mp (silent before isBefore),
    ConfigFinder.given?_eq_some_iff.mp given⟩

/-- A world with a repository in which one path is readable by its name in the repository, and all
paths with a short spelling. -/
def FileSystem.baited (text : List Char) (name : String) : FileSystem :=
  withRepository (.ofName text) fun path =>
    path = (Path.ofName text).join name ∨ path.text.toList.length < text.length

section

variable {text : List Char} {name : String}

/-- What is found by a name in the repository has the one path that is readable. -/
theorem FileSystem.eq_of_standsFor_baited {other : String} (bare : ¬ isPathEntry other) {path : Path}
    (stands : (baited text name).StandsFor [.ofName text] other path) :
    path = (Path.ofName text).join name := by
  -- A path of its own is no name, and a name is found in the one directory.
  cases stands with
  | spelled isPath => exact absurd isPath bare
  | searched _ chooses =>
    obtain ⟨directory, here, name, named, rfl⟩ := chooses.exists_join
    obtain rfl := List.mem_singleton.mp here
    obtain rfl := List.mem_singleton.mp named
    rcases of_decide_eq_true chooses.readable with target | short
    · exact target
    -- The only other readable paths are too short for a name in the directory.
    · have long := Path.length_join_ofName text (head?_ne_of_bare bare)
      exact absurd short (Nat.lt_asymm long)

/-- The name stands for that path. -/
theorem FileSystem.standsFor_baited (bare : ¬ isPathEntry name) :
    (baited text name).StandsFor [.ofName text] name ((Path.ofName text).join name) := by
  have present : (baited text name).isReadable ((Path.ofName text).join name) := decide_eq_true (.inl rfl)
  obtain ⟨path, chooses⟩ :=
    exists_chooses (List.mem_singleton_self _) (List.mem_singleton_self name) present
  have found := StandsFor.searched bare chooses
  exact eq_of_standsFor_baited bare found ▸ found

/-- Valid names can be entries there, and so can all paths with a short spelling. -/
theorem usable_baited {entries : List String}
    (valid : ∀ entry ∈ entries, ¬ isPathEntry entry → isValidFileName entry)
    (short : ∀ entry ∈ entries, entry.toList.length < text.length) :
    entries.all (isUsableCandidate (.baited text name)) := by
  refine List.all_eq_true.mpr fun entry member => ?_
  unfold isUsableCandidate
  -- A path is readable there because it is short, and a name only has to be valid.
  by_cases path : isPathEntry entry
  · have spelled : Path.expandHome (FileSystem.baited text name).home entry = ⟨Text.trim entry⟩ := rfl
    have shorter := Nat.lt_of_le_of_lt (Text.length_trim_le entry) (short entry member)
    have readable : ∀ path, (FileSystem.baited text name).isReadable path =
      decide (path = (Path.ofName text).join name ∨ path.text.toList.length < text.length) := fun _ => rfl
    rw [if_pos path, spelled, readable]
    exact decide_eq_true (.inr shorter)
  · rw [if_neg path]
    exact valid entry member path

end

/-- Whether a configuration file that is found by a name in a repository always lies in it. -/
def ConfigFinder.Confined (entries : List String) : Prop :=
  ∀ (files : FileSystem) (file repository : Path) (finder : ConfigFinder) (path : Path) (entry : String),
      files.Encloses file repository → finder.Sound files →
    (finder.setCandidates files entries).value.2 = none →
    ((finder.setCandidates files entries).value.1.resolve files file).value.1 = some path →
    -- An entry that is a path of its own is meant to lead anywhere.
    files.DecidedBy (files.searched file) entries entry → ¬ isPathEntry entry →
    path.LiesIn repository

/-- Entries that are accepted find configuration files by name in the repository only, exactly if all
names stay inside that are searched for at all. -/
theorem ConfigFinder.confined_iff_staysInside {entries : List String}
    (valid : ∀ entry ∈ entries, ¬ isPathEntry entry → isValidFileName entry) :
    Confined entries ↔ ∀ entry ∈ bareEntries entries, Path.staysInside entry := by
  constructor
  · intro confined entry member
    refine eq_true_of_ne_false fun leaves => ?_
    -- The repository has a longer name than any entry, so that every path among them is readable.
    obtain ⟨length, bound⟩ := Text.exists_length_le entries
    obtain ⟨text, longer, free, busy, plain, -⟩ := exists_longer length
    have short : ∀ other ∈ entries, other.toList.length < text.length :=
      fun other among => Nat.lt_of_le_of_lt (bound other among) longer
    let files := FileSystem.baited text entry
    let file := Path.ofName (text ++ ['/', 'f'])
    have sound : (ofFormatter "").Sound files := sound_ofFormatter files ""
    have usable : entries.all (isUsableCandidate files) := usable_baited valid short
    have accepted := (ofFormatter "").accepted_setCandidates usable
    have searched : files.searched file = [.ofName text] :=
      FileSystem.searched_withRepository free busy _
    -- In the repository with the bait the entry that leads out is found, and so it decides.
    have stands : files.StandsFor (files.searched file) entry ((Path.ofName text).join entry) := by
      rw [searched]
      exact FileSystem.standsFor_baited (bare_of_mem member)
    obtain ⟨other, among, decided⟩ := FileSystem.exists_decidedBy member stands
    obtain ⟨path, chosen, resolved, found, equal⟩ := resolve_of_decidedBy sound accepted decided
    rw [searched] at found
    obtain rfl := FileSystem.eq_of_standsFor_baited (bare_of_mem among) found
    have inside := confined files file _ _ path other
      (FileSystem.encloses_withRepository free busy _) sound accepted resolved decided (bare_of_mem among)
    rw [Path.LiesIn, Path.place_congr equal] at inside
    exact Path.not_liesIn_join (Path.components_ofName free busy plain)
      (short entry ((List.takeWhile_prefix _).subset member)) leaves inside
  -- An entry that decides is a path, to which nothing is promised, or it stays inside.
  · intro stay files file repository finder path entry encloses sound accepted resolved decided bare
    obtain ⟨same, chosen, found, stands, equal⟩ := resolve_of_decidedBy sound accepted decided
    obtain rfl : path = same := Option.some.inj (resolved.symm.trans found)
    cases stands with
    | spelled isPath => exact absurd isPath bare
    | searched _ chooses =>
      have stays := stay entry (mem_bareEntries_of_decidedBy decided bare)
      have inside := encloses.liesIn_of_chooses (by simpa using stays) chooses
      rwa [Path.LiesIn, ← Path.place_congr equal] at inside

/-! ### The limits of both searches -/

/-- A search by names finds nothing outside the repository of a file, exactly if all names that are
searched for are relative and no beginning of them has more double dots than names, and if the
directories in which they are searched for lie in the repository themselves. -/
theorem Lookup.confined_iff (names entries : List String) (validNames : names.all isValidFileName)
    (validEntries : ∀ entry ∈ entries, ¬ isPathEntry entry → isValidFileName entry) :
    (BinaryFinder.Confined names ↔ ∀ name ∈ names, Path.staysInside name) ∧
      (ConfigFinder.Confined entries ↔ ∀ entry ∈ bareEntries entries, Path.staysInside entry) ∧
      ∀ (files : FileSystem) (file repository : Path), file.isAbsolute →
        file.around.find? files.marks = some repository →
        (files.Encloses file repository ↔ files.Confines file repository) ∧
          (.up ∉ file.components → files.Encloses file repository) := by
  refine ⟨BinaryFinder.confined_iff_staysInside validNames,
    ConfigFinder.confined_iff_staysInside validEntries, ?_⟩
  intro files file repository absolute innermost
  exact ⟨FileSystem.encloses_iff_confines absolute innermost,
    FileSystem.encloses_of_straight absolute innermost⟩

/-- Names with double dots that stay inside, and a path that is readable behind them. -/
theorem Lookup.confined_sample :
    let names := [".venv/bin/black", "tools/../black"]
    let entries := ["conf/../black.toml", "/etc/black.toml"]
    let repository : Path := ⟨"/repo"⟩
    let file : Path := ⟨"/repo/pkg/main.py"⟩
    let binary : Path := ⟨"/repo/pkg/tools/../black"⟩
    let config : Path := ⟨"/repo/conf/../black.toml"⟩
    let files := FileSystem.withRepository repository
      fun path => path = binary ∨ path = config ∨ path = ⟨"/etc/black.toml"⟩
    names.all isValidFileName ∧ (∀ entry ∈ entries, ¬ isPathEntry entry → isValidFileName entry) ∧
      files.Encloses file repository ∧ binary.LiesIn repository ∧ config.LiesIn repository := by
  -- The three parts of the general statement are applied to two kinds of entries and one repository.
  intro names entries repository file binary config files
  have validNames : names.all isValidFileName := by decide
  have validEntries : ∀ entry ∈ entries, ¬ isPathEntry entry → isValidFileName entry := by decide
  have namesStay : ∀ name ∈ names, Path.staysInside name := by decide
  have entriesStay : ∀ entry ∈ bareEntries entries, Path.staysInside entry := by decide
  obtain ⟨forNames, forEntries, forFiles⟩ := confined_iff names entries validNames validEntries
  have encloses : files.Encloses file repository :=
    (forFiles files file repository (by decide) (by decide)).2 (by decide)
  let binaries := BinaryFinder.ofFormatter "black"
  let configs := ConfigFinder.ofFormatter "black"
  -- What is found comes from running the search on the closed inputs.
  have found : ((binaries.setLocalBins names).1.resolve files file).value.1 =
      some (binary, .inRepository) := by decide
  have configured : ((configs.setCandidates files entries).value.1.resolve files file).value.1 =
      some config := by decide
  have stands : files.StandsFor (files.searched file) "conf/../black.toml" config :=
    ConfigFinder.given?_eq_some_iff.mp (by decide)
  have decided : files.DecidedBy (files.searched file) entries "conf/../black.toml" :=
    ⟨[], ["/etc/black.toml"], config, rfl, by simp, stands⟩
  have binaryInside := forNames.mpr namesStay files file repository binaries binary encloses
    (BinaryFinder.sound_ofFormatter files _) (by decide) found
  have configInside := forEntries.mpr entriesStay files file repository configs config _ encloses
    (ConfigFinder.sound_ofFormatter files _) (by decide) configured decided (by decide)
  exact ⟨validNames, validEntries, encloses, binaryInside, configInside⟩

/-- An absolute name and one with too many double dots are accepted, and lead out. -/
theorem Lookup.confined_outside :
    let files := FileSystem.withRepository ⟨"/repo"⟩
      fun path => path = ⟨"/opt/black"⟩ ∨ path = ⟨"/repo/../black.toml"⟩
    let binaries := (BinaryFinder.ofFormatter "black").setLocalBins ["/opt/black"]
    let configs := (ConfigFinder.ofFormatter "black").setCandidates files ["../black.toml"]
    files.Encloses ⟨"/repo/main.py"⟩ ⟨"/repo"⟩ ∧
      (binaries.2 = none ∧
        (binaries.1.resolve files ⟨"/repo/main.py"⟩).value.1 = some (⟨"/opt/black"⟩, .inRepository) ∧
        ¬ Path.LiesIn ⟨"/opt/black"⟩ ⟨"/repo"⟩) ∧
      (configs.value.2 = none ∧ ¬ isPathEntry "../black.toml" ∧
        (configs.value.1.resolve files ⟨"/repo/main.py"⟩).value.1 = some ⟨"/repo/../black.toml"⟩ ∧
        ¬ Path.LiesIn ⟨"/repo/../black.toml"⟩ ⟨"/repo"⟩) := by
  intro files binaries configs
  -- The repository encloses the file, since the path to it goes straight down.
  have encloses : files.Encloses ⟨"/repo/main.py"⟩ ⟨"/repo"⟩ :=
    FileSystem.encloses_of_straight (by decide) (by decide) (by decide)
  exact ⟨encloses, by decide, by decide⟩

end FormatPipeline
