import FormatPipeline.Lookup.Config
import FormatPipeline.Proofs.Path.Around

/-! Which file a search chooses, said by the directories and the names and not by how it looks for it. -/

namespace FormatPipeline

/-- Whether a directory is the outermost one of a repository. -/
def FileSystem.marks (files : FileSystem) (directory : Path) : Bool :=
  files.pathExists (directory.join ".git")

/-- The directories up to the first that ends a repository, or all if none does. -/
def FileSystem.upToMarked (files : FileSystem) (directories : List Path) : List Path :=
  directories.takeWhile (!files.marks ·) ++ (directories.find? files.marks).toList

/-- The directories in which names are searched for a file, that of the file first. -/
def FileSystem.searched (files : FileSystem) (file : Path) : List Path :=
  files.upToMarked file.around

/-- A path in directories is chosen by names: the innermost directory decides that has any of the
names, and in it the earliest name that it has. -/
inductive FileSystem.Chooses (files : FileSystem) (directories : List Path) (names : List String) :
    Path → Prop
  | chosen {inner outer : List Path} {directory : Path} {earlier later : List String} {name : String} :
    directories = inner ++ directory :: outer → names = earlier ++ name :: later →
    files.isReadable (directory.join name) →
    (∀ other ∈ earlier, ¬ files.isReadable (directory.join other)) →
    (∀ below ∈ inner, ∀ other ∈ names, ¬ files.isReadable (below.join other)) →
    Chooses files directories names (directory.join name)

/-- Whether none of the directories has any of the names. -/
def FileSystem.Lacks (files : FileSystem) (directories : List Path) (names : List String) : Prop :=
  ∀ directory ∈ directories, ∀ name ∈ names, ¬ files.isReadable (directory.join name)

/-- The path that an entry of configuration files stands for: one that it spells, whether that can
be read or not, or one in the directories. -/
inductive FileSystem.StandsFor (files : FileSystem) (directories : List Path) (entry : String) :
    Path → Prop
  | spelled : isPathEntry entry → StandsFor files directories entry (Path.expandHome files.home entry)
  | searched {path : Path} : ¬ isPathEntry entry → files.Chooses directories [entry] path →
    StandsFor files directories entry path

/-- The configuration file is the path of the earliest entry that stands for one. -/
inductive FileSystem.ChoosesConfig (files : FileSystem) (directories : List Path)
    (entries : List String) : Option Path → Prop
  | chosen {earlier later : List String} {entry : String} {path : Path} :
    entries = earlier ++ entry :: later →
    (∀ other ∈ earlier, ∀ path, ¬ files.StandsFor directories other path) →
    files.StandsFor directories entry path → ChoosesConfig files directories entries (some path)
  | nothing : (∀ entry ∈ entries, ∀ path, ¬ files.StandsFor directories entry path) →
    ChoosesConfig files directories entries none

/-! ## Names -/

namespace FileSystem

/-- The first readable path that a name has in a directory. -/
def named? (files : FileSystem) (names : List String) (directory : Path) : Option Path :=
  (names.map directory.join).find? files.isReadable

variable {files : FileSystem}

/-- A directory has one of the names exactly if an earliest name is readable. -/
theorem named?_eq_some_iff {names : List String} {directory path : Path} :
    files.named? names directory = some path ↔ ∃ earlier name later, names = earlier ++ name :: later ∧
      directory.join name = path ∧ files.isReadable path ∧
      ∀ other ∈ earlier, ¬ files.isReadable (directory.join other) := by
  unfold named?
  -- The search over joined paths is undone to one over the names themselves.
  rw [List.find?_eq_some_iff_append]
  constructor
  · rintro ⟨readable, before, behind, split, unreadable⟩
    obtain ⟨earlier, rest, rfl, rfl, tail⟩ := List.map_eq_append_iff.mp split
    obtain ⟨name, later, rfl, rfl, rfl⟩ := List.map_eq_cons_iff.mp tail
    exact ⟨earlier, name, later, rfl, rfl, readable, by simpa using unreadable⟩
  · rintro ⟨earlier, name, later, rfl, rfl, readable, unreadable⟩
    exact ⟨readable, earlier.map directory.join, later.map directory.join, by simp,
      by simpa using unreadable⟩

/-- A directory has none of the names exactly if none is readable. -/
theorem named?_eq_none_iff {names : List String} {directory : Path} :
    files.named? names directory = none ↔ ∀ name ∈ names, ¬ files.isReadable (directory.join name) := by
  simp [named?]

/-- The innermost directory with one of the names has the path that is chosen. -/
theorem chooses_iff {directories : List Path} {names : List String} {path : Path} :
    files.Chooses directories names path ↔ directories.findSome? (files.named? names) = some path := by
  -- A directory is passed over exactly if none of its paths is readable.
  rw [List.findSome?_eq_some_iff]
  constructor
  · rintro ⟨placed, named, readable, earliest, innermost⟩
    exact ⟨_, _, _, placed, named?_eq_some_iff.mpr ⟨_, _, _, named, rfl, readable, earliest⟩,
      fun below member => named?_eq_none_iff.mpr (innermost below member)⟩
  · rintro ⟨inner, directory, outer, placed, found, innermost⟩
    obtain ⟨earlier, name, later, named, rfl, readable, earliest⟩ := named?_eq_some_iff.mp found
    exact .chosen placed named readable earliest
      fun below member => named?_eq_none_iff.mp (innermost below member)

/-- Nothing is chosen exactly if no directory has any of the names. -/
theorem lacks_iff {directories : List Path} {names : List String} :
    files.Lacks directories names ↔ directories.findSome? (files.named? names) = none := by
  simp only [Lacks, List.findSome?_eq_none_iff, named?_eq_none_iff]

/-- What is chosen has one of the names in one of the directories. -/
theorem Chooses.exists_join {directories : List Path} {names : List String} {path : Path}
    (chosen : files.Chooses directories names path) :
    ∃ directory ∈ directories, ∃ name ∈ names, path = directory.join name := by
  cases chosen with
  | chosen placed named => exact ⟨_, by simp [placed], _, by simp [named], rfl⟩

/-- Only directories around the file are searched. -/
theorem mem_of_mem_upToMarked {directories : List Path} {directory : Path}
    (member : directory ∈ files.upToMarked directories) : directory ∈ directories := by
  rcases List.mem_append.mp member with before | last
  · exact (List.takeWhile_prefix _).subset before
  · exact List.mem_of_find?_eq_some (Option.mem_toList.mp last)

/-- The directories behind one that ends a repository are left out. -/
theorem upToMarked_cons (directory : Path) (outer : List Path) :
    files.upToMarked (directory :: outer) =
      directory :: if files.marks directory then [] else files.upToMarked outer := by
  cases marked : files.marks directory <;> simp [upToMarked, marked]

end FileSystem

namespace Lookup

variable {files : FileSystem}

/-- A search in a directory finds its first readable name. -/
theorem value_inDirectory (directory : Path) (names : List String) :
    (inDirectory files directory names).value = files.named? names directory := by
  -- The induction is on the names, the first readable one of which ends the search.
  induction names with
  | nil => rfl
  | cons name rest ih =>
    have later : (inDirectory files directory rest).value =
        (rest.map directory.join).find? files.isReadable := ih
    cases readable : files.isReadable (directory.join name) <;>
      simp [inDirectory, FileSystem.named?, readable, later]

/-- A search in directories ends with the first that ends a repository. -/
theorem value_inDirectories (names : List String) (directories : List Path) :
    (inDirectories files names directories).value =
      (files.upToMarked directories).findSome? (files.named? names) := by
  induction directories with
  | nil => rfl
  | cons directory outer ih =>
    rw [FileSystem.upToMarked_cons, List.findSome?_cons, ← value_inDirectory]
    unfold inDirectories
    simp only [Probed.value_bind]
    cases (inDirectory files directory names).value with
    | some found => rfl
    | none =>
      -- The directory itself is searched before its marker is looked for.
      have marker : files.pathExists (directory.join repositoryMarker) = files.marks directory := rfl
      simp only [Probed.value_bind, Probed.value_ask, marker]
      cases files.marks directory with
      | true => rfl
      | false => exact ih

/-- A search around a file goes through the directories that are searched for it. -/
theorem value_firstAround (file : Path) (names : List String) :
    (firstAround files file names).value = (files.searched file).findSome? (files.named? names) := by
  unfold firstAround FileSystem.searched Path.around
  cases file.parent? with
  | none => rfl
  | some directory =>
    -- Without names there is nothing to be found in any directory.
    cases names with
    | nil => exact (List.findSome?_eq_none_iff.mpr fun _ _ => rfl).symm
    | cons name rest => exact value_inDirectories (name :: rest) directory.ancestors

end Lookup

/-! ## Configuration files -/

namespace ConfigFinder

variable {files : FileSystem}

/-- The path that an entry gives for a file. -/
def given? (files : FileSystem) (file : Path) (entry : String) : Option Path :=
  if isPathEntry entry then some (Path.expandHome files.home entry)
  else (Lookup.firstAround files file [entry]).value

/-- An entry gives the path that it stands for. -/
theorem given?_eq_some_iff {file : Path} {entry : String} {path : Path} :
    given? files file entry = some path ↔ files.StandsFor (files.searched file) entry path := by
  unfold given?
  -- A path of its own gives itself, and a name gives what is found around the file.
  by_cases spelled : isPathEntry entry
  · rw [if_pos spelled, Option.some.injEq]
    constructor
    · rintro rfl
      exact .spelled spelled
    · rintro (_ | ⟨bare, -⟩)
      · rfl
      · exact absurd spelled bare
  · rw [if_neg spelled, Lookup.value_firstAround, ← FileSystem.chooses_iff]
    constructor
    · exact .searched spelled
    · rintro (isPath | ⟨-, chosen⟩)
      · exact absurd isPath spelled
      · exact chosen

/-- An entry gives nothing exactly if there is no path that it stands for. -/
theorem given?_eq_none_iff {file : Path} {entry : String} :
    given? files file entry = none ↔ ∀ path, ¬ files.StandsFor (files.searched file) entry path := by
  simp only [Option.eq_none_iff_forall_ne_some, ne_eq, given?_eq_some_iff]

/-- A search gives what its first entry does that gives anything. -/
theorem value_search (file : Path) (entries : List String) :
    (search files file entries).value = entries.findSome? (given? files file) := by
  -- The induction is on the entries, and each of them is tried as it would be alone.
  induction entries with
  | nil => rfl
  | cons entry rest ih =>
    rw [List.findSome?_cons]
    unfold search
    by_cases spelled : isPathEntry entry
    · have gives : given? files file entry = some (Path.expandHome files.home entry) := if_pos spelled
      simp [spelled, gives]
    · have gives : given? files file entry = (Lookup.firstAround files file [entry]).value :=
        if_neg spelled
      rw [gives, if_neg spelled, Probed.value_bind]
      cases (Lookup.firstAround files file [entry]).value with
      | some found => rfl
      | none => exact ih

/-- The search gives the configuration file that is chosen. -/
theorem value_search_eq_iff {file : Path} {entries : List String} {config : Option Path} :
    (search files file entries).value = config ↔
      files.ChoosesConfig (files.searched file) entries config := by
  rw [value_search]
  -- Nothing is found if no entry gives anything, and otherwise the first that does decides.
  cases config with
  | none =>
    rw [List.findSome?_eq_none_iff]
    constructor
    · exact fun nothing => .nothing fun entry member => given?_eq_none_iff.mp (nothing entry member)
    · rintro (_ | nothing)
      exact fun entry member => given?_eq_none_iff.mpr (nothing entry member)
  | some path =>
    rw [List.findSome?_eq_some_iff]
    constructor
    · rintro ⟨earlier, entry, later, split, gives, earliest⟩
      exact .chosen split (fun other member => given?_eq_none_iff.mp (earliest other member))
        (given?_eq_some_iff.mp gives)
    · rintro ⟨split, earliest, stands⟩
      exact ⟨_, _, _, split, given?_eq_some_iff.mpr stands,
        fun other member => given?_eq_none_iff.mpr (earliest other member)⟩

end ConfigFinder

end FormatPipeline
