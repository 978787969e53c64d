import FormatPipeline.Profile
import FormatPipeline.Proofs.Lookup.Memory
import FormatPipeline.World.Scripted

/-! What there is to a world apart from exit codes, and what can be relied on in every world that is
given by tables. -/

namespace FormatPipeline.Scripted

/-- A table gives equal paths the same value. -/
theorem find?_congr {α : Type} {one other : Path} (equal : one.components = other.components)
    (table : List (Path × α)) : find? one table = find? other table := by
  simp only [find?, Path.same, equal]

namespace Tables

/-- Equal paths are directories or not alike. -/
theorem isDirectory_congr (tables : Tables) {one other : Path}
    (equal : one.components = other.components) :
    tables.isDirectory one = tables.isDirectory other := by
  simp only [isDirectory, Path.same, Path.startsWith, equal]

/-- No table sees how a path is spelled. -/
theorem ignoresSpelling (tables : Tables) : tables.files.IgnoresSpelling where
  pathExists equal := by simp only [files, find?_congr equal, tables.isDirectory_congr equal]
  isReadable equal := by simp only [files, find?_congr equal, tables.isDirectory_congr equal]
  isExecutable equal := by simp only [files, find?_congr equal]

/-- Commands stand for binaries that can be run if all the binaries in their table can be. -/
theorem runsCommands {tables : Tables}
    (runnable : tables.commands.all fun command => tables.files.isExecutable command.2) :
    tables.files.RunsCommands := by
  intro command binary found
  obtain ⟨entry, listed, rfl⟩ := Option.map_eq_some_iff.mp found
  exact List.all_eq_true.mp runnable entry (List.mem_of_find?_eq_some listed)

end Tables

/-- A repository with a formatter of its own, and another one that a command stands for. -/
def sample (rules : List Rule) : Tables where
  home := none
  entries := [(⟨"/repo/.git"⟩, plain), (⟨"/repo/bin/black"⟩, runnable), (⟨"/usr/bin/black"⟩, runnable)]
  texts := []
  commands := [("black", ⟨"/usr/bin/black"⟩)]
  rules := rules

/-- A profile of the formatter in the sample. -/
def sampleProfile : Profile := ⟨"black", ["-q"], ["-q"], "--config", ["pyproject.toml"]⟩

end FormatPipeline.Scripted

/-! ## What a world shows apart from exit codes -/

namespace FormatPipeline

/-- What a process left behind, without its exit code. -/
def ProcessOutput.uncoded (output : ProcessOutput) : ProcessOutput := { output with exitCode := none }

/-- What comes of a command line, without an exit code. -/
def Launch.uncoded (launch : Launch) : Launch :=
  { launch with result := launch.result.map ProcessOutput.uncoded }

/-- The command lines that were handed to the shell, each with its standard input, the first in front. -/
abbrev Started := List (String × Option String)

/-- What a world shows after any processes were started in it. -/
structure Behaviour where
  files : Started → FileSystem
  readFile : Started → Path → Except ReadError String
  launch : Started → String → Option String → Launch

instance : World Behaviour where
  files behaviour := behaviour.files []
  readFile behaviour := behaviour.readFile []
  launch behaviour line stdin := (behaviour.launch [] line stdin, {
    files := fun started => behaviour.files ((line, stdin) :: started)
    readFile := fun started => behaviour.readFile ((line, stdin) :: started)
    launch := fun started => behaviour.launch ((line, stdin) :: started) })

namespace World

variable {ω υ : Type} [World ω] [World υ]

/-- The world after processes were started in it. -/
def afterwards (world : ω) (started : Started) : ω :=
  started.foldl (fun world process => (launch world process.1 process.2).2) world

/-- What a world shows, without exit codes. -/
def behaviour (world : ω) : Behaviour where
  files started := files (afterwards world started)
  readFile started := readFile (afterwards world started)
  launch started line stdin := (launch (afterwards world started) line stdin).1.uncoded

/-- A world has the files of its behaviour. -/
@[simp] theorem files_behaviour (world : ω) : files (behaviour world) = files world := rfl

/-- In the behaviour of a world its processes run without exit codes. -/
@[simp] theorem launch_behaviour (world : ω) (line : String) (stdin : Option String) :
    launch (behaviour world) line stdin =
      ((launch world line stdin).1.uncoded, behaviour (launch world line stdin).2) := rfl

/-- Whether two worlds differ in nothing but the exit codes of their processes. -/
def DifferInCodes (one : ω) (other : υ) : Prop :=
  ∀ started, files (afterwards one started) = files (afterwards other started) ∧
    readFile (afterwards one started) = readFile (afterwards other started) ∧
    ∀ line stdin, (launch (afterwards one started) line stdin).1.uncoded =
      (launch (afterwards other started) line stdin).1.uncoded

/-- Worlds that differ in nothing but exit codes behave alike. -/
theorem DifferInCodes.behaviour {one : ω} {other : υ} (alike : DifferInCodes one other) :
    behaviour one = behaviour other := by
  simp only [World.behaviour, Behaviour.mk.injEq]
  exact ⟨funext fun started => (alike started).1, funext fun started => (alike started).2.1,
    funext fun started => funext fun line => funext fun stdin => (alike started).2.2 line stdin⟩

end World

namespace Scripted

/-- A rule without an exit code. -/
def Rule.uncoded (rule : Rule) : Rule := { rule with exitCode := none }

/-- Tables without exit codes. -/
def Tables.uncoded (tables : Tables) : Tables := { tables with rules := tables.rules.map Rule.uncoded }

/-- Without its exit code a rule has processes without theirs. -/
theorem Rule.launch_uncoded (rule : Rule) (stdin : Option String) :
    (rule.launch stdin).uncoded = (rule.uncoded.launch stdin).uncoded := by
  unfold Rule.launch Rule.uncoded
  cases rule.failure <;> rfl

namespace Tables

/-- Which rule is chosen does not depend on exit codes. -/
theorem choose_uncoded (line : String) (rules : List Rule) :
    (choose line (rules.map Rule.uncoded)).1.uncoded = (choose line rules).1.uncoded ∧
      (choose line (rules.map Rule.uncoded)).2 = (choose line rules).2.map Rule.uncoded := by
  induction rules with
  | nil => exact ⟨rfl, rfl⟩
  | cons rule rest ih =>
    simp only [List.map_cons, choose, Rule.uncoded]
    -- Rules are chosen by their command line, which has no exit code in it.
    split
    · exact ⟨rfl, rfl⟩
    · exact ⟨ih.1, congrArg _ ih.2⟩

/-- A process that is started uses up the same rule with exit codes and without. -/
theorem launch_uncoded (tables : Tables) (line : String) (stdin : Option String) :
    (World.launch tables.uncoded line stdin).1.uncoded = (World.launch tables line stdin).1.uncoded ∧
      (World.launch tables.uncoded line stdin).2 = (World.launch tables line stdin).2.uncoded := by
  obtain ⟨rule, rest⟩ := choose_uncoded line tables.rules
  refine ⟨?_, ?_⟩
  -- Only the rule that is chosen matters, and its launch differs in the code it ends with.
  · refine (Rule.launch_uncoded _ stdin).trans (Eq.trans ?_ (Rule.launch_uncoded _ stdin).symm)
    exact congrArg (fun rule => (rule.launch stdin).uncoded) rule
  · exact congrArg (fun rules => { tables with rules := rules }) rest

/-- Tables that are the same without exit codes differ in nothing else. -/
theorem differInCodes {one other : Tables} (same : one.uncoded = other.uncoded) :
    World.DifferInCodes one other := by
  -- Whatever was started before, the tables stay the same without exit codes.
  have later : ∀ (tables : Tables) (started : Started),
      (World.afterwards tables started).uncoded = World.afterwards tables.uncoded started := by
    intro tables started
    induction started generalizing tables with
    | nil => rfl
    | cons process rest ih =>
      exact (ih _).trans (congrArg (World.afterwards · rest) (launch_uncoded tables _ _).2.symm)
  intro started
  have alike := (later one started).trans ((congrArg (World.afterwards · started) same).trans
    (later other started).symm)
  generalize World.afterwards one started = first at alike
  generalize World.afterwards other started = second at alike
  -- Neither files nor what they hold depend on rules.
  have files : ∀ tables : Tables, World.files tables = World.files tables.uncoded := fun _ => rfl
  have texts : ∀ tables : Tables, World.readFile tables = World.readFile tables.uncoded := fun _ => rfl
  refine ⟨?_, ?_, fun line stdin => ?_⟩
  · rw [files first, alike, ← files second]
  · rw [texts first, alike, ← texts second]
  · rw [← (launch_uncoded first line stdin).1, alike, (launch_uncoded second line stdin).1]

end Tables

end Scripted

end FormatPipeline
