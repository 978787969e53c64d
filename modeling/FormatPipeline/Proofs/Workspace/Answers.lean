import FormatPipeline.Proofs.Formatter.History
import FormatPipeline.Proofs.Workspace.Frame
import FormatPipeline.Proofs.World.Scripted

/-! Formatters in a workspace answer as if they had only ever been given their present settings. -/

namespace FormatPipeline

namespace Workspace

variable {ω : Type} [World ω]

/-- Uses the formatter of a name. -/
def call (name : String) (w : Workspace ω) (call : Formatter.Call) : Workspace ω :=
  match w.formatter? name with
  | none => w
  | some formatter =>
    match call with
    | .set (.localBins names) => w.setLocalBins formatter names
    | .set (.localArguments arguments) => w.putFormatter { formatter with localArguments := arguments }
    | .set (.localConfigs candidates) => w.setLocalConfigs formatter candidates
    | .set (.globalBin value) => w.setGlobalBin formatter value
    | .set (.globalArguments arguments) => w.putFormatter { formatter with globalArguments := arguments }
    | .set (.globalConfigs candidates) => w.setGlobalConfigs formatter candidates
    | .resolve file mode => (w.resolve formatter file mode).1

/-- Uses the formatter of a name again and again. -/
def calls (name : String) (history : List Formatter.Call) (w : Workspace ω) : Workspace ω :=
  history.foldl (call name) w

/-- What the formatter of a name is run with for a file. -/
def answer (name : String) (file : Path) (mode : Mode) (w : Workspace ω) : Option Invocation :=
  (w.formatter? name).bind fun formatter => (w.resolve formatter file mode).2

/-! ## What a call leaves behind -/

/-- Resolving gives what the formatter gives. -/
theorem resolve_snd (w : Workspace ω) (formatter : Formatter) (file : Path) (mode : Mode) :
    (w.resolve formatter file mode).2 =
      (formatter.resolve (World.files w.world) file mode).value.1.map (·.1) := by
  unfold resolve counting
  dsimp only
  -- A workspace only adds a count of what was asked.
  split
  next missing => rw [missing]; rfl
  next found => rw [found]; rfl

/-- A call replaces the formatter by what the call makes of it. -/
theorem replaces_call {w : Workspace ω} {name : String} {formatter : Formatter}
    (present : w.formatter? name = some formatter) (call : Formatter.Call) :
    w.Replaces (formatter.after (World.files w.world) call) (w.call name call) := by
  simp only [Workspace.call, present]
  -- Each use goes through one operation of the workspace, which replaces the formatter.
  cases call with
  | resolve file mode => exact replaces_resolve w formatter file mode
  | set setting =>
    cases setting with
    | localBins names => exact replaces_setLocalBins w formatter names
    | localArguments => exact replaces_putFormatter w _
    | localConfigs candidates => exact replaces_setLocalConfigs w formatter candidates
    | globalBin value => exact replaces_setGlobalBin w formatter value
    | globalArguments => exact replaces_putFormatter w _
    | globalConfigs candidates => exact replaces_setGlobalConfigs w formatter candidates

/-- The formatter after a history of calls. -/
theorem formatter?_calls {w : Workspace ω} {name : String} {formatter : Formatter}
    (present : w.formatter? name = some formatter) (named : formatter.name = name)
    (history : List Formatter.Call) :
    (w.calls name history).formatter? name =
        some (history.foldl (Formatter.after (World.files w.world)) formatter) ∧
      (w.calls name history).world = w.world := by
  induction history generalizing w formatter with
  | nil => exact ⟨present, rfl⟩
  | cons call rest ih =>
    -- The formatter keeps its name, so that the next call finds it again.
    have same : (formatter.after (World.files w.world) call).name = name := by
      rw [Formatter.name, Formatter.profile_after]
      exact named
    have first := (replaces_call present call).formatter? present same
    have later := ih first.1 same
    rw [first.2] at later
    exact later

/-- A formatter answers as if each of its settings had only been given its last value. -/
theorem answer_calls_alike {w : Workspace ω} {profile : Profile}
    (fresh : w.formatter? profile.name = some (.ofProfile profile))
    (ignores : (World.files w.world).IgnoresSpelling) (commands : (World.files w.world).RunsCommands)
    (history : List Formatter.Call) {applied : List Formatter.Setting}
    (last : applied.Perm (Formatter.lastSettings history)) (file : Path) (mode : Mode) :
    Option.Rel (Invocation.Alike profile file mode)
      ((w.calls profile.name history).answer profile.name file mode)
      ((w.calls profile.name (applied.map .set)).answer profile.name file mode) := by
  -- Both formatters are sound and were given the same last values.
  have long := formatter?_calls fresh rfl history
  have short := formatter?_calls fresh rfl (applied.map .set)
  obtain ⟨soundLong, profiledLong, showsLong⟩ :=
    Formatter.shows_history ignores commands profile history
  obtain ⟨soundShort, profiledShort, showsShort⟩ :=
    Formatter.shows_history ignores commands profile (applied.map .set)
  -- The order in which the last values are given makes no difference to them.
  have values : Formatter.Values.ofHistory (applied.map .set) = .ofHistory history := by
    simp only [Formatter.Values.ofHistory, Formatter.lastTexts, Formatter.latest?_of_perm last]
  rw [values] at showsShort
  have alike := Formatter.setAlike_of_shows (profiledLong.trans profiledShort.symm) showsLong showsShort
  have answers := Formatter.resolve_alike alike soundLong soundShort file mode
  rw [profiledLong] at answers
  simpa only [answer, long.1, short.1, Option.bind_some, resolve_snd, long.2, short.2] using answers

/-- A workspace with one fresh formatter. -/
def sample : Workspace Scripted.Tables :=
  { Workspace.initial (Scripted.sample []) .silent (.ofDefaults []) with
    formatters := [.ofProfile Scripted.sampleProfile] }

/-- Settings that are accepted, rejected and replaced, with questions in between. -/
def sampleHistory : List Formatter.Call := [
  .set (.localBins ["bin/black"]), .resolve ⟨"/repo/main.py"⟩ .file, .set (.globalBin "/missing"),
  .set (.globalBin "black"), .set (.localBins []), .resolve ⟨"/repo//main.py"⟩ .file]

/-- The sample answers alike after its history and after the last values in it. -/
theorem answer_sample_alike :
    (sample.answer "black" ⟨"/repo/./main.py"⟩ .file).isNone ∧
    ((sample.calls "black" sampleHistory).answer "black" ⟨"/repo/./main.py"⟩ .file).isSome ∧
    Option.Rel (Invocation.Alike Scripted.sampleProfile ⟨"/repo/./main.py"⟩ .file)
      ((sample.calls "black" sampleHistory).answer "black" ⟨"/repo/./main.py"⟩ .file)
      ((sample.calls "black" ((Formatter.lastSettings sampleHistory).map .set)).answer "black"
        ⟨"/repo/./main.py"⟩ .file) :=
  -- The history asks about the file between its settings, so there are memories to be dropped.
  ⟨by decide +kernel, by decide +kernel,
    answer_calls_alike (w := sample) rfl (Scripted.Tables.ignoresSpelling _)
      (Scripted.Tables.runsCommands (by decide +kernel)) sampleHistory (.refl _) _ _⟩

end Workspace

end FormatPipeline
