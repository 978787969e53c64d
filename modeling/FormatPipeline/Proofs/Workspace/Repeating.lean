import FormatPipeline.Proofs.Lookup.Repeating
import FormatPipeline.Proofs.Workspace.Checking

/-! Whatever formatters were used for, they remember little, and the same question again asks nothing
of the files. -/

namespace FormatPipeline

namespace ArgumentMemo

variable {memo : ArgumentMemo}

/-- Arguments that are written are remembered. -/
theorem find?_build (memo : ArgumentMemo) (profile : Profile) (file : Path) (config : Option Path)
    (mode : Mode) :
    (memo.build profile file config mode).2.find? (file.components, config.map (·.components), mode) =
      some (memo.build profile file config mode).1 := by
  unfold build
  dsimp only
  -- Arguments come out of the memory, or they are made and put into it.
  split
  next known => exact known
  next => exact Memo.find?_remember memo _ _

/-- Arguments that are asked for again are the same, in their spelling as well. -/
theorem build_again (memo : ArgumentMemo) (profile : Profile) (file : Path) (config : Option Path)
    (mode : Mode) :
    (memo.build profile file config mode).2.build profile file config mode =
      memo.build profile file config mode := by
  have known := find?_build memo profile file config mode
  generalize memo.build profile file config mode = first at known ⊢
  simp [build, known]

/-- Writing arguments keeps a memory within its limits. -/
theorem isTidy_build (tidy : memo.IsTidy) (profile : Profile) (file : Path) (config : Option Path)
    (mode : Mode) : (memo.build profile file config mode).2.IsTidy := by
  unfold build
  dsimp only
  split
  next => exact tidy
  next unknown => exact tidy.remember unknown _

end ArgumentMemo

namespace Formatter

/-- All four memories of a formatter are within their limits. -/
structure IsTidy (formatter : Formatter) : Prop where
  binaries : formatter.binaries.memo.IsTidy
  localConfigs : formatter.localConfigs.memo.IsTidy
  globalConfigs : formatter.globalConfigs.memo.IsTidy
  arguments : formatter.arguments.IsTidy

/-- A formatter without any settings remembers nothing. -/
theorem isTidy_ofProfile (profile : Profile) : (ofProfile profile).IsTidy :=
  ⟨Memo.isTidy_empty, Memo.isTidy_empty, Memo.isTidy_empty, Memo.isTidy_empty⟩

variable {files : FileSystem} {formatter : Formatter}

/-- Finding a configuration file keeps the memories within their limits. -/
theorem isTidy_resolveConfig (tidy : formatter.IsTidy) (files : FileSystem) (file : Path)
    (scope : Scope) : (formatter.resolveConfig files file scope).value.2.IsTidy := by
  cases scope with
  | inRepository =>
    exact { tidy with localConfigs := ConfigFinder.isTidy_resolve tidy.localConfigs files file }
  | anywhere =>
    exact { tidy with globalConfigs := ConfigFinder.isTidy_resolve tidy.globalConfigs files file }

/-- Finding out what to run keeps the memories within their limits. -/
theorem isTidy_resolve (tidy : formatter.IsTidy) (files : FileSystem) (file : Path) (mode : Mode) :
    (formatter.resolve files file mode).value.2.IsTidy := by
  have found : IsTidy { formatter with binaries := (formatter.binaries.resolve files file).value.2 } :=
    { tidy with binaries := BinaryFinder.isTidy_resolve tidy.binaries files file }
  unfold resolve
  simp only [Probed.value_bind]
  -- The arguments are written only if a binary was found; without one nothing else is remembered.
  split
  next => exact found
  next path scope _ =>
    have configured := isTidy_resolveConfig found files file scope
    exact { configured with
      arguments := ArgumentMemo.isTidy_build configured.arguments _ file _ mode }

/-- Every use of a formatter keeps its memories within their limits. -/
theorem IsTidy.after (tidy : formatter.IsTidy) (files : FileSystem) (call : Call) :
    (formatter.after files call).IsTidy := by
  -- A setting empties the memory of its own finder, or touches none.
  cases call with
  | resolve file mode => exact isTidy_resolve tidy files file mode
  | set setting =>
    cases setting with
    | localBins names =>
      simp only [Formatter.after]
      exact { tidy with binaries := BinaryFinder.isTidy_setLocalBins tidy.binaries names }
    | localConfigs candidates =>
      simp only [Formatter.after]
      exact { tidy with
        localConfigs := ConfigFinder.isTidy_setCandidates tidy.localConfigs files candidates }
    | globalBin value =>
      simp only [Formatter.after]
      exact { tidy with
        binaries := by
          simp only [BinaryFinder.memo_setGlobalBin]
          exact tidy.binaries }
    | globalConfigs candidates =>
      simp only [Formatter.after]
      exact { tidy with
        globalConfigs := ConfigFinder.isTidy_setCandidates tidy.globalConfigs files candidates }
    -- Arguments of the user are not remembered, so every memory stays.
    | localArguments | globalArguments =>
      simp only [Formatter.after]
      exact { tidy with }

/-- What to run is found again without a question, spelled as it was, and nothing more is
remembered, whatever has become of the files. -/
theorem resolve_again (formatter : Formatter) (files later : FileSystem) (file : Path) (mode : Mode) :
    (formatter.resolve files file mode).value.2.resolve later file mode =
      pure (formatter.resolve files file mode).value := by
  have again := formatter.binaries.resolve_again files later file
  unfold resolve
  simp only [Probed.value_bind]
  cases found : (formatter.binaries.resolve files file).value.1 with
  | none => simp only [Probed.value_pure, again, Probed.bind_of_pure, found]
  | some answer =>
    obtain ⟨path, scope⟩ := answer
    -- Each of the three memories has what the first call put in it, so the second call asks nothing.
    have written := fun memo : ArgumentMemo => memo.build_again formatter.profile file
    cases scope with
    | inRepository =>
      have configured := formatter.localConfigs.resolve_again files later file
      simp only [resolveConfig, Probed.value_bind, Probed.value_pure, again, Probed.bind_of_pure, found,
        configured, written]
      rfl
    | anywhere =>
      have configured := formatter.globalConfigs.resolve_again files later file
      simp only [resolveConfig, Probed.value_bind, Probed.value_pure, again, Probed.bind_of_pure, found,
        configured, written]
      rfl

/-- After every history of calls the memories of a formatter are within their limits. -/
theorem isTidy_afterAll (profile : Profile) (history : List (FileSystem × Call)) :
    (afterAll profile history).IsTidy :=
  @afterAll_keeps (fun _ => IsTidy) profile (isTidy_ofProfile profile) history fun _ tidy => tidy.after _ _

end Formatter

namespace Workspace

variable {ω : Type} [World ω] {w : Workspace ω} {name : String} {formatter : Formatter}

/-- Asking what to run for a file counts the questions that the formatter asks. -/
theorem probes_call_resolve (present : w.formatter? name = some formatter) (file : Path) (mode : Mode) :
    (w.call name (.resolve file mode)).probes =
      w.probes + (formatter.resolve (World.files w.world) file mode).probes := by
  simp only [call, present, resolve, counting]
  split <;> rfl

/-- What is run for a file is what the formatter finds. -/
theorem answer_of_present (present : w.formatter? name = some formatter) (file : Path) (mode : Mode) :
    w.answer name file mode =
      (formatter.resolve (World.files w.world) file mode).value.1.map (·.1) := by
  simp only [answer, present, Option.bind_some, resolve_snd]

/-- In every reached workspace the memories of a formatter are within their limits, and what was
answered for a file is answered again without a question about files, as long as nothing else is done
with the formatter; even if the files are others by then. -/
theorem repeatedAnswer_run {first w : Workspace ω} {profile : Profile}
    {history : List (FileSystem × Formatter.Call)}
    (fresh : first.formatter? profile.name = some (.ofProfile profile))
    (ran : Run (Uses profile.name) usesNotes [] first history w) :
    (∃ formatter, w.formatter? profile.name = some formatter ∧ formatter.IsTidy) ∧
      ∀ (file : Path) (mode : Mode) (later : Workspace ω),
        later.formatter? profile.name =
          (w.call profile.name (.resolve file mode)).formatter? profile.name →
        later.answer profile.name file mode = w.answer profile.name file mode ∧
          (later.call profile.name (.resolve file mode)).probes = later.probes := by
  obtain ⟨present, named⟩ := formatter?_run fresh ran
  refine ⟨⟨_, present, Formatter.isTidy_afterAll profile history⟩, fun file mode later kept => ?_⟩
  -- The formatter keeps its name, so that it is the one that remembers.
  have renamed := named.after (World.files w.world) (.resolve file mode)
  rw [((replaces_call present (.resolve file mode)).formatter? present renamed.own).1] at kept
  have again := Formatter.resolve_again (.afterAll profile history) (World.files w.world)
    (World.files later.world) file mode
  constructor
  · rw [answer_of_present kept, answer_of_present present]
    simp only [Formatter.after, again, Probed.value_pure]
  · rw [probes_call_resolve kept]
    simp only [Formatter.after, again]
    rfl

/-- The sample when the binary in its repository is searched for, and has been found. -/
def sampleFound : Workspace Scripted.Tables :=
  sample.calls "black" [.set (.localBins ["bin/black"]), .resolve ⟨"/repo/main.py"⟩ .file]

/-- The same when that binary has been removed. -/
def sampleVanished : Workspace Scripted.Tables :=
  { sampleFound with world := sampleFound.world.apply (.remove ⟨"/repo/bin/black"⟩) }

/-- The sample answers with a binary that is gone, since it was asked for the same file before. -/
theorem repeatedAnswer_sample :
    let searching := sample.call "black" (.set (.localBins ["bin/black"]))
    let invocation : Invocation := ⟨⟨"/repo/bin/black"⟩, .inRepository, ["-q", "\"/repo/main.py\""]⟩
    (World.files sampleVanished.world).isReadable ⟨"/repo/bin/black"⟩ = false ∧
      searching.probes = 0 ∧ sampleVanished.probes = 1 ∧
      searching.answer "black" ⟨"/repo/main.py"⟩ .file = some invocation ∧
      sampleVanished.answer "black" ⟨"/repo/main.py"⟩ .file =
        searching.answer "black" ⟨"/repo/main.py"⟩ .file ∧
      (sampleVanished.call "black" (.resolve ⟨"/repo/main.py"⟩ .file)).probes = sampleVanished.probes := by
  have fresh : sample.formatter? Scripted.sampleProfile.name =
      some (.ofProfile Scripted.sampleProfile) := rfl
  have ran : Run (Uses "black") usesNotes [] sample _ _ :=
    Run.start.move (Uses.call (.set (.localBins ["bin/black"])))
  -- The binary is gone in the later workspace, whose formatter still remembers it.
  have repeats := (repeatedAnswer_run fresh ran).2 ⟨"/repo/main.py"⟩ .file sampleVanished rfl
  exact ⟨by decide +kernel, by decide +kernel, by decide +kernel, by decide +kernel, repeats⟩

end Workspace

end FormatPipeline
