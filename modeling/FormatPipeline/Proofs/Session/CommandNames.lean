import FormatPipeline.Proofs.Session.Applying

/-! The commands that are announced for some profiles are exactly those that a session accepts. -/

namespace FormatPipeline

namespace Command

/-- A command that runs a formatter names it. -/
theorem run_injective {one other : String} (same : run one = run other) : one = other := by
  have texts := congrArg String.toList same
  simp only [run, String.toList_append, List.append_cancel_left_eq] at texts
  exact String.toList_inj.mp texts

/-- The names after others were added are those that were there and the others. -/
theorem mem_foldl_addNew {names added : List String} {name : String} :
    name ∈ added.foldl addNew names ↔ name ∈ names ∨ name ∈ added := by
  induction added generalizing names with
  | nil => simp
  | cons first rest ih =>
    rw [List.foldl_cons, ih, addNew]
    split
    next present =>
      -- What is there already is no new name.
      have known : name = first → name ∈ names := fun same => same ▸ present
      simp only [List.mem_cons]
      exact ⟨Or.imp_right .inr, fun there => there.elim .inl (Or.imp_left known)⟩
    next => simp [or_assoc]

/-- No name is added twice. -/
theorem nodup_foldl_addNew (added : List String) {names : List String} (different : names.Nodup) :
    (added.foldl addNew names).Nodup := by
  -- The induction is on the names that are added, each of which is new or left out.
  induction added generalizing names with
  | nil => exact different
  | cons first rest ih =>
    refine ih ?_
    unfold addNew
    split
    next => exact different
    next new =>
      refine List.nodup_append.mpr ⟨different, by simp, fun name there other added same => ?_⟩
      obtain rfl : other = first := by simpa using added
      exact new (same ▸ there)

/-- The commands for some formatters are the two fixed ones and those that run a formatter. -/
theorem mem_namesFor {formatters : List String} {name : String} :
    name ∈ namesFor formatters ↔
      name = format ∨ name = toggleOnSave ∨ ∃ formatter ∈ formatters, name = run formatter := by
  simp [namesFor, mem_foldl_addNew, or_assoc, eq_comm]

/-- No command is announced twice. -/
theorem nodup_namesFor (formatters : List String) : (namesFor formatters).Nodup :=
  nodup_foldl_addNew _ (by decide)

/-- The commands for profiles are those for the formatters that are registered for them. -/
theorem namesFor_register {ω : Type} (profiles : List Profile) (w : Workspace ω) :
    ((profiles.map (·.name)).map run).foldl addNew (namesFor w.formatterNames) =
      namesFor (profiles.foldl Workspace.registerOne w).formatterNames := by
  induction profiles generalizing w with
  | nil => rfl
  | cons profile rest ih =>
    rw [List.foldl_cons, ← ih, Workspace.formatterNames_registerOne]
    -- A name that is taken has its command already, so that both lists leave it out.
    split
    next taken =>
      have known : run profile.name ∈ namesFor w.formatterNames :=
        mem_namesFor.mpr (.inr (.inr ⟨_, taken, rfl⟩))
      simp [addNew, known]
    next => simp [namesFor]

end Command

namespace Session

/-- A formatter is named by the command that runs it, and by no other. -/
theorem commandFormatter?_eq_some {command formatter : String} :
    commandFormatter? command = some formatter ↔ command = Command.run formatter := by
  unfold commandFormatter? Command.run
  dsimp only
  rw [Option.ite_none_right_eq_some, List.isPrefixOf_iff_prefix, Option.some.injEq]
  -- The prefix is cut off and put in front again.
  constructor
  · rintro ⟨⟨rest, same⟩, rfl⟩
    rw [← String.toList_inj, ← same]
    simp
  · rintro rfl
    simp

variable {ω : Type} [World ω] {s : Session ω}

/-- A command is accepted just if it is a fixed one or runs a registered formatter. -/
theorem command_accepted_iff (name : String) :
    (s.command name).2 ≠ .unknown ↔ name ∈ Command.namesFor s.state.formatterNames := by
  have apart : Command.toggleOnSave ≠ Command.format := by decide
  rw [Command.mem_namesFor]
  unfold command
  dsimp only
  -- The names are compared in turn: a formatter's command comes last.
  by_cases formats : name = Command.format
  · simp [formats]
  by_cases switches : name = Command.toggleOnSave
  · simp [switches, apart]
  simp only [formats, switches, if_false, false_or]
  have found : ∀ formatter, (((s.modify (·.debug ("Command: " ++ name)) : Session ω).state.formatter?
      formatter).isSome ↔ formatter ∈ s.state.formatterNames) :=
    Workspace.isSome_formatter? s.state
  cases named : commandFormatter? name with
  | none =>
    -- A command that names no formatter runs none.
    have runsNone : ∀ formatter, name ≠ Command.run formatter := fun formatter same => by
      rw [commandFormatter?_eq_some.mpr same] at named
      cases named
    simp [runsNone]
  | some formatter =>
    obtain rfl := commandFormatter?_eq_some.mp named
    have only : (∃ other ∈ s.state.formatterNames, Command.run formatter = Command.run other) ↔
        formatter ∈ s.state.formatterNames :=
      ⟨fun ⟨other, known, same⟩ => Command.run_injective same ▸ known, fun known => ⟨_, known, rfl⟩⟩
    rw [only, ← found]
    dsimp only
    split <;> simp_all

/-- A command that is not accepted is logged, and nothing else happens. -/
theorem command_of_rejected {name : String} (rejected : (s.command name).2 = .unknown) :
    (s.command name).1 = s.modify (·.debug ("Command: " ++ name)) := by
  -- Only a rejected command ends without changing more than the log.
  revert rejected
  unfold command
  dsimp only
  split
  · exact nofun
  · split
    · exact nofun
    · split
      · exact fun _ => rfl
      · split
        · exact nofun
        · exact fun _ => rfl

variable {profiles : List Profile} {delay : Nat} {first : Session ω}

/-- At any time after the start, exactly the commands that were announced for the profiles are accepted. -/
theorem announcedCommands_run {ν : Type} {notes : Session ω → Option (Happening ω) → List ν}
    {before history : List ν} (fresh : first.state.formatters = [])
    (ran : Run Lasts notes before (first.start profiles delay) history s) :
    Command.namesOf profiles = Command.namesFor s.state.formatterNames ∧
    (Command.namesOf profiles).Nodup ∧
    (∀ name, (s.command name).2 ≠ .unknown ↔ name ∈ Command.namesOf profiles) ∧
    ∀ name, name ∉ Command.namesOf profiles →
      s.command name = (s.modify (·.debug ("Command: " ++ name)), .unknown) := by
  -- The formatters stay those that were registered in the start.
  have kept : s.state.formatterNames = (profiles.foldl Workspace.registerOne first.state).formatterNames := by
    induction ran with
    | start => exact formatterNames_start profiles delay first
    | move before lasts ih => rw [formatterNames_lasts lasts, ih]
  have same : Command.namesOf profiles = Command.namesFor s.state.formatterNames := by
    have registered := Command.namesFor_register profiles first.state
    rw [kept, ← registered]
    simp [Command.namesOf, Command.namesFor, Workspace.formatterNames, fresh]
  refine ⟨same, Command.nodup_namesFor _, fun name => ?_, fun name other => ?_⟩
  · rw [same]
    exact command_accepted_iff name
  · have rejected : (s.command name).2 = .unknown := by
      rw [same, ← command_accepted_iff] at other
      exact Decidable.not_not.mp other
    exact Prod.ext (command_of_rejected rejected) rejected

/-- Profiles of which two have one name, and some have names that are used by commands themselves. -/
def sampleNamed : List Profile :=
  ["black", "a:b", "black", "", "format"].map fun name => { Scripted.sampleProfile with name := name }

/-- The sample announces five commands, and still accepts them when it has ended. -/
theorem announcedCommands_sample :
    Command.namesOf sampleNamed = ["fmtchain:format", "fmtchain:toggle-format-on-save",
      "fmtchain:black", "fmtchain:a:b", "fmtchain:"] ∧
    ((sampleFirst.start sampleNamed 250).stop.command "fmtchain:a:b").2 ≠ .unknown ∧
    ((sampleFirst.start sampleNamed 250).stop.command "fmtchain:isort").2 = .unknown := by
  have started : Run Lasts (fun _ _ => ([] : List Unit)) [] (sampleFirst.start sampleNamed 250) [] _ :=
    .start
  -- The session of the sample is ended before it is asked.
  obtain ⟨-, -, accepted, rejected⟩ := announcedCommands_run rfl (started.move .stop)
  have announced : Command.namesOf sampleNamed = ["fmtchain:format", "fmtchain:toggle-format-on-save",
      "fmtchain:black", "fmtchain:a:b", "fmtchain:"] := by decide
  refine ⟨announced, (accepted _).mpr ?_, congrArg Prod.snd (rejected _ ?_)⟩
  · rw [announced]
    decide
  · rw [announced]
    decide

end Session

end FormatPipeline
