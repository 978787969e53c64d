import FormatPipeline.Proofs.Formatter.Checking
import FormatPipeline.Proofs.Session.Telling
import FormatPipeline.Proofs.Workspace.Answers

/-! Values for the settings of a formatter are taken over or refused as a whole, with one report. -/

namespace FormatPipeline.Workspace

open Formatter (Checked Call)

variable {ω : Type}

/-- A value for a formatter is dealt with: the formatter is what it should be, and the given
problems are all that is reported. -/
structure Settles (w : Workspace ω) (formatter : Formatter) (problems : List Problem)
    (later : Workspace ω) : Prop where
  own : later.formatter? formatter.name = some formatter
  others : ∀ other, formatter.name ≠ other → later.formatter? other = w.formatter? other
  /-- Before the problems come, a line in the log says what became of the value. -/
  said : ∃ text, later.outlet = (problems.foldl report (w.debug text)).outlet
  shown : w.Reports problems later
  rest : later =
    { w with formatters := later.formatters, outlet := later.outlet, probes := later.probes }

/-- What came of a value is noted behind the formatter that is put in place. -/
theorem settles_noteApplied {w : Workspace ω} {old new : Formatter}
    (present : w.formatter? new.name = some old) (probes : Nat) (what : String)
    (error : Option ConfigurationError) :
    w.Settles new (error.toList.map .configuration)
      (({ w with probes := probes }.putFormatter new).noteApplied what new.name error) := by
  have replaces : w.Replaces new
      (({ w with probes := probes }.putFormatter new).noteApplied what new.name error) :=
    ⟨probes, onlySays_noteApplied _ _ _ _⟩
  refine ⟨(replaces.formatter? present rfl).1, fun other => replaces.formatter?_of_ne, ?_,
    (reports_noteApplied _ what new.name error).after rfl rfl rfl, ?_⟩
  · cases error with
    | none => exact ⟨_, rfl⟩
    | some error =>
      -- What is said of an error depends on the handling of errors, and on nothing else.
      refine ⟨"Reset " ++ what ++ " for " ++ new.name ++ ".", ?_⟩
      unfold noteApplied report debug putFormatter
      cases w.handling <;> rfl
  · obtain ⟨asked, outlet, -, same⟩ := replaces
    rw [same]
    rfl

variable [World ω]

/-- Setting a list puts the formatter in place that has taken over the list. -/
theorem call_checked {w : Workspace ω} {name : String} {formatter : Formatter}
    (present : w.formatter? name = some formatter) (entries : List String) (list : Checked) :
    ∃ what, w.call name (.set (list.setting entries)) =
      ({ w with probes := w.probes + list.questions (World.files w.world) formatter entries
        }.putFormatter (formatter.after (World.files w.world) (.set (list.setting entries)))).noteApplied
        what formatter.name (list.refusal (World.files w.world) formatter entries) := by
  cases list <;> exact ⟨_, by simp only [call, Checked.setting, present]; rfl⟩

/-- Setting the binary of the user puts the formatter in place that has taken over the value. -/
theorem call_globalBin {w : Workspace ω} {name : String} {formatter : Formatter}
    (present : w.formatter? name = some formatter) (value : String) :
    ∃ what probes, w.call name (.set (.globalBin value)) =
      ({ w with probes := probes }.putFormatter
        (formatter.after (World.files w.world) (.set (.globalBin value)))).noteApplied
        what formatter.name (formatter.binaries.setGlobalBin (World.files w.world) value).value.2 :=
  ⟨"global binary path", w.probes + (formatter.binaries.setGlobalBin (World.files w.world) value).probes,
    by simp only [call, present, setGlobalBin, counting, Formatter.after]⟩

/-! ## One call -/

/-- How a formatter in a workspace deals with the values for its lists. -/
structure ChecksLists (w : Workspace ω) (formatter : Formatter) : Prop where
  /-- The list in use is neither looked at nor forgotten. -/
  same : ∀ list : Checked,
    w.Settles formatter [] (w.call formatter.name (.set (list.setting (list.entries formatter)))) ∧
    (w.call formatter.name (.set (list.setting (list.entries formatter)))).probes = w.probes
  refused : ∀ (list : Checked) (entries : List String) (entry : String),
    entries ≠ list.entries formatter →
    list.offender? (World.files w.world) entries = some entry →
    w.Settles (list.renew formatter [])
      [.configuration (list.error (World.files w.world) formatter.name entry)]
      (w.call formatter.name (.set (list.setting entries)))
  accepted : ∀ (list : Checked) (entries : List String), entries ≠ list.entries formatter →
    (∀ entry ∈ entries, list.accepts (World.files w.world) entry) →
    w.Settles (list.renew formatter entries) []
      (w.call formatter.name (.set (list.setting entries)))

/-- How a formatter in a workspace deals with the values for the binary of the user. -/
structure ChecksBinary (w : Workspace ω) (formatter : Formatter) : Prop where
  blank : ∀ value, (Text.trim value).isEmpty →
    w.Settles (formatter.withGlobalBin none) []
      (w.call formatter.name (.set (.globalBin value)))
  /-- The binary in use is kept, however the value spells it. -/
  same : ∀ value binary, formatter.binaries.globalBin = some binary →
    spellsBinary (World.files w.world) value binary →
    w.Settles formatter [] (w.call formatter.name (.set (.globalBin value)))
  refused : ∀ value, ¬ (Text.trim value).isEmpty →
    ¬ formatter.binaries.globalBin.any (spellsBinary (World.files w.world) value ·) →
    LeadsNowhere (World.files w.world) value →
    w.Settles (formatter.withGlobalBin none)
      [.configuration (.invalidGlobalBinPath formatter.name
        (Path.expandHome (World.files w.world).home (Text.trim value)))]
      (w.call formatter.name (.set (.globalBin value)))
  accepted : ∀ value, ¬ (Text.trim value).isEmpty →
    ¬ formatter.binaries.globalBin.any (spellsBinary (World.files w.world) value ·) →
    ¬ LeadsNowhere (World.files w.world) value →
    ∃ binary, LeadsTo (World.files w.world) value binary ∧
      w.Settles (formatter.withGlobalBin (some binary)) []
        (w.call formatter.name (.set (.globalBin value)))

/-- Every formatter deals in this way with its lists. -/
theorem checksLists {w : Workspace ω} {formatter : Formatter}
    (present : w.formatter? formatter.name = some formatter)
    (named : formatter.Named formatter.name) : w.ChecksLists formatter := by
  -- The formatter that is put in place has the same name, and the error is the one that is noted.
  have settled : ∀ (list : Checked) (entries : List String) (new : Formatter)
      (error : Option ConfigurationError), new.name = formatter.name →
      formatter.after (World.files w.world) (.set (list.setting entries)) = new →
      list.refusal (World.files w.world) formatter entries = error →
      w.Settles new (error.toList.map .configuration)
          (w.call formatter.name (.set (list.setting entries))) ∧
        (w.call formatter.name (.set (list.setting entries))).probes =
          w.probes + list.questions (World.files w.world) formatter entries := by
    rintro list entries new error same rfl rfl
    obtain ⟨what, called⟩ := call_checked present entries list
    rw [← same] at present
    have settles := settles_noteApplied present
      (w.probes + list.questions (World.files w.world) formatter entries) what
      (list.refusal (World.files w.world) formatter entries)
    rw [same] at settles
    rw [called]
    refine ⟨settles, ?_⟩
    obtain ⟨outlet, -, noted⟩ := onlySays_noteApplied
      ({ w with probes := w.probes + list.questions (World.files w.world) formatter entries
        }.putFormatter (formatter.after (World.files w.world) (.set (list.setting entries)))) what
      formatter.name (list.refusal (World.files w.world) formatter entries)
    rw [noted]
    rfl
  -- A list that is set again, one that is refused, and one that is accepted.
  refine ⟨fun list => ?_, fun list entries entry changed refused => ?_,
    fun list entries changed accepted => ?_⟩
  · obtain ⟨quiet, unasked⟩ := Checked.untouched_self (World.files w.world) formatter list
    have same := settled list _ formatter none rfl (Formatter.after_checked_self formatter list) quiet
    rw [unasked, Nat.add_zero] at same
    exact same
  · have after := Formatter.after_checked_of_ne (World.files w.world) changed
    rw [Checked.accepted_of_offender refused] at after
    have reported := Checked.refusal_of_ne (World.files w.world) named changed
    rw [refused] at reported
    exact (settled list entries _ _ (named.renew _ _).own after reported).1
  · have all : entries.all (list.accepts (World.files w.world) ·) := by simpa using accepted
    have after := Formatter.after_checked_of_ne (World.files w.world) changed
    rw [Checked.accepted_eq, if_pos all] at after
    have reported := Checked.refusal_of_ne (World.files w.world) named changed
    have unrefused : list.offender? (World.files w.world) entries = none := by
      simpa [Checked.offender?] using accepted
    rw [unrefused] at reported
    exact (settled list entries _ _ (named.renew _ _).own after reported).1

/-- Every formatter deals in this way with the binary of the user. -/
theorem checksBinary {w : Workspace ω} {formatter : Formatter}
    (present : w.formatter? formatter.name = some formatter)
    (named : formatter.Named formatter.name) : w.ChecksBinary formatter := by
  -- The formatter keeps its name, and what is wrong with the value is noted.
  have settled : ∀ (value : String) (binary : Option Path) (error : Option ConfigurationError),
      (if formatter.binaries.globalBin.any (spellsBinary (World.files w.world) value ·)
        then formatter.binaries.globalBin else acceptedBinary (World.files w.world) value) = binary →
      (formatter.binaries.setGlobalBin (World.files w.world) value).value.2 = error →
      w.Settles (formatter.withGlobalBin binary) (error.toList.map .configuration)
        (w.call formatter.name (.set (.globalBin value))) := by
    rintro value binary error rfl rfl
    obtain ⟨what, probes, called⟩ := call_globalBin present value
    rw [called, Formatter.after_globalBin]
    have there : w.formatter? (formatter.withGlobalBin
        (if formatter.binaries.globalBin.any (spellsBinary (World.files w.world) value ·)
          then formatter.binaries.globalBin
          else acceptedBinary (World.files w.world) value)).name = some formatter := present
    exact settles_noteApplied there probes what _
  refine ⟨fun value blank => ?_, fun value binary stored spelled => ?_,
    fun value filled different nowhere => ?_, fun value filled different somewhere => ?_⟩
  · -- A blank value spells no binary and leads to none.
    refine settled value none none ?_ ?_
    · have unspelled : ¬ formatter.binaries.globalBin.any (spellsBinary (World.files w.world) value ·) := by
        cases formatter.binaries.globalBin <;> simp [spellsBinary, blank]
      rw [if_neg unspelled, acceptedBinary_eq_none]
      exact .inl blank
    · rw [BinaryFinder.error_setGlobalBin]
      simp [blank]
  · have any : formatter.binaries.globalBin.any (spellsBinary (World.files w.world) value ·) := by
      simp [stored, spelled]
    have kept := settled value formatter.binaries.globalBin none (if_pos any) (by
      rw [BinaryFinder.error_setGlobalBin]
      simp [any])
    exact kept
  · have none : acceptedBinary (World.files w.world) value = none :=
      (acceptedBinary_eq_none _ _).mpr (.inr nowhere)
    refine settled value _ (some _) ((if_neg different).trans none) ?_
    rw [BinaryFinder.error_setGlobalBin, none, ← named.binaries]
    simp [filled, different]
  · -- A value that leads somewhere leads to what is accepted of it.
    obtain ⟨binary, accepted⟩ : ∃ binary, acceptedBinary (World.files w.world) value = some binary := by
      refine Option.isSome_iff_exists.mp (Option.isSome_iff_ne_none.mpr fun none => ?_)
      exact ((acceptedBinary_eq_none _ _).mp none).elim filled somewhere
    refine ⟨binary, leadsTo_of_acceptedBinary accepted,
      settled value _ none ((if_neg different).trans accepted) ?_⟩
    rw [BinaryFinder.error_setGlobalBin, accepted]
    simp

/-! ## Histories of calls -/

/-- A formatter is used, or something else happens that leaves it alone: the world may change, and
so may everything else in the workspace. -/
inductive Uses (name : String) : Workspace ω → Option Call → Workspace ω → Prop
  | call {w : Workspace ω} (call : Call) : Uses name w (some call) (w.call name call)
  | elsewhere {w later : Workspace ω} (kept : later.formatter? name = w.formatter? name) :
    Uses name w none later

/-- What is noted of a move: a use of the formatter, with the files at that moment. -/
def usesNotes (w : Workspace ω) (use : Option Call) : List (FileSystem × Call) :=
  use.toList.map fun call => (World.files w.world, call)

/-- After every history of uses there is the formatter that the history makes of its profile. -/
theorem formatter?_run {first w : Workspace ω} {profile : Profile} {history : List (FileSystem × Call)}
    (fresh : first.formatter? profile.name = some (.ofProfile profile))
    (ran : Run (Uses profile.name) usesNotes [] first history w) :
    w.formatter? profile.name = some (.afterAll profile history) ∧
      (Formatter.afterAll profile history).Named profile.name := by
  induction ran with
  | start => exact ⟨fresh, Formatter.named_ofProfile profile⟩
  | @move _ used _ _ before moved ih =>
    obtain ⟨present, named⟩ := ih
    cases moved with
    | elsewhere kept => exact ⟨kept.trans (by simpa [usesNotes] using present), by simpa [usesNotes] using named⟩
    | call call =>
      -- The call is noted with the files that it is made with.
      have renamed := named.after (World.files used.world) call
      have noted : usesNotes used (some call) = [(World.files used.world, call)] := rfl
      rw [noted, Formatter.afterAll_append]
      exact ⟨((replaces_call present call).formatter? present renamed.own).1, renamed⟩

/-- After every history of uses a formatter holds what the history gave it. -/
theorem holds_run {first w : Workspace ω} {profile : Profile} {history : List (FileSystem × Call)}
    (fresh : first.formatter? profile.name = some (.ofProfile profile))
    (ran : Run (Uses profile.name) usesNotes [] first history w) :
    ∃ formatter, w.formatter? profile.name = some formatter ∧ formatter.Named profile.name ∧
      formatter.Holds history := by
  obtain ⟨present, named⟩ := formatter?_run fresh ran
  -- A formatter that was just made holds the empty history, and each use adds itself to it.
  exact ⟨_, present, named, Formatter.afterAll_keeps (Formatter.holds_ofProfile profile) history
    fun _ holds => holds.after _⟩

/-- In every reached workspace a formatter holds only what was valid when it was set, and deals with
every further value in one way. -/
theorem checkedSettings_run {first w : Workspace ω} {profile : Profile}
    {history : List (FileSystem × Call)}
    (fresh : first.formatter? profile.name = some (.ofProfile profile))
    (ran : Run (Uses profile.name) usesNotes [] first history w) :
    ∃ formatter, w.formatter? profile.name = some formatter ∧ formatter.name = profile.name ∧
      (∀ name ∈ formatter.binaries.localBins, isValidFileName name) ∧
      formatter.Holds history ∧ w.ChecksLists formatter ∧ w.ChecksBinary formatter := by
  obtain ⟨formatter, present, named, holds⟩ := holds_run fresh ran
  have own := named.own
  rw [← own] at present named
  refine ⟨formatter, own ▸ present, own, fun name member => ?_, holds, checksLists present named,
    checksBinary present named⟩
  -- Names of binaries are valid at all times if they were once.
  rcases holds.lists .localBins with empty | ⟨_, _, _, -, ⟨-, valid⟩, -⟩
  · rw [show formatter.binaries.localBins = [] from empty] at member
    simp at member
  · exact valid name member

/-- The sample after a command name was set as the binary of the user. -/
def sampleCommand : Workspace Scripted.Tables := sample.call "black" (.set (.globalBin "black"))

/-- The same when the binary has been removed and a list is set. -/
def sampleRemoved : Workspace Scripted.Tables :=
  { sampleCommand with world := sampleCommand.world.apply (.remove ⟨"/usr/bin/black"⟩) }.call "black"
    (.set (.localConfigs ["pyproject.toml"]))

/-- The sample still holds a binary that cannot be run any more, and it could be run when it was set. -/
theorem checkedSettings_sample :
    (World.files sampleRemoved.world).isExecutable ⟨"/usr/bin/black"⟩ = false ∧
    (sampleRemoved.formatter? "black").bind (·.binaries.globalBin) = some ⟨"/usr/bin/black"⟩ ∧
    ∃ formatter, sampleRemoved.formatter? "black" = some formatter ∧ formatter.name = "black" ∧
      (∀ name ∈ formatter.binaries.localBins, isValidFileName name) ∧
      formatter.Holds [
        (World.files sample.world, .set (.globalBin "black")),
        (World.files (sampleCommand.world.apply (.remove ⟨"/usr/bin/black"⟩)),
          .set (.localConfigs ["pyproject.toml"]))] ∧
      sampleRemoved.ChecksLists formatter ∧ sampleRemoved.ChecksBinary formatter := by
  have fresh : sample.formatter? Scripted.sampleProfile.name =
      some (.ofProfile Scripted.sampleProfile) := rfl
  have command : Run (Uses "black") usesNotes [] sample
      [(World.files sample.world, .set (.globalBin "black"))] sampleCommand :=
    Run.start.move (Uses.call _)
  -- The binary goes without the formatter taking any notice.
  have elsewhere : Uses "black" sampleCommand none
      { sampleCommand with world := sampleCommand.world.apply (.remove ⟨"/usr/bin/black"⟩) } :=
    .elsewhere rfl
  have removed := (command.move elsewhere).move (Uses.call (.set (.localConfigs ["pyproject.toml"])))
  exact ⟨by decide +kernel, by decide +kernel, checkedSettings_run fresh removed⟩

end FormatPipeline.Workspace
