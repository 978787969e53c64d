import FormatPipeline.Proofs.Workspace.Telling

/-! What the editor shows as busy is the work in progress, however often the signal is switched. -/

namespace FormatPipeline

/-- What can be asked of the busy signal. -/
inductive BusyCall where
  | add (now : Nat) (label : String)
  | remove (now : Nat) (label : String)
  | setEnabled (enabled : Bool)

/-- Whether the signal is to be on, if it is asked to switch. -/
def BusyCall.enabled? : BusyCall → Option Bool
  | setEnabled enabled => some enabled
  | add .. | remove .. => none

namespace BusySignal

/-- The signal after a call, with what it tells the editor. -/
def answer (signal : BusySignal) : BusyCall → BusySignal × List Outgoing
  | .add now label => signal.add now label
  | .remove now label => ((signal.remove now label).1, (signal.remove now label).2.1)
  | .setEnabled enabled => signal.setEnabled enabled

/-- The signal after calls one after another, with all it tells the editor. -/
def answerAll (signal : BusySignal) : List BusyCall → BusySignal × List Outgoing
  | [] => (signal, [])
  | call :: rest =>
    let next := signal.answer call
    let last := next.1.answerAll rest
    (last.1, next.2 ++ last.2)

/-- What the first call tells comes before what the others tell. -/
theorem answerAll_cons (signal : BusySignal) (call : BusyCall) (rest : List BusyCall) :
    signal.answerAll (call :: rest) = (((signal.answer call).1.answerAll rest).1,
      (signal.answer call).2 ++ ((signal.answer call).1.answerAll rest).2) := rfl

/-- The work in progress after a call. -/
def entriesAfter (entries : List BusyEntry) : BusyCall → List BusyEntry
  | .add now label => entries ++ [⟨label, now⟩]
  | .remove _ label => entries.eraseP (·.label == label)
  | .setEnabled _ => entries

/-- Work that is not there is not removed, and nothing is told of it. -/
theorem remove_of_not_mem {signal : BusySignal} {label : String} (missing : label ∉ signal.labels)
    (now : Nat) : signal.remove now label = (signal, [], none) := by
  have nothing : signal.entries.find? (·.label == label) = none := by
    simpa [labels] using missing
  simp [remove, nothing]

/-- A call changes the work in progress, or it switches the signal. -/
theorem answer_fields (signal : BusySignal) (call : BusyCall) :
    (signal.answer call).1.entries = entriesAfter signal.entries call ∧
      (signal.answer call).1.enabled = call.enabled?.getD signal.enabled := by
  cases call with
  | add now label => exact ⟨rfl, rfl⟩
  | remove now label =>
    simp only [answer, remove, entriesAfter, BusyCall.enabled?, Option.getD_none]
    cases found : signal.entries.find? (·.label == label) with
    | none =>
      -- Without such an entry there is nothing to take out.
      have missing : ∀ entry ∈ signal.entries, ¬ (entry.label == label) = true := by
        simpa using found
      exact ⟨(List.eraseP_of_forall_not missing).symm, rfl⟩
    | some entry => exact ⟨rfl, rfl⟩
  | setEnabled enabled =>
    simp only [answer, setEnabled, entriesAfter, BusyCall.enabled?, Option.getD_some]
    split
    next same => exact ⟨rfl, same⟩
    next => exact ⟨rfl, rfl⟩

/-- What a call tells of work is what the signal shows more or less than before. -/
theorem shows_answer (signal : BusySignal) (call : BusyCall) (label : String) :
    (signal.answer call).1.shows label =
      (latest (·.progress? label) (signal.answer call).2).getD (signal.shows label) := by
  cases call with
  | add now other => exact shows_add signal now other label
  | remove now other => exact shows_remove signal now other label
  | setEnabled enabled => exact shows_setEnabled signal enabled label

/-- The work in progress is what the calls have made of it. -/
theorem entries_answerAll (calls : List BusyCall) (signal : BusySignal) :
    (signal.answerAll calls).1.entries = calls.foldl entriesAfter signal.entries := by
  induction calls generalizing signal with
  | nil => rfl
  | cons call rest ih => rw [answerAll_cons, ih, (answer_fields signal call).1, List.foldl_cons]

/-- The signal is as it was asked to be at last. -/
theorem enabled_answerAll (calls : List BusyCall) (signal : BusySignal) :
    (signal.answerAll calls).1.enabled = (latest (·.enabled?) calls).getD signal.enabled := by
  induction calls generalizing signal with
  | nil => rfl
  | cons call rest ih =>
    have first : latest (·.enabled?) [call] = call.enabled? := by
      cases asked : call.enabled? <;> simp [latest, asked]
    -- A later call overrides the first one, which decides only if no other one asks.
    rw [answerAll_cons, ih, (answer_fields signal call).2, ← List.singleton_append, latest_append, first]
    cases latest (·.enabled?) rest <;> rfl

/-- All that the calls tell of work is what the signal shows at last. -/
theorem shows_answerAll (calls : List BusyCall) (signal : BusySignal) (label : String) :
    (signal.answerAll calls).1.shows label =
      (latest (·.progress? label) (signal.answerAll calls).2).getD (signal.shows label) := by
  induction calls generalizing signal with
  | nil => rfl
  | cons call rest ih =>
    -- What the first call tells counts for a label until something else is told of it.
    rw [answerAll_cons, ih, shows_answer, latest_append]
    cases latest (·.progress? label) ((signal.answer call).1.answerAll rest).2 <;> rfl

/-- Switching the signal does not matter for the work in progress. -/
theorem entries_answerAll_filter (calls : List BusyCall) (signal : BusySignal) :
    (signal.answerAll (calls.filter (·.enabled?.isNone))).1.entries =
      (signal.answerAll calls).1.entries := by
  simp only [entries_answerAll, List.foldl_filter]
  congr
  funext entries call
  cases call <;> rfl

end BusySignal

namespace Workspace

variable {ω : Type}

/-- The workspace after a call to its busy signal. -/
def askBusy (w : Workspace ω) : BusyCall → Workspace ω
  | .add now label => w.beginBusy now label
  | .remove now label => (w.endBusy now label).1
  | .setEnabled enabled => w.setBusyEnabled enabled

/-- The workspace keeps what its signal answers, and sends it. -/
theorem askBusy_eq (w : Workspace ω) (call : BusyCall) :
    w.askBusy call =
      { w with busy := (w.busy.answer call).1, outlet := w.outlet.sendAll (w.busy.answer call).2 } := by
  cases call <;> rfl

/-- As long as messages can be written, the editor is told all that the signal answers. -/
theorem askBusy_foldl (calls : List BusyCall) {w : Workspace ω} (lasting : w.outlet.writesLeft = none) :
    (calls.foldl askBusy w).busy = (w.busy.answerAll calls).1 ∧
      (calls.foldl askBusy w).outlet.messages = w.outlet.messages ++ (w.busy.answerAll calls).2 := by
  induction calls generalizing w with
  | nil => exact ⟨rfl, (List.append_nil _).symm⟩
  | cons call rest ih =>
    obtain ⟨lasts, sent⟩ := Outlet.messages_sendAll (w.busy.answer call).2 lasting
    -- What the first call tells is sent before what the others tell.
    rw [List.foldl_cons, askBusy_eq]
    obtain ⟨busy, messages⟩ := ih (w :=
      { w with busy := (w.busy.answer call).1, outlet := w.outlet.sendAll (w.busy.answer call).2 }) lasts
    refine ⟨busy, messages.trans ?_⟩
    rw [sent, List.append_assoc]
    rfl

end Workspace

/-- Whatever is begun, ended and switched, the editor is last told of the start of just the work that is
in progress while the signal is on. -/
theorem busySignal_run (calls : List BusyCall) :
    let signal := (BusySignal.initial.answerAll calls).1
    let told := (BusySignal.initial.answerAll calls).2
    (∀ label, latest (·.progress? label) told = some true ↔ signal.enabled ∧ label ∈ signal.labels) ∧
    signal.enabled = (latest (·.enabled?) calls).getD true ∧
    signal.entries = (BusySignal.initial.answerAll (calls.filter (·.enabled?.isNone))).1.entries ∧
    (∀ now label, label ∉ signal.labels → signal.remove now label = (signal, [], none)) ∧
    ∀ {ω : Type} (w : Workspace ω), w.busy = .initial → w.outlet.writesLeft = none →
      (calls.foldl Workspace.askBusy w).busy = signal ∧
      (calls.foldl Workspace.askBusy w).outlet.messages = w.outlet.messages ++ told := by
  refine ⟨fun label => ?_, BusySignal.enabled_answerAll calls _,
    (BusySignal.entries_answerAll_filter calls _).symm, fun now label missing =>
      BusySignal.remove_of_not_mem missing now, fun w idle lasting => ?_⟩
  · -- At first nothing is shown, so that only a start can be the last message of what is shown.
    have shown := BusySignal.shows_answerAll calls .initial label
    have nothing : BusySignal.initial.shows label = false := rfl
    rw [nothing] at shown
    have there : (BusySignal.initial.answerAll calls).1.shows label = true ↔
        (BusySignal.initial.answerAll calls).1.enabled ∧
          label ∈ (BusySignal.initial.answerAll calls).1.labels := by
      simp [BusySignal.shows]
    rw [← there, shown]
    cases latest (·.progress? label) (BusySignal.initial.answerAll calls).2 <;> simp
  · rw [← idle]
    exact Workspace.askBusy_foldl calls lasting

/-- Work of one label is begun twice, ended once, and shown when the signal is turned on again. -/
def sampleBusyCalls : List BusyCall :=
  [.add 0 "Formatters on main.py", .setEnabled false, .add 5 "Formatters on main.py",
    .remove 9 "Formatters on main.py", .remove 9 "black on main.py", .setEnabled true]

/-- The sample shows the work that is left. -/
theorem busySignal_sample :
    let told := (BusySignal.initial.answerAll sampleBusyCalls).2
    told = [.progressStarted "Formatters on main.py", .progressFinished "Formatters on main.py",
      .progressStarted "Formatters on main.py"] ∧
    latest (·.progress? "Formatters on main.py") told = some true ∧
    (BusySignal.initial.answerAll sampleBusyCalls).1.remove 10 "black on main.py" =
      ((BusySignal.initial.answerAll sampleBusyCalls).1, [], none) ∧
    (sampleBusyCalls.foldl Workspace.askBusy
      (.initial () .silent (.ofDefaults []))).outlet.messages = told := by
  -- The first conjunct of the run is used from right to left: the label is shown, so it was told.
  obtain ⟨shown, -, -, missing, sent⟩ := busySignal_run sampleBusyCalls
  refine ⟨by decide +kernel, (shown _).mpr (by decide +kernel), missing 10 _ (by decide +kernel), ?_⟩
  exact (sent (.initial () .silent (.ofDefaults [])) rfl rfl).2

end FormatPipeline
