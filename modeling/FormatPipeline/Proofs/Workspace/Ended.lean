import FormatPipeline.Workspace.Process

/-! A process that has ended: what is logged and reported of it, and what becomes of its output. -/

namespace FormatPipeline

namespace InFlight

/-- The problems with a process that has ended. -/
def problems (flight : InFlight) : List Problem :=
  match flight.result with
  | .error reasons => [.spawnFailed flight.commandLine (Text.joinWith ": " reasons)]
  | .ok output =>
    if Text.allBlank output.stderr then []
    else [.stderr flight.commandLine (Text.trimEnd output.stderr)]

/-- What is only logged of a process that has ended: input that it left, and its exit code. -/
def remarks (flight : InFlight) : List String :=
  match flight.result with
  | .error _ => []
  | .ok output =>
    (if flight.leavesInput then [inputLeft flight.commandLine] else []) ++
      -- Nothing else depends on the exit code.
      [match output.exitCode with
        | some code => "Exited with code " ++ toString code ++ ": " ++ flight.commandLine
        | none => "Exited without a code: " ++ flight.commandLine]

end InFlight

namespace Workspace

variable {ω : Type}

/-- The output of a process replaces the text of a buffer, and nothing else. -/
def takeOutput (w : Workspace ω) (flight : InFlight) : Workspace ω :=
  match flight.result, flight.mode with
  | .ok output, .buffer =>
    (w.setText flight.document output.stdout).setCursor flight.document flight.cursor
  | _, _ => w

/-- When a process has ended, that is logged, its problems are reported, and then its output is taken. -/
theorem finishProcess_eq (w : Workspace ω) (flight : InFlight) :
    (w.finishProcess flight).1 =
      (flight.problems.foldl report (flight.remarks.foldl debug w)).takeOutput flight := by
  unfold finishProcess takeOutput InFlight.problems InFlight.remarks
  cases flight.result with
  | error reasons => rfl
  | ok output =>
    dsimp only
    -- Each of the two remarks and the report may be missing.
    have logged : (if flight.leavesInput then w.debug (inputLeft flight.commandLine) else w).logExit
        flight.commandLine output.exitCode =
          ((if flight.leavesInput then [inputLeft flight.commandLine] else []) ++
            [match output.exitCode with
              | some code => "Exited with code " ++ toString code ++ ": " ++ flight.commandLine
              | none => "Exited without a code: " ++ flight.commandLine]).foldl debug w := by
      cases flight.leavesInput <;> cases output.exitCode <;> rfl
    rw [logged]
    cases Text.allBlank output.stderr <;> cases flight.mode <;> rfl

section Spoken

variable {R : List Problem → Workspace ω → Workspace ω → Prop}

/-- A relation that adds problems up holds after all of them if it holds after each of them. -/
theorem foldl_report (refl : ∀ w, R [] w w)
    (trans : ∀ {first second w mid later}, R first w mid → R second mid later → R (first ++ second) w later)
    (reports : ∀ w problem, R [problem] w (w.report problem)) (w : Workspace ω) (problems : List Problem) :
    R problems w (problems.foldl report w) := by
  induction problems generalizing w with
  | nil => exact refl w
  | cons problem rest ih => exact trans (reports w problem) (ih _)

/-- What holds of every log text and of every report holds of all that is said when a process has ended. -/
theorem spoken_of_each (refl : ∀ w, R [] w w)
    (trans : ∀ {first second w mid later}, R first w mid → R second mid later → R (first ++ second) w later)
    (logs : ∀ w text, R [] w (w.debug text)) (reports : ∀ w problem, R [problem] w (w.report problem))
    (w : Workspace ω) (flight : InFlight) :
    R flight.problems w (flight.problems.foldl report (flight.remarks.foldl debug w)) := by
  -- Logs and reports are two folds, one after the other, with nothing to report in the first.
  have logged : R [] w (flight.remarks.foldl debug w) :=
    List.foldlRecOn flight.remarks debug (refl w) fun mid said text _ => trans said (logs mid text)
  exact trans logged (foldl_report refl trans reports _ flight.problems)

end Spoken

end Workspace

end FormatPipeline
