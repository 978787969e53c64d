import FormatPipeline.Proofs.Workspace.Begun
import FormatPipeline.Proofs.World.Scripted
import Mathlib.Data.List.TakeWhile

/-! A process from its start to its end: what it reports, and that only the output for a buffer is put
into a document. -/

namespace FormatPipeline

namespace Text

/-- A text is another one with blanks behind it, and the other one does not end with a blank. -/
def TrimsTo (text trimmed : String) : Prop :=
  ∃ blanks : List Char, text.toList = trimmed.toList ++ blanks ∧ (∀ c ∈ blanks, isBlank c) ∧
    ∀ c, trimmed.toList.getLast? = some c → isBlank c = false

/-- Only blanks are cut off at the end, and no blank is left there. -/
theorem trimsTo_trimEnd (text : String) : TrimsTo text (trimEnd text) := by
  -- What is cut off is the longest row of blanks at the end.
  refine ⟨(text.toList.reverse.takeWhile isBlank).reverse, ?_, ?_, ?_⟩
  · rw [trimEnd, String.toList_ofList, dropEndWhile, ← List.reverse_append, List.takeWhile_append_dropWhile,
      List.reverse_reverse]
  · intro c member
    exact List.mem_takeWhile_imp (List.mem_reverse.mp member)
  -- The character before that row was the first to stop it.
  · intro c last
    rw [trimEnd, String.toList_ofList, dropEndWhile, List.getLast?_reverse] at last
    have stopped := List.head?_dropWhile_not isBlank text.toList.reverse
    rw [last] at stopped
    simpa using stopped

/-- A text has nothing but blanks just if nothing is left of it. -/
theorem allBlank_iff_trimEnd (text : String) : allBlank text ↔ trimEnd text = "" := by
  rw [allBlank, trimEnd, ← String.toList_inj, String.toList_ofList, dropEndWhile]
  simp [List.dropWhile_eq_nil_iff]

end Text

/-- A process that ran has one problem if it wrote anything but blanks to its standard error. -/
theorem InFlight.problems_of_output (flight : InFlight) {output : ProcessOutput}
    (ran : flight.result = .ok output) :
    ∃ complaint, Text.TrimsTo output.stderr complaint ∧ (complaint = "" → flight.problems = []) ∧
      (complaint ≠ "" → flight.problems = [.stderr flight.commandLine complaint]) := by
  refine ⟨_, Text.trimsTo_trimEnd output.stderr, ?_⟩
  simp only [problems, ran, ne_eq, ← Text.allBlank_iff_trimEnd]
  exact ⟨fun blank => if_pos blank, fun busy => if_neg busy⟩

namespace Workspace

variable {ω : Type}

/-- Without output for a buffer nothing is replaced. -/
theorem takeOutput_of_passed {w : Workspace ω} {flight : InFlight}
    (passed : flight.mode = .file ∨ ∃ reasons, flight.result = .error reasons) : w.takeOutput flight = w := by
  -- Only an output for a buffer is taken, and that is ruled out in both ways.
  unfold takeOutput
  split
  next output ran buffered =>
    rcases passed with file | ⟨reasons, failed⟩
    · rw [file] at buffered
      cases buffered
    · rw [failed] at ran
      cases ran
  next => rfl

/-- Without output for a buffer the documents stay as they are when a process has ended. -/
theorem finishProcess_of_passed (w : Workspace ω) (flight : InFlight)
    (passed : flight.mode = .file ∨ ∃ reasons, flight.result = .error reasons) :
    (w.finishProcess flight).1 = flight.problems.foldl report (flight.remarks.foldl debug w) ∧
      (w.finishProcess flight).1.documents = w.documents := by
  obtain ⟨outlet, -, spoken⟩ := spoken_onlyShows w flight
  rw [finishProcess_eq, takeOutput_of_passed passed, spoken]
  exact ⟨rfl, rfl⟩

/-- Output for a buffer is taken after the problems were reported. -/
theorem finishProcess_of_output (w : Workspace ω) (flight : InFlight) {output : ProcessOutput}
    (ran : flight.result = .ok output) (buffered : flight.mode = .buffer) :
    (w.finishProcess flight).1 =
      ((flight.problems.foldl report (flight.remarks.foldl debug w)).setText flight.document
        output.stdout).setCursor flight.document flight.cursor := by
  rw [finishProcess_eq, takeOutput, ran, buffered]

variable [World ω]

/-- Starting a process changes the world, and shows the command line with its input. -/
theorem startProcess_eq (w : Workspace ω) (handle : Handle) (document : Document) (binary : Path)
    (arguments : List String) (mode : Mode) :
    let launch := World.launch w.world (Shell.commandLine binary arguments) (document.input? mode)
    let started := w.startProcess handle document binary arguments mode
    (∃ outlet, w.outlet.Shows [.spawn (Shell.commandLine binary arguments) (document.input? mode)] outlet ∧
      started.1 = { w with world := launch.2, outlet := outlet }) ∧
    started.2.2 = ⟨handle, Shell.commandLine binary arguments, document.cursor, mode, launch.1.result,
      launch.1.leavesInput⟩ := by
  -- The mode decides what is given to the process, and the rest is the same.
  have shows := shows_startProcess w handle document binary arguments mode
  cases mode <;> exact ⟨⟨_, shows, rfl⟩, rfl⟩

/-- Whatever happens while a process runs: it reads a document only in the mode for buffers; when it has
ended, its one problem, if there is any, is reported before anything else; and only output for a buffer
changes a document, and is sent to the editor. -/
theorem process_run (w : Workspace ω) (handle : Handle) (document : Document) (binary : Path)
    (arguments : List String) (mode : Mode) (meanwhile : Workspace ω → Workspace ω) :
    let line := Shell.commandLine binary arguments
    let launch := World.launch w.world line (document.input? mode)
    let started := w.startProcess handle document binary arguments mode
    let flight := started.2.2
    let resumed := meanwhile started.1
    let spoken := flight.problems.foldl report (flight.remarks.foldl debug resumed)
    let ended := resumed.finishProcess flight
    -- The start reports nothing and leaves the documents as they are.
    ((∃ outlet, w.outlet.Shows [.spawn line (document.input? mode)] outlet ∧
        started.1 = { w with world := launch.2, outlet := outlet }) ∧
      (mode = .file → document.input? mode = none)) ∧
    -- The problems are reported before any change, and that is all that is shown up to then.
    (((∀ reasons, launch.1.result = .error reasons →
          flight.problems = [.spawnFailed line (Text.joinWith ": " reasons)]) ∧
        (∀ output, launch.1.result = .ok output →
          ∃ complaint, Text.TrimsTo output.stderr complaint ∧ (complaint = "" → flight.problems = []) ∧
            (complaint ≠ "" → flight.problems = [.stderr line complaint])) ∧
        ∀ text, (Problem.stderr line text).title = line) ∧
      resumed.OnlyShows (flight.problems.flatMap (noticeEvents resumed.handling)) spoken ∧
      ∀ event ∈ flight.problems.flatMap (noticeEvents resumed.handling),
        ∃ notice, event = .sent (.notification notice)) ∧
    -- Only the output for a buffer is put into a document, at last.
    (ended.2 = .ofProcess launch.1.result ∧
      (mode = .file ∨ (∃ reasons, launch.1.result = .error reasons) →
        ended.1 = spoken ∧ ended.1.documents = resumed.documents) ∧
      ∀ output, mode = .buffer → launch.1.result = .ok output →
        ended.1 = (spoken.setText handle output.stdout).setCursor handle document.cursor) := by
  intro line launch started flight resumed spoken ended
  obtain ⟨begun, flying⟩ := startProcess_eq w handle document binary arguments mode
  -- What the flight remembers is what the process was started with.
  have same : flight = ⟨handle, line, document.cursor, mode, launch.1.result, launch.1.leavesInput⟩ := flying
  refine ⟨⟨begun, ?_⟩, ⟨⟨?_, ?_, fun _ => rfl⟩, spoken_onlyShows resumed flight, ?_⟩, ?_, ?_, ?_⟩
  · rintro rfl
    rfl
  · intro reasons failed
    rw [same, failed]
    rfl
  · intro output ran
    rw [same, ran]
    exact InFlight.problems_of_output
      ⟨handle, line, document.cursor, mode, .ok output, launch.1.leavesInput⟩ rfl
  · intro event member
    obtain ⟨problem, -, shown⟩ := List.mem_flatMap.mp member
    obtain ⟨notice, -, rfl⟩ := List.mem_map.mp shown
    exact ⟨notice, rfl⟩
  · rw [finishProcess_gives, same]
    rfl
  · intro passed
    exact finishProcess_of_passed resumed flight (by simpa only [same] using passed)
  · intro output buffered ran
    have target : flight.document = handle ∧ flight.cursor = document.cursor := by rw [same]; exact ⟨rfl, rfl⟩
    have taken := finishProcess_of_output resumed flight (by rw [same]; exact ran)
      (by rw [same]; exact buffered)
    rwa [target.1, target.2] at taken

/-- A workspace in which formatters complain whatever they are given. -/
def sampleComplaining : Workspace Scripted.Tables :=
  let complaint := ⟨"black", none, 10, none, some "", none, "", "not found: x \n", some 1⟩
  { Workspace.initial (Scripted.sample [complaint]) .silent (.ofDefaults []) with
    documents := ⟨[.opened 1 ⟨"/repo/main.py"⟩ none "x = 1\n" ⟨0, 2⟩ true], [], none⟩ }

/-- The complaint is reported without the blanks at its end, and the document stays as it is. -/
theorem process_sample :
    let document := Document.opened 1 ⟨"/repo/main.py"⟩ none "x = 1\n" ⟨0, 2⟩ true
    let started := sampleComplaining.startProcess 0 document ⟨"/usr/bin/black"⟩ ["-i"] .file
    let ended := started.1.finishProcess started.2.2
    started.2.2.problems = [.stderr "/usr/bin/black -i" "not found: x"] ∧
    ended.1.documents = started.1.documents ∧
    ended.1.outlet.messages = [.notification ⟨"fmtchain: /usr/bin/black -i", some "not found: x", false⟩] := by
  intro document started ended
  -- The process works on the file, so that its output goes nowhere.
  obtain ⟨-, -, -, passed, -⟩ :=
    process_run sampleComplaining 0 document ⟨"/usr/bin/black"⟩ ["-i"] .file id
  exact ⟨by decide +kernel, (passed (.inl rfl)).2, by decide +kernel⟩

end Workspace

end FormatPipeline
