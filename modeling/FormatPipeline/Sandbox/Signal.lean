import FormatPipeline.Shell.Number

/-! Signals: their numbers, their names, and what is said about what they have ended. -/

namespace FormatPipeline.Sandbox

/-- A signal that ends a shell. -/
structure Signal where
  number : Nat
  name : String
  /-- What is said about a command that the signal has ended. -/
  title : String

/-- The signals with names of their own. -/
def signals : List Signal := [
  ⟨1, "HUP", "Hangup"⟩, ⟨2, "INT", "Interrupt"⟩, ⟨3, "QUIT", "Quit"⟩,
  ⟨4, "ILL", "Illegal instruction"⟩, ⟨5, "TRAP", "Trace/breakpoint trap"⟩, ⟨6, "ABRT", "Aborted"⟩,
  ⟨7, "BUS", "Bus error"⟩, ⟨8, "FPE", "Floating point exception"⟩, ⟨9, "KILL", "Killed"⟩,
  ⟨10, "USR1", "User defined signal 1"⟩, ⟨11, "SEGV", "Segmentation fault"⟩,
  ⟨12, "USR2", "User defined signal 2"⟩, ⟨13, "PIPE", "Broken pipe"⟩, ⟨14, "ALRM", "Alarm clock"⟩,
  ⟨15, "TERM", "Terminated"⟩, ⟨16, "16", "Stack fault"⟩, ⟨17, "CHLD", "Child exited"⟩,
  ⟨18, "CONT", "Continued"⟩, ⟨19, "STOP", "Stopped (signal)"⟩, ⟨20, "TSTP", "Stopped"⟩,
  ⟨21, "TTIN", "Stopped (tty input)"⟩, ⟨22, "TTOU", "Stopped (tty output)"⟩,
  ⟨23, "URG", "Urgent I/O condition"⟩, ⟨24, "XCPU", "CPU time limit exceeded"⟩,
  ⟨25, "XFSZ", "File size limit exceeded"⟩, ⟨26, "VTALRM", "Virtual timer expired"⟩,
  ⟨27, "PROF", "Profiling timer expired"⟩, ⟨28, "WINCH", "Window changed"⟩,
  ⟨29, "IO", "I/O possible"⟩, ⟨30, "PWR", "Power failure"⟩, ⟨31, "SYS", "Bad system call"⟩]

/-- The first signal that programs can use as they like. -/
def firstFreeSignal : Nat := 34

/-- The last signal of all. -/
def lastSignal : Nat := 64

/-- The signals about which nothing is said. -/
def quietSignals : List Nat := [2, 13]

/-- The signals that end nobody. -/
def harmlessSignals : List Nat := [0, 17, 18, 23, 28]

/-- The name of a signal; zero stands for leaving the shell. -/
def signalName (number : Nat) : String :=
  if number = 0 then "EXIT"
  else match signals.find? (·.number == number) with
    | some signal => signal.name
    | none =>
      -- The free signals are counted from the nearer end.
      if number < firstFreeSignal ∨ lastSignal < number then toString number
      else if number = firstFreeSignal then "RTMIN"
      else if number < 50 then "RTMIN+" ++ toString (number - firstFreeSignal)
      else if number = lastSignal then "RTMAX"
      else "RTMAX-" ++ toString (lastSignal - number)

/-- The names of all signals, one below the other. -/
def signalNames : String :=
  String.join ("0\n" :: (List.range lastSignal).map fun i => signalName (i + 1) ++ "\n")

/-- The signal that a number stands for, or a name in any case that is not below the least one. -/
def signal? (least : Nat) (text : String) : Option Nat :=
  match Shell.decimal? text with
  | some number => if number ≤ lastSignal then some number else none
  | none =>
    let name := text.toList.map Char.toUpper
    ((List.range (lastSignal + 1)).drop least).find? fun number => (signalName number).toList == name

/-- What is said about a command that a signal has ended, if anything is. -/
def signalTitle? (signal : Nat) : Option String :=
  if quietSignals.contains signal then none
  else (signals.find? (·.number == signal)).map (·.title)

end FormatPipeline.Sandbox
