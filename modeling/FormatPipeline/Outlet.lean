import FormatPipeline.LogLevel
import FormatPipeline.Message.Outgoing

/-! Everything that can be observed from outside: log texts, processes, and messages to the editor. -/

namespace FormatPipeline

/-- Something that can be observed. -/
inductive Event where
  | log (text : String)
  /-- The shell is given a command line and the text for its standard input. -/
  | spawn (line : String) (stdin : Option String)
  | sent (message : Outgoing)
  deriving DecidableEq, Repr

/-- Why a message does not reach the editor. -/
inductive SendError where
  | write | flush
  deriving DecidableEq, Repr

/-- The reasons from the outermost to the innermost. -/
def SendError.reasons : SendError → List String
  | .write => ["Error writing message.", "the pipe is closed"]
  | .flush => ["Error flushing message.", "cannot flush"]

/-- The way out: how much is logged, what has happened, and when the connection breaks. -/
structure Outlet where
  level : LogLevel
  /-- The newest event first. -/
  events : List Event
  /-- How many more messages can be written; nothing means any number. -/
  writesLeft : Option Nat
  /-- How many more messages can be flushed; nothing means any number. -/
  flushesLeft : Option Nat
  deriving DecidableEq, Repr

namespace Outlet

/-- A way out on which nothing has happened and nothing will break. -/
def ofLevel (level : LogLevel) : Outlet := ⟨level, [], none, none⟩

/-- Adds an event. -/
def record (outlet : Outlet) (event : Event) : Outlet := { outlet with events := event :: outlet.events }

/-- Logs a text if its importance reaches the level. -/
def log (outlet : Outlet) (importance : LogLevel) (text : String) : Outlet :=
  if outlet.level.logs importance then outlet.record (.log text) else outlet

/-- The word in front of warnings, in yellow. -/
def warningWord : String := "\x1b[38;5;11mWarning\x1b[39m"

/-- Logs a text as a warning. -/
def warn (outlet : Outlet) (text : String) : Outlet := outlet.log .warn (warningWord ++ " " ++ text)

/-- Writes and flushes a message; what was written counts as sent even if it cannot be flushed. -/
def trySend (outlet : Outlet) (message : Outgoing) : Outlet × Option SendError :=
  if outlet.writesLeft = some 0 then (outlet, some .write)
  else
    let written := { outlet.record (.sent message) with writesLeft := outlet.writesLeft.map (· - 1) }
    if outlet.flushesLeft = some 0 then (written, some .flush)
    else ({ written with flushesLeft := outlet.flushesLeft.map (· - 1) }, none)

/-- Sends a message; a failure is only logged. -/
def send (outlet : Outlet) (message : Outgoing) : Outlet :=
  match outlet.trySend message with
  | (outlet, none) => outlet
  | (outlet, some error) =>
    outlet.log .error ("Error sending message to the editor. " ++ ": ".intercalate error.reasons)

/-- Sends messages one after another. -/
def sendAll (outlet : Outlet) (messages : List Outgoing) : Outlet := messages.foldl send outlet

end Outlet

end FormatPipeline
