/-! How much is logged. -/

namespace FormatPipeline

/-- The levels of logging, from the most to the least talkative. -/
inductive LogLevel where
  | debug | info | warn | error | silent
  deriving DecidableEq, Repr, Inhabited

namespace LogLevel

/-- The level's place in the order. -/
def rank : LogLevel → Nat
  | debug => 0
  | info => 1
  | warn => 2
  | error => 3
  | silent => 4

/-- Whether texts of the given importance are logged at this level. -/
def logs (level importance : LogLevel) : Bool := level.rank ≤ importance.rank

/-- The level of a name. -/
def ofName? : String → Option LogLevel
  | "debug" => some debug
  | "info" => some info
  | "warn" => some warn
  | "error" => some error
  | "silent" => some silent
  | _ => none

/-- The level as a word of its own. -/
def title : LogLevel → String
  | debug => "Debug"
  | info => "Info"
  | warn => "Warn"
  | error => "Error"
  | silent => "Silent"

/-- What is said about a name that is no level. -/
def unknownName (name : String) : String := "Unknown log level: " ++ name

end LogLevel

end FormatPipeline
