import FormatPipeline.LogLevel

/-! Writing log texts one under another, each group headed by its context. -/

namespace FormatPipeline

/-- Remembers which context the last text belonged to. -/
structure Logger where
  lastContext : String
  deriving DecidableEq, Repr

namespace Logger

/-- The context of everything that has no context of its own. -/
def defaultContext : String := "fmtchain"

/-- A writer whose texts need no heading until the context changes. -/
def initial : Logger := ⟨defaultContext⟩

/-- What is written for a text: a heading when the context changes, and a line end when it has none. -/
def write (logger : Logger) (context text : String) : String × Logger :=
  let heading := if logger.lastContext = context then "" else "[" ++ context ++ "]\n"
  let body := heading ++ text
  (if body.toList.getLast? = some '\n' then body else body ++ "\n", ⟨context⟩)

/-- What is written at a level, which is nothing if the level is silent. -/
def writeAt (logger : Logger) (level : LogLevel) (context text : String) : String × Logger :=
  if level = .silent then ("", logger) else logger.write context text

/-- What is written for texts that have no context of their own. -/
def writeAll (logger : Logger) (texts : List String) : String × Logger :=
  texts.foldl (fun (written, logger) text =>
    let (more, logger) := logger.write defaultContext text
    (written ++ more, logger)) ("", logger)

end Logger

end FormatPipeline
