import FormatPipeline.Sandbox.Tools.Columns
import FormatPipeline.Sandbox.Tools.Dumping
import FormatPipeline.Sandbox.Tools.Editing.Run
import FormatPipeline.Sandbox.Tools.Looking
import FormatPipeline.Sandbox.Tools.Matching

/-! The programs of every sandbox, by their names. -/

namespace FormatPipeline.Sandbox

/-- A program that does nothing and ends with a status. -/
def ending (status : Nat) : Tool := fun job _ _ => job.ended status

/-- The programs that run no other programs. -/
def tools : List (String × Tool) := [
  ("[", runTestTool true), ("arch", saying "x86_64"), ("base64", runBase64), ("basename", runBasename),
  ("cat", runCat), ("chmod", runChmod), ("cmp", runCmp), ("comm", runComm), ("cp", runCp),
  ("cut", runCut), ("dirname", runDirname), ("echo", runEchoTool), ("egrep", runGrepAs "E"),
  ("expand", runExpand), ("expr", runExpr), ("false", ending 1), ("fgrep", runGrepAs "F"), ("fold", runFold),
  ("grep", runGrep), ("head", runHead), ("id", runId), ("ln", runLn), ("ls", runLs),
  ("mkdir", runMkdir), ("mktemp", runMktemp), ("mv", runMv), ("nl", runNl), ("od", runOd),
  ("paste", runPaste), ("printenv", runPrintenv), ("printf", runPrintfTool), ("pwd", runPwdTool),
  ("readlink", runReadlink), ("realpath", runRealpath), ("rev", runRev), ("rm", runRm),
  ("rmdir", runRmdir), ("sed", runSed), ("seq", runSeq), ("sleep", runSleep), ("sort", runSort),
  ("sync", ending 0), ("tac", runTac), ("tail", runTail), ("tee", runTee),
  ("test", runTestTool false), ("touch", runTouch), ("tr", runTr), ("true", ending 0),
  ("tty", runTty), ("uname", runUname), ("uniq", runUniq), ("unlink", runUnlink), ("wc", runWc),
  ("which", runWhich), ("whoami", saying "root"), ("yes", runYes)]

/-- Runs a program that runs no other programs. -/
def runTool (tool : String) (job : Job) (name : String) (arguments : List String) : Job :=
  match tools.lookup tool with
  | some run => run job name arguments
  | none => job

end FormatPipeline.Sandbox
