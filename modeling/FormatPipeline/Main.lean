import FormatPipeline.Program
import FormatPipeline.Sandbox.Basic

/-! The program at a terminal: it runs in a sandbox into which its settings file is copied. -/

namespace FormatPipeline

/-- Reads a stream to its end. -/
partial def readAll (stream : IO.FS.Stream) (bytes : ByteArray) : IO ByteArray := do
  let chunk ← stream.read 4096
  if chunk.isEmpty then return bytes
  readAll stream (bytes ++ chunk)

/-- A sandbox with a home and a working directory and nothing else. -/
def emptySandbox (home : Option String) (directory : Sandbox.Place) : Sandbox :=
  ⟨Sandbox.baseTree.put directory .directory, home, ["/usr/bin", "/bin"], directory⟩

/-- Copies the settings file that the command line names into the sandbox, if there is one. -/
def copySettings (sandbox : Sandbox) (words : List String) : IO Sandbox := do
  let .ok request := CommandLine.parse words | return sandbox
  let some entry := request.config | return sandbox
  let path := Path.expandHome (sandbox.home.map Path.mk) entry
  let place := Sandbox.beginning sandbox.directory path.text ++ Sandbox.namesIn path.text
  try
    let bytes ← IO.FS.readBinFile path.text
    return { sandbox with tree := sandbox.tree.put place (.file bytes.toList false) }
  catch _ => return sandbox

end FormatPipeline

open FormatPipeline in
/-- Runs the program on its arguments and its whole input. -/
def main (arguments : List String) : IO UInt32 := do
  let words := CommandLine.programName :: arguments
  let directory := Sandbox.namesIn (← IO.currentDir).toString
  let sandbox ← copySettings (emptySandbox (← IO.getEnv "HOME") directory) words
  let input ← readAll (← IO.getStdin) .empty
  let outcome := Program.run sandbox words [.bytes input.toList]
  (← IO.getStdout).putStr outcome.output
  (← IO.getStderr).putStr outcome.errors
  return .ofNat outcome.exitCode
