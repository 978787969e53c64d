import FormatPipeline.World.Basic

/-! Searching a directory and those around it, and counting what the search asks. -/

namespace FormatPipeline

/-- A result and the number of questions about files that were asked for it. -/
structure Probed (α : Type) where
  value : α
  probes : Nat

namespace Probed

instance : Monad Probed where
  pure value := ⟨value, 0⟩
  bind first next :=
    let second := next first.value
    ⟨second.value, first.probes + second.probes⟩

/-- One question about a file with its answer. -/
def ask (answer : Bool) : Probed Bool := ⟨answer, 1⟩

@[simp] theorem value_pure {α : Type} (value : α) : (pure value : Probed α).value = value := rfl

@[simp] theorem value_bind {α β : Type} (first : Probed α) (next : α → Probed β) :
    (first >>= next).value = (next first.value).value := rfl

@[simp] theorem value_ask (answer : Bool) : (ask answer).value = answer := rfl

end Probed

/-- The entry that marks the outermost directory of a repository. -/
def repositoryMarker : String := ".git"

namespace Lookup

/-- The first of the names that is readable in the directory. -/
def inDirectory (files : FileSystem) (directory : Path) : List String → Probed (Option Path)
  | [] => pure none
  | name :: rest => do
    let candidate := directory.join name
    if ← Probed.ask (files.isReadable candidate) then return some candidate
    inDirectory files directory rest

/-- The first readable name in the innermost directory that has one, up to the end of the repository. -/
def inDirectories (files : FileSystem) (names : List String) : List Path → Probed (Option Path)
  | [] => pure none
  | directory :: outer => do
    match ← inDirectory files directory names with
    | some found => return some found
    | none =>
      -- The directory that holds the marker is the last one to be searched.
      if ← Probed.ask (files.pathExists (directory.join repositoryMarker)) then return none
      inDirectories files names outer

/-- Searches the directory and those around it for the names; the innermost directory wins. -/
def firstUpward (files : FileSystem) (start : Path) (names : List String) : Probed (Option Path) :=
  -- Without names not even the end of the repository is asked for.
  if names.isEmpty then pure none else inDirectories files names start.ancestors

/-- Searches the directory and those around it for one name. -/
def upward (files : FileSystem) (start : Path) (name : String) : Probed (Option Path) :=
  firstUpward files start [name]

/-- Searches for the names from the directory that holds the file. -/
def firstAround (files : FileSystem) (file : Path) (names : List String) : Probed (Option Path) :=
  match file.parent? with
  | none => pure none
  | some directory => firstUpward files directory names

end Lookup

end FormatPipeline
