import FormatPipeline.Text.Pieces
import FormatPipeline.World.Basic

/-! A tree of files held in memory, with links that are followed as a path is walked. -/

namespace FormatPipeline.Sandbox

/-- What stands at a place of the tree. -/
inductive Node where
  | file (content : List UInt8) (executable : Bool)
  | directory
  /-- Stands for whatever the target names. -/
  | link (target : String)
  /-- A file that holds a program known by its name. -/
  | tool (name : String)
  /-- A file that stays empty whatever is written to it. -/
  | drain
  deriving DecidableEq, Repr

/-- The names on the way from the root. -/
abbrev Place := List String

/-- The places with what stands there; the root is always a directory. -/
structure Tree where
  entries : List (Place × Node)

namespace Tree

/-- A tree with nothing but its root. -/
def empty : Tree := ⟨[]⟩

/-- What stands at a place. -/
def node? (tree : Tree) (place : Place) : Option Node :=
  if place.isEmpty then some .directory else tree.entries.lookup place

/-- Puts something at a place, in whose stead it stands from then on. -/
def set (tree : Tree) (place : Place) (node : Node) : Tree :=
  ⟨(place, node) :: tree.entries.filter (·.1 != place)⟩

/-- Puts something at a place, and directories on the way to it where there is nothing. -/
def put (tree : Tree) (place : Place) (node : Node) : Tree :=
  let withParents := (List.range place.length).foldl (fun tree length =>
    let parent := place.take length
    if (tree.node? parent).isSome then tree else tree.set parent .directory) tree
  withParents.set place node

/-- Removes a place with everything below it. -/
def remove (tree : Tree) (place : Place) : Tree :=
  ⟨tree.entries.filter fun entry => !place.isPrefixOf entry.1⟩

/-- Moves a place with everything below it to another place, which is given up. -/
def move (tree : Tree) (source target : Place) : Tree :=
  if source = target then tree
  else
    let cleared := tree.remove target
    ⟨cleared.entries.map fun entry =>
      if source.isPrefixOf entry.1 then (target ++ entry.1.drop source.length, entry.2) else entry⟩

/-- Copies a place with everything below it to another place. -/
def copy (tree : Tree) (source target : Place) : Tree :=
  (tree.entries.filter fun entry => source.isPrefixOf entry.1).foldl (fun tree entry =>
    tree.set (target ++ entry.1.drop source.length) entry.2) tree

/-- Whether something stands below a place. -/
def isOccupied (tree : Tree) (place : Place) : Bool :=
  tree.entries.any fun entry => place.isPrefixOf entry.1 && entry.1 != place

/-- The names in a directory, in order. -/
def names (tree : Tree) (place : Place) : List String :=
  (tree.entries.filterMap fun entry =>
    if place.isPrefixOf entry.1 && entry.1.length == place.length + 1 then entry.1.getLast?
    else none).mergeSort (· ≤ ·)

end Tree

/-- The names in a path; a slash at its end asks for a directory, just as a dot does. -/
def namesIn (text : String) : List String :=
  let names := ((Text.pieces '/' text.toList).filter (!·.isEmpty)).map String.ofList
  if text.toList.getLast? = some '/' then names ++ ["."] else names

/-- Where the walk along a path begins. -/
def beginning (directory : Place) (text : String) : Place :=
  if text.toList.head? = some '/' then [] else directory

/-- How many links are followed on one walk. -/
def linkLimit : Nat := 40

/-- How many bytes a name can have. -/
def nameLimit : Nat := 255

/-- How many bytes a path can have. -/
def pathLimit : Nat := 4095

namespace Tree

/-- Walks along names, and leaves links on the way, with the names behind them, to a function. -/
def walkNames (tree : Tree) (follow : Bool) (onLink : Place → List String → Except ReadError Place) :
    Place → List String → Except ReadError Place
  | here, [] => .ok here
  | here, name :: rest =>
    if name = "." then tree.walkNames follow onLink here rest
    else if name = ".." then tree.walkNames follow onLink here.dropLast rest
    else if nameLimit < name.utf8ByteSize then .error .nameTooLong
    else
      let next := here ++ [name]
      match tree.node? next with
      | none => if rest.isEmpty then .ok next else .error .notFound
      | some .directory => tree.walkNames follow onLink next rest
      | some (.link target) =>
        if rest.isEmpty && !follow then .ok next
        else onLink (beginning here target) (namesIn target ++ rest)
      | some _ => if rest.isEmpty then .ok next else .error .notDirectory

/--
Walks along names and follows a number of links on the way.
At the end there may be nothing, and a link there is followed on demand.
-/
def walk (tree : Tree) (follow : Bool) : Nat → Place → List String → Except ReadError Place
  | 0 => tree.walkNames follow fun _ _ => .error .tooManyLinks
  | links + 1 => tree.walkNames follow (tree.walk follow links)

/-- The place that a path leads to, seen from a directory. -/
def locate (tree : Tree) (directory : Place) (follow : Bool) (text : String) : Except ReadError Place :=
  -- An empty path leads nowhere, not even to the directory itself.
  if text.isEmpty then .error .notFound
  else if text.toList.contains '\x00' then .error .hasNull
  else if pathLimit < text.utf8ByteSize then .error .nameTooLong
  else tree.walk follow linkLimit (beginning directory text) (namesIn text)

/-- What stands where a path leads to, or why nothing does. -/
def inspect (tree : Tree) (directory : Place) (follow : Bool) (text : String) :
    Except ReadError (Place × Node) := do
  let place ← tree.locate directory follow text
  match tree.node? place with
  | some node => return (place, node)
  | none => throw .notFound

/-- What stands where a path leads to. -/
def find? (tree : Tree) (directory : Place) (follow : Bool) (text : String) : Option Node :=
  (tree.inspect directory follow text).toOption.map (·.2)

/-- The bytes of the file that a path leads to. -/
def read (tree : Tree) (directory : Place) (text : String) : Except ReadError (List UInt8) := do
  match ← tree.inspect directory true text with
  | (_, .file content _) => return content
  | (_, .tool _) | (_, .drain) => return []
  | (_, .directory) => throw .isDirectory
  | (_, .link _) => throw .notFound

/-- Whether the node is a file that can be run. -/
def isRunnable : Option Node → Bool
  | some (.file _ executable) => executable
  | some (.tool _) => true
  | _ => false

end Tree

/-- The path from the root to a place. -/
def Place.text (place : Place) : String := "/" ++ Text.joinWith "/" place

end FormatPipeline.Sandbox
