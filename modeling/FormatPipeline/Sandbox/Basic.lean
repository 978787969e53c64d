import FormatPipeline.Sandbox.Interpreter

/-! A world held in memory: a tree of files, a home directory, and a shell that runs command lines. -/

namespace FormatPipeline

/-- A world held in memory. -/
structure Sandbox where
  tree : Sandbox.Tree
  home : Option String
  /-- The directories in which commands are looked for. -/
  searchPath : List String
  /-- The directory in which relative paths begin. -/
  directory : Sandbox.Place

namespace Sandbox

/-- What a path leads to. -/
def find? (sandbox : Sandbox) (follow : Bool) (path : String) : Option Node :=
  sandbox.tree.find? sandbox.directory follow path

/-- Whether a path leads to a file that can be run. -/
def isRunnable (sandbox : Sandbox) (path : String) : Bool := Tree.isRunnable (sandbox.find? true path)

/-- The binary that a name stands for: a path to itself, and any other name to the first one found. -/
def which (sandbox : Sandbox) (name : String) : Option Path :=
  let named : Path := ⟨name⟩
  if 1 < named.components.length then
    let path := (Path.mk (Place.text sandbox.directory)).join name
    if sandbox.isRunnable path.text then some path else none
  else if name.isEmpty then none
  else (sandbox.searchPath.map fun directory => (Path.mk directory).join name).find? fun path =>
    sandbox.isRunnable path.text

/-- What can be found out about files and commands. -/
def files (sandbox : Sandbox) : FileSystem where
  pathExists path := (sandbox.find? false path.text).isSome
  isReadable path := (sandbox.find? true path.text).isSome
  isExecutable path := sandbox.isRunnable path.text
  home := sandbox.home.map Path.mk
  which := sandbox.which

/-- The text of a file. -/
def readText (sandbox : Sandbox) (path : Path) : Except ReadError String := do
  let bytes ← sandbox.tree.read sandbox.directory path.text
  match Text.utf8Fault? bytes with
  | none => return Text.ofBytes bytes
  | some _ => throw .notUtf8

/-- How deep commands may nest before they are given up. -/
def commandLimit : Nat := 60000

/-- The shell before it has seen its command line; only the input stream may lead nowhere. -/
def newJob (sandbox : Sandbox) (stdin : Option String) : Job where
  tree := sandbox.tree
  channels := [.queue ((stdin.map Text.toBytes).getD []), .queue [], .queue []]
  endpoints := [(0, if stdin.isSome then .channel 0 else .nowhere), (1, .channel 1), (2, .channel 2)]
  directory := sandbox.directory
  route := Place.text sandbox.directory
  mask := 18
  number := firstShell
  name := "sh"
  arguments := []
  bindings :=
    let known := (sandbox.home.map (("HOME", ·))).toList ++
      [("PATH", Text.joinWith ":" sandbox.searchPath)]
    known.map fun (name, value) => (name, ⟨some value, true, false⟩)
  functions := []
  tracked := []
  aliases := []
  options := []
  actions := []
  scopes := []
  status := 0
  line := 1
  lineRead := 1
  owner := ""
  loops := 0
  children := []
  lastChild := none
  optionWord := 1
  optionOffset := none
  substituted := none
  killed := none
  isPart := false
  raised := []
  clock := 0
  deadline := none
  aside := none
  late := []

/-- How many bytes can wait for a process that does not read them. -/
def pipeCapacity : Nat := 65536

/-- What is said about an obstacle to the shell itself. -/
def obstacleMessage : Obstacle → String
  | .missing => ReadError.notFound.message
  | .denied => "Permission denied (os error 13)"
  | .noProgram => "Exec format error (os error 8)"
  | .tooManyLinks => ReadError.tooManyLinks.message
  | .nameTooLong => ReadError.nameTooLong.message
  | .tooLong => "Argument list too long (os error 7)"

/--
The file of the shell: the first one of several paths that can be run.
A file that must not be run is passed over, but one that is no program ends the search.
-/
def findShell (job : Job) : List String → Bool → Except Obstacle String
  | [], denied => .error (if denied then .denied else .missing)
  | path :: rest, denied =>
    match job.obstacle? path with
    | none => .ok path
    | some .missing => findShell job rest denied
    | some .denied => findShell job rest true
    | some obstacle => .error obstacle

/-- The shell that can run a command line, or why there is none. -/
def shellFor (job : Job) (line : String) : Except String String :=
  -- No program can be given a text with a null character in it.
  if line.toList.contains '\x00' then .error "nul byte found in provided data"
  else match findShell job (job.candidates "sh") false with
    | .error obstacle => .error (obstacleMessage obstacle)
    | .ok path => if job.isTooLong ["sh", "-c", line] then .error (obstacleMessage .tooLong) else .ok path

/-- Why a command line is not run, in the words of the one who wanted it. -/
def withoutShell (line reason : String) : List String := ["Failed spawning shell for: " ++ line, reason]

/-- Runs a command line in the shell, if there is one for it. -/
def launch (sandbox : Sandbox) (line : String) (stdin : Option String) : Launch × Sandbox :=
  let job := sandbox.newJob stdin
  match shellFor job line with
  | .error reason => (⟨0, .error (withoutShell line reason), false⟩, sandbox)
  | .ok path =>
    let node := (job.find? path).getD (.tool "sh")
    let (job, flow) := runProgram commandLimit job node path "sh" ["-c", line]
    -- The streams are open until the last command in the background has come to its end.
    let job := job.deliver fun _ => true
    let exitCode : Option Int := match flow with
      | .killed _ => none
      | _ => some (job.status % 256 : Nat)
    (⟨1, .ok ⟨Text.ofBytes (job.queue 1), Text.ofBytes (job.queue 2), exitCode⟩,
        pipeCapacity < (job.queue 0).length⟩,
      { sandbox with tree := job.tree })

/-- The directories that hold the programs of every sandbox. -/
def toolDirectory : Place := ["usr", "bin"]

/-- The programs of every sandbox. -/
def toolNames : List String := tools.map (·.1) ++ wrappers.map (·.name) ++ ["dash", "env", "sh", "xargs"]

/-- A tree with nothing in it but the programs of every sandbox, and a drain. -/
def baseTree : Tree :=
  let filled := toolNames.foldl (fun tree name => tree.put (toolDirectory ++ [name]) (.tool name))
    Tree.empty
  (filled.put ["bin"] (.link "usr/bin")).put ["dev", "null"] .drain

end Sandbox

/-- The world in memory. -/
instance : World Sandbox where
  files := Sandbox.files
  readFile := Sandbox.readText
  launch := Sandbox.launch

end FormatPipeline
