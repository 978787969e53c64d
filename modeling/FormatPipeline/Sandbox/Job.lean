import FormatPipeline.Sandbox.Signal
import FormatPipeline.Sandbox.Tree
import FormatPipeline.Shell.Script
import FormatPipeline.Text.Utf8

/-! A shell at work in a sandbox: its files, its variables, and where its streams lead. -/

namespace FormatPipeline.Sandbox

/-- Something that several streams can share. -/
inductive Channel where
  /-- Bytes that wait to be read. -/
  | queue (bytes : List UInt8)
  /-- A file that is read and written from some byte on, or written at its end. -/
  | file (place : Place) (offset : Nat) (appends : Bool)
  deriving DecidableEq, Repr

/-- Where an open stream of a command leads. -/
inductive Endpoint where
  /-- Nothing comes from here, and what goes here is lost. -/
  | nowhere
  | channel (number : Nat)
  deriving DecidableEq, Repr

/-- The open stream of the command itself that a path stands for. -/
def streamFile? (path : String) : Option Nat :=
  match path with
  | "/dev/stdin" | "/dev/fd/0" | "/proc/self/fd/0" => some 0
  | "/dev/stdout" | "/dev/fd/1" | "/proc/self/fd/1" => some 1
  | "/dev/stderr" | "/dev/fd/2" | "/proc/self/fd/2" => some 2
  | _ => none

/-- A variable, which may be known without a value. -/
structure Variable where
  value : Option String
  /-- Whether the programs that the shell runs get to see it. -/
  exported : Bool
  /-- Whether its value can no longer be changed. -/
  fixed : Bool
  deriving DecidableEq, Repr

/-- A command that was defined by a script. -/
structure Function where
  line : Nat
  body : Shell.Script

/-- The number of the first shell. -/
def firstShell : Nat := 1000

/-- A command that the shell does not wait for. -/
structure Background where
  /-- Its place among all of them. -/
  place : Nat
  /-- The number by which it can be sent signals. -/
  number : Nat
  status : Nat
  /-- The signal that has ended it. -/
  signal : Option Nat
  /-- When it ends. -/
  ends : Nat
  /-- Whether the shell has noticed the end. -/
  noticed : Bool
  /-- Whether it belongs to the shell itself, and not to one that the shell comes from. -/
  isOwn : Bool

/-- Bytes that a command in the background writes later on. -/
structure LateWrite where
  time : Nat
  /-- The number of the command. -/
  number : Nat
  channel : Nat
  bytes : List UInt8

/-- How a part of a shell stands in the background. -/
structure Aside where
  number : Nat
  /-- When it was left alone. -/
  began : Nat
  /-- How many channels there were, all of which it shares. -/
  channels : Nat

/-- A shell at work. -/
structure Job where
  tree : Tree
  channels : List Channel
  /-- Where the open streams lead. -/
  endpoints : List (Nat × Endpoint)
  directory : Place
  /-- The path that led to the directory. -/
  route : String
  /-- The permissions that new files do not get. -/
  mask : Nat
  /-- The number by which the shell can be sent signals. -/
  number : Nat
  name : String
  arguments : List String
  bindings : List (String × Variable)
  functions : List (String × Function)
  /-- The programs that were found, with their paths. -/
  tracked : List (String × String)
  /-- The texts that stand for other texts where commands begin. -/
  aliases : List (String × String)
  /-- The letters of the options that are on. -/
  options : List Char
  /-- What is done at a signal; at the signal zero, when the shell is left. -/
  actions : List (Nat × String)
  /-- What the variables of the functions under way were before, the innermost function first. -/
  scopes : List (List (String × Option Variable))
  status : Nat
  /-- The line of the script on which the command stands. -/
  line : Nat
  /-- The line up to which the script has been read. -/
  lineRead : Nat
  /-- What complaints begin with while a text is carried out on behalf of a command. -/
  owner : String
  /-- How many loops are under way. -/
  loops : Nat
  /-- The commands in the background, the last one first. -/
  children : List Background
  /-- The number of the last command in the background. -/
  lastChild : Option Nat
  /-- The argument, counted from one, at which the search for options goes on. -/
  optionWord : Nat
  /-- How far the argument before it has been read, if there may be more options in it. -/
  optionOffset : Option Nat
  /-- The status of the last substitution in the command under way. -/
  substituted : Option Nat
  /-- The signal that has ended the shell while it made sense of a word. -/
  killed : Option Nat
  /-- Whether this is a part of the shell that has its number. -/
  isPart : Bool
  /-- The signals that parts have sent to shells, with the numbers of those. -/
  raised : List (Nat × Nat)
  /-- How many millionths of a second have passed. -/
  clock : Nat
  /-- When everything has to end. -/
  deadline : Option Nat
  /-- How this part of the shell stands in the background. -/
  aside : Option Aside
  /-- What is written later on. -/
  late : List LateWrite

/-- Whether the commands that follow still run. -/
inductive Flow where
  | proceed
  /-- The shell is left. -/
  | leave
  /-- A program took the place of the shell, and has ended. -/
  | replaced
  /-- The shell is ended by a signal. -/
  | killed (signal : Nat)
  /-- Some loops are left, the last of which may begin its next round. -/
  | unwind (loops : Nat) (again : Bool)
  /-- The function under way is left. -/
  | back
  deriving DecidableEq, Repr

/-- The program and the argument that the first line of a script asks for. -/
def interpreter? (content : List UInt8) : Option (String × List String) :=
  let isBlank (byte : UInt8) : Bool := byte == 32 || byte == 9
  match content with
  | 35 :: 33 :: rest =>
    let line := (rest.takeWhile (· != 10)).dropWhile isBlank
    let program := line.takeWhile (!isBlank ·)
    let behind := ((line.drop program.length).dropWhile isBlank).reverse.dropWhile isBlank
    let argument := if behind.isEmpty then [] else [Text.ofBytes behind.reverse]
    if program.isEmpty then none else some (Text.ofBytes program, argument)
  | _ => none

/-- Why a file cannot be run. -/
inductive Obstacle where
  | missing | denied | tooManyLinks | nameTooLong
  /-- It is no program, and asks for none. -/
  | noProgram
  /-- The words and variables for it are too long. -/
  | tooLong
  deriving DecidableEq, Repr

/-- An obstacle in the words of the shell. -/
def Obstacle.reason : Obstacle → String
  | missing => "not found"
  | denied | noProgram => "Permission denied"
  | tooManyLinks => "Too many levels of symbolic links"
  | nameTooLong => "File name too long"
  | tooLong => "Argument list too long"

/-- Where a shell keeps a name: the rank in its table. -/
def tableRank (size : Nat) (name : String) : Nat :=
  let bytes := (Text.toBytes name).map UInt8.toNat
  (bytes.headD 0 * 16 + bytes.foldl (· + ·) 0) % size

/-- Entries of which the last one stands first, in the order in which a shell's table has them. -/
def inTableOrder {α : Type} (size : Nat) (entries : List (String × α)) : List (String × α) :=
  entries.reverse.mergeSort fun a b => tableRank size a.1 ≤ tableRank size b.1

/-- What is said about a text that is no number. -/
def illegalNumber (text : String) : String := "Illegal number: " ++ text

/-- How many rows the tables of variables and aliases have. -/
def nameRows : Nat := 39

/-- How many rows the table of programs has. -/
def programRows : Nat := 31

/-- How many scripts may ask for one another to be run. -/
def scriptLimit : Nat := 5

namespace Job

/-- The variable of a name. -/
def binding? (job : Job) (name : String) : Option Variable := job.bindings.lookup name

/-- The value of a variable. -/
def value? (job : Job) (name : String) : Option String := (job.binding? name).bind (·.value)

/-- The value of a variable, or an empty one. -/
def valueOr (job : Job) (name : String) : String := (job.value? name).getD ""

/-- Where programs were found, unless a variable is changed that tells where to look for them. -/
def trackedBeside (job : Job) (name : String) : List (String × String) :=
  if name = "PATH" then [] else job.tracked

/-- Puts a variable in the place of the one with its name. -/
def setVariable (job : Job) (name : String) (changed : Variable) : Job :=
  let bindings := if (job.binding? name).isSome then
      job.bindings.map fun entry => if entry.1 = name then (name, changed) else entry
    else (name, changed) :: job.bindings
  { job with bindings := bindings, tracked := job.trackedBeside name }

/-- Forgets a variable. -/
def forget (job : Job) (name : String) : Job :=
  { job with bindings := job.bindings.filter (·.1 != name), tracked := job.trackedBeside name }

/-- Whether the value of a variable can no longer be changed. -/
def isFixed (job : Job) (name : String) : Bool := (job.binding? name).any (·.fixed)

/-- Whether an option is on. -/
def has (job : Job) (option : Char) : Bool := job.options.contains option

/-- Looks for options from some argument on. -/
def seekOptions (job : Job) (word : Nat) : Job :=
  { job with optionWord := max 1 word, optionOffset := none }

/-- Makes a variable what it was before, or what it is to be from now on. -/
def putBack (job : Job) (name : String) : Option Variable → Job
  | none => job.forget name
  | some changed =>
    let after := job.setVariable name changed
    -- Setting the count of options starts the search for them again.
    if name = "OPTIND" then after.seekOptions ((changed.value.bind Shell.count?).getD 1) else after

/-- Why a variable cannot be given a value. -/
def refusal? (job : Job) (name value : String) : Option String :=
  if job.isFixed name then some (name ++ ": is read only")
  else if name = "OPTIND" ∧ (Shell.count? value).isNone then some (illegalNumber value)
  else none

/-- Gives a variable a value. -/
def assign (job : Job) (name value : String) : Job :=
  let before := (job.binding? name).getD ⟨none, false, false⟩
  job.putBack name (some { before with value := some value, exported := before.exported || job.has 'a' })

/-- Sets the status. -/
def ended (job : Job) (status : Nat) : Job := { job with status := status }

/-- Where a stream leads, if it is open. -/
def endpoint? (job : Job) (stream : Nat) : Option Endpoint := job.endpoints.lookup stream

/-- Closes a stream. -/
def disconnect (job : Job) (stream : Nat) : Job :=
  { job with endpoints := job.endpoints.filter (·.1 != stream) }

/-- Leads a stream somewhere else. -/
def connect (job : Job) (stream : Nat) (endpoint : Endpoint) : Job :=
  { job with endpoints := (stream, endpoint) :: job.endpoints.filter (·.1 != stream) }

/-- Opens a channel. -/
def openChannel (job : Job) (channel : Channel) : Job × Nat :=
  ({ job with channels := job.channels ++ [channel] }, job.channels.length)

/-- The bytes that wait in a queue. -/
def queue (job : Job) (number : Nat) : List UInt8 :=
  match job.channels[number]? with
  | some (.queue bytes) => bytes
  | _ => []

/-- Puts a channel in the place of another one. -/
def setChannel (job : Job) (number : Nat) (channel : Channel) : Job :=
  { job with channels := job.channels.set number channel }

/-- The content of the file at a place. -/
def content (job : Job) (place : Place) : List UInt8 :=
  match job.tree.node? place with
  | some (.file content _) => content
  | _ => []

/-- Puts content into the file at a place, if it is still there. -/
def setContent (job : Job) (place : Place) (content : List UInt8) : Job :=
  match job.tree.node? place with
  | some (.file _ executable) => { job with tree := job.tree.set place (.file content executable) }
  | _ => job

/-- The channel that a stream leads to. -/
def channel? (job : Job) (stream : Nat) : Option (Nat × Channel) :=
  match job.endpoint? stream with
  | some (.channel number) => job.channels[number]?.map (number, ·)
  | _ => none

/-- The bytes that can be read from a stream. -/
def input (job : Job) (stream : Nat) : List UInt8 :=
  match job.channel? stream with
  | some (_, .queue bytes) => bytes
  | some (_, .file place offset _) => (job.content place).drop offset
  | none => []

/-- Takes bytes from a stream. -/
def advance (job : Job) (stream count : Nat) : Job :=
  match job.channel? stream with
  | some (number, .queue bytes) => job.setChannel number (.queue (bytes.drop count))
  | some (number, .file place offset appends) =>
    -- A place behind the end of the file stays where it is.
    let offset := min (offset + count) (max offset (job.content place).length)
    job.setChannel number (.file place offset appends)
  | none => job

/-- Takes everything from a stream. -/
def drainInput (job : Job) (stream : Nat) : List UInt8 × Job :=
  let bytes := job.input stream
  (bytes, job.advance stream bytes.length)

/-- Content with bytes in it from some byte on. -/
def overwrite (content : List UInt8) (offset : Nat) (bytes : List UInt8) : List UInt8 :=
  let lead := content.take offset
  lead ++ List.replicate (offset - lead.length) 0 ++ bytes ++ content.drop (offset + bytes.length)

/-- Writes bytes to a channel at once. -/
def putBytes (job : Job) (number : Nat) (bytes : List UInt8) : Job :=
  match job.channels[number]? with
  | some (.queue waiting) => job.setChannel number (.queue (waiting ++ bytes))
  | some (.file place offset appends) =>
    let content := job.content place
    -- The end of the file is looked for each time, since others may have written to it.
    let offset := if appends then content.length else offset
    (job.setContent place (overwrite content offset bytes)).setChannel number
      (.file place (offset + bytes.length) appends)
  | none => job

/-- Writes bytes to a channel, which takes them later on from a command that is ahead of its time. -/
def writeChannel (job : Job) (number : Nat) (bytes : List UInt8) : Job :=
  match job.aside.filter fun aside => aside.began < job.clock && number < aside.channels with
  | some aside => { job with late := job.late ++ [⟨job.clock, aside.number, number, bytes⟩] }
  | none => job.putBytes number bytes

/-- Writes what is written later on, as far as its time has come. -/
def deliver (job : Job) (isDue : LateWrite → Bool) : Job :=
  if job.late.isEmpty then job
  else
    let due := (job.late.filter isDue).mergeSort fun a b => a.time ≤ b.time
    due.foldl (fun job write => job.putBytes write.channel write.bytes)
      { job with late := job.late.filter (!isDue ·) }

/-- Notices what has come to its end, and writes what is due by now. -/
def catchUp (job : Job) : Job :=
  let children := job.children.map fun child =>
    if child.ends ≤ job.clock then { child with noticed := true } else child
  let job := { job with children := children }
  if job.aside.isSome then job else job.deliver (·.time ≤ job.clock)

/-- Whether everything has to end by now. -/
def isExpired (job : Job) : Bool := job.deadline.any (· ≤ job.clock)

/-- Lets time pass up to some moment, or up to the one at which everything has to end. -/
def waitUntil (job : Job) (time : Nat) : Job :=
  let time := max job.clock time
  { job with clock := (job.deadline.map (min time)).getD time }

/-- Writes bytes to a stream. -/
def writeBytes (job : Job) (stream : Nat) (bytes : List UInt8) : Job :=
  match job.endpoint? stream with
  | some (.channel number) => if bytes.isEmpty then job else job.writeChannel number bytes
  | some .nowhere | none => job

/-- Writes a text to a stream. -/
def write (job : Job) (stream : Nat) (text : String) : Job := job.writeBytes stream (Text.toBytes text)

/-- Says on the error stream what went wrong, and sets the status. -/
def fail (job : Job) (status : Nat) (text : String) : Job := (job.write 2 (text ++ "\n")).ended status

/-- Says what went wrong on the line of the script. -/
def complain (job : Job) (status : Nat) (text : String) : Job :=
  job.fail status (job.name ++ ": " ++ toString job.line ++ ": " ++ text)

/-- Says what went wrong on the line of the script, on behalf of the command that carries it out. -/
def protest (job : Job) (status : Nat) (text : String) : Job := job.complain status (job.owner ++ text)

/-- What a path leads to. -/
def find? (job : Job) (text : String) : Option Node := job.tree.find? job.directory true text

/-- The directories in which commands are looked for if nobody says where. -/
def usualPath : String := "/bin:/usr/bin"

/-- The directories in which commands are looked for; a shell that has forgotten them looks nowhere. -/
def searchPath (job : Job) : List String :=
  match job.binding? "PATH" with
  | none => (Text.pieces ':' usualPath.toList).map .ofList
  | some path => match path.value with
    | none => []
    | some text => (Text.pieces ':' text.toList).map .ofList

/-- The paths that a name without a slash can stand for; one without a text stands for the directory itself. -/
def candidates (job : Job) (name : String) : List String :=
  job.searchPath.map fun directory => if directory.isEmpty then name else directory ++ "/" ++ name

/-- The file that a command name stands for; a name with a slash stands for itself. -/
def program? (job : Job) (name : String) : Option String :=
  if name.isEmpty then none
  else if name.toList.contains '/' then some name
  else (job.candidates name).find? fun path => Tree.isRunnable (job.find? path)

/-- What is in the way of running the file at a path, some scripts away from the first one. -/
def obstacleBehind? (job : Job) : Nat → String → Option Obstacle
  | 0, _ => some .tooManyLinks
  | scripts + 1, path =>
    match job.tree.inspect job.directory true path with
    | .error .tooManyLinks => some .tooManyLinks
    | .error .nameTooLong => some .nameTooLong
    | .error _ => some .missing
    | .ok (_, .tool _) => none
    | .ok (_, .file content true) =>
      match interpreter? content with
      | some (program, _) => job.obstacleBehind? scripts program
      | none => some .noProgram
    | .ok _ => some .denied

/-- What is in the way of running the file at a path. -/
def obstacle? (job : Job) (path : String) : Option Obstacle := job.obstacleBehind? scriptLimit path

/-- The file that a command name stands for, or the reason why there is none. -/
def executable? (job : Job) (name : String) : Except String (String × Node) :=
  let known := (job.tracked.lookup name).filter fun path => Tree.isRunnable (job.find? path)
  match (known.or (job.program? name)).bind fun path => (job.find? path).map (path, ·) with
  | some (path, node) =>
    match job.obstacle? path with
    -- The shell itself makes sense of a file that is no program.
    | none => .ok (path, node)
    | some .noProgram => if Tree.isRunnable (some node) then .ok (path, node) else .error "Permission denied"
    | some obstacle => .error obstacle.reason
  | none =>
    if name.toList.contains '/' then .error (((job.obstacle? name).getD .missing).reason)
    else
      -- The last reason worth telling counts.
      let obstacles := (job.candidates name).filterMap job.obstacle?
      .error (((obstacles.filter (· != .missing)).getLast?.getD .missing).reason)

/-- A job that remembers where the program of a name is. -/
def track (job : Job) (name : String) : Job :=
  if name.toList.contains '/' || (job.tracked.lookup name).isSome then job
  else match job.executable? name with
    | .ok (path, _) => { job with tracked := (name, path) :: job.tracked }
    | .error _ => job

/-- The status that tells why a program could not take over. -/
def refusalStatus (reason : String) : Nat := if reason = "Permission denied" then 126 else 127

/-- Takes over what a job that was derived from this one does to files and to other jobs. -/
def share (job later : Job) : Job :=
  { job with tree := later.tree, channels := later.channels, raised := later.raised, late := later.late }

/-- The commands in the background of the shell itself, the last one first. -/
def ownChildren (job : Job) : List Background := job.children.filter (·.isOwn)

/-- The commands in the background as a job has left them that was derived from this one. -/
def childrenAfter (job later : Job) : List Background :=
  job.children.map fun child =>
    match later.children.find? (·.number == child.number) with
    | some left => { child with status := left.status, signal := left.signal, ends := left.ends }
    | none => child

/--
Takes over what lasts from a job that was derived from this one, which has come to its end.
Of a status only the lowest eight bits are left.
-/
def resume (job later : Job) : Job :=
  { job.share later with
    status := later.status % 256
    clock := later.clock
    children := job.childrenAfter later }.catchUp

/-- Says about a command that a signal has ended it. -/
def reportSignal (job : Job) (signal : Nat) : Job :=
  match signalTitle? signal with
  | some title => job.fail (128 + signal) title
  | none => job.ended (128 + signal)

/-- A shell like this one that works on its own; only what is ignored stays ignored. -/
def child (job : Job) : Job :=
  { job with
    actions := job.actions.filter fun action => action.2.isEmpty && action.1 != 0
    children := job.children.map ({ · with isOwn := false })
    lineRead := 1
    isPart := true }

/-- The signal, among those that parts have sent to the shell, that ends it at once. -/
def deadlySignal? (job : Job) : Option Nat :=
  if job.isPart then none
  else
    let mine := (job.raised.filter (·.1 == job.number)).map (·.2)
    mine.find? fun signal => signal == 9 || (job.actions.lookup signal).isNone

/-- A job in which nothing is written later on to a channel that everybody has left. -/
def collect (job : Job) (channel : Nat) : Job :=
  let ends := (job.late.filter (·.channel == channel)).foldl (fun time write => max time write.time) job.clock
  (job.waitUntil ends).deliver (·.channel == channel)

/-- The variables that the programs get to see. -/
def exports (job : Job) : List (String × String) :=
  job.bindings.filterMap fun entry =>
    if entry.2.exported then entry.2.value.map (entry.1, ·) else none

/-- How many bytes a word that a program gets can have. -/
def wordLimit : Nat := 131071

/-- How many bytes there are for all words and variables that a program gets, and for where they begin. -/
def handoverLimit : Nat := 2097152

/-- Whether the words of a command, with the variables that its program gets to see, are too long. -/
def isTooLong (job : Job) (words : List String) : Bool :=
  let texts := words ++ job.exports.map fun (name, value) => name ++ "=" ++ value
  let sizes := texts.map String.utf8ByteSize
  sizes.any (wordLimit < ·) || handoverLimit < (sizes.map (· + 9)).foldl (· + ·) 0

end Job

end FormatPipeline.Sandbox
