import FormatPipeline.Sandbox.Condition
import FormatPipeline.Sandbox.Permission
import FormatPipeline.Sandbox.Printing

/-! The commands that a shell carries out by itself: printing, testing and leaving. -/

namespace FormatPipeline.Sandbox

/-- What a command leaves behind, and whether those behind it still run. -/
abbrev Outcome := Job × Flow

namespace Job

/-- Goes on with a status. -/
def done (job : Job) (status : Nat) : Outcome := (job.ended status, .proceed)

/-- Gives up a command. -/
def refuse (job : Job) (command text : String) : Outcome :=
  (job.complain 2 (command ++ ": " ++ text), .proceed)

/-- Gives up a command that the shell cannot do without. -/
def abort (job : Job) (command text : String) : Outcome :=
  (job.complain 2 (command ++ ": " ++ text), .leave)

/-- Prints what a command has to say, unless there is nowhere to print it. -/
def publish (job : Job) (command : String) (bytes : List UInt8) (status : Nat) : Outcome :=
  if bytes.isEmpty || (job.endpoint? 1).isSome then (job.writeBytes 1 bytes).done status
  else (job.complain 1 (command ++ ": " ++ command ++ ": I/O error"), .proceed)

/-- Prints a text that a command has to say. -/
def report (job : Job) (command text : String) : Outcome :=
  job.publish command (Text.toBytes text) 0

end Job

/-- A text between single quotes, as the shell reads it. -/
def singleQuoted (text : String) : String :=
  -- Single quotes themselves stand between double quotes.
  "'" ++ Text.joinWith "'\"'\"'" ((Text.pieces '\'' text.toList).map String.ofList) ++ "'"

/-- The options at the front of words, up to a word that is none, and the other words. -/
def leadingOptions : List String → List Char × List String
  | [] => ([], [])
  | "--" :: rest => ([], rest)
  | word :: rest =>
    match word.toList with
    | '-' :: c :: letters =>
      let (others, rest) := leadingOptions rest
      (c :: letters ++ others, rest)
    | _ => ([], word :: rest)

/-- The first option that is not among those that are known. -/
def unknownOption? (known : String) (options : List Char) : Option Char :=
  options.find? fun option => !known.toList.contains option

/-- What is said about an option that is not known. -/
def illegalOption (option : Char) : String := "Illegal option -" ++ option.toString

/-- Prints with a format. -/
def runPrintf (job : Job) (arguments : List String) : Outcome :=
  match arguments with
  | "--" :: format :: rest => print format rest
  | format :: rest =>
    match format.toList with
    | '-' :: c :: _ => job.refuse "printf" (illegalOption c)
    | _ => print format rest
  | [] => job.refuse "printf" "usage: printf format [arg ...]"
where
  /-- Prints arguments with a format and tells what was wrong with them. -/
  print (format : String) (arguments : List String) : Outcome :=
    let printed := printFormatted format arguments
    let job := printed.complaints.foldl (fun job fault => job.complain 1 ("printf: " ++ fault.message)) job
    let status := printed.failure.getD (if printed.complaints.isEmpty then 0 else 1)
    job.publish "printf" printed.bytes status

/-- Tests a condition. -/
def runTest (job : Job) (name : String) (arguments : List String) : Outcome :=
  match condition job arguments with
  | .ok holds => job.done (if holds then 0 else 1)
  | .error fault => job.refuse name fault.message

/-- Leaves the shell or a function with a status, if that is a number. -/
def runLeaving (job : Job) (name : String) (flow : Flow) (arguments : List String) : Outcome :=
  match arguments with
  | [] => (job, flow)
  | word :: _ =>
    match Shell.count? word with
    | some status => (job.ended status, flow)
    | none => job.abort name (illegalNumber word)

/-- Leaves loops or begins their next rounds. -/
def runUnwinding (job : Job) (name : String) (again : Bool) (arguments : List String) : Outcome :=
  match arguments with
  | [] => unwind 1
  | word :: _ =>
    match (Shell.count? word).filter (0 < ·) with
    | some count => unwind count
    | none => job.abort name (illegalNumber word)
where
  /-- Leaves as many loops as there are. -/
  unwind (count : Nat) : Outcome :=
    match min count job.loops with
    | 0 => job.done 0
    | loops => (job.ended 0, .unwind loops again)

/-- How signals are sent. -/
def killUsage : String :=
  "Usage: kill [-s sigspec | -signum | -sigspec] [pid | job]... or\nkill -l [exitstatus]"

/-- The command in the background that a word with a percent sign means. -/
def Job.background? (job : Job) (word : String) : Except String Background :=
  let (child?, complaint) := match word.toList.drop 1 with
    | [] | ['%'] | ['+'] => (job.ownChildren.head?, "No current job")
    | ['-'] => (job.ownChildren.tail.head?, "No previous job")
    | digits =>
      ((Shell.decimal? (.ofList digits)).bind fun place => job.ownChildren.find? (·.place == place),
        "No such job: " ++ word)
  match child? with
  | some child => .ok child
  | none => .error complaint

/-- Ends a command in the background by a signal, together with what it would still write. -/
def Job.strike (job : Job) (child : Background) (signal : Nat) : Job :=
  if harmlessSignals.contains signal then job
  else
    let struck := { child with status := 128 + signal, signal := some signal, ends := job.clock }
    { job with
      children := job.children.map fun (other : Background) => if other.number = child.number then struck else other
      late := job.late.filter fun write => write.number != child.number || write.time ≤ job.clock }

/-- Sends a signal to the shell itself, to those that it is a part of, or to commands in the
background; nobody else can be reached. -/
def sendSignal (job : Job) (signal status : Nat) : List String → Outcome
  | [] => job.done status
  | target :: others =>
    let miss : Outcome := sendSignal (job.complain 1 "kill: No such process\n") signal 1 others
    match target.toList with
    | '%' :: _ =>
      match job.background? target with
      | .error text => job.refuse "kill" text
      -- Commands in the background do not form groups.
      | .ok _ => miss
    | '-' :: digits =>
      if (Shell.count? (.ofList digits)).isNone then job.refuse "kill" (illegalNumber (.ofList digits))
      else miss
    | _ =>
      match Shell.count? target with
      | none => job.refuse "kill" (illegalNumber target)
      | some number =>
        match job.children.find? fun child => child.number == number && !child.noticed with
        | some child => sendSignal (job.strike child signal) signal status others
        | none =>
          if number < firstShell ∨ job.number < number then miss
          else if harmlessSignals.contains signal then sendSignal job signal status others
          else if number = job.number ∧ ¬ job.isPart then (job.ended 0, .killed signal)
          else sendSignal { job with raised := job.raised ++ [(number, signal)] } signal status others

/-- What the options of a command that sends signals ask for. -/
structure KillRequest where
  /-- Whether signals are named and not sent. -/
  names : Bool
  signal : Option Nat

/-- Reads the options in front of other words; the name of a signal may be awaited. -/
def readKillOptions (isAwaited : Bool) (request : KillRequest) :
    List String → Except String (KillRequest × List String)
  | [] => if isAwaited then .error "No arg for -s option" else .ok (request, [])
  | word :: rest => do
    let choose (request : KillRequest) (name : String) : Except String KillRequest :=
      match signal? 1 name with
      | some signal => .ok { request with signal := some signal }
      | none => .error ("invalid signal number or name: " ++ name)
    if isAwaited then
      readKillOptions false (← choose request word) rest
    else match word.toList with
      | ['-', '-'] => .ok (request, rest)
      | '-' :: c :: cs =>
        let flags := (c :: cs).takeWhile (· == 'l')
        let request := if flags.isEmpty then request else { request with names := true }
        match (c :: cs).drop flags.length with
        | [] => readKillOptions false request rest
        | ['s'] => readKillOptions true request rest
        | 's' :: name => readKillOptions false (← choose request (.ofList name)) rest
        | option :: _ => .error (illegalOption option)
      | _ => .ok (request, word :: rest)

/-- Sends a signal to the shells that the arguments number, or names signals. -/
def runKill (job : Job) (arguments : List String) : Outcome :=
  -- A signal can stand directly behind the first dash.
  let direct := arguments.head?.bind fun word =>
    if word.toList.head? = some '-' then signal? 1 (.ofList word.toList.tail) else none
  let read : Except String (KillRequest × List String) := match direct with
    | some signal => .ok (⟨false, some signal⟩, arguments.tail)
    | none => readKillOptions false ⟨false, none⟩ arguments
  match read with
  | .error text => job.refuse "kill" text
  | .ok (⟨false, signal⟩, targets) =>
    if targets.isEmpty then job.refuse "kill" killUsage
    else sendSignal job (signal.getD 15) 0 targets
  | .ok (⟨true, some _⟩, _ :: _) => job.refuse "kill" killUsage
  | .ok (⟨true, _⟩, []) => job.report "kill" signalNames
  | .ok (⟨true, none⟩, word :: _) =>
    match Shell.count? word with
    | none => job.refuse "kill" (illegalNumber word)
    | some number =>
      -- The status of a command that a signal has ended stands for the signal, too.
      let signal := if 128 < number then number - 128 else number
      if signal = 0 ∨ lastSignal < signal then
        job.refuse "kill" ("invalid signal number or exit status: " ++ word)
      else job.report "kill" (signalName signal ++ "\n")

/-- Waits for a command in the background; a signal that has ended it is told if it is news. -/
def Job.waitFor (job : Job) (child : Background) : Job :=
  let isNews := !child.noticed
  let job := (job.waitUntil child.ends).catchUp
  let job := { job with
    children := job.children.map fun (other : Background) =>
      if other.number = child.number then { other with noticed := true } else other }
  match child.signal.filter fun _ => isNews with
  | some signal => job.reportSignal signal
  | none => job.ended child.status

/-- Waits for the commands in the background that words mean. -/
def waitForAll (job : Job) : List String → Outcome
  | [] => (job, .proceed)
  | word :: rest =>
    if word.toList.head? = some '%' then
      match job.background? word with
      | .error text => job.refuse "wait" text
      | .ok child => waitForAll (job.waitFor child) rest
    else match Shell.count? word with
      | none => job.refuse "wait" (illegalNumber word)
      | some number =>
        match job.ownChildren.find? (·.number == number) with
        | some child => waitForAll (job.waitFor child) rest
        | none => waitForAll job rest

/-- Waits for commands in the background. -/
def runWait (job : Job) (arguments : List String) : Outcome :=
  match leadingOptions arguments with
  | (option :: _, _) => job.refuse "wait" (illegalOption option)
  | ([], []) =>
    let ends := job.ownChildren.foldl (fun time child => max time child.ends) job.clock
    (job.waitUntil ends).catchUp.done 0
  | ([], words) => waitForAll (job.ended 127) words

/-- How a command in the background does. -/
def Background.state (child : Background) (clock : Nat) : String :=
  if !child.noticed || clock < child.ends then "Running"
  else match child.signal.bind signalTitle?, child.status with
    | some title, _ => title
    | none, 0 => "Done"
    | none, status => "Done(" ++ toString status ++ ")"

/-- Shows the commands in the background; those that have come to their end are forgotten. -/
def runJobs (job : Job) (arguments : List String) : Outcome :=
  match leadingOptions arguments with
  | (options, _) =>
    match unknownOption? "lp" options with
    | some option => job.refuse "jobs" (illegalOption option)
    | none =>
      let marked := job.ownChildren.zip ("+" :: "-" :: job.children.map fun _ => " ")
      let lines := marked.map fun (child, mark) =>
        let number := toString child.number
        if options.contains 'p' then number
        else
          let text := "[" ++ toString child.place ++ "] " ++ mark ++ " " ++
            (if options.contains 'l' then number ++ " " else "") ++ child.state job.clock
          text ++ String.ofList (List.replicate (max 1 (33 - text.length)) ' ')
      let left := job.children.filter fun child => !child.isOwn || child.state job.clock == "Running"
      ({ job with children := left }.report "jobs" (String.join (lines.map (· ++ "\n"))))

/-- Refuses to bring a command back, since none of them can be stopped. -/
def runRevival (job : Job) (name : String) (arguments : List String) : Outcome :=
  match leadingOptions arguments with
  | (option :: _, _) => job.refuse name (illegalOption option)
  | ([], words) =>
    let word := words.head?
    match job.background? (word.getD "%") with
    | .error text => job.refuse name text
    | .ok _ => job.refuse name ("job " ++ word.getD "(null)" ++ " not created under job control")

/-- Chooses the permissions that new files do not get. -/
def runUmask (job : Job) (arguments : List String) : Outcome :=
  let octal (n : Nat) : String :=
    let digits := Nat.toDigits 8 n
    .ofList (List.replicate (4 - digits.length) '0' ++ digits)
  let granted (shift : Nat) : String :=
    let bits := (job.mask / shift) % 8
    (if bits / 4 % 2 = 0 then "r" else "") ++ (if bits / 2 % 2 = 0 then "w" else "") ++
      (if bits % 2 = 0 then "x" else "")
  let (options, rest) := leadingOptions arguments
  match unknownOption? "S" options, rest with
  | some option, _ => job.refuse "umask" (illegalOption option)
  | none, [] =>
    job.report "umask" (if options.contains 'S' then
        "u=" ++ granted 64 ++ ",g=" ++ granted 8 ++ ",o=" ++ granted 1 ++ "\n"
      else octal job.mask ++ "\n")
  | none, word :: _ =>
    if word.toList.head?.any (·.isDigit) then
      if word.toList.all isOctal then
        { job with mask := Shell.ofDigits 8 word.toList % 512 }.done 0
      else job.refuse "umask" (illegalNumber word)
    else
    -- A comma may stand behind the last change.
    let text := if word.endsWith "," ∧ word ≠ "," then .ofList word.toList.dropLast else word
    match word.isEmpty, readPermissionChanges text with
      | true, _ => job.done 0
      | false, none => job.refuse "umask" ("Illegal mode: " ++ word)
      | false, some changes =>
        -- What is changed is what new files do get.
        let allowed := changes.foldl (fun mode change => change.apply 0 mode) (511 - job.mask)
        { job with mask := 511 - allowed }.done 0

end FormatPipeline.Sandbox
