import FormatPipeline.Sandbox.Permission
import FormatPipeline.Sandbox.Tools.Basic

/-! Programs that make, copy, move and remove files and directories. -/

namespace FormatPipeline.Sandbox

/-- The last name in a path, without slashes at its end. -/
def lastName (path : String) : String :=
  let cs := (path.toList.reverse.dropWhile (· == '/')).reverse
  if cs.isEmpty then (if path.isEmpty then "" else "/")
  else .ofList (cs.reverse.takeWhile (· != '/')).reverse

/-- A path in a directory. -/
def pathIn (directory name : String) : String :=
  if directory.endsWith "/" then directory ++ name else directory ++ "/" ++ name

namespace Job

/-- Whether a path leads to a directory. -/
def isDirectory (job : Job) (path : String) : Bool := job.find? path == some .directory

/-- A job with another tree. -/
def withTree (job : Job) (tree : Tree) : Job := { job with tree := tree }

end Job

/-- What files are put into: a directory for all of them, or the new name of a single one. -/
inductive Destination where
  | directory (path : String)
  | name (path : String)

/-- The sources and the destination among operands. -/
def readDestination (job : Job) (given : Given) (missing : String) :
    Except (String × Bool) (List String × Destination) :=
  match given.value? "t", given.operands.reverse with
  | some _, [] => .error (missing, true)
  | some path, operands =>
    if job.isDirectory path then .ok (operands.reverse, .directory path)
    else .error ("target directory " ++ Text.named path ++ ": " ++ reason .notFound, false)
  | none, [] => .error (missing, true)
  | none, [only] => .error ("missing destination file operand after " ++ Text.named only, true)
  | none, target :: [source] =>
    .ok ([source], if job.isDirectory target && !given.has "T" then .directory target else .name target)
  | none, target :: sources =>
    if given.has "T" then .error ("extra operand " ++ Text.named target, true)
    else if job.isDirectory target then .ok (sources.reverse, .directory target)
    else
      let why := if (job.find? target).isSome then reason .notDirectory else reason .notFound
      .error ("target " ++ Text.named target ++ ": " ++ why, false)

/-- The path that a source gets at a destination. -/
def Destination.path (destination : Destination) (source : String) : String :=
  match destination with
  | directory path => pathIn path (lastName source)
  | name path => path

/-- What is wrong with a path at which there is to be a file, although it ends in a slash. -/
def slashError (job : Job) (path : String) (error : ReadError) : ReadError :=
  let bare := String.ofList (path.toList.reverse.dropWhile (· == '/')).reverse
  if path.endsWith "/" && error == .notFound && (job.tree.locate job.directory true bare).toOption.isSome
  then .notDirectory else error

/-- Copies one file or directory. -/
def copyOne (job : Job) (name : String) (given : Given) (source target : String) : Job :=
  let recursive := given.has "r" || given.has "a"
  let follows := given.has "L" || !(given.has "P" || given.has "d" || recursive)
  let (from1, to1) := (Text.named source, Text.named target)
  let tell (job : Job) : Job :=
    if given.has "v" then job.write 1 (from1 ++ " -> " ++ to1 ++ "\n") else job
  match job.tree.inspect job.directory follows source, job.tree.locate job.directory true target with
  | .error error, _ => job.blame 1 name ("cannot stat " ++ from1 ++ ": " ++ reason error)
  | .ok (_, .directory), .error error =>
    if recursive then job.blame 1 name ("cannot create directory " ++ to1 ++ ": " ++ reason error)
    else job.blame 1 name ("-r not specified; omitting directory " ++ from1)
  | .ok _, .error error =>
    let error := slashError job target error
    job.blame 1 name ("cannot create regular file " ++ to1 ++ ": " ++ reason error)
  | .ok (origin, node), .ok place =>
    let standing := job.tree.node? place
    if standing.isNone && (job.tree.find? job.directory false target).isSome && node != .directory then
      job.blame 1 name ("not writing through dangling symlink " ++ to1)
    else if node = .directory ∧ ¬ recursive then
      job.blame 1 name ("-r not specified; omitting directory " ++ from1)
    else if origin = place then job.blame 1 name (from1 ++ " and " ++ to1 ++ " are the same file")
    else match node, standing with
      | .directory, some .directory | .directory, none =>
        if origin.isPrefixOf place then
          job.blame 1 name ("cannot copy a directory, " ++ from1 ++ ", into itself, " ++ to1)
        else tell (job.withTree (job.tree.copy origin place))
      | .directory, some _ =>
        job.blame 1 name ("cannot overwrite non-directory " ++ to1 ++ " with directory " ++ from1)
      | _, some .directory =>
        job.blame 1 name ("cannot overwrite directory " ++ to1 ++ " with non-directory")
      | .file content executable, standing =>
        if given.has "n" ∧ standing.isSome then job
        else match standing with
          -- A file that is there keeps its right to be run.
          | some (.file _ kept) =>
            let kept := if given.has "p" || given.has "a" then executable else kept
            tell (job.withTree (job.tree.set place (.file content kept)))
          | some .drain => job
          | _ =>
            if target.endsWith "/" then
              job.blame 1 name ("cannot create regular file " ++ to1 ++ ": " ++ reason .notDirectory)
            else tell (job.withTree (job.tree.set place (.file content executable)))
      | .drain, _ => tell (job.withTree (job.tree.set place (.file [] false)))
      | node, _ => tell (job.withTree (job.tree.set place node))

/-- Copies files and directories. -/
def runCp : Tool :=
  withOptions ["a|archive", "d", "f|force", "i|interactive", "L|dereference", "n|no-clobber",
    "p", "P|no-dereference", "r|R|recursive", "t|target-directory:", "T|no-target-directory",
    "u", "v|verbose", "preserve?"] 1 fun job name given =>
    match readDestination job given "missing file operand" with
    | .error (text, true) => job.blameUse 1 name text
    | .error (text, false) => job.blame 1 name text
    | .ok (sources, destination) => sources.foldl (fun job source =>
        copyOne job name given source (destination.path source)) job

/-- Moves one file or directory. -/
def moveOne (job : Job) (name : String) (given : Given) (source target : String) : Job :=
  let (from1, to1) := (Text.named source, Text.named target)
  match job.tree.inspect job.directory false source, job.tree.locate job.directory false target with
  | .error error, _ => job.blame 1 name ("cannot stat " ++ from1 ++ ": " ++ reason error)
  | .ok (_, node), .error error =>
    let error := if node = .directory then error else slashError job target error
    job.blame 1 name ("cannot move " ++ from1 ++ " to " ++ to1 ++ ": " ++ reason error)
  | .ok (origin, node), .ok place =>
    if origin = place then job.blame 1 name (from1 ++ " and " ++ to1 ++ " are the same file")
    else match node, job.tree.node? place with
      | .directory, standing =>
        if origin.isPrefixOf place then
          job.blame 1 name ("cannot move " ++ from1 ++ " to a subdirectory of itself, " ++ to1)
        else if standing = some .directory ∧ job.tree.isOccupied place then
          job.blame 1 name ("cannot overwrite " ++ to1 ++ ": Directory not empty")
        else if standing.isSome ∧ standing ≠ some .directory then
          job.blame 1 name ("cannot overwrite non-directory " ++ to1 ++ " with directory " ++ from1)
        else finish place origin from1 to1
      | _, some .directory =>
        job.blame 1 name ("cannot overwrite directory " ++ to1 ++ " with non-directory")
      | _, standing =>
        if given.has "n" ∧ standing.isSome then
          job.blame 1 name ("not replacing " ++ to1)
        else if target.endsWith "/" then
          job.blame 1 name ("cannot move " ++ from1 ++ " to " ++ to1 ++ ": " ++ reason .notDirectory)
        else finish place origin from1 to1
where
  /-- Moves what stands at a place. -/
  finish (place origin : Place) (from1 to1 : String) : Job :=
    let job := job.withTree (job.tree.move origin place)
    if given.has "v" then job.write 1 ("renamed " ++ from1 ++ " -> " ++ to1 ++ "\n") else job

/-- Moves files and directories. -/
def runMv : Tool :=
  withOptions ["f|force", "i|interactive", "n|no-clobber", "t|target-directory:",
    "T|no-target-directory", "u", "v|verbose"] 1 fun job name given =>
    match readDestination job given "missing file operand" with
    | .error (text, true) => job.blameUse 1 name text
    | .error (text, false) => job.blame 1 name text
    | .ok (sources, destination) => sources.foldl (fun job source =>
        moveOne job name given source (destination.path source)) job

/-- Removes what a path leads to. -/
def removeOne (job : Job) (name : String) (given : Given) (path : String) : Job :=
  let recursive := given.has "r"
  let complaint (why : String) : Job := job.blame 1 name ("cannot remove " ++ Text.named path ++ ": " ++ why)
  let last := lastName path
  let gone (place : Place) (kind : String) : Job :=
    let job := job.withTree (job.tree.remove place)
    if given.has "v" then job.write 1 ("removed " ++ kind ++ Text.named path ++ "\n") else job
  if recursive && (last == "." || last == "..") then
    job.blame 1 name ("refusing to remove '.' or '..' directory: skipping " ++ Text.named path)
  else match job.tree.inspect job.directory false path with
    | .error error =>
      if given.has "f" && (error == .notFound || error == .notDirectory) then job
      else complaint (reason error)
    | .ok ([], _) =>
      if recursive then
        (job.blame 1 name "it is dangerous to operate recursively on '/'").blame 1 name
          "use --no-preserve-root to override this failsafe"
      else complaint (reason .isDirectory)
    | .ok (place, .directory) =>
      if recursive then gone place "directory "
      else if given.has "d" then
        if job.tree.isOccupied place then complaint "Directory not empty" else gone place "directory "
      else complaint (reason .isDirectory)
    | .ok (place, _) => gone place ""

/-- Removes files, and directories on demand. -/
def runRm : Tool :=
  withOptions ["d|dir", "f|force", "i", "I", "r|R|recursive", "v|verbose", "one-file-system",
    "preserve-root?", "no-preserve-root", "interactive?"] 1 fun job name given =>
    if given.operands.isEmpty ∧ ¬ given.has "f" then job.blameUse 1 name "missing operand"
    else given.operands.foldl (fun job path => removeOne job name given path) job

/-- Removes a single file. -/
def runUnlink : Tool :=
  withOptions [] 1 fun job name given =>
    match given.operands with
    | [] => job.blameUse 1 name "missing operand"
    | _ :: extra :: _ => job.blameUse 1 name ("extra operand " ++ Text.cited extra)
    | [path] =>
      let complaint (why : String) : Job := job.blame 1 name ("cannot unlink " ++ Text.named path ++ ": " ++ why)
      match job.tree.inspect job.directory false path with
      | .error error => complaint (reason error)
      | .ok (_, .directory) => complaint (reason .isDirectory)
      | .ok (place, _) => job.withTree (job.tree.remove place)

/-- Makes one directory. -/
def makeDirectory (job : Job) (name : String) (tells : Bool) (path : String) : Job :=
  let complaint (why : String) : Job :=
    job.blame 1 name ("cannot create directory " ++ Text.cited path ++ ": " ++ why)
  match job.tree.locate job.directory true path with
  | .error error => complaint (reason error)
  | .ok place =>
    if (job.tree.node? place).isSome then complaint "File exists"
    else
      let job := job.withTree (job.tree.set place .directory)
      if tells then job.write 1 (name ++ ": created directory " ++ Text.named path ++ "\n") else job

/-- The beginnings of a path that end in front of a slash or at its own end. -/
def beginningsOf (path : String) : List String :=
  let cs := path.toList
  ((List.range cs.length).filterMap fun length =>
    if cs[length + 1]? == some '/' && cs[length]? != some '/' then some (.ofList (cs.take (length + 1)))
    else none) ++ (if cs.getLast? = some '/' then [] else [path])

/-- Makes a directory with those on the way to it. -/
def makeDirectories (job : Job) (name : String) (tells : Bool) (path : String) : Job :=
  ((beginningsOf path).foldl (fun (state : Job × Bool) part =>
    let (job, stopped) := state
    if stopped then state
    else match job.find? part with
      | some .directory => state
      | some _ =>
        let why := if part = path then "File exists" else reason .notDirectory
        (job.blame 1 name ("cannot create directory " ++ Text.cited part ++ ": " ++ why), true)
      | none =>
        let later := makeDirectory { job with status := 0 } name tells part
        if later.status = 0 then ({ later with status := job.status }, false) else (later, true))
    (job, false)).1

/-- Makes directories, on demand with those on the way to them. -/
def runMkdir : Tool :=
  withOptions ["m|mode:", "p|parents", "v|verbose"] 1 fun job name given =>
    if given.operands.isEmpty then job.blameUse 1 name "missing operand"
    else given.operands.foldl (fun job path =>
      if given.has "p" then makeDirectories job name (given.has "v") path
      else makeDirectory job name (given.has "v") path) job

/-- Removes an empty directory; the flag tells whether it is still there. -/
def removeDirectory (job : Job) (name : String) (given : Given) (path : String) : Job × Bool :=
  let job := if given.has "v" then
      job.write 1 (name ++ ": removing directory, " ++ Text.named path ++ "\n")
    else job
  let complaint (why : String) : Job × Bool :=
    (job.blame 1 name ("failed to remove " ++ Text.named path ++ ": " ++ why), true)
  match job.tree.inspect job.directory false path with
  | .error error => complaint (reason error)
  | .ok (place, .directory) =>
    if !job.tree.isOccupied place then (job.withTree (job.tree.remove place), false)
    else if given.has "ignore-fail-on-non-empty" then (job, true)
    else complaint "Directory not empty"
  | .ok _ => complaint (reason .notDirectory)

/-- Removes empty directories. -/
def runRmdir : Tool :=
  withOptions ["p|parents", "v|verbose", "ignore-fail-on-non-empty"] 1 fun job name given =>
    if given.operands.isEmpty then job.blameUse 1 name "missing operand"
    else given.operands.foldl (fun job path =>
      let paths := if given.has "p" then (beginningsOf path).reverse else [path]
      -- What cannot be removed ends the way up.
      (paths.foldl (fun (state : Job × Bool) path =>
        match state with
        | (job, true) => (job, true)
        | (job, false) => removeDirectory job name given path) (job, false)).1) job

/-- Makes empty files where there is nothing. -/
def runTouch : Tool :=
  withOptions ["a", "c|no-create", "d|date:", "f", "h|no-dereference", "m", "r|reference:", "t:",
    "time:"] 1 fun job name given =>
    if given.operands.isEmpty then job.blameUse 1 name "missing file operand"
    else given.operands.foldl (fun job path =>
      match job.tree.locate job.directory true path with
      | .error error =>
        if given.has "c" && error == .notFound then job
        else if path.endsWith "/" then
          job.blame 1 name ("setting times of " ++ Text.named path ++ ": " ++ reason error)
        else job.blame 1 name ("cannot touch " ++ Text.named path ++ ": " ++ reason error)
      | .ok place =>
        if (job.tree.node? place).isSome || given.has "c" then job
        else job.withTree (job.tree.set place (.file [] false))) job

/-- Makes a link or a second copy of a file. -/
def linkOne (job : Job) (name : String) (given : Given) (target path : String) : Job :=
  let symbolic := given.has "s"
  let kind := if symbolic then "symbolic link " else "hard link "
  let complaint (why : String) : Job :=
    job.blame 1 name ("failed to create " ++ kind ++ Text.named path ++ ": " ++ why)
  let finish (place : Place) (node : Node) : Job :=
    let job := job.withTree (job.tree.set place node)
    let arrow := if symbolic then " -> " else " => "
    if given.has "v" then job.write 1 (Text.named path ++ arrow ++ Text.named target ++ "\n") else job
  let make (node : Node) : Job :=
    match job.tree.locate job.directory false path with
    | .error error => complaint (reason error)
    | .ok place =>
      match job.tree.node? place with
      | none => finish place node
      | some .directory => complaint "File exists"
      | some _ => if given.has "f" then finish place node else complaint "File exists"
  if symbolic then make (.link target)
  else match job.tree.inspect job.directory false target with
    | .error error => job.blame 1 name ("failed to access " ++ Text.named target ++ ": " ++ reason error)
    | .ok (_, .directory) => job.blame 1 name (target ++ ": hard link not allowed for directory")
    | .ok (_, node) => make node

/-- Makes links. -/
def runLn : Tool :=
  withOptions ["f|force", "i|interactive", "n|no-dereference", "r|relative", "s|symbolic",
    "t|target-directory:", "T|no-target-directory", "v|verbose", "L|logical", "P|physical"] 1
    fun job name given =>
    let isDirectory (path : String) : Bool :=
      !given.has "T" && if given.has "n" then
        job.tree.find? job.directory false path == some .directory
      else job.isDirectory path
    match given.operands ++ (given.value? "t").toList with
    | [] => job.blameUse 1 name "missing file operand"
    | [target] => linkOne job name given target (pathIn "." (lastName target))
    | [target, path] =>
      linkOne job name given target
        (if isDirectory path then pathIn path (lastName target) else path)
    | operands =>
      let directory := operands.getLast?.getD ""
      if !isDirectory directory then
        let why := if (job.find? directory).isSome then reason .notDirectory else reason .notFound
        job.blame 1 name ("target " ++ Text.named directory ++ ": " ++ why)
      else operands.dropLast.foldl (fun job target =>
        linkOne job name given target (pathIn directory (lastName target))) job

/-- The permissions of what stands in the tree. -/
def modeOf (node : Node) : Nat :=
  match node with
  | .file _ false | .drain => 420
  | _ => 493

/-- Changes who may run files. -/
def runChmod : Tool := fun job name arguments =>
  -- A word that takes permissions away looks like options.
  let taken := arguments.find? fun word =>
    match word.toList with
    | '-' :: c :: cs => ("rwxXst".toList.contains c) && (c :: cs).all ("rwxXstugo,+-=".toList.contains ·)
    | _ => false
  let arguments := match taken with
    | some word => arguments.filter (· != word)
    | none => arguments
  withOptions ["c|changes", "f|silent|quiet", "R|recursive", "v|verbose", "reference:"] 1
    (fun job name given =>
      let operands := (taken.toList) ++ given.operands
      match operands with
      | [] => job.blameUse 1 name "missing operand"
      | [mode] =>
        if given.has "reference" then job
        else job.blameUse 1 name ("missing operand after " ++ Text.cited mode)
      | mode :: paths =>
        match octalMode? mode, readPermissionChanges mode with
        | none, none => job.blameUse 1 name ("invalid mode: " ++ Text.cited mode)
        | octal, changes => paths.foldl (fun job path =>
          match job.tree.inspect job.directory true path with
          | .error error =>
            if given.has "f" then job.ended 1
            else if (job.tree.inspect job.directory false path).toOption.isSome then
              job.blame 1 name ("cannot operate on dangling symlink " ++ Text.named path)
            else job.blame 1 name ("cannot access " ++ Text.named path ++ ": " ++ reason error)
          | .ok (place, .file content executable) =>
            let before := modeOf (.file content executable)
            let after := octal.getD ((changes.getD []).foldl (fun mode change =>
              change.apply job.mask mode) before)
            let runs := after % 2 = 1 || after / 8 % 2 = 1 || after / 64 % 2 = 1
            job.withTree (job.tree.set place (.file content runs))
          | .ok _ => job) job) job name arguments

/-- A name that nobody else has, in which the crosses of a template are filled in. -/
def freshName (job : Job) (template : String) : String :=
  let cs := template.toList.reverse
  let suffix := cs.takeWhile (· != 'X')
  let crosses := (cs.drop suffix.length).takeWhile (· == 'X')
  let lead := (cs.drop (suffix.length + crosses.length)).reverse
  -- The number of open channels tells one name from another.
  let digits := (toString (job.channels.length + job.tree.entries.length)).toList
  let filled := (List.replicate (crosses.length - digits.length) 'a') ++ digits
  .ofList (lead ++ filled.take crosses.length ++ suffix.reverse)

/-- Makes a file or a directory under a new name and prints the name. -/
def runMktemp : Tool :=
  withOptions ["d|directory", "p:", "tmpdir?", "q|quiet", "t", "u|dry-run", "suffix:"] 1
    fun job name given =>
    match given.operands with
    | _ :: _ :: _ => job.blameUse 1 name "too many templates"
    | operands =>
      let template := operands.headD "tmp.XXXXXXXXXX"
      let suffix := (given.value? "suffix").getD ""
      let inDirectory := operands.isEmpty || given.has "t" || given.has "p" || given.has "tmpdir"
      let path := template ++ suffix
      let path := if inDirectory then
          pathIn ((((given.value? "p").or (given.value? "tmpdir")).or (job.value? "TMPDIR")).getD "/tmp") path
        else path
      let crosses := (template.toList.reverse.dropWhile (· != 'X')).takeWhile (· == 'X')
      if given.has "suffix" && template.toList.getLast? != some 'X' then
        job.blame 1 name ("with --suffix, template " ++ Text.cited template ++ " must end in X")
      else if crosses.length < 3 then
        job.blame 1 name ("too few X's in template " ++ Text.cited template)
      else if given.has "t" && template.toList.contains '/' then
        job.blame 1 name ("invalid template, " ++ Text.cited template ++ ", contains directory separator")
      else if inDirectory && template.startsWith "/" then
        job.blame 1 name ("invalid template, " ++ Text.cited template ++
          "; with --tmpdir, it may not be absolute")
      else
        let fresh := freshName job path
        let kind := if given.has "d" then "directory" else "file"
        match job.tree.locate job.directory true fresh with
        | .error error =>
          job.blame 1 name ("failed to create " ++ kind ++ " via template " ++ Text.cited path ++
            ": " ++ reason error)
        | .ok place =>
          let node : Node := if given.has "d" then .directory else .file [] false
          let job := if given.has "u" then job else job.withTree (job.tree.set place node)
          job.write 1 (fresh ++ "\n")

end FormatPipeline.Sandbox
