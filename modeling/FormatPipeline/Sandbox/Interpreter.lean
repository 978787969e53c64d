import FormatPipeline.Sandbox.Batches
import FormatPipeline.Sandbox.Builtins
import FormatPipeline.Sandbox.Tools
import FormatPipeline.Shell.Arithmetic
import FormatPipeline.Shell.Parsing

/-! Running scripts: what each command does to the job and whether the commands behind it still run. -/

namespace FormatPipeline.Sandbox

open Shell (Script Word Piece Form Redirection Tokens Pattern)

/-- How many rounds a loop may go before it is given up. -/
def roundLimit : Nat := 1000000

/-- How many functions may be under way. -/
def callLimit : Nat := 1000

/-- Goes on after the last command of a kind of list, unless a failure is to end the shell. -/
def checked (tested : Bool) (outcome : Outcome) : Outcome :=
  match outcome with
  | (job, .proceed) =>
    if job.has 'e' ∧ ¬ tested ∧ job.status ≠ 0 then (job, .leave) else (job, .proceed)
  | outcome => outcome

/-- What the end of a round means for the loop: its next round, or its own end. -/
def settleRound : Outcome → Except Outcome Job
  | (job, .proceed) | (job, .unwind 1 true) => .ok job
  | (job, .unwind 0 _) | (job, .unwind 1 false) => .error (job, .proceed)
  | (job, .unwind (loops + 1) again) => .error (job, .unwind loops again)
  | outcome => .error outcome

/-- Goes round as long as a round does not end the loop; each one knows the status of the last one. -/
def goRound (round : Job → Nat → Except Outcome (Job × Nat)) : Nat → Job → Nat → Outcome
  | 0, job, _ => (job, .killed 9)
  | count + 1, job, status =>
    match round job status with
    | .ok (job, status) => goRound round count job status
    | .error outcome => outcome

/-- Goes round once for each value. -/
def goThrough (round : Job → String → Except Outcome Job) : List String → Job → Outcome
  | [], job => (job, .proceed)
  | value :: rest, job =>
    match round job value with
    | .ok job => goThrough round rest job
    | .error outcome => outcome

/-- Runs commands one after another as long as they go on. -/
def runAll (step : Job → Script → Outcome) : List Script → Job → Outcome
  | [], job => (job, .proceed)
  | script :: rest, job =>
    match step job script with
    | (job, .proceed) => runAll step rest job
    | outcome => outcome

/-- Tokens in which the texts stand that aliases stand for, up to the end of the line. -/
def expandAliases (aliases : List (String × String)) (before : Tokens) : Tokens → Tokens
  | [] => []
  | (.newline, line) :: rest => (.newline, line) :: rest
  | (.word pieces, line) :: rest =>
    let text? := (Word.bare? pieces).bind fun cs => aliases.lookup (.ofList cs)
    match text?, Shell.Reader.beginsCommand before with
    | some text, true =>
      (Shell.readTokens text.toList).dropLast ++
        expandAliases aliases ((.word pieces, line) :: before) rest
    | _, _ => (.word pieces, line) :: expandAliases aliases ((.word pieces, line) :: before) rest
  | token :: rest => token :: expandAliases aliases (token :: before) rest

/-- The line up to which tokens have been read when only some of them are left. -/
def lastLine (tokens rest : Tokens) : Nat :=
  let read := tokens.take (tokens.length - rest.length)
  let left := if rest.next matches .finish then rest.line else 1
  read.foldl (fun line token => max line token.2) left

/-- Runs the commands of a text line by line; those of a substitution have all been read before. -/
def runLines (isRead : Bool) (size : Nat) (step : Job → Script → Outcome) : Nat → Job → Tokens → Outcome
  | 0, job, _ => (job, .proceed)
  | count + 1, job, tokens =>
    let tokens := if job.aliases.isEmpty then tokens else expandAliases job.aliases [] tokens
    match Shell.parseLine size tokens with
    | .error (line, error) => ({ job with line := line }.protest 2 error.message, .leave)
    | .ok (.finish, _) => (job, .proceed)
    | .ok (.command .nothing, rest) => runLines isRead size step count job rest
    | .ok (.command command, rest) =>
      let reached := if isRead then { job with lineRead := lastLine tokens rest } else job
      match step reached command with
      | (job, .proceed) => runLines isRead size step count job rest
      | outcome => outcome

/-- A job that remembers where the program of a simple command is, if its name is plainly written. -/
def trackFirst (job : Job) : Script → Job
  | .simple _ _ (word :: _) _ =>
    match (Word.bare? word).map String.ofList with
    | some name =>
      if isOwnCommand name || (job.functions.lookup name).isSome then job else job.track name
    | none => job
  | _ => job

/-- Goes on when a program or a part of the shell has ended; a signal is reported, unless it is meant
for everybody. -/
def await (job : Job) (outcome : Outcome) : Outcome :=
  let job := job.resume outcome.1
  match outcome.2 with
  | .killed signal =>
    if job.isExpired then (job, .killed signal) else (job.reportSignal signal, .proceed)
  | _ => (job, .proceed)

/-- What is left of the shell when one of its commands goes on in the background. -/
def leaveAlone (job : Job) (outcome : Outcome) : Job :=
  let number := job.lastChild.getD job.number + 1
  let signal := match outcome.2 with
    | .killed signal => some signal
    | _ => none
  -- Places are used again when the shell has noticed the end.
  let others := job.ownChildren.filter fun child => !child.noticed
  let free := (List.range (others.length + 1)).find? fun i => others.all (·.place != i + 1)
  let status := (signal.map (128 + ·)).getD (outcome.1.status % 256)
  let child := ⟨free.getD 0 + 1, number, status, signal, outcome.1.clock, false, true⟩
  let foreign := (job.childrenAfter outcome.1).filter fun child => !child.isOwn
  { job.share outcome.1 with children := child :: others ++ foreign, lastChild := some number }.ended 0

/-- The part of the shell that a command in the background runs in. -/
def startAside (job : Job) : Job :=
  let number := job.lastChild.getD job.number + 1
  { (job.connect 0 .nowhere).child with
    aside := some (job.aside.getD ⟨number, job.clock, job.channels.length⟩) }

/-- Opens a file for a stream, or tells what is in the way. -/
def openFile (job : Job) (stream : Nat) (kind : Shell.RedirectionKind) (path : String) :
    Except String Job :=
  let attach (job : Job) (channel : Channel) : Except String Job :=
    let (job, number) := job.openChannel channel
    .ok (job.connect stream (.channel number))
  let why (error : ReadError) (missing : String) : String :=
    match error with
    | .notFound | .notDirectory => missing
    | error => (error.message.splitOn " (").headD ""
  let create (appends cleared : Bool) : Except String Job :=
    let refuse (text : String) : Except String Job := .error ("cannot create " ++ path ++ ": " ++ text)
    match job.tree.locate job.directory true path with
    | .error error => refuse (why error "Directory nonexistent")
    | .ok place =>
      match job.tree.node? place with
      | some .directory => refuse "Is a directory"
      | some .drain => .ok (job.connect stream .nowhere)
      | some (.file content executable) =>
        if job.has 'C' ∧ kind = .output then refuse "File exists"
        else
          let content := if cleared then [] else content
          attach { job with tree := job.tree.set place (.file content executable) }
            (.file place 0 appends)
      | _ =>
        attach { job with tree := job.tree.set place (.file [] false) } (.file place 0 appends)
  match kind, (streamFile? path).bind fun source => job.endpoint? source with
  | .copy, _ | .document, _ => .ok job
  | _, some endpoint => .ok (job.connect stream endpoint)
  | .output, none | .replace, none => create false true
  | .append, none => create true false
  | .update, none => create false false
  | .input, none =>
    match job.tree.inspect job.directory true path with
    | .ok (place, .file ..) => attach job (.file place 0 false)
    | .ok _ => .ok (job.connect stream .nowhere)
    | .error error => .error ("cannot open " ++ path ++ ": " ++ why error "No such file")

/-- Leads a stream where another one leads, or closes it. -/
def copyStream (job : Job) (stream : Nat) (source : String) : Except String Job :=
  match source.toList with
  | ['-'] => .ok (job.disconnect stream)
  | [digit] =>
    if digit.isDigit then
      match job.endpoint? (digit.toNat - '0'.toNat) with
      | some endpoint => .ok (job.connect stream endpoint)
      | none => .error (source ++ ": Bad file descriptor")
    else .error Shell.SyntaxError.badStream.message
  | _ => .error Shell.SyntaxError.badStream.message

/-- Whether a text can name a stream. -/
def namesStream (text : String) : Bool :=
  match text.toList with
  | [c] => c == '-' || c.isDigit
  | _ => false

/-- A word in which tildes are replaced at the beginning, or also behind each colon. -/
def replaceTildes (job : Job) (everywhere : Bool) (word : Word) : Word :=
  let start (word : Word) : Word :=
    match homeTilde? job word with
    | some (home, rest) => .quotes :: (home.toList.map Piece.quoted ++ rest)
    | none => word
  if !everywhere then start word
  else
    let parts := word.foldr (fun piece (parts : List Word) =>
      match piece, parts with
      | .plain ':', parts => [] :: parts
      | piece, part :: parts => (piece :: part) :: parts
      | piece, [] => [[piece]]) [[]]
    glue [.plain ':'] (parts.map start)

/-- The variables that a program finds, the last one first, from those of the shell that runs it. -/
def inherit (job : Job) : List (String × Variable) :=
  (inTableOrder nameRows job.exports).reverse.map fun (name, value) => (name, ⟨some value, true, false⟩)

/-- The options of a program that changes variables for another one. -/
def environmentRules : List String :=
  ["i|ignore-environment", "0|null", "u|unset:", "C|chdir:", "S|split-string:", "v|debug"]

/-- A job without the variables that options take away. -/
def changedEnvironment (job : Job) (given : Given) : Job :=
  let job := if given.has "i" then { job with bindings := [] } else job
  (given.values "u").foldl Job.forget job

/-- A shell or another program that is run by a shell. -/
def Job.programJob (job : Job) : Job :=
  { job.child with
    isPart := false
    number := job.number + 1
    bindings := inherit job
    functions := []
    tracked := []
    aliases := []
    options := []
    scopes := []
    line := 1
    lineRead := 1
    owner := ""
    loops := 0
    lastChild := none
    optionWord := 1
    optionOffset := none }

/-- What was made of a word: its glyphs, unless the shell has to be left. -/
abbrev Expanded (α : Type) := Job × Option α

/-- Leads the streams of redirections where they led in an earlier job; what has become of the
others stays. -/
def takeBack (before later : Job) (redirections : List Redirection) : Job :=
  redirections.foldl (fun (later : Job) redirection =>
    match before.endpoint? redirection.stream with
    | some endpoint => later.connect redirection.stream endpoint
    | none => later.disconnect redirection.stream) later

/-- What becomes of the shell behind a word that could not be expanded: it ends, perhaps by a
signal, with the streams it had before. -/
def giveUp (before job : Job) : Outcome :=
  match job.killed with
  | some signal => ({ job with endpoints := before.endpoints, killed := none }, .killed signal)
  | none => ({ job with endpoints := before.endpoints }, .leave)

/-- Gives a word up because too many things are under way, which ends the shell by a signal. -/
def sink {α : Type} (job : Job) : Expanded α := ({ job with killed := some 11 }, none)

/-- Tells why a word cannot be expanded, which ends the shell. -/
def failExpansion {α : Type} (job : Job) (text : String) : Expanded α := (job.protest 2 text, none)

mutual

/-- Finds the glyphs of the pieces of a word. -/
def expandPieces : Nat → Job → Purpose → Word → Expanded (List Glyph)
  | 0, job, _, _ => sink job
  | fuel + 1, job, purpose, word =>
    word.foldl (fun (state : Expanded (List Glyph)) piece =>
      match state with
      | (job, none) => (job, none)
      | (job, some glyphs) =>
        match expandPiece fuel job purpose piece with
        | (job, some more) => (job, some (glyphs ++ more))
        | (job, none) => (job, none)) (job, some [])

/-- Finds the glyphs of a piece of a word. -/
def expandPiece : Nat → Job → Purpose → Piece → Expanded (List Glyph)
  | 0, job, _, _ => sink job
  | fuel + 1, job, purpose, piece =>
    match piece with
    | .plain c => (job, some [.char ⟨c, true⟩ (purpose == .pieces)])
    | .quoted c => (job, some [.char ⟨c, false⟩ false])
    | .quotes => (job, some [.quotes])
    | .broken _ => (job, some [])
    | .parameter name form emptyIsMissing word inQuotes =>
      expandParameter fuel job purpose (.ofList name) form emptyIsMissing word inQuotes
    | .substitution tokens inQuotes =>
      -- The last token is the parenthesis that closes the substitution.
      substitute fuel job (tokens.dropLast ++ [(.finish, job.line)]) inQuotes
    | .backquoted source inQuotes => substitute fuel job (Shell.readBackquoted source) inQuotes
    | .arithmetic word inQuotes =>
      match expandPieces fuel job .text word with
      | (job, none) => (job, none)
      | (job, some glyphs) =>
        let expression := textOf [' '] glyphs
        match Shell.Arithmetic.evaluate job.valueOr expression with
        | .error fault => failExpansion job (fault.message expression)
        | .ok (value, assigned) =>
          match assignAll job (assigned.reverse.map fun (name, value) => (name, toString value)) with
          | (job, none) => (job, some (valueGlyphs inQuotes (toString value).toList))
          | (job, some text) => failExpansion job text

/-- Finds the glyphs of the output of commands, without the line ends at its end. -/
def substitute : Nat → Job → Tokens → Bool → Expanded (List Glyph)
  | 0, job, _, _ => sink job
  | fuel + 1, job, tokens, inQuotes =>
    let (opened, number) := job.openChannel (.queue [])
    let child := (opened.connect 1 (.channel number)).child
    let outcome := finishShell fuel (runTokens fuel false false { child with status := job.status } tokens)
    -- What commands in the background write belongs to the output.
    let collected := outcome.1.collect number
    let output := (collected.queue number).filter (· != 0)
    let text := ((Text.ofBytes output).toList.reverse.dropWhile (· == '\n')).reverse
    let (awaited, flow) := await job (collected, outcome.2)
    let later := { awaited with status := job.status, substituted := some awaited.status }
    match flow, later.deadlySignal? with
    | .killed signal, _ | _, some signal => ({ later with killed := some signal }, none)
    | _, none => (later, some (valueGlyphs inQuotes text))

/-- Finds the glyphs of a form of a parameter. -/
def expandParameter :
    Nat → Job → Purpose → String → Form → Bool → Word → Bool → Expanded (List Glyph)
  | 0, job, _, _, _, _, _, _ => sink job
  | fuel + 1, job, purpose, name, form, emptyIsMissing, word, inQuotes =>
    let every := Job.isEvery name
    let joined := textOf (job.separators.take 1) (job.everyGlyphs name true job.arguments)
    -- All arguments together always have a value, though it may be empty.
    let value? := if every then some joined else job.parameter? name
    let isThere := value?.any fun value => !(emptyIsMissing && value.isEmpty)
    let own (job : Job) : List Glyph :=
      if every then job.everyGlyphs name inQuotes job.arguments
      else valueGlyphs inQuotes (value?.getD "").toList
    let other (job : Job) : Expanded (List Glyph) :=
      expandPieces fuel job (if purpose = .text then .text else if inQuotes then .fields else .pieces)
        (replaceTildes job false word)
    let unset := value?.isNone && job.has 'u'
    match form with
    | .unknown => failExpansion job "Bad substitution"
    | .value =>
      if unset then failExpansion job (name ++ ": parameter not set") else (job, some (own job))
    | .length =>
      if unset then failExpansion job (name ++ ": parameter not set")
      else (job, some (valueGlyphs inQuotes (Job.lengthText (value?.getD "")).toList))
    | .substitute => if isThere then (job, some (own job)) else other job
    | .alternative => if isThere then other job else (job, some [])
    | .assign =>
      if isThere then (job, some (own job))
      else match other job with
        | (job, none) => (job, none)
        | (job, some glyphs) =>
          let text := textOf [' '] glyphs
          match assignAll job [(name, text)] with
          | (job, none) => (job, some (valueGlyphs inQuotes text.toList))
          | (job, some text) => failExpansion job text
    | .demand =>
      if isThere then (job, some (own job))
      else match other job with
        | (job, none) => (job, none)
        | (job, some glyphs) =>
          let text := textOf [' '] glyphs
          let usual := if emptyIsMissing then "parameter not set or null" else "parameter not set"
          failExpansion job (name ++ ": " ++ (if word.isEmpty then usual else text))
    | .trim atEnd longest =>
      if unset then failExpansion job (name ++ ": parameter not set")
      else match expandPieces fuel job .text (replaceTildes job false word) with
        | (job, none) => (job, none)
        | (job, some glyphs) =>
          let pattern := Pattern.ofMarks (marksOf glyphs)
          if every && purpose != .text && Job.keepsApart name inQuotes then
            let trimmed := pattern.trimValues atEnd longest job.arguments
            (job, some (job.everyGlyphs name inQuotes trimmed))
          else
            let trimmed := pattern.trim atEnd longest (value?.getD "")
            (job, some (valueGlyphs inQuotes trimmed.toList))

/-- Finds the fields of a word. -/
def expandWord : Nat → Job → Word → Expanded (List String)
  | 0, job, _ => sink job
  | fuel + 1, job, word =>
    match expandPieces fuel job .fields (replaceTildes job false word) with
    | (job, none) => (job, none)
    | (job, some glyphs) =>
      let fields := fieldsOf job.separators none false glyphs
      (job, some (fields.flatMap (pathsOf job)))

/-- Finds the fields of words; assignments among them stay together. -/
def expandWords : Nat → Job → Bool → List Word → Expanded (List String)
  | 0, job, _, _ => sink job
  | fuel + 1, job, keepsAssignments, words =>
    words.foldl (fun (state : Expanded (List String)) word =>
      match state with
      | (job, none) => (job, none)
      | (job, some fields) =>
        if keepsAssignments && (Shell.assignment? word).isSome then
          match expandText fuel job true word with
          | (job, some text) => (job, some (fields ++ [text]))
          | (job, none) => (job, none)
        else match expandWord fuel job word with
          | (job, some more) => (job, some (fields ++ more))
          | (job, none) => (job, none)) (job, some [])

/-- Finds the text of a word that stays together. -/
def expandText : Nat → Job → Bool → Word → Expanded String
  | 0, job, _, _ => sink job
  | fuel + 1, job, isAssignment, word =>
    let word := match isAssignment, Shell.assignment? word with
      | true, some (name, value) =>
        name.toList.map Piece.plain ++ .plain '=' :: replaceTildes job true value
      | _, _ => replaceTildes job isAssignment word
    match expandPieces fuel job .text word with
    | (job, none) => (job, none)
    | (job, some glyphs) => (job, some (textOf (job.separators.take 1) glyphs))

/-- Finds the fields of the words of a command, the first of which may ask for assignments. -/
def expandCommand : Nat → Job → List Word → Expanded (List String)
  | 0, job, _ => sink job
  | fuel + 1, job, words =>
    match words with
    | [] => (job, some [])
    | word :: rest =>
      match expandWord fuel job word with
      | (job, none) => (job, none)
      | (job, some []) => expandCommand fuel job rest
      | (job, some (name :: fields)) =>
        let keeps := declaresVariables ((name :: fields).find? (· != "command") |>.getD "")
        match expandWords fuel job keeps rest with
        | (job, some others) => (job, some (name :: fields ++ others))
        | (job, none) => (job, none)

/-- Finds the names behind redirections; texts that follow wait until their streams go elsewhere. -/
def expandTargets : Nat → Job → List Redirection → Expanded (List (Redirection × String))
  | 0, job, _ => sink job
  | fuel + 1, job, redirections =>
    redirections.foldl (fun (state : Expanded (List (Redirection × String))) redirection =>
      match state, redirection.kind with
      | (job, none), _ => (job, none)
      | (job, some targets), .document => (job, some (targets ++ [(redirection, "")]))
      | (job, some targets), kind =>
        match expandText fuel job false redirection.target with
        | (job, none) => (job, none)
        | (job, some name) =>
          if kind = .copy ∧ ¬ namesStream name then
            -- The fault is noticed where the shell reads on.
            ({ job with line := job.lineRead }.protest 2 Shell.SyntaxError.badStream.message, none)
          else (job, some (targets ++ [(redirection, name)]))) (job, some [])

/-- Lets streams go elsewhere, and tells whether all of them can. -/
def redirect : Nat → Job → List (Redirection × String) → Expanded Bool
  | 0, job, _ => sink job
  | fuel + 1, job, targets =>
    targets.foldl (fun (state : Expanded Bool) (redirection, name) =>
      match state, redirection.kind with
      | (job, some true), .document =>
        match expandPieces fuel job .text redirection.target with
        | (job, none) => (job, if job.killed.isSome then none else some false)
        | (job, some glyphs) =>
          let text := textOf (job.separators.take 1) glyphs
          let (job, number) := job.openChannel (.queue (Text.toBytes text))
          (job.connect redirection.stream (.channel number), some true)
      | (job, some true), kind =>
        let opened := match kind with
          | .copy => copyStream job redirection.stream name
          | kind => openFile job redirection.stream kind name
        match opened with
        | .ok job => (job, some true)
        | .error text => (job.protest 2 text, some false)
      | state, _ => state) (job, some true)

/-- Finds the targets of redirections before any stream goes elsewhere. -/
def openStreams : Nat → Job → List Redirection → Expanded Bool
  | 0, job, _ => sink job
  | fuel + 1, job, redirections =>
    match expandTargets fuel job redirections with
    | (job, none) => (job, none)
    | (job, some targets) => redirect fuel job targets

/-- Runs a script that was understood; where its outcome is tested, a failure does no harm. -/
def run : Nat → Bool → Job → Script → Outcome
  | 0, _, job, _ => (job, .killed 11)
  | fuel + 1, tested, job, script =>
    -- On demand commands are read, but not carried out.
    if job.has 'n' then (job, .proceed)
    else match attend fuel tested (job, .proceed) with
    | (job, .proceed) => runAttended fuel tested job script
    | outcome => outcome

/-- Runs a script for a shell that has done what is to be done at signals. -/
def runAttended : Nat → Bool → Job → Script → Outcome
  | 0, _, job, _ => (job, .killed 11)
  | fuel + 1, tested, job, script =>
    match script with
    | .nothing => job.done 0
    | .simple line assignments words redirections =>
      checked tested (attend fuel tested
        (runSimple fuel tested { job with line := line } assignments words redirections))
    | .pipe commands =>
      let job := commands.foldl trackFirst job
      checked tested (attend fuel tested (runPipe fuel tested job job commands))
    | .negation script =>
      match run fuel true job script with
      | (job, .proceed) => job.done (if job.status = 0 then 1 else 0)
      | outcome => outcome
    | .both first second =>
      match run fuel true job first with
      | (job, .proceed) => if job.status = 0 then run fuel tested job second else (job, .proceed)
      | outcome => outcome
    | .either first second =>
      match run fuel true job first with
      | (job, .proceed) => if job.status = 0 then (job, .proceed) else run fuel tested job second
      | outcome => outcome
    | .sequence scripts => runAll (run fuel tested) scripts job
    | .background script =>
      (leaveAlone job (finishShell fuel (run fuel false (startAside job) script)), .proceed)
    | .branch condition yes no =>
      match run fuel true job condition with
      | (job, .proceed) => run fuel tested job (if job.status = 0 then yes else no)
      | outcome => outcome
    | .loop outcome condition body =>
      let round (job : Job) (status : Nat) : Except Outcome (Job × Nat) :=
        match run fuel true job condition with
        | (job, .proceed) =>
          if (job.status = 0) = outcome then
            (settleRound (run fuel tested job body)).map fun job => (job, job.status)
          else .error (job.done status)
        | left => (settleRound left).map (·, status)
      let (later, flow) := goRound round roundLimit { job with loops := job.loops + 1 } 0
      ({ later with loops := job.loops }, flow)
    | .forEach line name words body =>
      match expandWords fuel { job with line := line } false words with
      | (later, none) => giveUp job later
      | (job, some values) =>
        let round (job : Job) (value : String) : Except Outcome Job :=
          match assignAll job [(.ofList name, value)] with
          | (job, none) => settleRound (run fuel tested job body)
          | (job, some text) => .error (job.protest 2 text, .leave)
        let job := if values.isEmpty then job.ended 0 else job
        let (later, flow) := goThrough round values { job with loops := job.loops + 1 }
        ({ later with loops := job.loops }, flow)
    | .choice line word cases =>
      match expandText fuel { job with line := line } false word with
      | (later, none) => giveUp job later
      | (job, some text) => runCases fuel tested job text cases
    | .subshell body => checked tested (attend fuel tested (runApart fuel tested job [] body))
    | .redirected line body redirections =>
      match body with
      | .subshell body =>
        match expandTargets fuel { job with line := line } redirections with
        | (later, none) => giveUp job later
        | (later, some targets) =>
          checked tested (attend fuel tested (runApart fuel tested later targets body))
      | body =>
        match openStreams fuel { job with line := line } redirections with
        | (later, none) => giveUp job later
        | (later, some false) =>
          checked tested ({ later with endpoints := job.endpoints }, .proceed)
        | (redirected, some true) =>
          let (later, flow) := run fuel tested redirected body
          (takeBack job later redirections, flow)
    | .definition line name body =>
      let others := job.functions.filter (·.1 != .ofList name)
      { job with
        functions := (.ofList name, ⟨line, body⟩) :: others
        tracked := job.tracked.filter (·.1 != String.ofList name) }.done 0

/-- Runs a script in a part of the shell that works on its own, where streams go elsewhere. -/
def runApart : Nat → Bool → Job → List (Redirection × String) → Script → Outcome
  | 0, _, job, _, _ => (job, .killed 11)
  | fuel + 1, tested, job, targets, script =>
    let outcome := match redirect fuel job.child targets with
      | (redirected, some true) => run fuel tested redirected script
      | (later, _) => giveUp later later
    await job (finishShell fuel outcome)

/-- Runs commands each of which reads what the one before it has written. -/
def runPipe : Nat → Bool → Job → Job → List Script → Outcome
  | 0, _, _, job, _ => (job, .killed 11)
  | fuel + 1, tested, whole, job, scripts =>
    match scripts with
    | [] => (whole.resume job, .proceed)
    | [last] =>
      match runApart fuel tested job [] last with
      | (later, flow) => (whole.resume later, flow)
    | script :: rest =>
      let (opened, number) := job.openChannel (.queue [])
      let output := (whole.endpoint? 1).getD .nowhere
      match runApart fuel tested (opened.connect 1 (.channel number)) [] script with
      | (later, .proceed) =>
        let filled := later.collect number
        runPipe fuel tested whole ((filled.connect 0 (.channel number)).connect 1 output) rest
      | (later, flow) => (whole.resume later, flow)

/-- Runs the first body that has a pattern for a text. -/
def runCases : Nat → Bool → Job → String → List (List Word × Script) → Outcome
  | 0, _, job, _, _ => (job, .killed 11)
  | fuel + 1, tested, job, text, cases =>
    match cases with
    | [] => job.done 0
    | (patterns, body) :: rest =>
      let state := patterns.foldl (fun (state : Expanded Bool) word =>
        match state with
        | (job, some false) =>
          match expandPieces fuel job .text (replaceTildes job false word) with
          | (job, none) => (job, none)
          | (job, some glyphs) => (job, some ((Pattern.ofMarks (marksOf glyphs)).describes text))
        | state => state) (job, some false)
      match state with
      | (later, none) => giveUp job later
      | (job, some true) =>
        match body with
        | .nothing => job.done 0
        | body => run fuel tested job body
      | (job, some false) => runCases fuel tested job text rest

/-- Runs a simple command: assignments, or a command with its arguments. -/
def runSimple : Nat → Bool → Job → List Word → List Word → List Redirection → Outcome
  | 0, _, job, _, _, _ => (job, .killed 11)
  | fuel + 1, tested, before, assignments, words, redirections =>
    match expandCommand fuel { before with substituted := none } words with
    | (job, none) => giveUp before job
    | (job, some fields) =>
      let special := isSpecialCommand (fields.headD "")
      match openStreams fuel job redirections with
      | (job, none) => giveUp before job
      | (job, some false) =>
        ({ job with endpoints := before.endpoints }, if special then .leave else .proceed)
      | (opened, some true) =>
        let assigned := assignments.foldl (fun (state : Expanded (List (String × String))) word =>
          match state with
          | (job, none) => (job, none)
          | (job, some entries) =>
            match expandText fuel job true word with
            | (job, none) => (job, none)
            | (job, some text) =>
              let (name, value) := splitAssignment text
              let entry := (name, value.getD "")
              match assignAll job [entry] with
              | (job, none) => (job, some (entries ++ [entry]))
              | (job, some text) => failExpansion job text) (opened, some [])
        match assigned with
        | (job, none) => giveUp before job
        | (job, some entries) =>
          let job := trace before.endpoints job (entries.map (fun (name, value) => name ++ "=" ++ value) ++ fields)
          match fields with
          | [] =>
            -- Without a command the status is that of the last substitution.
            (takeBack before (job.ended (job.substituted.getD 0)) redirections, .proceed)
          | ["exec"] | ["exec", "--"] | ["command", "exec"] => job.done 0
          | name :: arguments =>
            let lasts := special && name != "exec"
            let shared := entries.foldl (fun (job : Job) (name, value) =>
              job.setVariable name ⟨some value, !lasts || (job.binding? name).any (·.exported), false⟩) job
            let (later, flow) := runNamed fuel tested shared name arguments
            let restored := if lasts then later else entries.foldl (fun (job : Job) (name, _) =>
              job.putBack name (opened.binding? name)) later
            (takeBack before restored redirections, flow)

/-- Runs a command by its name. -/
def runNamed : Nat → Bool → Job → String → List String → Outcome
  | 0, _, job, _, _ => (job, .killed 11)
  | fuel + 1, tested, job, name, arguments =>
    match if isSpecialCommand name then none else job.functions.lookup name with
    | some function => runFunction fuel tested job function arguments
    | none => runUndefined fuel tested job name arguments

/-- Runs a command that is no function by its name. -/
def runUndefined : Nat → Bool → Job → String → List String → Outcome
  | 0, _, job, _, _ => (job, .killed 11)
  | fuel + 1, tested, job, name, arguments =>
    match name with
    | "eval" =>
      let text := Text.joinWith " " arguments
      let isEmpty := (Shell.readTokens text.toList).all fun token => token.1 matches .newline | .finish
      if isEmpty then job.done 0
      else
        let (later, flow) := runText fuel tested { job with owner := "eval: " } text
        ({ later with owner := job.owner, line := job.line }, flow)
    | "." => runSourced fuel job arguments
    | "command" => runCommand fuel tested job arguments
    | "exec" => runExec fuel job arguments
    | "kill" =>
      match runKill job arguments with
      | (job, .killed signal) => receive fuel tested job signal
      | outcome => outcome
    | name =>
      match runOwn? job name arguments with
      | some outcome => outcome
      | none =>
        let job := job.track name
        launchProgram fuel job (job.executable? name) name arguments

/-- Runs a program that was looked for, or tells why it was not found. -/
def launchProgram : Nat → Job → Except String (String × Node) → String → List String → Outcome
  | 0, job, _, _, _ => (job, .killed 11)
  | fuel + 1, job, found, name, arguments =>
    match found with
    | .error why =>
      let status := if name.toList.contains '/' then Job.refusalStatus why else 127
      (job.protest status (name ++ ": " ++ why), .proceed)
    | .ok (path, node) =>
      if job.isTooLong (name :: arguments) then
        (job.protest 126 (name ++ ": " ++ Obstacle.tooLong.reason), .proceed)
      else
        let outcome := runProgram fuel job.programJob node path name arguments
        await job outcome

/-- Runs a command that is no function, or tells what a name stands for. -/
def runCommand : Nat → Bool → Job → List String → Outcome
  | 0, _, job, _ => (job, .killed 11)
  | fuel + 1, tested, job, arguments =>
    match leadingOptions arguments with
    | (options, rest) =>
      match unknownOption? "pVv" options, rest with
      | some option, _ => job.refuse "command" (illegalOption option)
      | none, [] => job.done 0
      | none, name :: arguments =>
        let usual := options.contains 'p'
        let searching := if usual then job.assign "PATH" shellPath else job
        let restored (later : Job) : Job :=
          if usual then { later with bindings := job.bindings, tracked := job.tracked } else later
        if options.contains 'V' then
          (restored (describeCommand (searching.ended 0) name), .proceed)
        else if options.contains 'v' then
          (restored (nameCommand (searching.ended 0) name), .proceed)
        else if usual && !isOwnCommand name then
          launchProgram fuel job (searching.executable? name) name arguments
        else match runUndefined fuel tested job name arguments with
          -- Its own failure no longer ends the shell.
          | (later, .leave) =>
            if isSpecialCommand name && name != "exit" && name != "exec" && name != "eval" then
              (later, .proceed)
            else (later, .leave)
          | outcome => outcome

/-- Runs a program in the place of the shell. -/
def runExec : Nat → Job → List String → Outcome
  | 0, job, _ => (job, .killed 11)
  | fuel + 1, job, arguments =>
    let arguments := if arguments.head? = some "--" then arguments.tail else arguments
    let name := arguments.headD ""
    match job.executable? name with
    | .error why => (job.complain (Job.refusalStatus why) ("exec: " ++ name ++ ": " ++ why), .leave)
    | .ok (path, node) =>
      if job.isTooLong arguments then
        (job.complain 126 ("exec: " ++ name ++ ": " ++ Obstacle.tooLong.reason), .leave)
      else
        let program := { job.programJob with number := job.number }
        match runProgram fuel program node path name arguments.tail with
        | (later, .killed signal) => (job.resume later, .killed signal)
        | (later, _) => (job.resume later, .replaced)

/-- Runs a function with its arguments. -/
def runFunction : Nat → Bool → Job → Function → List String → Outcome
  | 0, _, job, _, _ => (job, .killed 11)
  | fuel + 1, tested, job, function, arguments =>
    if callLimit ≤ job.scopes.length then
      let text := "Maximum function recursion depth (" ++ toString callLimit ++ ") reached"
      (job.protest 2 text, .leave)
    else
      let inner := { job.seekOptions 1 with
        arguments := arguments
        scopes := [] :: job.scopes
        loops := 0 }
      let (later, flow) := run fuel tested inner function.body
      let restored := (later.scopes.headD []).foldl (fun (job : Job) (name, before) =>
        job.putBack name before) later
      ({ restored with
          arguments := job.arguments
          scopes := job.scopes
          loops := job.loops
          optionWord := job.optionWord
          optionOffset := job.optionOffset },
        if flow = .back then .proceed else flow)

/-- Runs the commands of a file in the shell itself. -/
def runSourced : Nat → Job → List String → Outcome
  | 0, job, _ => (job, .killed 11)
  | fuel + 1, job, arguments =>
    match leadingOptions arguments with
    | (option :: _, _) => job.abort "." (illegalOption option)
    | ([], []) => job.done 0
    | ([], name :: _) =>
      let path := if name.toList.contains '/' then some name
        else (job.candidates name).find? fun path =>
          match job.find? path with
          | some (.file ..) => true
          | _ => false
      match path with
      | none => job.abort "." (name ++ ": not found")
      | some path =>
        match job.tree.read job.directory path with
        | .error .notFound | .error .notDirectory =>
          job.abort "." ("cannot open " ++ path ++ ": No such file")
        | .error _ => job.done 0
        | .ok content =>
          let sourced := { job.ended 0 with owner := path ++ ": " }
          let (later, flow) := runText fuel false sourced (Text.ofBytes content)
          ({ later with owner := job.owner, line := job.line }, if flow = .back then .proceed else flow)

/-- Does what is to be done at the signals that parts of the shell have sent to it, and ends when
everything has to end. -/
def attend : Nat → Bool → Outcome → Outcome
  | 0, _, outcome => outcome
  | fuel + 1, tested, (job, flow) =>
    if flow ≠ .proceed then (job, flow)
    else if job.isExpired then (job, .killed 15)
    else if job.isPart || !job.raised.any (·.1 == job.number) then (job, flow)
    else
      let mine := (List.range (lastSignal + 1)).filter fun signal => job.raised.contains (job.number, signal)
      mine.foldl (fun outcome signal =>
        match outcome with
        | (job, .proceed) => receive fuel tested job signal
        | outcome => outcome) ({ job with raised := job.raised.filter (·.1 != job.number) }, .proceed)

/-- Does what is to be done at a signal. -/
def receive : Nat → Bool → Job → Nat → Outcome
  | 0, _, job, _ => (job, .killed 11)
  | fuel + 1, tested, job, signal =>
    match job.actions.lookup signal with
    | none => (job, .killed signal)
    | some text =>
      if signal = 9 then (job, .killed signal)
      else if text.isEmpty then (job, .proceed)
      else match runText fuel tested job text with
        | (later, .proceed) => later.done job.status
        | outcome => outcome

/-- Does what is to be done when a shell is left. -/
def finishShell : Nat → Outcome → Outcome
  | 0, outcome => outcome
  | fuel + 1, (job, flow) =>
    match flow, job.actions.lookup 0 with
    | .killed _, _ | .replaced, _ | _, none => (job, flow)
    | flow, some text =>
      let job := { job with actions := job.actions.filter (·.1 != 0) }
      match runText fuel false job text with
      | (later, .proceed) | (later, .back) => (later.ended job.status, flow)
      | outcome => outcome

/-- Runs a program that was found, under a name. -/
def runProgram : Nat → Job → Node → String → String → List String → Outcome
  | 0, job, _, _, _, _ => (job, .killed 11)
  | fuel + 1, job, node, path, name, arguments =>
    match node with
    | .tool tool =>
      match tool with
      | "sh" | "dash" => runShell fuel job name arguments
      | "env" => runEnvironment fuel job name arguments
      | "xargs" => runXargs fuel job name arguments
      | tool =>
        match wrappers.find? (·.name == tool) with
        | some wrapper => runWrapped fuel job wrapper name arguments
        | none =>
          let later := runTool tool job name arguments
          (later, if later.isExpired then .killed 15 else .proceed)
    | .file content _ =>
      match interpreter? content with
      | none => runScript fuel { job with name := path, arguments := arguments } content
      | some (program, option) =>
        match job.find? program with
        | some node => runProgram fuel job node program program (option ++ path :: arguments)
        | none => (job, .proceed)
    | _ => (job, .proceed)

/-- Runs a program of the search path on behalf of another one, which tells with a name that it cannot. -/
def runFound : Nat → Job → (String → String) → String → List String → Outcome
  | 0, job, _, _, _ => (job, .killed 11)
  | fuel + 1, job, tell, name, arguments =>
    let refuse (status : Nat) (why : String) : Outcome :=
      (job.fail status (tell name ++ ": " ++ why), .proceed)
    match job.executable? name with
    | .error why =>
      let isMissing := why = "not found" ∨ name.isEmpty
      let why := if isMissing then "No such file or directory" else why
      refuse (Job.refusalStatus why) why
    | .ok (path, node) =>
      if job.isTooLong (name :: arguments) then refuse 126 Obstacle.tooLong.reason
      else
        let outcome := runProgram fuel { job with line := 1 } node path name arguments
        (job.resume outcome.1, outcome.2)

/-- Runs a program with changed variables. -/
def runEnvironment : Nat → Job → String → List String → Outcome
  | 0, job, _, _ => (job, .killed 11)
  | fuel + 1, job, owner, arguments =>
    match readWords (environmentRules.map OptionRule.ofText) false none arguments with
    | .error text => (job.blameUse 125 owner text, .proceed)
    | .ok given =>
      match given.value? "S" with
      | some text =>
        -- The words of the text take the place of the option.
        let others := given.options.filter (·.1 != "S")
        let job := changedEnvironment job ⟨others, given.operands⟩
        runEnvironment fuel job owner (commandWords text.toList ++ given.operands)
      | none =>
        let clears := given.operands.head? = some "-"
        let options := if clears then ("i", none) :: given.options else given.options
        let operands := if clears then given.operands.tail else given.operands
        let changed := changedEnvironment job ⟨options, operands⟩
        runEnvironmentOperands fuel changed owner given (operands.dropWhile fun word =>
          (splitAssignment word).2.isSome) operands

/-- Runs a program behind assignments of variables, or shows the variables. -/
def runEnvironmentOperands : Nat → Job → String → Given → List String → List String → Outcome
  | 0, job, _, _, _, _ => (job, .killed 11)
  | fuel + 1, job, owner, given, command, operands =>
    let job := (operands.take (operands.length - command.length)).foldl (fun (job : Job) word =>
      let (name, value) := splitAssignment word
      job.setVariable name ⟨value, true, false⟩) job
    match command, given.value? "C" with
    | [], some _ =>
      (job.blameUse 125 owner "must specify command with --chdir (-C)", .proceed)
    | [], none =>
      let ending := if given.has "0" then "\x00" else "\n"
      let lines := job.exports.reverse.map fun (name, value) => name ++ "=" ++ value ++ ending
      ((job.write 1 (String.join lines)).ended 0, .proceed)
    | name :: arguments, directory =>
      if given.has "0" then
        (job.blameUse 125 owner "cannot specify --null (-0) with command", .proceed)
      else
        let moved : Except ReadError Job := match directory with
          | none => .ok job
          | some path =>
            match job.tree.inspect job.directory true path with
            | .ok (place, .directory) => .ok { job with directory := place }
            | .ok _ => .error .notDirectory
            | .error error => .error error
        match moved with
        | .ok job =>
          let (later, flow) := runFound fuel job (fun name => owner ++ ": " ++ Text.cited name) name arguments
          -- A name with a blank in it may have been meant for options.
          if name.toList.any Char.isWhitespace && !(job.executable? name).isOk then
            (later.blame later.status owner "use -[v]S to pass options in shebang lines", flow)
          else (later, flow)
        | .error error =>
          (job.blame 125 owner ("cannot change directory to " ++
            Text.named (directory.getD "") ++ ": " ++ reason error), .proceed)

/-- Runs a program in surroundings that make no difference. -/
def runWrapped : Nat → Job → Wrapper → String → List String → Outcome
  | 0, job, _, _, _ => (job, .killed 11)
  | fuel + 1, job, wrapper, owner, arguments =>
    match wrapper.wrapped arguments with
    | .refused text offersHelp => (job.blameWrapping wrapper.misuse owner text offersHelp, .proceed)
    | .told text => ((job.write 1 text).ended 0, .proceed)
    | .command words =>
      runFound fuel job (fun name => owner ++ ": " ++ wrapper.failure name) (words.headD "") words.tail
    | .limited span signal given words =>
      let ends := job.clock + span
      let limited := { job with deadline := some ((job.deadline.map (min ends)).getD ends) }
      let (later, flow) := runFound fuel limited
        (fun name => owner ++ ": " ++ wrapper.failure name) (words.headD "") words.tail
      let later := { later with deadline := job.deadline }
      if later.clock < ends then (later, flow)
      else
        let told := if given.has "v" then
          later.blame 0 owner ("sending signal " ++ signalName signal ++ " to command " ++
            Text.cited (words.headD ""))
          else later
        if signal = 9 then (told, .killed 9)
        else (told.ended (if given.has "preserve-status" then 128 + signal else 124), .proceed)

/-- Runs a program with arguments that are read from the input. -/
def runXargs : Nat → Job → String → List String → Outcome
  | 0, job, _, _ => (job, .killed 11)
  | fuel + 1, job, owner, arguments =>
    match BatchPlan.read arguments with
    | .error (text, offersHelp) =>
      (if offersHelp then job.blameUse 1 owner text else job.blame 1 owner text, .proceed)
    | .ok plan =>
      let tell (job : Job) (texts : List String) : Job :=
        texts.foldl (fun job text => job.blame 0 owner text) job
      let job := tell job plan.warnings
      let (read, job) := match plan.file with
        | some path => job.readOperand path
        | none =>
          let (bytes, job) := job.drainInput 0
          (.ok bytes, job)
      match read with
      | .error _ =>
        (job.blame 1 owner ("Cannot open input file " ++ Text.cited (plan.file.getD "") ++
          ": No such file or directory"), .proceed)
      | .ok bytes =>
        let (batches, fault) := plan.batches bytes
        let run (outcome : Outcome) (batch : List String) : Outcome :=
          match outcome with
          | (job, .proceed) =>
            let program := batch.headD ""
            let told := if plan.tells then
              job.write 2 (Text.joinWith " " (batch.map Text.namedIfNeeded) ++ "\n") else job
            let (later, flow) := runFound fuel (told.connect 0 .nowhere)
              (owner ++ ": " ++ ·) program batch.tail
            let after := told.resume later
            match flow, later.status with
            | .killed signal, _ =>
              if after.isExpired then (after, flow)
              else (after.blame 125 owner (program ++ ": terminated by signal " ++ toString signal), .leave)
            | _, 0 => after.done job.status
            | _, 255 =>
              (after.blame 124 owner (program ++ ": exited with status 255; aborting"), .leave)
            -- What cannot be run at all ends the run.
            | _, _ => if (job.executable? program).toOption.isNone then (after, .leave) else after.done 123
          | outcome => outcome
        match batches.foldl run ((tell job (plan.openingWarnings bytes)).ended 0, .proceed), fault with
        | (later, .proceed), some text =>
          (later.blame (if later.status = 0 then 1 else later.status) owner text, .proceed)
        | (later, _), _ => (later, .proceed)

/-- Runs a shell by the arguments that it was given. -/
def runShell : Nat → Job → String → List String → Outcome
  | 0, job, _, _ => (job, .killed 11)
  | fuel + 1, job, name, arguments =>
    match readShellWords arguments with
    | .error text => (job.fail 2 (name ++ ": 0: " ++ text), .leave)
    | .ok words =>
      let job := { job with options := words.options, name := name, arguments := words.operands }
      if words.takesCommand then
        match words.operands with
        | [] => (job.fail 2 (name ++ ": 0: -c requires an argument"), .leave)
        | text :: rest =>
          let job := { job with name := rest.headD name, arguments := rest.tail }
          finishShell fuel (runText fuel false (startShell job) text)
      else match if words.options.contains 's' then [] else words.operands with
        | [] =>
          let (bytes, job) := job.drainInput 0
          finishShell fuel (runText fuel false (startShell job) (Text.ofBytes bytes))
        | path :: rest =>
          match job.tree.read job.directory path with
          | .ok content => runScript fuel { job with name := path, arguments := rest } content
          | .error .isDirectory => (job.ended 0, .proceed)
          | .error _ =>
            (job.fail 2 (name ++ ": 0: cannot open " ++ path ++ ": No such file"), .leave)

/-- Runs a file of commands. -/
def runScript : Nat → Job → List UInt8 → Outcome
  | 0, job, _ => (job, .killed 11)
  | fuel + 1, job, content =>
    finishShell fuel (runText fuel false (startShell job) (Text.ofBytes content))

/-- Runs the commands of a text. -/
def runText : Nat → Bool → Job → String → Outcome
  | 0, _, job, _ => (job, .killed 11)
  | fuel + 1, tested, job, text =>
    let (later, flow) := runTokens fuel true tested { job with line := 1 } (Shell.readTokens text.toList)
    ({ later with lineRead := job.lineRead }, flow)

/-- Runs the commands that tokens stand for. -/
def runTokens : Nat → Bool → Bool → Job → Tokens → Outcome
  | 0, _, _, job, _ => (job, .killed 11)
  | fuel + 1, isRead, tested, job, tokens =>
    runLines isRead (Shell.fuelFor tokens.length) (run fuel tested) (tokens.length + 1) job tokens

end

end FormatPipeline.Sandbox
