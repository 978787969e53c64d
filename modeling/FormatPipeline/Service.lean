import FormatPipeline.Message.Decoding
import FormatPipeline.Session
import FormatPipeline.Text.Utf8

/-! The service that an editor talks to: messages come in line by line until the input ends. -/

namespace FormatPipeline

/-- What the input has next: bytes, or nothing for some milliseconds. -/
inductive Feed where
  | bytes (bytes : List UInt8)
  | pause (milliseconds : Nat)

/-- Why the service ends before its input does. -/
inductive Ending where
  /-- The editor asked for it. -/
  | shutdown
  /-- A line is no UTF-8 text. -/
  | notUtf8 (fault : Text.Utf8Fault)
  deriving DecidableEq, Repr

/-- Why the service fails. -/
inductive ServiceError where
  | unsent (error : SendError)
  | notUtf8 (fault : Text.Utf8Fault)
  deriving DecidableEq, Repr

/-- The reasons from the outermost to the innermost. -/
def ServiceError.reasons : ServiceError → List String
  | .unsent error => error.reasons
  | .notUtf8 fault => [fault.message]

/-- A service at work. -/
structure Service (ω : Type) where
  session : Session ω
  /-- The numbers of the chains that were asked for and were not complete at the last look. -/
  chains : List Nat

namespace Service

variable {ω : Type} [World ω]

/-- Changes the session alone. -/
def modify (service : Service ω) (f : Session ω → Session ω) : Service ω :=
  { service with session := f service.session }

/-- Logs a warning. -/
def warn (service : Service ω) (text : String) : Service ω :=
  service.modify fun s => s.modify (·.warn text)

/-- Remembers a chain. -/
def addChain (service : Service ω) (number : Nat) : Service ω :=
  { service with chains := service.chains ++ [number] }

/-- The document that is open under the number, or a warning. -/
def lookUp (service : Service ω) (id : Nat) : Service ω × Option Handle :=
  match service.session.state.documents.handle? id with
  | some handle => (service, some handle)
  | none => (service.warn ("Unknown document: " ++ toString id), none)

/-- A document number as it is written in a warning. -/
def describeId : Option Nat → String
  | some id => "Some(DocumentId(" ++ toString id ++ "))"
  | none => "None"

/-- Sets a setting; that nobody knows it is only logged. -/
def setSetting (service : Service ω) (key : String) (value : Json.Value) : Service ω :=
  service.modify fun s =>
    let s : Session ω := if s.state.store.isKnown key then s
      else s.modify (·.debug ("Unknown setting: " ++ key))
    -- An unknown setting is stored all the same.
    s.set key value

/-- Runs a command, and remembers the chain that it asks for. -/
def runCommand (service : Service ω) (name : String) : Service ω :=
  match service.session.command name with
  | (s, .spawned number) => { service with session := s }.addChain number
  | (s, .done) => { service with session := s }
  | (s, .unknown) => { service with session := s }.warn (Session.unknownCommand name)

/-- Handles a message, and tells whether the service goes on. -/
def handle (service : Service ω) : Incoming → Service ω × Bool
  | .openDocument id path displayPath text cursor inScope =>
    (service.modify (Session.openDocument (.opened id path displayPath text cursor inScope)), true)
  | .updateDocument id text cursor =>
    -- Only a document that is open can be updated.
    match service.lookUp id with
    | (service, some handle) =>
      (service.modify (Session.changeDocument handle (·.edited text cursor)), true)
    | (service, none) => (service, true)
  | .closeDocument id => (service.modify (Session.closeDocument id), true)
  | .scopeChanged id inScope =>
    match service.lookUp id with
    | (service, some handle) => (service.modify (Session.changeScope handle inScope), true)
    | (service, none) => (service, true)
  | .activeDocumentChanged id =>
    match service.session.activateDocument id with
    | (s, true) => ({ service with session := s }, true)
    -- Nothing changes when the document is not open.
    | (_, false) => (service.warn ("Unknown document: " ++ describeId id), true)
  | .saved id =>
    match service.lookUp id with
    | (service, none) => (service, true)
    | (service, some handle) =>
      match service.session.documentSaved handle with
      | (s, some number) => ({ service with session := s }.addChain number, true)
      | (s, none) => ({ service with session := s }, true)
  | .setting key value => (service.setSetting key value, true)
  | .command name => (service.runCommand name, true)
  | .shutdown => (service, false)

/-- Whether a chain is not complete. -/
def isRunning (service : Service ω) (number : Nat) : Bool :=
  (service.session.state.result? number).isNone

/-- Forgets the chains that are complete. -/
def retainRunning (service : Service ω) : Service ω :=
  { service with chains := service.chains.filter service.isRunning }

/-- What is logged about a line that is no message. -/
def malformedText : DecodeError → String
  | .text _ => "Skipping malformed message."
  | .shape message => "Skipping malformed message. " ++ message

/-- Handles a line; one that is blank or no message changes nothing. -/
def handleLine (service : Service ω) (line : String) : Service ω × Option Ending :=
  if Text.allBlank line then (service, none)
  else match Incoming.decode line with
    | .error error => (service.warn (malformedText error), none)
    | .ok message =>
      match service.handle message with
      -- Chains that have ended meanwhile need not be waited for at the end.
      | (service, true) => (service.retainRunning, none)
      | (service, false) => (service, some .shutdown)

/-- The bytes of a line without its line end; both are in reverse order. -/
def withoutLineEnd : List UInt8 → List UInt8
  | 10 :: 13 :: rest => rest
  | 10 :: rest => rest
  | rest => rest

/-- Handles the bytes of a line, which are in reverse order. -/
def handleBytes (service : Service ω) (reversed : List UInt8) : Service ω × Option Ending :=
  let line := (withoutLineEnd reversed).reverse
  -- A line that is no text ends the service, unlike a text that is no message.
  match Text.utf8Fault? line with
  | some fault => (service, some (.notUtf8 fault))
  | none => service.handleLine (Text.ofBytes line)

/-- Handles the lines that bytes complete; those of the line so far are in reverse order. -/
def takeBytes (service : Service ω) (reversed : List UInt8) :
    List UInt8 → Service ω × List UInt8 × Option Ending
  | [] => (service, reversed, none)
  | byte :: rest =>
    if byte = 10 then
      match service.handleBytes (byte :: reversed) with
      | (service, some ending) => (service, [], some ending)
      | (service, none) => takeBytes service [] rest
    else takeBytes service (byte :: reversed) rest

/-- Handles the input up to its end or an earlier ending. -/
def takeFeed (service : Service ω) (reversed : List UInt8) :
    List Feed → Service ω × Option Ending
  -- A last line may lack its line end.
  | [] => if reversed.isEmpty then (service, none) else service.handleBytes reversed
  -- While no input comes, the work that is due goes on.
  | .pause milliseconds :: rest =>
    takeFeed (service.modify (Session.wait milliseconds)) reversed rest
  | .bytes bytes :: rest =>
    match service.takeBytes reversed bytes with
    | (service, _, some ending) => (service, some ending)
    | (service, reversed, none) => takeFeed service reversed rest

/-- Waits for the chains and stops. -/
def finish (service : Service ω) : Service ω :=
  { service.modify fun s => (s.awaitAll service.chains).stop with chains := [] }

/-- Sends the names of the commands, which come before every other message. -/
def announce (profiles : List Profile) (s : Session ω) : Session ω × Option SendError :=
  let (outlet, error) := s.state.outlet.trySend (.commands (Command.namesOf profiles))
  (s.modify fun w => { w with outlet := outlet }, error)

/-- Runs the service over its whole input. -/
def run (profiles : List Profile) (delay : Nat) (input : List Feed) (s : Session ω) :
    Session ω × Option ServiceError :=
  -- Without a connection to the editor nothing is begun.
  match announce profiles s with
  | (s, some error) => (s, some (.unsent error))
  | (s, none) =>
    let service : Service ω := ⟨s.start profiles delay, []⟩
    let (service, ending) := service.takeFeed [] input
    let error := match ending with
      | some (.notUtf8 fault) => some (.notUtf8 fault)
      | _ => none
    (service.finish.session, error)

end Service

end FormatPipeline
