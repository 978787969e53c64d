import FormatPipeline.CommandLine.Parser
import FormatPipeline.Logger
import FormatPipeline.Service
import FormatPipeline.Settings.Defaults
import FormatPipeline.Settings.Loading

/-! The program as a whole: from a command line and an input to everything that is written. -/

namespace FormatPipeline.Program

open Settings (Store FileError)

/-- What the program leaves behind. -/
structure Outcome (ω : Type) where
  output : String
  errors : String
  exitCode : Nat
  world : ω

/-- How many milliseconds a changed setting waits until it takes effect. -/
def settingsDelay : Nat := 1000

/-- What is logged before a file is read. -/
def readingFile (path : Path) : String := "Reading file: " ++ path.text

/-- Reasons on one line, the outermost in front. -/
def reasonsLine (reasons : List String) : String := Text.joinWith ": " reasons ++ "\n"

/-- What the messages among events write. -/
def outputOf (events : List Event) : String :=
  String.join (events.filterMap fun event => match event with
    | .sent message => some message.line
    | _ => none)

/-- What the log texts among events write. -/
def logOf (events : List Event) : String :=
  (Logger.initial.writeAll (events.filterMap fun event => match event with
    | .log text => some text
    | _ => none)).1

variable {ω : Type} [World ω]

/-- The settings of a file over the default ones, and what is logged while it is read. -/
def loadSettings (world : ω) (level : LogLevel) (config : Option String) :
    Outlet × Except FileError (Store Subscription) :=
  let outlet := Outlet.ofLevel level
  let store : Store Subscription := .ofDefaults (Settings.defaults Profile.builtin)
  match config with
  | none => (outlet, .ok store)
  | some entry =>
    let path := Path.expandHome (World.files world).home entry
    let outlet := outlet.log .debug (readingFile path)
    match Settings.readSettingsFile world path with
    | .error error => (outlet, .error error)
    | .ok entries =>
      -- Unknown settings are only logged, and they are set like the others.
      let unknown := (entries.map (·.1)).filter (!store.isKnown ·)
      (unknown.foldl (fun outlet key => outlet.log .debug (Settings.unknownInFile path key)) outlet,
        .ok (entries.foldl (fun store entry => (store.set entry.1 entry.2).1) store))

/-- Runs the service until its input ends. -/
def serve (world : ω) (level : LogLevel) (config : Option String) (input : List Feed) : Outcome ω :=
  match loadSettings world level config with
  -- Without its settings the program ends before the service begins.
  | (outlet, .error error) =>
    ⟨"", logOf outlet.events.reverse ++ reasonsLine error.reasons, 1, world⟩
  | (outlet, .ok store) =>
    let s : Session ω := (Session.initial world level store).modify fun w => { w with outlet := outlet }
    let (s, error) := Service.run Profile.builtin settingsDelay input s
    let events := s.state.outlet.events.reverse
    let (complaint, exitCode) := match error with
      | none => ("", 0)
      | some error => (reasonsLine error.reasons, 1)
    ⟨outputOf events, logOf events ++ complaint, exitCode, s.state.world⟩

/-- Runs the program; the first word is its name. -/
def run (world : ω) (words : List String) (input : List Feed) : Outcome ω :=
  match CommandLine.parse words with
  | .error refusal => ⟨"", refusal.message ++ "\n", 1, world⟩
  | .ok request =>
    match request.task with
    | .help => ⟨CommandLine.Topic.program.helpText, "", 0, world⟩
    | .version => ⟨CommandLine.versionText, "", 0, world⟩
    | .service => serve world request.logLevel request.config input

end FormatPipeline.Program
