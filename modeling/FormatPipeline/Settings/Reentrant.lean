import FormatPipeline.LogLevel
import FormatPipeline.Settings.Loading
import FormatPipeline.Settings.Store

/-! Observers that use the settings themselves while they are told about a change. -/

namespace FormatPipeline.Settings

open Json (Value)

/-- Something that is done with settings. -/
inductive Action where
  | get (key : String)
  | set (key : String) (value : Value)
  | toggle (key : String)
  | isKnown (key : String)
  | loadText (text : String)
  | loadFile (path : Path)
  /-- Adds an observer under a name; its script says what it does itself at which of its calls. -/
  | observe (name key : String) (script : List (Nat × Action))
  | unobserve (name : String)
  deriving Inhabited

/-- What an action gives. -/
inductive Answer where
  | nothing
  | value (value : Value)
  | flag (value : Bool)
  | keys (keys : List String)
  | textError (error : LoadError)
  | loaded
  | fileError (error : FileError)

/-- Something that can be observed. -/
inductive Notice where
  | log (text : String)
  | told (observer : String) (value : Value)

/-- An observer with a script. -/
structure Scripted where
  name : String
  calls : Nat
  script : List (Nat × Action)

/-- Settings with observers that follow scripts. -/
structure Bench (ω : Type) where
  world : ω
  level : LogLevel
  /-- Each observer is told under its place in the list of all observers there ever were. -/
  store : Store Nat
  scripts : List Scripted
  /-- The observers that can be removed by name, with their numbers in the store. -/
  subscriptions : List (String × Nat)
  /-- The newest notice first. -/
  notices : List Notice

mutual
/-- How often an action and those in its scripts are performed at most when it is performed once. -/
def Action.bound : Action → Nat
  | .observe _ _ script => Action.boundAll script + 1
  | _ => 1

/-- The bound for a script: each call up to its number may perform an entry once. -/
def Action.boundAll : List (Nat × Action) → Nat
  | [] => 0
  | (call, action) :: rest => call * action.bound + Action.boundAll rest
end

namespace Bench

variable {ω : Type}

/-- Adds a notice. -/
def note (bench : Bench ω) (notice : Notice) : Bench ω :=
  { bench with notices := notice :: bench.notices }

/-- Removes the observer of a name. -/
def drop (bench : Bench ω) (name : String) : Bench ω :=
  match bench.subscriptions.lookup name with
  | none => bench
  | some id =>
    { bench with
      store := bench.store.unobserve id
      subscriptions := bench.subscriptions.filter (·.1 != name) }

/-- Logs which of the keys in a file are no known settings. -/
def logUnknown (bench : Bench ω) (path : Path) (keys : List String) : Bench ω :=
  (keys.filter (!bench.store.isKnown ·)).foldl (fun bench key =>
    if bench.level.logs .debug then bench.note (.log (unknownInFile path key)) else bench) bench

/-- How often the observer at a place has been told a value. -/
def callsOf (bench : Bench ω) (place : Nat) : Nat := ((bench.scripts[place]?).map (·.calls)).getD 0

/-- Follows a script: an entry is due if its number is that of the observer's latest call. -/
def follow (act : Action → Bench ω → Bench ω) (place : Nat) (script : List (Nat × Action))
    (bench : Bench ω) : Bench ω :=
  -- An entry may itself cause calls, after which other numbers are due.
  script.foldl (fun bench entry =>
    if bench.callsOf place = entry.1 then act entry.2 bench else bench) bench

/-- Tells observers about a value; each first makes a notice and then follows its script. -/
def tellAll (act : Action → Bench ω → Bench ω) (value : Value) : List Nat → Bench ω → Bench ω
  | [], bench => bench
  | place :: rest, bench =>
    match bench.scripts[place]? with
    | none => tellAll act value rest bench
    | some observer =>
      let told := { observer with calls := observer.calls + 1 }
      -- The call counts before its script is followed.
      let bench := { bench with scripts := bench.scripts.set place told }
      tellAll act value rest
        ((bench.note (.told observer.name value)).follow act place observer.script)

/-- Sets a setting and tells its observers. -/
def assign (act : Action → Bench ω → Bench ω) (key : String) (value : Value) (bench : Bench ω) :
    Bench ω :=
  let (store, told) := bench.store.set key value
  tellAll act value told { bench with store := store }

/-- Sets settings one after another. -/
def assignAll (act : Action → Bench ω → Bench ω) (entries : List (String × Value))
    (bench : Bench ω) : Bench ω :=
  entries.foldl (fun bench (key, value) => assign act key value bench) bench

variable [World ω]

/-- Performs an action; inside one another no more than `depth` actions are performed. -/
def perform (depth : Nat) (action : Action) (bench : Bench ω) : Bench ω × Answer :=
  match depth with
  -- Never reached when `depth` bounds all that is performed.
  | 0 => (bench, .nothing)
  | depth + 1 =>
    let act (action : Action) (bench : Bench ω) : Bench ω := (perform depth action bench).1
    match action with
    | .get key => (bench, .value (bench.store.get key))
    | .isKnown key => (bench, .flag (bench.store.isKnown key))
    | .set key value => (assign act key value bench, .nothing)
    | .toggle key => (assign act key (bench.store.toggled key) bench, .nothing)
    | .loadText text =>
      match readSettings text with
      | .error error => (bench, .textError error)
      | .ok entries => (assignAll act entries bench, .keys (entries.map (·.1)))
    | .loadFile path =>
      match readSettingsFile bench.world path with
      | .error error => (bench, .fileError error)
      | .ok entries => ((assignAll act entries bench).logUnknown path (entries.map (·.1)), .loaded)
    | .unobserve name =>
      (bench.drop name, .flag (bench.subscriptions.any (·.1 == name)))
    | .observe name key script =>
      -- The observer is registered first, then told, and known by its name at last.
      let place := bench.scripts.length
      let (store, id) := bench.store.observe key place
      let bench := { bench with store := store, scripts := bench.scripts ++ [⟨name, 0, script⟩] }
      let bench := (tellAll act (store.get key) [place] bench).drop name
      ({ bench with subscriptions := (name, id) :: bench.subscriptions }, .nothing)

/-- Performs actions one after another, each with its answer and the notices that it causes. -/
def performAll (depth : Nat) : List Action → Bench ω → List (Answer × List Notice)
  | [], _ => []
  | action :: rest, bench =>
    let (bench, answer) := perform depth action { bench with notices := [] }
    (answer, bench.notices.reverse) :: performAll depth rest bench

/-- The answers of a whole session with the settings. -/
def answers (world : ω) (level : LogLevel) (defaults settings : List (String × Value))
    (actions : List Action) : List (Answer × List Notice) :=
  let store : Store Nat := settings.foldl (fun store entry => (store.set entry.1 entry.2).1)
    (Store.ofDefaults defaults)
  -- No nesting is deeper than the number of all actions that are ever performed.
  performAll (Action.boundAll (actions.map (1, ·)) + 1) actions ⟨world, level, store, [], [], []⟩

end Bench

end FormatPipeline.Settings
