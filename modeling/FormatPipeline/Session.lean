import FormatPipeline.Command
import FormatPipeline.Schedule.Debounce
import FormatPipeline.Workspace.Chain
import FormatPipeline.Workspace.Coordination

/-! A workspace under a clock: settings that take effect, commands, and the beginning and the end. -/

namespace FormatPipeline

open Settings (OrderKind Slot Store)

/-- A setting's value on its way to where it takes effect. -/
structure Update where
  target : Target
  value : Json.Value

/-- Lets a value take effect. -/
def Update.apply {ω : Type} [World ω] (update : Update) (w : Workspace ω) : Workspace ω :=
  w.applyTarget update.target update.value

/-- A workspace on a timeline on which errands, processes and delayed updates wait. -/
abbrev Session (ω : Type) := Schedule.DebouncedTimeline Update Errand Sleeper (Workspace ω)

namespace Session

variable {ω : Type} [World ω]

omit [World ω] in
/-- A session in a world in which nothing has been done. -/
def initial (world : ω) (level : LogLevel) (store : Store Subscription) : Session ω :=
  .ofState (.initial world level store)

/-- The session's machine. -/
def machine : Schedule.DebouncedMachine Update Errand Sleeper (Workspace ω) :=
  Workspace.chainMachine.debounced Update.apply

/-- Lets some milliseconds pass. -/
def wait (milliseconds : Nat) (s : Session ω) : Session ω := s.advance machine milliseconds

/-- Lets time pass until all the numbered pieces of work are complete, with all that is due then. -/
def awaitAll (numbers : List Nat) (s : Session ω) : Session ω :=
  s.await machine fun w => numbers.all fun number => (w.result? number).isSome

omit [World ω] in
/-- Asks for a piece of work, which begins when its turn comes. -/
def spawn (errand : Nat → Errand) (s : Session ω) : Session ω × Nat :=
  -- The number is taken at once, while the errand begins only when its turn comes.
  let (w, number) := s.state.takeNumber
  (Schedule.DebouncedTimeline.spawn { s with state := w } (errand number), number)

/-- Asks for a piece of work and lets time pass until it is complete. -/
def perform (errand : Nat → Errand) (s : Session ω) : Session ω × Option Result :=
  let (s, number) := s.spawn errand
  let s := s.awaitAll [number]
  (s, s.state.result? number)

/-! ## Settings -/

/-- Tells an observer about a change: at once, or through its debouncer if that is still in use. -/
def notify (key : String) (value : Json.Value) (s : Session ω) (subscription : Subscription) :
    Session ω :=
  let update : Update := ⟨subscription.target, value⟩
  match subscription.debouncer with
  | none => s.modify update.apply
  | some number =>
    match s.state.debouncer with
    | some (current, delay) =>
      -- A debouncer that was replaced or dropped meanwhile keeps quiet.
      if number = current then Schedule.DebouncedTimeline.call Update.apply delay key update s else s
    | none => s

/-- Sets a setting and tells its observers. -/
def set (key : String) (value : Json.Value) (s : Session ω) : Session ω :=
  let (store, told) := s.state.store.set key value
  -- Observers are told after the value is stored, in the order in which they came.
  told.foldl (notify key value) (s.modify fun w => { w with store := store })

/-- Turns a switch over. -/
def toggle (key : String) (s : Session ω) : Session ω := s.set key (s.state.store.toggled key)

/-- Lets a setting take effect now and whenever it changes. -/
def observe (key : String) (subscription : Subscription) (s : Session ω) : Session ω :=
  let (store, number) := s.state.store.observe key subscription
  let update : Update := ⟨subscription.target, store.get key⟩
  -- The present value takes effect at once, even for a target that is debounced later.
  (s.modify fun w => { w with store := store, subscriptions := w.subscriptions ++ [number] }).modify
    update.apply

omit [World ω] in
/-- Puts a new debouncer in place of the present one, whose pending updates are forgotten. -/
def replaceDebouncer (delay : Nat) (s : Session ω) : Session ω :=
  (Schedule.DebouncedTimeline.cancelAll s).modify fun w =>
    -- Debouncers are numbered together with pieces of work, so that no two have one number.
    let (w, number) := w.takeNumber
    { w with debouncer := some (number, delay) }

omit [World ω] in
/-- Does without a debouncer, and forgets the pending updates. -/
def dropDebouncer (s : Session ω) : Session ω :=
  (Schedule.DebouncedTimeline.cancelAll s).modify fun w => { w with debouncer := none }

omit [World ω] in
/-- Stops observing settings; pending updates stay, and so do observers that others have. -/
def unobserveAll (s : Session ω) : Session ω :=
  s.modify fun w => { w with store := w.subscriptions.foldl .unobserve w.store, subscriptions := [] }

/-- The settings of a formatter in the order in which they are observed, and which are debounced. -/
def observedSlots : List (Slot × Bool) := [
  (.localBins, true), (.localConfigs, true), (.globalBinPath, true), (.globalConfigs, true),
  (.localArguments, false), (.globalArguments, false)]

omit [World ω] in
/-- The number of the present debouncer. -/
def debouncerNumber (s : Session ω) : Nat := (s.state.debouncer.map (·.1)).getD 0

/-- Lets the settings of a formatter take effect. -/
def observeFormatter (name : String) (s : Session ω) : Session ω :=
  observedSlots.foldl (fun s (slot, debounced) =>
    s.observe (slot.keyOf name)
      ⟨.slot name slot, if debounced then some s.debouncerNumber else none⟩) s

/-- Lets the settings that belong to no formatter take effect, the error handling first. -/
def observeGeneral (s : Session ω) : Session ω :=
  let s := s.observe Settings.errorHandlingKey ⟨.errorHandling, none⟩
  let s := s.observe Settings.busySignalKey ⟨.busySignal, none⟩
  let s := s.observe Settings.statusBarKey ⟨.statusBar, none⟩
  let s := s.observe Settings.onSaveEnabledKey ⟨.onSaveEnabled, none⟩
  -- Only the orders wait for a quiet period.
  let s := s.observe OrderKind.format.key ⟨.order .format, some s.debouncerNumber⟩
  s.observe OrderKind.save.key ⟨.order .save, some s.debouncerNumber⟩

/-! ## Beginning and end -/

omit [World ω] in
/-- Registers formatters; of several with one name only the first counts. -/
def register (profiles : List Profile) (s : Session ω) : Session ω :=
  s.modify fun w => profiles.foldl (fun w profile =>
    if (w.formatter? profile.name).isSome then
      w.warn ("Ignoring duplicate formatter profile: " ++ profile.name)
    else { w with formatters := w.formatters ++ [Formatter.ofProfile profile] }) w

/-- Registers the formatters, lets all settings take effect, and takes over the active document. -/
def start (profiles : List Profile) (delay : Nat) (s : Session ω) : Session ω :=
  -- All formatters have to be there before an order can name them.
  let s := (s.register profiles).replaceDebouncer delay
  let s := s.state.formatterNames.foldl (fun s name => s.observeFormatter name) s.observeGeneral
  s.modify fun w =>
    -- A document that is active already counts as one that was just opened.
    let w := match w.documents.active? with
      | none => w.renderStatus
      | some handle =>
        let w := match w.document? handle with
          | some document => w.documentOpened document
          | none => w
        w.activeChanged (some handle)
    w.debug ("Initialized with formatters: " ++ Text.joinWith ", " w.formatterNames)

omit [World ω] in
/-- Stops observing settings, forgets pending updates, and removes the status tile. -/
def stop (s : Session ω) : Session ω :=
  (Schedule.DebouncedTimeline.cancelAll s.unobserveAll).modify fun w =>
    let w := { w with coordination := { w.coordination with saveWatch := [], activeDocument := none } }
    -- The tile is removed whether it was shown or not.
    (w.send (.status none)).debug "Shut down."

/-! ## Commands and saved documents -/

/-- What comes of a command. -/
inductive CommandResult where
  /-- Formatting was asked for under a number. -/
  | spawned (number : Nat)
  | done
  | unknown
  deriving DecidableEq, Repr

/-- The formatter that a command names. -/
def commandFormatter? (command : String) : Option String :=
  -- Such a command is the name of the family, a colon, and the formatter's name.
  let lead := (Command.family ++ ":").toList
  if lead.isPrefixOf command.toList then some (.ofList (command.toList.drop lead.length)) else none

/-- Runs a command. -/
def command (name : String) (s : Session ω) : Session ω × CommandResult :=
  let s : Session ω := s.modify (·.debug ("Command: " ++ name))
  let spawned (errand : Nat → Errand) : Session ω × CommandResult :=
    let (s, number) := Session.spawn errand s
    (s, .spawned number)
  if name = Command.format then spawned .formatActive
  else if name = Command.toggleOnSave then (s.toggle Settings.onSaveEnabledKey, .done)
  -- The fixed names come first, even if a formatter has one of them.
  else match commandFormatter? name with
    | none => (s, .unknown)
    | some formatter =>
      -- A formatter that is not registered is as good as no command.
      if (s.state.formatter? formatter).isSome then spawned (.runOnActive · formatter)
      else (s, .unknown)

/-- What is said about a command that nobody knows. -/
def unknownCommand (name : String) : String := "Unknown command: " ++ name

omit [World ω] in
/-- A document was saved; it is formatted if its saves are watched. -/
def documentSaved (handle : Handle) (s : Session ω) : Session ω × Option Nat :=
  match s.state.document? handle with
  | some document =>
    if s.state.formatsOnSave document.id then
      let (s, number) := s.spawn (.formatSaved · handle)
      (s, some number)
    else (s, none)
  | none => (s, none)

/-! ## Documents -/

omit [World ω] in
/-- Opens a document without telling anyone. -/
def insertDocument (document : Document) (s : Session ω) : Session ω × Handle :=
  let (documents, handle) := s.state.documents.insert document
  (s.modify fun w => { w with documents := documents }, handle)

omit [World ω] in
/-- Opens a document. -/
def openDocument (document : Document) (s : Session ω) : Session ω :=
  (s.insertDocument document).1.modify (·.documentOpened document)

omit [World ω] in
/-- Changes a document. -/
def changeDocument (handle : Handle) (f : Document → Document) (s : Session ω) : Session ω :=
  s.modify fun w => { w with documents := w.documents.modify handle f }

omit [World ω] in
/-- Closes a document. -/
def closeDocument (id : Nat) (s : Session ω) : Session ω :=
  s.modify fun w => { w with documents := w.documents.close id }.documentClosed id

omit [World ω] in
/-- Changes whether the formatters apply to a document. -/
def changeScope (handle : Handle) (inScope : Bool) (s : Session ω) : Session ω :=
  -- The document is changed before anyone looks at it.
  let s := s.changeDocument handle fun document => { document with inScope := inScope }
  match s.state.document? handle with
  | some document => s.modify (·.scopeChanged document)
  | none => s

omit [World ω] in
/-- Makes an open document active, or none, and tells whether that was possible. -/
def activateDocument (id : Option Nat) (s : Session ω) : Session ω × Bool :=
  match s.state.documents.activate? id with
  | none => (s, false)
  | some documents =>
    (s.modify fun w => { w with documents := documents }.activeChanged documents.active?, true)

end Session

end FormatPipeline
