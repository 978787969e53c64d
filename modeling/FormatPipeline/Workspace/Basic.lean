import FormatPipeline.BusySignal
import FormatPipeline.Document.Table
import FormatPipeline.Formatter.Basic
import FormatPipeline.Outlet
import FormatPipeline.Settings.Store

/-! Everything that formatting works on, and how it shows what it does. -/

namespace FormatPipeline

open Settings (ErrorHandling OrderKind Slot Store)

/-- How a process ended; an exit code is kept only to be looked at. -/
inductive RunResult where
  | exited (code : Option Int)
  | spawnFailed
  deriving DecidableEq, Repr

/-- What came of one formatter on a document. -/
inductive Outcome where
  | ran (scope : Scope) (result : RunResult)
  | binaryNotFound
  deriving DecidableEq, Repr

/-- One formatter of a chain and what came of it, unless no formatter has the name. -/
structure ChainStep where
  name : String
  outcome : Option Outcome
  deriving DecidableEq, Repr

/-- What a piece of work gives when it is complete. -/
inductive Result where
  | chain (steps : List ChainStep)
  | single (outcome : Outcome)
  deriving DecidableEq, Repr

/-- The part of the work that a setting takes effect on. -/
inductive Target where
  | errorHandling
  | busySignal
  | statusBar
  | onSaveEnabled
  | order (kind : OrderKind)
  | slot (formatter : String) (slot : Slot)
  deriving DecidableEq, Repr

/-- Lets a setting take effect; later changes may have to pass a debouncer of some number. -/
structure Subscription where
  target : Target
  debouncer : Option Nat
  deriving DecidableEq, Repr

/-- Which formatters run when, and which documents they run on. -/
structure Coordination where
  formatOrder : List String
  saveOrder : List String
  onSaveEnabled : Bool
  statusBar : Bool
  activeDocument : Option Handle
  /-- The numbers of the documents that are formatted when they are saved. -/
  saveWatch : List Nat
  deriving DecidableEq, Repr

/-- Nothing is configured yet. -/
def Coordination.initial : Coordination := ⟨[], [], false, false, none, []⟩

/-- Everything that formatting works on. -/
structure Workspace (ω : Type) where
  world : ω
  outlet : Outlet
  handling : ErrorHandling
  busy : BusySignal
  documents : DocumentTable
  /-- The formatters in the order of their registration, with different names. -/
  formatters : List Formatter
  store : Store Subscription
  /-- The numbers under which settings are observed. -/
  subscriptions : List Nat
  /-- The debouncer through which changes go now, and its delay. -/
  debouncer : Option (Nat × Nat)
  coordination : Coordination
  /-- How many pieces of work were numbered. -/
  numbered : Nat
  /-- The results of the numbered pieces of work, newest first. -/
  finished : List (Nat × Result)
  /-- How many questions about files were asked. -/
  probes : Nat

namespace Workspace

variable {ω : Type}

/-- A workspace in a world in which nothing has been done. -/
def initial (world : ω) (level : LogLevel) (store : Store Subscription) : Workspace ω where
  world := world
  outlet := .ofLevel level
  handling := .standard
  busy := .initial
  documents := .empty
  formatters := []
  store := store
  subscriptions := []
  debouncer := none
  coordination := .initial
  numbered := 0
  finished := []
  probes := 0

/-- Logs a text that helps to find mistakes. -/
def debug (w : Workspace ω) (text : String) : Workspace ω :=
  { w with outlet := w.outlet.log .debug text }

/-- Logs a warning. -/
def warn (w : Workspace ω) (text : String) : Workspace ω := { w with outlet := w.outlet.warn text }

/-- Sends a message to the editor. -/
def send (w : Workspace ω) (message : Outgoing) : Workspace ω :=
  { w with outlet := w.outlet.send message }

/-- What every notification begins with. -/
def titleOf (problem : Problem) : String := "fmtchain: " ++ problem.title

/-- Logs a problem, and shows it to the user as far as the error handling allows. -/
def report (w : Workspace ω) (problem : Problem) : Workspace ω :=
  let title := titleOf problem
  -- A problem is logged whatever the user wants to see of it.
  let w := w.debug (title ++ " (" ++ problem.detail.getD "no detail" ++ ")")
  match w.handling with
  | .hide => w
  | .showing => w.send (.notification ⟨title, problem.detail, true⟩)
  | .standard => w.send (.notification ⟨title, problem.detail, false⟩)

/-- Begins a piece of work that the busy signal shows. -/
def beginBusy (w : Workspace ω) (now : Nat) (label : String) : Workspace ω :=
  let (busy, messages) := w.busy.add now label
  { w with busy := busy, outlet := w.outlet.sendAll messages }

/-- Ends a piece of work that the busy signal shows, and gives its duration. -/
def endBusy (w : Workspace ω) (now : Nat) (label : String) : Workspace ω × Option Nat :=
  let (busy, messages, duration) := w.busy.remove now label
  ({ w with busy := busy, outlet := w.outlet.sendAll messages }, duration)

/-- Ends a piece of work and logs how long it took. -/
def endBusyLogged (w : Workspace ω) (now : Nat) (label : String) : Workspace ω :=
  match w.endBusy now label with
  | (w, none) => w
  | (w, some duration) => w.debug (label ++ " took " ++ toString duration ++ "ms")

/-- Turns the busy signal on or off. -/
def setBusyEnabled (w : Workspace ω) (enabled : Bool) : Workspace ω :=
  let (busy, messages) := w.busy.setEnabled enabled
  { w with busy := busy, outlet := w.outlet.sendAll messages }

/-- The document of a handle; handles are only ever made for documents that are there. -/
def document? (w : Workspace ω) (handle : Handle) : Option Document := w.documents.get? handle

/-- Replaces the text of a document and tells the editor. -/
def setText (w : Workspace ω) (handle : Handle) (text : String) : Workspace ω :=
  match w.document? handle with
  | none => w
  | some document =>
    -- The copy and the editor change together.
    { w with documents := w.documents.modify handle fun document => { document with text := text } }.send
      (.setText document.id text)

/-- Moves the cursor of a document to the nearest existing position and tells the editor. -/
def setCursor (w : Workspace ω) (handle : Handle) (position : Position) : Workspace ω :=
  match w.document? handle with
  | none => w
  | some document =>
    -- The text may be shorter now than where the cursor was.
    let cursor := position.clamp document.text
    { w with documents := w.documents.modify handle fun document => { document with cursor := cursor } }.send
      (.setCursor document.id cursor)

/-- The formatter of a name. -/
def formatter? (w : Workspace ω) (name : String) : Option Formatter :=
  w.formatters.find? (·.name == name)

/-- Puts a formatter in place of the one with its name. -/
def putFormatter (w : Workspace ω) (formatter : Formatter) : Workspace ω :=
  { w with formatters := w.formatters.map fun other =>
      if other.name = formatter.name then formatter else other }

/-- Takes a number for a piece of work. -/
def takeNumber (w : Workspace ω) : Workspace ω × Nat := ({ w with numbered := w.numbered + 1 }, w.numbered)

/-- Keeps the result of a numbered piece of work. -/
def finish (w : Workspace ω) (number : Nat) (result : Result) : Workspace ω :=
  { w with finished := (number, result) :: w.finished }

/-- The result of a numbered piece of work, once it is complete. -/
def result? (w : Workspace ω) (number : Nat) : Option Result := w.finished.lookup number

/-- Counts the questions of a result. -/
def counting {α : Type} (w : Workspace ω) (probed : Probed α) : Workspace ω × α :=
  ({ w with probes := w.probes + probed.probes }, probed.value)

end Workspace

end FormatPipeline
