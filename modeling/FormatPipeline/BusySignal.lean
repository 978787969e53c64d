import FormatPipeline.Message.Outgoing

/-! The busy signal: which work is in progress, and what the editor is told about it. -/

namespace FormatPipeline

/-- A piece of work in progress. -/
structure BusyEntry where
  label : String
  /-- The moment at which it began. -/
  since : Nat
  deriving DecidableEq, Repr

/-- The work in progress, oldest first; it is tracked even while nothing is shown. -/
structure BusySignal where
  entries : List BusyEntry
  enabled : Bool
  deriving DecidableEq, Repr

namespace BusySignal

/-- Nothing is in progress, and the signal is on. -/
def initial : BusySignal := ⟨[], true⟩

/-- The labels of the work in progress. -/
def labels (signal : BusySignal) : List String := signal.entries.map (·.label)

/-- The messages, as long as the signal is on. -/
def whenEnabled (signal : BusySignal) (messages : List Outgoing) : List Outgoing :=
  if signal.enabled then messages else []

/-- Begins a piece of work, and says what to tell the editor. -/
def add (signal : BusySignal) (now : Nat) (label : String) : BusySignal × List Outgoing :=
  ({ signal with entries := signal.entries ++ [⟨label, now⟩] },
    signal.whenEnabled [.progressStarted label])

/-- Ends the oldest piece of work with the label, and says what to tell and how long it took. -/
def remove (signal : BusySignal) (now : Nat) (label : String) :
    BusySignal × List Outgoing × Option Nat :=
  match signal.entries.find? (·.label == label) with
  | none => (signal, [], none)
  | some entry =>
    let rest := signal.entries.eraseP (·.label == label)
    -- The label stays as long as other work has it.
    let messages := if rest.any (·.label == label) then [] else [.progressFinished label]
    ({ signal with entries := rest }, signal.whenEnabled messages, some (now - entry.since))

/-- Turns the signal on or off, and says what to tell about the work in progress. -/
def setEnabled (signal : BusySignal) (enabled : Bool) : BusySignal × List Outgoing :=
  if signal.enabled = enabled then (signal, [])
  else
    ({ signal with enabled := enabled },
      -- Work that began while nothing was shown is told of as well.
      signal.labels.map fun label => if enabled then .progressStarted label else .progressFinished label)

end BusySignal

end FormatPipeline
