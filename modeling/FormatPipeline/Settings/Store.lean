import FormatPipeline.Json.Value

/-! What setting values mean, and a store of them that tells observers about every change of their key. -/

namespace FormatPipeline.Settings

open Json (Value putMember)

/-- The non-empty strings of an array; any other value is no list at all. -/
def stringList (value : Value) : List String :=
  match value with
  | .array items => items.filterMap fun item => item.string?.filter (!·.isEmpty)
  | _ => []

/-- The text of a string; any other value is the empty text. -/
def text (value : Value) : String := value.string?.getD ""

/-- Whether the value is the boolean true. -/
def isTrue (value : Value) : Bool := value.bool?.getD false

/-- How problems are shown to the user. -/
inductive ErrorHandling where
  /-- Problems are only logged. -/
  | hide
  /-- Problems stay until the user dismisses them. -/
  | showing
  /-- Problems disappear after a while. -/
  | standard
  deriving DecidableEq, Repr, Inhabited

/-- The handling that a value asks for. -/
def ErrorHandling.ofValue (value : Value) : ErrorHandling :=
  match value.string? with
  | some "hide" => .hide
  | some "show" => .showing
  | _ => .standard

/-- The handling as a word of its own. -/
def ErrorHandling.title : ErrorHandling → String
  | .hide => "Hide"
  | .showing => "Show"
  | .standard => "Default"

/-- Someone who wants to know the value of a key. -/
structure Observer (β : Type) where
  id : Nat
  key : String
  /-- What the observer does with a value. -/
  reaction : β

/-- The settings that were set, the default values, and the observers in the order they came. -/
structure Store (β : Type) where
  values : List (String × Value)
  defaults : List (String × Value)
  observers : List (Observer β)
  nextId : Nat

namespace Store

variable {β : Type}

/-- A store in which nothing has been set. -/
def ofDefaults (defaults : List (String × Value)) : Store β := ⟨[], defaults, [], 0⟩

/-- Whether the key has a default value. -/
def isKnown (store : Store β) (key : String) : Bool := store.defaults.any (·.1 == key)

/-- The value of a key: the one that was set, else the default, else null. -/
def get (store : Store β) (key : String) : Value :=
  match Value.member? key store.values with
  | some value => value
  -- A key without a default is unknown, but it may be set all the same.
  | none => (Value.member? key store.defaults).getD .null

/-- Sets a key, and gives the reactions of the observers to be told, unless nothing changes. -/
def set (store : Store β) (key : String) (value : Value) : Store β × List β :=
  -- An equal value is no change: nobody is told of it, and the old one stays.
  if (store.get key).equal value then (store, [])
  else
    ({ store with values := putMember key value store.values },
      (store.observers.filter (·.key == key)).map (·.reaction))

/-- The value that toggling the key gives it. -/
def toggled (store : Store β) (key : String) : Value := .bool !(isTrue (store.get key))

/-- Adds an observer, which is told the present value at once, and gives its number. -/
def observe (store : Store β) (key : String) (reaction : β) : Store β × Nat :=
  ({ store with
      observers := store.observers ++ [⟨store.nextId, key, reaction⟩]
      nextId := store.nextId + 1 },
    store.nextId)

/-- Removes an observer. -/
def unobserve (store : Store β) (id : Nat) : Store β :=
  { store with observers := store.observers.filter (·.id != id) }

end Store

end FormatPipeline.Settings
