import FormatPipeline.Json.Binary64

/-! JSON values whose objects keep the order of their members. -/

namespace FormatPipeline.Json

/-- A whole number and a floating point number are different even when they are equally large. -/
inductive Number where
  | integer (value : Int)
  | float (value : Binary64)
  deriving DecidableEq, Repr

/-- A JSON value. -/
inductive Value where
  | null
  | bool (value : Bool)
  | number (value : Number)
  | string (value : String)
  | array (items : List Value)
  | object (members : List (String × Value))
  deriving Repr, Inhabited

/-- Numbers of one kind are compared by size. -/
def Number.equal : Number → Number → Bool
  | .integer a, .integer b => a == b
  | .float a, .float b => a.equal b
  | _, _ => false

/-- The value stored last under the name. -/
def Value.member? (name : String) : List (String × Value) → Option Value
  | [] => none
  | (key, value) :: rest => if key = name then some value else member? name rest

mutual
/-- Equality of values, for which the order of an object's members does not matter. -/
def Value.equal : Value → Value → Bool
  | .null, .null => true
  | .bool a, .bool b => a == b
  | .number a, .number b => a.equal b
  | .string a, .string b => a == b
  | .array as, .array bs => Value.equalItems as bs
  -- No name is repeated, so with equally many members one direction is enough.
  | .object as, .object bs => as.length == bs.length && Value.equalMembers as bs
  | _, _ => false

/-- Equality of lists, position by position. -/
def Value.equalItems : List Value → List Value → Bool
  | [], [] => true
  | a :: as, b :: bs => a.equal b && Value.equalItems as bs
  | _, _ => false

/-- Whether each member on the left has an equal member of the same name on the right. -/
def Value.equalMembers : List (String × Value) → List (String × Value) → Bool
  | [], _ => true
  | (name, a) :: as, bs =>
    (match Value.member? name bs with
      | some b => a.equal b
      | none => false) && Value.equalMembers as bs
end

/-- Replaces the value under a name, or adds the pair at the end. -/
def putMember {α : Type} (name : String) (value : α) : List (String × α) → List (String × α)
  | [] => [(name, value)]
  | (key, old) :: rest =>
    if key = name then (key, value) :: rest else (key, old) :: putMember name value rest

mutual
/-- Gives every object one member per name: the last value at the first one's position. -/
def Value.merge : Value → Value
  | .array items => .array (Value.mergeItems items)
  | .object members => .object (Value.mergeMembers members [])
  | value => value

/-- Merges every item. -/
def Value.mergeItems : List Value → List Value
  | [] => []
  | item :: rest => item.merge :: Value.mergeItems rest

/-- Adds the merged members one after another to those already there. -/
def Value.mergeMembers : List (String × Value) → List (String × Value) → List (String × Value)
  | [], merged => merged
  | (name, value) :: rest, merged => Value.mergeMembers rest (putMember name value.merge merged)
end

namespace Value

/-- The member of an object under the name. -/
def get? (value : Value) (name : String) : Option Value :=
  match value with
  | .object members => member? name members
  | _ => none

/-- The text of a string value. -/
def string? : Value → Option String
  | .string text => some text
  | _ => none

/-- The truth value of a boolean. -/
def bool? : Value → Option Bool
  | .bool value => some value
  | _ => none

/-- The items of an array. -/
def array? : Value → Option (List Value)
  | .array items => some items
  | _ => none

/-- A natural number that is written as a whole number. -/
def nat? : Value → Option Nat
  | .number (.integer (.ofNat n)) => some n
  | _ => none

/-- A whole number as a value. -/
def ofNat (n : Nat) : Value := .number (.integer n)

/-- A list of strings as a value. -/
def ofStrings (texts : List String) : Value := .array (texts.map .string)

end Value

end FormatPipeline.Json
