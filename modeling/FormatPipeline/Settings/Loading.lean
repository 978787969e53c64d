import FormatPipeline.Json.Reader
import FormatPipeline.World.Basic

/-! Settings written as a JSON text: nested objects stand for dotted keys. -/

namespace FormatPipeline.Settings

open Json (Value)

/-- Why no settings could be loaded. -/
inductive LoadError where
  | badText (fault : Json.Fault)
  | notObject
  deriving DecidableEq, Repr

/-- Why a file of settings could not be loaded. -/
inductive FileError where
  | unreadable (path : Path) (error : ReadError)
  | unusable (path : Path) (error : LoadError)
  deriving DecidableEq, Repr

/-- What is wrong with a text in which no settings can be found. -/
def LoadError.message : LoadError → String
  | .badText _ => "Error parsing settings JSON."
  | .notObject => "Expected the settings to be a JSON object."

/-- What is wrong with a file. -/
def FileError.message : FileError → String
  | .unreadable path _ => "Error reading settings file " ++ path.text ++ "."
  | .unusable path _ => "Error loading settings file " ++ path.text ++ "."

/-- The reasons from the outermost to the innermost. -/
def FileError.reasons (error : FileError) : List String :=
  [error.message, match error with
    | .unreadable _ cause => cause.message
    | .unusable _ cause => cause.message]

mutual
/-- The values that are no objects, each under the names on the way to it joined by dots. -/
def flatten (key : String) : Value → List (String × Value)
  -- An empty object holds no setting at all.
  | .object members => flattenMembers (some key) members
  -- An array is one value, whatever is in it.
  | value => [(key, value)]

/-- The values inside the members, whose names follow the key so far. -/
def flattenMembers (key : Option String) : List (String × Value) → List (String × Value)
  | [] => []
  | (name, value) :: rest =>
    flatten (match key with
      | some key => key ++ "." ++ name
      | none => name) value ++ flattenMembers key rest
end

/-- The settings that a JSON text holds, in the order of the text. -/
def readSettings (text : String) : Except LoadError (List (String × Value)) :=
  match Json.parse text with
  | .error fault => .error (.badText fault)
  | .ok (.object members) => .ok (flattenMembers none members)
  | .ok _ => .error .notObject

/-- The settings that a file holds. -/
def readSettingsFile {ω : Type} [World ω] (world : ω) (path : Path) :
    Except FileError (List (String × Value)) :=
  match World.readFile world path with
  | .error error => .error (.unreadable path error)
  | .ok text =>
    match readSettings text with
    | .error error => .error (.unusable path error)
    | .ok entries => .ok entries

/-- What is logged about a key in a file that is no known setting. -/
def unknownInFile (path : Path) (key : String) : String :=
  "Unknown setting in " ++ path.text ++ ": " ++ key

end FormatPipeline.Settings
