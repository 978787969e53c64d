import FormatPipeline.Shell.Number
import FormatPipeline.Text.Pieces

/-! Permissions, and how changes of them are written. -/

namespace FormatPipeline.Sandbox

/-- A change of permissions: who it is for, whether they are added, taken or set, and which. -/
structure PermissionChange where
  who : List Char
  sign : Char
  what : List Char

/-- Reads one change of permissions. -/
def readPermissionChange (text : List Char) : Option (List PermissionChange) :=
  let who := text.takeWhile "ugoa".toList.contains
  let parts (signs : List Char) (rest : List Char) : Option (List PermissionChange) :=
    -- Several signs may follow one another.
    (rest.foldl (fun (state : Option (List PermissionChange)) c =>
      match state with
      | none => none
      | some changes =>
        if signs.contains c then some (⟨who, c, []⟩ :: changes)
        else match changes with
          | change :: others =>
            if "rwxXstugo".toList.contains c then
              some ({ change with what := change.what ++ [c] } :: others)
            else none
          | [] => none) (some [])).map List.reverse
  (parts ['+', '-', '='] (text.drop who.length)).filter (!·.isEmpty)

/-- Reads changes of permissions with commas between them. -/
def readPermissionChanges (text : String) : Option (List PermissionChange) :=
  ((Text.pieces ',' text.toList).mapM readPermissionChange).map List.flatten

/-- The permissions that letters stand for; some letters stand for those that somebody has already. -/
def permissionBits (letters : List Char) (mode : Nat) : Nat :=
  let executable := mode % 2 = 1 || mode / 8 % 2 = 1 || mode / 64 % 2 = 1
  let copied (who : Char) (factor : Nat) : Nat := if letters.contains who then mode / factor % 8 else 0
  let named := (if letters.contains 'r' then 4 else 0) + (if letters.contains 'w' then 2 else 0) +
    (if letters.contains 'x' || (letters.contains 'X' && executable) then 1 else 0)
  named ||| copied 'u' 64 ||| copied 'g' 8 ||| copied 'o' 1

/-- Permissions behind a change; without anybody named those in the mask are left alone. -/
def PermissionChange.apply (change : PermissionChange) (mask mode : Nat) : Nat :=
  let bits := permissionBits change.what mode
  let step (who : Char) (factor : Nat) : Nat :=
    let old := mode / factor % 8
    let covered := change.who.isEmpty || change.who.contains who || change.who.contains 'a'
    let allowed := if change.who.isEmpty then bits &&& (7 - mask / factor % 8) else bits
    if !covered then old * factor
    else match change.sign with
      | '+' => (old ||| allowed) * factor
      | '-' => (old - (old &&& allowed)) * factor
      | _ => allowed * factor
  step 'u' 64 + step 'g' 8 + step 'o' 1

/-- Permissions that are given by an octal number. -/
def octalMode? (text : String) : Option Nat :=
  let cs := text.toList
  if cs.isEmpty ∨ ¬ cs.all (fun c => '0' ≤ c && c ≤ '7') ∨ 4095 < Shell.ofDigits 8 cs then none
  else some (Shell.ofDigits 8 cs % 512)

end FormatPipeline.Sandbox
