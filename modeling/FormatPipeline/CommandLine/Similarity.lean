/-! How alike two words are, for proposing the word that was probably meant. -/

namespace FormatPipeline.CommandLine

/-- Looks for the character at the places from `place` on that are near enough and not taken. -/
def findNear (c : Char) (low high : Nat) : Nat → List (Char × Bool) → Option Nat
  | _, [] => none
  | place, (other, taken) :: rest =>
    if low ≤ place ∧ place < high ∧ c = other ∧ taken = false then some place
    else findNear c low high (place + 1) rest

/-- Pairs each character with an equal one that is near; gives those paired and the places taken. -/
def pairUp (range : Nat) : Nat → List Char → List (Char × Bool) → List Char × List (Char × Bool)
  | _, [], others => ([], others)
  | place, c :: rest, others =>
    match findNear c (place - range) (place + range + 1) 0 others with
    | some found =>
      let (paired, others) := pairUp range (place + 1) rest (others.set found (c, true))
      (c :: paired, others)
    | none => pairUp range (place + 1) rest others

/-- How alike two words are: one for equal words, zero for words that have no character in common. -/
def similarity (a b : String) : Float :=
  let cs := a.toList
  let ds := b.toList
  if cs.isEmpty ∧ ds.isEmpty then 1.0
  else if cs.isEmpty ∨ ds.isEmpty then 0.0
  else
    -- Characters count as equal when they are less than half the longer word apart.
    let range := max cs.length ds.length / 2 - 1
    let (paired, others) := pairUp range 0 cs (ds.map (·, false))
    let taken := (others.filter (·.2)).map (·.1)
    let swaps := ((paired.zip taken).filter fun pair => pair.1 != pair.2).length / 2
    let common := paired.length
    if common = 0 then 0.0
    else (common.toFloat / cs.length.toFloat + common.toFloat / ds.length.toFloat +
      (common - swaps).toFloat / common.toFloat) / 3.0

/-- Inserts a word behind those that are at most as alike. -/
def insertByScore (entry : Float × String) : List (Float × String) → List (Float × String)
  | [] => [entry]
  | other :: rest =>
    if entry.1 < other.1 then entry :: other :: rest else other :: insertByScore entry rest

/-- The words that were possibly meant, the most probable one last. -/
def similarWords (word : String) (known : List String) : List String :=
  let scored := (known.map fun other => (similarity word other, other)).filter (0.7 < ·.1)
  (scored.foldl (fun sorted entry => insertByScore entry sorted) []).map (·.2)

end FormatPipeline.CommandLine
