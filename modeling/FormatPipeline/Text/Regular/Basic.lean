/-! Regular expressions over bytes, and the places of a text that they match. -/

namespace FormatPipeline.Text

/-- Whether a byte belongs to words: letters, digits and the underscore. -/
def isWordByte (byte : UInt8) : Bool :=
  (48 ≤ byte && byte ≤ 57) || (65 ≤ byte && byte ≤ 90) || (97 ≤ byte && byte ≤ 122) || byte == 95

/-- A byte as a small letter, if it is a letter. -/
def lowerByte (byte : UInt8) : UInt8 := if 65 ≤ byte && byte ≤ 90 then byte + 32 else byte

/-- A byte as a capital letter, if it is a letter. -/
def upperByte (byte : UInt8) : UInt8 := if 97 ≤ byte && byte ≤ 122 then byte - 32 else byte

/-- Bytes in some ranges, or outside of them. -/
structure ByteSet where
  negated : Bool
  ranges : List (UInt8 × UInt8)
  deriving DecidableEq, Repr

/-- Whether a byte is in the set; on demand the case of letters does not matter. -/
def ByteSet.holds (set : ByteSet) (ignoresCase : Bool) (byte : UInt8) : Bool :=
  let among (byte : UInt8) : Bool := set.ranges.any fun (low, high) => low ≤ byte && byte ≤ high
  let found := if ignoresCase then among (lowerByte byte) || among (upperByte byte) else among byte
  found != set.negated

/-- A place that is known by the bytes around it. -/
inductive Edge where
  | lineStart | lineEnd
  | textStart | textEnd
  | wordStart | wordEnd
  /-- Where a word begins or ends. -/
  | word
  | noWord
  deriving DecidableEq, Repr

/-- A regular expression. -/
inductive Regular where
  /-- Nothing at all. -/
  | empty
  | byte (byte : UInt8)
  | any
  | set (set : ByteSet)
  | edge (edge : Edge)
  /-- A part whose match is remembered under a number. -/
  | group (number : Nat) (inner : Regular)
  /-- What the group with the number has matched. -/
  | back (number : Nat)
  | both (first second : Regular)
  | either (first second : Regular)
  /-- Some matches in a row; without a bound there may be any number. -/
  | rounds (inner : Regular) (least : Nat) (most : Option Nat)
  deriving DecidableEq, Repr

/-- How texts are compared with a regular expression. -/
structure MatchMode where
  ignoresCase : Bool
  /-- Whether lines begin and end inside of the text, too. -/
  manyLines : Bool
  deriving DecidableEq, Repr

/-- How far a match has come, and what the groups have matched; the last match of a group is in front. -/
structure MatchState where
  index : Nat
  groups : List (Nat × Nat × Nat)
  deriving DecidableEq, Repr

/-- Whether a state is among others; without back references the places alone tell them apart. -/
def isKnown (exact : Bool) (states : List MatchState) (state : MatchState) : Bool :=
  states.any fun other =>
    other.index == state.index && (!exact || other.groups == state.groups)

/-- States in which none comes again. -/
def distinctStates (exact : Bool) (states : List MatchState) : List MatchState :=
  (states.foldl (fun (kept : List MatchState) state =>
    if isKnown exact kept state then kept else state :: kept) []).reverse

/-- Whether a byte ends a line. -/
def endsLine (byte : Option UInt8) : Bool := byte == some 10

/-- Whether a place has the edge. -/
def Edge.isAt (edge : Edge) (mode : MatchMode) (text : Array UInt8) (index : Nat) : Bool :=
  let before : Option UInt8 := if index = 0 then none else text[index - 1]?
  let behind : Option UInt8 := text[index]?
  let left := before.any isWordByte
  let right := behind.any isWordByte
  match edge with
  | lineStart => before.isNone || (mode.manyLines && endsLine before)
  | lineEnd => behind.isNone || (mode.manyLines && endsLine behind)
  | textStart => before.isNone
  | textEnd => behind.isNone
  | wordStart => !left && right
  | wordEnd => left && !right
  | word => left != right
  | noWord => left == right

/--
The states behind further rounds, in front of those that fewer rounds have led to.
What fewer rounds lead to needs no more of them.
-/
def roundStates (exact : Bool) (step : MatchState → List MatchState) :
    Nat → Nat → Option Nat → List MatchState → List MatchState → List MatchState
  | 0, _, _, _, finished => finished
  | fuel + 1, least, most, states, finished =>
    let fresh := states.filter (!isKnown exact finished ·)
    let finished := if least = 0 then fresh ++ finished else finished
    if states.isEmpty ∨ most = some 0 then finished
    else
      let going := if least = 0 ∧ most = none then fresh else states
      let next := distinctStates exact (going.flatMap fun state =>
        -- A round that matches nothing leads no further once there were enough of them.
        (step state).filter fun later => least != 0 || later.index != state.index)
      roundStates exact step fuel (least - 1) (most.map (· - 1)) next finished

/-- Whether two bytes are the same to the mode. -/
def sameByte (mode : MatchMode) (a b : UInt8) : Bool :=
  a == b || (mode.ignoresCase && lowerByte a == lowerByte b)

namespace Regular

/-- Whether the expression refers back to what a group has matched. -/
def refersBack : Regular → Bool
  | back _ => true
  | group _ inner | rounds inner _ _ => inner.refersBack
  | both first second | either first second => first.refersBack || second.refersBack
  | _ => false

/-- The states behind all matches that begin in a state, those that are preferred first. -/
def ends (exact : Bool) (mode : MatchMode) (text : Array UInt8) :
    Regular → MatchState → List MatchState
  | empty, state => [state]
  | byte expected, state =>
    if text[state.index]?.any (sameByte mode expected) then [{ state with index := state.index + 1 }]
    else []
  | any, state =>
    if state.index < text.size then [{ state with index := state.index + 1 }] else []
  | set members, state =>
    if text[state.index]?.any (members.holds mode.ignoresCase) then
      [{ state with index := state.index + 1 }]
    else []
  | edge place, state => if place.isAt mode text state.index then [state] else []
  | group number inner, state =>
    (ends exact mode text inner state).map fun later =>
      { later with groups := (number, state.index, later.index) :: later.groups }
  | back number, state =>
    match state.groups.lookup number with
    | none => []
    | some (low, high) =>
      let same := (List.range (high - low)).all fun offset =>
        match text[low + offset]?, text[state.index + offset]? with
        | some a, some b => sameByte mode a b
        | _, _ => false
      if same then [{ state with index := state.index + (high - low) }] else []
  | both first second, state =>
    distinctStates exact
      ((ends exact mode text first state).flatMap (ends exact mode text second))
  | either first second, state =>
    distinctStates exact (ends exact mode text first state ++ ends exact mode text second state)
  | rounds inner least most, state =>
    let limit := text.size + least + 2
    roundStates exact (ends exact mode text inner) limit least most [state] []

/-- The longest match that begins at a place, and of several the one that is preferred. -/
def longestAt? (regular : Regular) (mode : MatchMode) (text : Array UInt8) (index : Nat) :
    Option MatchState :=
  (ends regular.refersBack mode text regular ⟨index, []⟩).foldl (fun best state =>
    match best with
    | none => some state
    | some longest => if longest.index < state.index then some state else best) none

end Regular

/-- A match: where it begins and ends, and what its groups have matched. -/
structure Match where
  low : Nat
  high : Nat
  groups : List (Nat × Nat × Nat)
  deriving DecidableEq, Repr

namespace Regular

/-- The first match that begins at some place or behind it; the number bounds how many places are tried. -/
def searchFrom? (regular : Regular) (mode : MatchMode) (text : Array UInt8) :
    Nat → Nat → Option Match
  | 0, _ => none
  | count + 1, index =>
    match regular.longestAt? mode text index with
    | some state => some ⟨index, state.index, state.groups⟩
    | none => searchFrom? regular mode text count (index + 1)

/-- The first match that begins at some place or behind it. -/
def search? (regular : Regular) (mode : MatchMode) (text : Array UInt8) (index : Nat) :
    Option Match :=
  regular.searchFrom? mode text (text.size + 1 - index) index

end Regular

namespace Match

/-- The part of a text that was matched, or that the group with the number has matched. -/
def part (found : Match) (text : Array UInt8) (number : Nat) : List UInt8 :=
  let span : Nat × Nat :=
    if number = 0 then (found.low, found.high) else (found.groups.lookup number).getD (0, 0)
  (text.extract span.1 span.2).toList

end Match

end FormatPipeline.Text
