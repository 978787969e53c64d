/-! Finite binary64 numbers with exact rounding and their shortest decimal texts. -/

namespace FormatPipeline

/-- A number `significand * 2 ^ exponent` of the non-negative half of binary64. -/
structure Magnitude where
  significand : Nat
  exponent : Int
  deriving DecidableEq, Repr

/-- A finite binary64 number, whose zeros have a sign too. -/
structure Binary64 where
  negative : Bool
  magnitude : Magnitude
  deriving DecidableEq, Repr

namespace Magnitude

/-- The quotient rounded to the nearest whole number, a half going to the even neighbour. -/
def roundHalfEven (num den : Nat) : Nat :=
  let below := num / den
  let twice := 2 * (num % den)
  -- Twice the remainder tells on which side of the half the quotient lies.
  if twice < den then below
  else if den < twice then below + 1
  else below + below % 2

/-- The two sides of the fraction `num / den` divided by `2 ^ exponent`. -/
def scaled (num den : Nat) (exponent : Int) : Nat × Nat :=
  if 0 ≤ exponent then (num, den * Nat.pow 2 exponent.toNat)
  else (num * Nat.pow 2 (-exponent).toNat, den)

/-- The zero, written with the smallest exponent. -/
def zero : Magnitude := ⟨0, -1074⟩

/-- The binary64 magnitude nearest to `num / den`, or nothing when that is too large. -/
def nearest (num den : Nat) : Option Magnitude :=
  if num = 0 then some zero
  else
    -- Fifty-three significant bits, unless the exponent reaches its lower end first.
    let guess : Int := (num.log2 : Int) - den.log2 - 52
    let (top, bottom) := scaled num den guess
    let exponent := max (if top < Nat.pow 2 52 * bottom then guess - 1 else guess) (-1074)
    let (top, bottom) := scaled num den exponent
    let rounded := roundHalfEven top bottom
    -- Rounding up may carry into one bit more.
    let result : Magnitude :=
      if rounded = Nat.pow 2 53 then ⟨Nat.pow 2 52, exponent + 1⟩ else ⟨rounded, exponent⟩
    if result.exponent ≤ 971 then some result else none

/-- The two sides of the fraction that a magnitude is. -/
def fraction (m : Magnitude) : Nat × Nat :=
  scaled m.significand 1 (-m.exponent)

/-- The rounded product. -/
def mul (a b : Magnitude) : Option Magnitude :=
  nearest (a.fraction.1 * b.fraction.1) (a.fraction.2 * b.fraction.2)

/-- The rounded quotient. -/
def div (a b : Magnitude) : Option Magnitude :=
  nearest (a.fraction.1 * b.fraction.2) (a.fraction.2 * b.fraction.1)

/-- The magnitude nearest to a power of ten that is in range. -/
def powerOfTen (k : Nat) : Magnitude :=
  (nearest (Nat.pow 10 k) 1).getD zero

/-- Divides by `10 ^ 308` the given number of times, or until nothing is left. -/
def divideFar (m : Magnitude) : Nat → Option Magnitude
  | 0 => some m
  | steps + 1 =>
    if m.significand = 0 then some m
    else (m.div (powerOfTen 308)).bind fun smaller => smaller.divideFar steps

/-- Moves the decimal point, rounding after each step; a step to the left spans 308 places at most. -/
def shiftDecimal (m : Magnitude) (places : Int) : Option Magnitude :=
  -- Zero stays zero wherever the point goes.
  if m.significand = 0 then some m
  else if 308 < places then none
  else if 0 ≤ places then m.mul (powerOfTen places.toNat)
  else
    let steps := ((-places).toNat - 1) / 308
    (m.divideFar steps).bind fun smaller =>
      if smaller.significand = 0 then some smaller
      else smaller.div (powerOfTen ((-places).toNat - 308 * steps))

/-- Decimal digits without a trailing zero and the power of ten of the last one. -/
structure Decimal where
  digits : Nat
  exponent : Int
  deriving DecidableEq, Repr

/-- Moves trailing zeros from the digits to the exponent. -/
def Decimal.stripZeros (fuel : Nat) (d : Decimal) : Decimal :=
  match fuel with
  | 0 => d
  | fuel + 1 =>
    if d.digits ≠ 0 ∧ d.digits % 10 = 0 then stripZeros fuel ⟨d.digits / 10, d.exponent + 1⟩ else d

/-- The largest power of ten that is at most `num / den`, for a positive fraction. -/
def decimalExponent (num den : Nat) : Int :=
  -- The binary length fixes the decimal one up to two places.
  let guess := ((num.log2 : Int) - den.log2) * 30103 / 100000 - 1
  let reaches (p : Int) : Bool :=
    if 0 ≤ p then Nat.pow 10 p.toNat * den ≤ num else den ≤ num * Nat.pow 10 (-p).toNat
  if reaches (guess + 2) then guess + 2 else if reaches (guess + 1) then guess + 1 else guess

/-- Whether the decimal lies among the reals that round to the magnitude. -/
def holds (m : Magnitude) (d : Decimal) : Bool :=
  -- All is compared in quarters of a unit in the last place.
  let ten := if 0 ≤ d.exponent then (d.digits * Nat.pow 10 d.exponent.toNat, 1)
    else (d.digits, Nat.pow 10 (-d.exponent).toNat)
  let (top, bottom) := scaled (4 * ten.1) ten.2 m.exponent
  let low := 4 * m.significand - (if m.significand = Nat.pow 2 52 ∧ -1074 < m.exponent then 1 else 2)
  let high := 4 * m.significand + 2
  if m.significand % 2 = 0 then low * bottom ≤ top && top ≤ high * bottom
  else low * bottom < top && top < high * bottom

/--
The neighbour on the grid of `10 ^ exponent` that reads back as the magnitude: the nearer of two, and
the even one if both are equally near.
-/
def onGrid (m : Magnitude) (exponent : Int) : Option Decimal :=
  let (top, bottom) := m.fraction
  let (top, bottom) := if 0 ≤ exponent then (top, bottom * Nat.pow 10 exponent.toNat)
    else (top * Nat.pow 10 (-exponent).toNat, bottom)
  let below : Decimal := ⟨top / bottom, exponent⟩
  let above : Decimal := ⟨top / bottom + 1, exponent⟩
  match m.holds below, m.holds above with
  | true, true =>
    some (if roundHalfEven top bottom = below.digits then below else above)
  | true, false => some below
  | false, true => some above
  | false, false => none

/-- The decimal with the fewest digits that reads back as the magnitude. -/
def shortest (m : Magnitude) : Decimal :=
  if m.significand = 0 then ⟨0, 0⟩
  else
    let (top, bottom) := m.fraction
    let leading := decimalExponent top bottom
    -- Seventeen digits always suffice, so one of the grids holds a neighbour.
    let found := (List.range 17).findSome? fun more : Nat => m.onGrid (leading - more)
    (found.getD ⟨0, 0⟩).stripZeros 20

end Magnitude

namespace Binary64

/-- Numeric equality, under which the two zeros are equal. -/
def equal (a b : Binary64) : Bool :=
  a = b || (a.magnitude.significand = 0 && b.magnitude.significand = 0)

/-- The number of the given sign and nearest magnitude of a whole number. -/
def ofNat (negative : Bool) (n : Nat) : Option Binary64 :=
  (Magnitude.nearest n 1).map (⟨negative, ·⟩)

/-- The shortest text: positional from five places behind the point to sixteen before it. -/
def text (x : Binary64) : String :=
  let decimal := x.magnitude.shortest
  let digits := toString decimal.digits
  let point : Int := digits.length + decimal.exponent
  let zeros (n : Int) := String.ofList (List.replicate n.toNat '0')
  let lead := String.ofList (digits.toList.take point.toNat)
  let tail := String.ofList (digits.toList.drop point.toNat)
  let body :=
    if decimal.digits = 0 then "0.0"
    else if 0 ≤ decimal.exponent ∧ point ≤ 16 then digits ++ zeros decimal.exponent ++ ".0"
    else if 0 < point ∧ point ≤ 16 then lead ++ "." ++ tail
    else if -5 < point ∧ point ≤ 0 then "0." ++ zeros (-point) ++ digits
    else
      let first := String.ofList (digits.toList.take 1)
      let others := String.ofList (digits.toList.drop 1)
      let exponent := if 0 ≤ point - 1 then "e+" ++ toString (point - 1) else "e" ++ toString (point - 1)
      (if others.isEmpty then first else first ++ "." ++ others) ++ exponent
  if x.negative then "-" ++ body else body

end Binary64

end FormatPipeline
