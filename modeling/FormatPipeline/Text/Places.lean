import FormatPipeline.Json.Binary64

/-! Binary numbers written with a given number of decimal places or digits. -/

namespace FormatPipeline

/-- What a text can stand for where a number of any size is expected. -/
inductive Quantity where
  | finite (negative : Bool) (magnitude : Magnitude)
  | infinite (negative : Bool)
  | undefined
  deriving DecidableEq, Repr

namespace Magnitude

/-- Decimal digits with zeros in front, so that there are at least as many as asked for. -/
def digitsAtLeast (count n : Nat) : List Char :=
  let digits := Nat.toDigits 10 n
  List.replicate (count - digits.length) '0' ++ digits

/-- The digits of a whole number with a point in front of the last places. -/
def withPoint (places : Nat) (pointed : Bool) (n : Nat) : List Char :=
  let digits := digitsAtLeast (places + 1) n
  let whole := digits.take (digits.length - places)
  if places = 0 then whole ++ (if pointed then ['.'] else [])
  else whole ++ '.' :: digits.drop whole.length

/-- A fraction with a number of places behind the point. -/
def fixedText (m : Magnitude) (places : Nat) (pointed : Bool) : List Char :=
  let (num, den) := m.fraction
  withPoint places pointed (roundHalfEven (num * Nat.pow 10 places) den)

/-- A number of digits that a fraction rounds to, and the power of ten of the first one. -/
def leadingDigits (m : Magnitude) (count : Nat) : Nat × Int :=
  if m.significand = 0 then (0, 0)
  else
    let (num, den) := m.fraction
    let exponent := decimalExponent num den
    let places : Int := (count : Int) - 1 - exponent
    let rounded :=
      if 0 ≤ places then roundHalfEven (num * Nat.pow 10 places.toNat) den
      else roundHalfEven num (den * Nat.pow 10 (-places).toNat)
    -- Rounding up may carry into one digit more.
    if rounded = Nat.pow 10 count then (rounded / 10, exponent + 1) else (rounded, exponent)

/-- A power of ten behind its sign, with two digits at least. -/
def exponentText (letter : Char) (exponent : Int) : List Char :=
  letter :: (if exponent < 0 then '-' else '+') :: digitsAtLeast 2 exponent.natAbs

/-- A fraction with one digit in front of the point and a power of ten. -/
def scientificText (m : Magnitude) (places : Nat) (pointed : Bool) (letter : Char) : List Char :=
  let (digits, exponent) := m.leadingDigits (places + 1)
  withPoint places pointed digits ++ exponentText letter exponent

/-- Digits without the zeros at their end, and without a point at their end. -/
def withoutZeros (text : List Char) : List Char :=
  if text.contains '.' then
    ((text.reverse.dropWhile (· == '0')).dropWhile (· == '.')).reverse
  else text

/-- A fraction with a number of digits, in the shorter of the two ways. -/
def generalText (m : Magnitude) (digits : Nat) (keepsZeros : Bool) (letter : Char) : List Char :=
  let digits := max digits 1
  let (leading, exponent) := m.leadingDigits digits
  let trim (text : List Char) : List Char := if keepsZeros then text else withoutZeros text
  if -4 ≤ exponent ∧ exponent < digits then
    let places : Int := (digits : Int) - 1 - exponent
    trim (m.fixedText places.toNat keepsZeros)
  else trim (withPoint (digits - 1) keepsZeros leading) ++ exponentText letter exponent

end Magnitude

namespace Quantity

/-- Zero. -/
def zero : Quantity := finite false Magnitude.zero

/-- The quantity nearest to a decimal number. -/
def ofDecimal (negative : Bool) (digits : Nat) (exponent : Int) : Quantity :=
  -- Beyond these powers every number is too large or too small.
  let places : Int := (Nat.toDigits 10 digits).length
  if digits = 0 ∨ exponent + places < -400 then finite negative Magnitude.zero
  else if 400 < exponent + places then infinite negative
  else
    let nearest :=
      if 0 ≤ exponent then Magnitude.nearest (digits * Nat.pow 10 exponent.toNat) 1
      else Magnitude.nearest digits (Nat.pow 10 (-exponent).toNat)
    match nearest with
    | some magnitude => finite negative magnitude
    | none => infinite negative

/-- The power of ten at the front of a text, and what follows it. -/
def readExponent (cs : List Char) : Int × List Char :=
  match cs with
  | e :: rest =>
    if e = 'e' ∨ e = 'E' then
      let (sign, digits) : Int × List Char := match rest with
        | '-' :: digits => (-1, digits)
        | '+' :: digits => (1, digits)
        | digits => (1, digits)
      let kept := digits.takeWhile (·.isDigit)
      if kept.isEmpty then (0, cs)
      else
        let value := kept.foldl (fun n c => min 100000 (n * 10 + (c.toNat - '0'.toNat))) 0
        (sign * value, digits.drop kept.length)
    else (0, cs)
  | [] => (0, [])

/-- The number at the front of a text without a sign, and what follows it. -/
def readUnsigned? (negative : Bool) (cs : List Char) : Option (Quantity × List Char) :=
  let lower := String.ofList ((cs.take 8).map Char.toLower)
  if lower.startsWith "infinity" then some (infinite negative, cs.drop 8)
  else if lower.startsWith "inf" then some (infinite negative, cs.drop 3)
  else if lower.startsWith "nan" then some (undefined, cs.drop 3)
  else
    let whole := cs.takeWhile (·.isDigit)
    let rest := cs.drop whole.length
    let (fraction, rest) : List Char × List Char := match rest with
      | '.' :: behind =>
        let fraction := behind.takeWhile (·.isDigit)
        if whole.isEmpty ∧ fraction.isEmpty then ([], rest)
        else (fraction, behind.drop fraction.length)
      | rest => ([], rest)
    if whole.isEmpty ∧ fraction.isEmpty then none
    else
      let digits := (whole ++ fraction).foldl (fun n c => n * 10 + (c.toNat - '0'.toNat)) 0
      let (exponent, rest) := readExponent rest
      some (ofDecimal negative digits (exponent - fraction.length), rest)

/-- The number at the front of a text, behind blanks and a sign, and what follows it. -/
def read? (cs : List Char) : Option (Quantity × List Char) :=
  match cs.dropWhile fun c => c == ' ' || (9 ≤ c.toNat && c.toNat ≤ 13) with
  | '-' :: rest => readUnsigned? true rest
  | '+' :: rest => readUnsigned? false rest
  | rest => readUnsigned? false rest

/-- Whether a minus sign stands in front. -/
def isNegative : Quantity → Bool
  | finite negative _ | infinite negative => negative
  | undefined => false

end Quantity

end FormatPipeline
