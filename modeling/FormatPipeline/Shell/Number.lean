/-! Whole numbers as they are written in scripts, kept to sixty-four bits. -/

namespace FormatPipeline.Shell

/-- The value of a digit, whatever the base. -/
def digitValue? (c : Char) : Option Nat :=
  if c.isDigit then some (c.toNat - '0'.toNat)
  else if 'a' ≤ c ∧ c ≤ 'z' then some (c.toNat - 'a'.toNat + 10)
  else if 'A' ≤ c ∧ c ≤ 'Z' then some (c.toNat - 'A'.toNat + 10)
  else none

/-- Whether a character is a digit to a base. -/
def isDigitOf (base : Nat) (c : Char) : Bool := (digitValue? c).any (· < base)

/-- The number that digits to a base stand for. -/
def ofDigits (base : Nat) (digits : List Char) : Nat :=
  digits.foldl (fun n c => n * base + (digitValue? c).getD 0) 0

/-- The digits at the front of a text with their base: a zero asks for eight, and an x for sixteen. -/
def leadingDigits (cs : List Char) : Nat × List Char × List Char :=
  let split (base : Nat) (cs : List Char) : Nat × List Char × List Char :=
    let digits := cs.takeWhile (isDigitOf base)
    (base, digits, cs.drop digits.length)
  match cs with
  | '0' :: 'x' :: c :: rest | '0' :: 'X' :: c :: rest =>
    if isDigitOf 16 c then split 16 (c :: rest) else (8, ['0'], cs.drop 1)
  | '0' :: _ => split 8 cs
  | cs => split 10 cs

/-- Whether a character may stand around a number. -/
def isAroundNumber (c : Char) : Bool := c == ' ' || (9 ≤ c.toNat && c.toNat ≤ 13)

/-- Whether there is a minus sign behind blanks, and what follows the sign. -/
def splitSign (cs : List Char) : Bool × List Char :=
  match cs.dropWhile isAroundNumber with
  | '-' :: rest => (true, rest)
  | '+' :: rest => (false, rest)
  | cs => (false, cs)

/-- The whole number at the front of a text, behind blanks and a sign, and what follows it. -/
def leadingInteger? (cs : List Char) : Option (Int × List Char) :=
  let (negative, cs) := splitSign cs
  let (base, digits, rest) := leadingDigits cs
  if digits.isEmpty then none
  else
    let n : Int := ofDigits base digits
    some (if negative then -n else n, rest)

/-- The greatest number that fits. -/
def greatestInteger : Int := 9223372036854775807

/-- The least number that fits. -/
def leastInteger : Int := -9223372036854775808

/-- A number, or the nearest one that fits. -/
def saturate (n : Int) : Int := max leastInteger (min greatestInteger n)

/-- A number after it has gone round as often as it must to fit. -/
def wrap (n : Int) : Int := n.bmod 18446744073709551616

/-- The decimal number that a text consists of. -/
def decimal? (text : String) : Option Nat :=
  let cs := text.toList
  if cs.isEmpty ∨ ¬ cs.all (·.isDigit) then none else some (ofDigits 10 cs)

/-- The greatest number that can be counted to. -/
def greatestCount : Nat := 2147483647

/-- The number, among those that can be counted to, that a text consists of. -/
def count? (text : String) : Option Nat :=
  let (negative, cs) := splitSign text.toList
  let digits := cs.takeWhile (·.isDigit)
  let n := ofDigits 10 digits
  if digits.isEmpty ∨ ¬ (cs.drop digits.length).all isAroundNumber then none
  else if greatestCount < n ∨ (negative ∧ n ≠ 0) then none
  else some n

end FormatPipeline.Shell
