import StorageBackends.Text.Characters

namespace StorageBackends

/-!
# Numbers

A number is a binary floating-point value of 53 significant bits, given as
`±s · 2^e`, or one of the two infinities. Reading a decimal rounds to the
nearest such value and a tie to the even significand.
-/

/-- A binary floating-point value; the same value may have several forms. -/
inductive Number where
  | finite (negative : Bool) (significand : Nat) (exponent : Int)
  | infinite (negative : Bool)
deriving DecidableEq, Repr, Inhabited

namespace Number

/-- The number of significant bits. -/
def precision : Nat :=
  53

/-- The least number that needs more bits than a significand has. -/
def significandBound : Nat :=
  Nat.pow 2 precision

/-- The exponent of the finest spacing. -/
def minExponent : Int :=
  -1074

/-- The largest exponent of a significand of full precision. -/
def maxExponent : Int :=
  971

/-- The largest integer up to which all integers are values. -/
def maxSafeInteger : Nat :=
  9007199254740991

/-- A natural number as a number; exact up to the largest safe integer. -/
def ofNat (value : Nat) : Number :=
  .finite false value 0

/-- An integer as a number; exact up to the largest safe integer. -/
def ofInt (value : Int) : Number :=
  .finite (value < 0) value.natAbs 0

/-- A quotient rounded to the nearest integer, a tie to the even one. -/
def roundQuotient (numerator denominator : Nat) : Nat :=
  let quotient := numerator / denominator
  let remainder := numerator % denominator
  if 2 * remainder < denominator then
    quotient
  else if denominator < 2 * remainder then
    quotient + 1
  else if quotient % 2 = 0 then
    quotient
  else
    quotient + 1

/-- A positive quotient rounded to a significand of the given exponent. -/
def roundAt (numerator denominator : Nat) (exponent : Int) : Nat :=
  if 0 ≤ exponent then
    roundQuotient numerator (denominator * Nat.pow 2 exponent.toNat)
  else
    roundQuotient (numerator * Nat.pow 2 (-exponent).toNat) denominator

/--
The nearest value of a positive quotient.

The exponent is first taken so that the significand has 53 or 54 bits, and one
more if it has 54; below the finest spacing it is the finest one.
-/
def ofQuotient
    (negative : Bool)
    (numerator denominator : Nat) :
    Number :=
  let estimate : Int := (numerator.log2 : Int) - denominator.log2 - precision
  let first := max estimate minExponent
  let rounded := roundAt numerator denominator first
  let exponent := if rounded < significandBound then first else first + 1
  let significand :=
    if rounded < significandBound then rounded
    else roundAt numerator denominator (first + 1)
  if significand < significandBound then
    if maxExponent < exponent then .infinite negative
    else .finite negative significand exponent
  else
    if maxExponent < exponent + 1 then .infinite negative
    else .finite negative (significand / 2) (exponent + 1)

/-- The nearest value of `±digits · 10^scale`. -/
def ofDecimal
    (negative : Bool)
    (digits : Nat)
    (scale : Int) :
    Number :=
  if digits = 0 then
    .finite negative 0 0
  else
    let magnitude : Int := (Nat.toDigits 10 digits).length + scale
    if 400 < magnitude then
      .infinite negative
    else if magnitude < -400 then
      .finite negative 0 0
    else if 0 ≤ scale then
      ofQuotient negative (digits * Nat.pow 10 scale.toNat) 1
    else
      ofQuotient negative digits (Nat.pow 10 (-scale).toNat)

/-- The integer that a number is, if it is one. -/
def toInt? : Number → Option Int
  | .infinite _ => none
  | .finite negative significand exponent =>
      let signed (magnitude : Nat) : Int :=
        if negative then -(magnitude : Int) else magnitude
      if 0 ≤ exponent then
        some (signed (significand * Nat.pow 2 exponent.toNat))
      else
        let unit := Nat.pow 2 (-exponent).toNat
        if significand % unit = 0 then
          some (signed (significand / unit))
        else
          none

/-- Whether a number is at least zero. -/
def nonnegative : Number → Bool
  | .finite negative significand _ => !negative || significand == 0
  | .infinite negative => !negative

/-- Whether a number is at most a natural number. -/
def leNat (number : Number) (bound : Nat) : Bool :=
  match number with
  | .infinite negative => negative
  | .finite negative significand exponent =>
      if negative then
        true
      else if 0 ≤ exponent then
        significand * Nat.pow 2 exponent.toNat ≤ bound
      else
        significand ≤ bound * Nat.pow 2 (-exponent).toNat

end Number

end StorageBackends
