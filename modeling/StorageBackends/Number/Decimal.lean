import StorageBackends.Number.Basic

namespace StorageBackends.Number

/-!
# Decimal text of numbers

A number is written with the fewest significant digits that read back as the
same value, and among those with the digits nearest to it. Exponents from -6
to 20 are written positionally, all others with an `e`; a zero has no sign.

The digits are found on exact quotients: for each count of digits the two
neighbours of the value on that decimal grid are tested against the interval
of reals that round to the value.
-/

/-- The reals that round to a positive value, as quotients of one denominator. -/
structure Interval where
  lower : Nat
  value : Nat
  upper : Nat
  denominator : Nat
  closed : Bool

/--
The rounding interval of `significand · 2^exponent`.

The ends are half a spacing away; below a power of two the spacing is half as
wide. They belong to the interval when the full significand is even.
-/
def interval (significand : Nat) (exponent : Int) : Interval :=
  let spacing :=
    max ((significand.log2 : Int) + exponent - (precision - 1)) minExponent
  let full :=
    if spacing ≤ exponent then
      significand * Nat.pow 2 (exponent - spacing).toNat
    else
      significand / Nat.pow 2 (spacing - exponent).toNat
  let below :=
    if full = Nat.pow 2 (precision - 1) ∧ minExponent < spacing then 1 else 2
  let unit := spacing - 2
  let factor := if 0 ≤ unit then Nat.pow 2 unit.toNat else 1
  { lower := (4 * full - below) * factor
    value := 4 * full * factor
    upper := (4 * full + 2) * factor
    denominator := if 0 ≤ unit then 1 else Nat.pow 2 (-unit).toNat
    closed := full % 2 == 0 }

/-- A quotient compared with `digits · 10^scale`, both as natural numbers. -/
def crossMultiply
    (numerator denominator digits : Nat)
    (scale : Int) :
    Nat × Nat :=
  if 0 ≤ scale then
    (numerator, digits * Nat.pow 10 scale.toNat * denominator)
  else
    (numerator * Nat.pow 10 (-scale).toNat, digits * denominator)

namespace Interval

/-- Whether a decimal lies in the interval. -/
def holds (range : Interval) (digits : Nat) (scale : Int) : Bool :=
  let low := crossMultiply range.lower range.denominator digits scale
  let high := crossMultiply range.upper range.denominator digits scale
  if range.closed then
    low.1 ≤ low.2 && high.2 ≤ high.1
  else
    low.1 < low.2 && high.2 < high.1

/-- The largest multiple of a power of ten that is not above the value. -/
def floorAt (range : Interval) (scale : Int) : Nat :=
  if 0 ≤ scale then
    range.value / (range.denominator * Nat.pow 10 scale.toNat)
  else
    range.value * Nat.pow 10 (-scale).toNat / range.denominator

/-- Whether the upper neighbour on a grid is nearer than the lower one. -/
def upperNearer (range : Interval) (digits : Nat) (scale : Int) : Bool :=
  let twice :=
    crossMultiply (2 * range.value) range.denominator (2 * digits + 1) scale
  twice.2 < twice.1 || (twice.2 == twice.1 && digits % 2 == 1)

/-- The neighbour of the value on a grid that reads back, if one does. -/
def digitsAt? (range : Interval) (scale : Int) : Option Nat :=
  let digits := range.floorAt scale
  match range.holds digits scale, range.holds (digits + 1) scale with
  | true, true =>
      some (if range.upperNearer digits scale then digits + 1 else digits)
  | true, false => some digits
  | false, true => some (digits + 1)
  | false, false => none

/-- The number of digits before the decimal point, or minus the zeros after it. -/
def magnitude (range : Interval) : Int :=
  let length (n : Nat) : Int := (Nat.toDigits 10 n).length
  let estimate := length range.value - length range.denominator
  let reached := crossMultiply range.value range.denominator 1 estimate
  if reached.2 ≤ reached.1 then estimate + 1 else estimate

end Interval

/-- The fewest digits of a positive value and the scale they are read at. -/
def shortest (significand : Nat) (exponent : Int) : Nat × Int :=
  let range := interval significand exponent
  let magnitude := range.magnitude
  let found := (List.range 17).findSome? fun count =>
    let scale := magnitude - (count + 1 : Nat)
    (range.digitsAt? scale).map fun digits => (digits, scale)
  found.getD (range.floorAt (magnitude - 17), magnitude - 17)

/-- Drop the zeros at the end of a decimal, counting them into its scale. -/
def dropZeros (digits : List Char) (scale : Int) : List Char × Int :=
  let zeros := (digits.reverse.takeWhile (· == '0')).length
  (digits.take (digits.length - zeros), scale + zeros)

/-- Write digits that are read at a scale. -/
def written (digits : List Char) (scale : Int) : List Char :=
  let count : Int := digits.length
  let point := count + scale
  if count ≤ point ∧ point ≤ 21 then
    digits ++ List.replicate (point - count).toNat '0'
  else if 0 < point ∧ point ≤ 21 then
    digits.take point.toNat ++ '.' :: digits.drop point.toNat
  else if -6 < point ∧ point ≤ 0 then
    '0' :: '.' :: List.replicate (-point).toNat '0' ++ digits
  else
    let exponent := point - 1
    let sign := if 0 ≤ exponent then '+' else '-'
    let tail := 'e' :: sign :: Nat.toDigits 10 exponent.natAbs
    match digits with
    | [single] => single :: tail
    | first :: rest => first :: '.' :: rest ++ tail
    | [] => tail

/-- The decimal text of a number. -/
def toChars : Number → List Char
  | .infinite negative =>
      if negative then "-Infinity".toList else "Infinity".toList
  | .finite negative significand exponent =>
      if significand = 0 then
        ['0']
      else
        let found := shortest significand exponent
        let trimmed := dropZeros (Nat.toDigits 10 found.1) found.2
        let text := written trimmed.1 trimmed.2
        if negative then '-' :: text else text

end StorageBackends.Number
