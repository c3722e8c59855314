import StorageBackends.Text.Characters

namespace StorageBackends.Url.Punycode

open StorageBackends.Text

/-!
# Encoded labels

A label with characters beyond ASCII travels as its ASCII characters and a
run of digits of base 36, which say where to insert which other character.
A threshold for each digit, adapted after each insertion, tells the last digit
of a number.
-/

/-- The value of a digit of base 36. -/
def digit? (c : Char) : Option Nat :=
  if isLower c then
    some (c.toNat - 'a'.toNat)
  else if isUpper c then
    some (c.toNat - 'A'.toNat)
  else if isDigit c then
    some (c.toNat - '0'.toNat + 26)
  else
    none

/-- The threshold of a digit position. -/
def threshold (position bias : Nat) : Nat :=
  if position ≤ bias then
    1
  else if bias + 26 ≤ position then
    26
  else
    position - bias

/-- Scale a delta down and count the digits saved. -/
def scaleDown (delta saved : Nat) : Nat × Nat :=
  if 455 < delta then scaleDown (delta / 35) (saved + 36) else (delta, saved)
termination_by delta
decreasing_by exact Nat.div_lt_self (by omega) (by omega)

/-- The bias after an insertion. -/
def adapt (delta count : Nat) (first : Bool) : Nat :=
  let halved := if first then delta / 700 else delta / 2
  let scaled := scaleDown (halved + halved / count) 0
  scaled.2 + 36 * scaled.1 / (scaled.1 + 38)

/-- Where the decoding of a run of digits stands. -/
structure Progress where
  decoded : List Nat
  code : Nat
  index : Nat
  bias : Nat
  delta : Nat
  weight : Nat
  position : Nat

/-- The progress in front of the first digit. -/
def start (basic : List Nat) : Progress where
  decoded := basic
  code := 128
  index := 0
  bias := 72
  delta := 0
  weight := 1
  position := 36

/-- Insert the character that a complete number denotes. -/
def insertNext (progress : Progress) (delta : Nat) : Progress :=
  let count := progress.decoded.length + 1
  let total := progress.index + delta
  let code := progress.code + total / count
  let index := total % count
  { decoded :=
      progress.decoded.take index ++ code :: progress.decoded.drop index
    code := code
    index := index + 1
    bias := adapt delta count (progress.decoded.all (· < 128))
    delta := 0
    weight := 1
    position := 36 }

/-- The largest number that a run of digits may denote. -/
def maxNumber : Nat :=
  0x7FFFFFFF

/-- Take one digit. -/
def step (progress : Progress) (c : Char) : Option Progress :=
  (digit? c).bind fun digit =>
    let delta := progress.delta + digit * progress.weight
    let least := threshold progress.position progress.bias
    let weight := progress.weight * (36 - least)
    if maxNumber < progress.index + delta then
      none
    else if digit < least then
      some (insertNext progress delta)
    else if maxNumber < weight then
      none
    else
      some
        { progress with
          delta := delta
          weight := weight
          position := progress.position + 36 }

/-- The part before the last hyphen, if any, and the part after it. -/
def splitAtLastHyphen (label : List Char) : List Char × List Char :=
  let reversed := label.reverse
  let digits := reversed.takeWhile (· != '-')
  ((reversed.drop (digits.length + 1)).reverse, digits.reverse)

/-- A code point that is a character. -/
def isScalar (code : Nat) : Bool :=
  code < 0xD800 || (0xE000 ≤ code && code < 0x110000)

/-- The text that an encoded label stands for. -/
def decode? (label : List Char) : Option (List Char) :=
  let parts := splitAtLastHyphen label
  let basic := parts.1.map Char.toNat
  match parts.2.foldlM step (start basic) with
  | some progress =>
      if progress.position = 36 && progress.decoded.all isScalar then
        some (progress.decoded.map Char.ofNat)
      else
        none
  | none => none

end StorageBackends.Url.Punycode
