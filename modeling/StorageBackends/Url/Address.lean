import StorageBackends.Text.Characters

namespace StorageBackends.Url

open StorageBackends.Text

/-!
# Numeric addresses

The host of a URL that ends in a number is a dotted address. It has one to
four numbers, each decimal, octal after a leading zero, or hexadecimal after
`0x`; the last number fills all the bytes that the others leave.
-/

/-- The number of a run of digits of some base. -/
def baseValue (base : Nat) (digits : List Char) : Nat :=
  digits.foldl (fun value digit => base * value + hexValue digit) 0

/-- An octal digit. -/
def isOctalDigit (c : Char) : Bool :=
  '0' ≤ c && c ≤ '7'

/-- The number of one part of an address. -/
def addressNumber? : List Char → Option Nat
  | [] => none
  | ['0'] => some 0
  | '0' :: second :: rest =>
      if second == 'x' || second == 'X' then
        if rest.all isHexDigit then some (baseValue 16 rest) else none
      else if (second :: rest).all isOctalDigit then
        some (baseValue 8 (second :: rest))
      else
        none
  | digits =>
      if digits.all isDigit then some (decimalValue digits) else none

/-- The parts of a host, without the empty one behind a final dot. -/
def addressParts (host : List Char) : List (List Char) :=
  let parts := host.splitOn '.'
  if parts.getLast? == some [] && 1 < parts.length then
    parts.dropLast
  else
    parts

/-- Whether a host has to be an address. -/
def endsInNumber (host : List Char) : Bool :=
  match (addressParts host).getLast? with
  | none => false
  | some [] => false
  | some last => last.all isDigit || (addressNumber? last).isSome

/-- Whether a host that ends in a number is an address. -/
def isAddress (host : List Char) : Bool :=
  let parts := addressParts host
  parts.length ≤ 4 &&
    match parts.mapM addressNumber? with
    | none => false
    | some numbers =>
        numbers.dropLast.all (· ≤ 255) &&
          match numbers.getLast? with
          | none => false
          | some last => last < Nat.pow 256 (5 - numbers.length)

end StorageBackends.Url
