import StorageBackends.Number.Basic

namespace StorageBackends.Number

open StorageBackends.Text

/-!
# Numerals

A numeral is an optional minus sign, an integer part without leading zeros,
an optional fraction and an optional exponent.
-/

/-- The characters that numerals are made of. -/
def isNumeralChar (c : Char) : Bool :=
  isDigit c || c == '-' || c == '+' || c == '.' || c == 'e' || c == 'E'

/-- The exponent of a numeral: nothing, or a mark and a signed integer. -/
def exponentOf? : List Char → Option Int
  | [] => some 0
  | mark :: rest =>
      if mark == 'e' || mark == 'E' then
        let negative := rest.head? == some '-'
        let digits :=
          if rest.head? == some '-' || rest.head? == some '+' then
            rest.drop 1
          else
            rest
        if digits.isEmpty || !digits.all isDigit then
          none
        else
          let value : Int := decimalValue digits
          some (if negative then -value else value)
      else
        none

/-- The number of a numeral without its sign. -/
def ofUnsigned? (negative : Bool) (text : List Char) : Option Number :=
  let whole := text.takeWhile isDigit
  let afterWhole := text.dropWhile isDigit
  let pointed := afterWhole.head? == some '.'
  let fraction :=
    if pointed then (afterWhole.drop 1).takeWhile isDigit else []
  let afterFraction :=
    if pointed then (afterWhole.drop 1).dropWhile isDigit else afterWhole
  if whole.isEmpty || (pointed && fraction.isEmpty) then
    none
  else if whole.head? == some '0' && whole.length ≠ 1 then
    none
  else
    (exponentOf? afterFraction).map fun exponent =>
      ofDecimal negative (decimalValue (whole ++ fraction))
        (exponent - fraction.length)

/-- The number of a numeral; nothing if the text is none. -/
def ofNumeral? : List Char → Option Number
  | '-' :: rest => ofUnsigned? true rest
  | text => ofUnsigned? false text

end StorageBackends.Number
