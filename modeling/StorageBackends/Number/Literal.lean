import StorageBackends.Number.Numeral

namespace StorageBackends.Number

open StorageBackends.Text

/-!
# Number literals

A literal is written more freely than a numeral: white space may surround it,
it may have a plus sign, leading zeros, and a point without digits on one
side; it may be infinite, or an integer in base sixteen, eight or two after a
mark; and a blank text is zero.
-/

/-- The number of a run of digits of some base. -/
def ofDigits? (base : Nat) (digits : List Char) : Option Number :=
  if !digits.isEmpty &&
      digits.all fun c => isHexDigit c && hexValue c < base then
    some <| ofDecimal false
      (digits.foldl (fun value digit => base * value + hexValue digit) 0) 0
  else
    none

/-- The number of a decimal without its sign. -/
def ofLooseDecimal? (negative : Bool) (text : List Char) : Option Number :=
  if text = "Infinity".toList then
    some (.infinite negative)
  else
    let whole := text.takeWhile isDigit
    let afterWhole := text.dropWhile isDigit
    let pointed := afterWhole.head? == some '.'
    let fraction :=
      if pointed then (afterWhole.drop 1).takeWhile isDigit else []
    let afterFraction :=
      if pointed then (afterWhole.drop 1).dropWhile isDigit else afterWhole
    if whole.isEmpty && fraction.isEmpty then
      none
    else
      (exponentOf? afterFraction).map fun exponent =>
        ofDecimal negative (decimalValue (whole ++ fraction))
          (exponent - fraction.length)

/-- The number of a literal; nothing if the text is none. -/
def ofLiteral? (text : List Char) : Option Number :=
  match trim text with
  | [] => some (.ofNat 0)
  | '0' :: mark :: digits =>
      if mark == 'x' || mark == 'X' then
        ofDigits? 16 digits
      else if mark == 'o' || mark == 'O' then
        ofDigits? 8 digits
      else if mark == 'b' || mark == 'B' then
        ofDigits? 2 digits
      else
        ofLooseDecimal? false ('0' :: mark :: digits)
  | '+' :: rest => ofLooseDecimal? false rest
  | '-' :: rest => ofLooseDecimal? true rest
  | rest => ofLooseDecimal? false rest

end StorageBackends.Number
