namespace StorageBackends.Text

/-!
# Sixteen-bit code units

Lengths and the order of names are those of the sixteen-bit encoding: a
character beyond the basic plane counts twice, and sorts by its first
surrogate.
-/

/-- The code units of one character. -/
def charUnits (c : Char) : List Nat :=
  if c.toNat < 0x10000 then
    [c.toNat]
  else
    let offset := c.toNat - 0x10000
    [0xD800 + offset / 0x400, 0xDC00 + offset % 0x400]

/-- The code units of a text. -/
def units (text : String) : List Nat :=
  text.toList.flatMap charUnits

/-- The length of a text in code units. -/
def unitLength (text : String) : Nat :=
  (units text).length

/-- Lexicographic order of code units, as a test. -/
def unitsLe : List Nat → List Nat → Bool
  | [], _ => true
  | _ :: _, [] => false
  | left :: lefts, right :: rights =>
      left < right || (left == right && unitsLe lefts rights)

/-- Names in ascending order of their code units. -/
def sortNames (names : List String) : List String :=
  names.mergeSort fun left right => unitsLe (units left) (units right)

end StorageBackends.Text
