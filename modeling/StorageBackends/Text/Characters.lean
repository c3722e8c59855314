namespace StorageBackends.Text

/-!
# Character classes

The names of this library are built from ASCII letters, digits and hyphens.
White space is the class that trimming removes at both ends of a text; it is
a fixed table and not the ASCII class.
-/

/-- An ASCII lower-case letter. -/
def isLower (c : Char) : Bool :=
  'a' ≤ c && c ≤ 'z'

/-- An ASCII upper-case letter. -/
def isUpper (c : Char) : Bool :=
  'A' ≤ c && c ≤ 'Z'

/-- An ASCII decimal digit. -/
def isDigit (c : Char) : Bool :=
  '0' ≤ c && c ≤ '9'

/-- An ASCII lower-case letter or decimal digit. -/
def isLowerOrDigit (c : Char) : Bool :=
  isLower c || isDigit c

/-- An ASCII letter or decimal digit. -/
def isLetterOrDigit (c : Char) : Bool :=
  isLower c || isUpper c || isDigit c

/-- A hexadecimal digit of either case. -/
def isHexDigit (c : Char) : Bool :=
  isDigit c || ('a' ≤ c && c ≤ 'f') || ('A' ≤ c && c ≤ 'F')

/-- The value of a decimal digit. -/
def digitValue (c : Char) : Nat :=
  c.toNat - '0'.toNat

/-- The value of a hexadecimal digit. -/
def hexValue (c : Char) : Nat :=
  if isDigit c then
    c.toNat - '0'.toNat
  else if 'a' ≤ c then
    c.toNat - 'a'.toNat + 10
  else
    c.toNat - 'A'.toNat + 10

/-- The number that a run of decimal digits denotes. -/
def decimalValue (digits : List Char) : Nat :=
  digits.foldl (fun value digit => 10 * value + digitValue digit) 0

/-- White space: what trimming removes. -/
def isBlank (c : Char) : Bool :=
  let code := c.toNat
  (0x09 ≤ code && code ≤ 0x0D) || code == 0x20 || code == 0xA0 ||
    code == 0x1680 || (0x2000 ≤ code && code ≤ 0x200A) ||
    code == 0x2028 || code == 0x2029 || code == 0x202F ||
    code == 0x205F || code == 0x3000 || code == 0xFEFF

/-- A text without the white space at its two ends. -/
def trim (characters : List Char) : List Char :=
  ((characters.dropWhile isBlank).reverse.dropWhile isBlank).reverse

/-- Texts in ascending order of their characters. -/
def sortTexts (texts : List String) : List String :=
  texts.mergeSort fun left right => !decide (right < left)

/-- Lower-case form of the ASCII letters; other characters stay. -/
def toLower (text : String) : String :=
  String.ofList (text.toList.map fun c =>
    if isUpper c then Char.ofNat (c.toNat + 32) else c)

/-- Upper-case form of the ASCII letters; other characters stay. -/
def toUpper (text : String) : String :=
  String.ofList (text.toList.map fun c =>
    if isLower c then Char.ofNat (c.toNat - 32) else c)

end StorageBackends.Text
