import StorageBackends.Json.Basic
import StorageBackends.Number.Decimal

namespace StorageBackends.Json

/-!
# Writing JSON text

There are two layouts: all on one line, or each element and member on a line
of its own, indented by two blanks for each level. Empty containers stay on
their line in both. Quotes, backslashes and control characters are escaped
and nothing else; the infinities are written as null.
-/

/-- How the parts of a value are laid out. -/
inductive Layout where
  | compact
  | indented
deriving DecidableEq, Repr

/-- A hexadecimal digit in lower case. -/
def hexDigit (value : Nat) : Char :=
  if value < 10 then
    Char.ofNat ('0'.toNat + value)
  else
    Char.ofNat ('a'.toNat + (value - 10))

/-- One character inside quotes. -/
def escapeChar (c : Char) : List Char :=
  if c = '"' then
    ['\\', '"']
  else if c = '\\' then
    ['\\', '\\']
  else if c.toNat = 0x08 then
    ['\\', 'b']
  else if c.toNat = 0x09 then
    ['\\', 't']
  else if c.toNat = 0x0A then
    ['\\', 'n']
  else if c.toNat = 0x0C then
    ['\\', 'f']
  else if c.toNat = 0x0D then
    ['\\', 'r']
  else if c.toNat < 0x20 then
    ['\\', 'u', '0', '0', hexDigit (c.toNat / 16), hexDigit (c.toNat % 16)]
  else
    [c]

/-- A text in quotes. -/
def quote (text : String) : List Char :=
  '"' :: text.toList.flatMap escapeChar ++ ['"']

/-- The line break in front of a part at a level of nesting. -/
def lineBreak (layout : Layout) (level : Nat) : List Char :=
  match layout with
  | .compact => []
  | .indented => '\n' :: List.replicate (2 * level) ' '

/-- What stands between a key and its value. -/
def keySeparator : Layout → List Char
  | .compact => [':']
  | .indented => [':', ' ']

mutual

/-- The characters of a value at a level of nesting. -/
def render (layout : Layout) (level : Nat) : Json → List Char
  | .null => "null".toList
  | .bool true => "true".toList
  | .bool false => "false".toList
  | .num (.infinite _) => "null".toList
  | .num number => number.toChars
  | .str text => quote text
  | .arr [] => ['[', ']']
  | .arr (first :: rest) =>
      '[' :: lineBreak layout (level + 1) ++
        render layout (level + 1) first ++
        renderElements layout (level + 1) rest ++
        lineBreak layout level ++ [']']
  | .obj [] => ['{', '}']
  | .obj ((key, first) :: rest) =>
      '{' :: lineBreak layout (level + 1) ++
        quote key ++ keySeparator layout ++
        render layout (level + 1) first ++
        renderMembers layout (level + 1) rest ++
        lineBreak layout level ++ ['}']

/-- The elements after the first one. -/
def renderElements (layout : Layout) (level : Nat) : List Json → List Char
  | [] => []
  | element :: rest =>
      ',' :: lineBreak layout level ++
        render layout level element ++
        renderElements layout level rest

/-- The members after the first one. -/
def renderMembers
    (layout : Layout)
    (level : Nat) :
    List (String × Json) → List Char
  | [] => []
  | (key, value) :: rest =>
      ',' :: lineBreak layout level ++
        quote key ++ keySeparator layout ++
        render layout level value ++
        renderMembers layout level rest

end

/-- A value on one line. -/
def compact (value : Json) : String :=
  String.ofList (render .compact 0 value)

/-- The text of a file that holds a value: indented, with a final newline. -/
def fileText (value : Json) : String :=
  String.ofList (render .indented 0 value ++ ['\n'])

end StorageBackends.Json
