import StorageBackends.Json.Basic
import StorageBackends.Number.Decimal

namespace StorageBackends.Json

/-!
# Values inside messages

A message shows a value as plain text: a list as its elements between commas,
nulls among them as nothing, and an object as a fixed text. An object whose
members redefine its conversion has no plain text, and neither has a list
that holds one.
-/

/-- The member that redefines the conversion of an object to text. -/
def conversionKey : String :=
  "toString"

/-- The plain text of every object that has one. -/
def objectText : String :=
  "[object Object]"

mutual

/-- The plain text of an element of a list: nothing for null. -/
def plainElement? : Json → Option (List Char)
  | .null => some []
  | .bool true => some "true".toList
  | .bool false => some "false".toList
  | .num number => some number.toChars
  | .str text => some text.toList
  | .arr elements => plainElements? elements
  | .obj members =>
      if Record.contains conversionKey members then
        none
      else
        some objectText.toList

/-- The plain text of the elements of a list, between commas. -/
def plainElements? : List Json → Option (List Char)
  | [] => some []
  | [element] => plainElement? element
  | element :: next :: rest =>
      match plainElement? element, plainElements? (next :: rest) with
      | some text, some others => some (text ++ ',' :: others)
      | _, _ => none

end

/-- The plain text of a value. -/
def plain? : Json → Option (List Char)
  | .null => some "null".toList
  | value => plainElement? value

end StorageBackends.Json
