import StorageBackends.Url.Domain.Altered
import StorageBackends.Url.Domain.Refused
import StorageBackends.Url.Domain.SpelledForm

namespace StorageBackends.Url.Domain

open StorageBackends.Text

/-!
# Mapping of characters

Before a domain is judged its characters are mapped: letters become lower
case, some characters are dropped, and wide forms become ASCII text. A domain
is only judged, so a character whose form is not spelled out stays; the tables
of the classes give it the class of its form.
-/

/-- An ASCII character. -/
def isAscii (c : Char) : Bool :=
  c.toNat < 0x80

/-- The mapped form of a character, or nothing for one that is refused. -/
def mapped? (c : Char) : Option (List Char) :=
  if isAscii c then
    some [if isUpper c then Char.ofNat (c.toNat + 32) else c]
  else if ignored.contains c then
    some []
  else if refused.contains c then
    none
  else
    some ((spelledForm? c).getD [c])

/-- The mapped form of a text, or nothing if some character is refused. -/
def mapText? (text : List Char) : Option (List Char) :=
  (text.mapM mapped?).map List.flatten

/-- A character that stays as it is: it has no folded form. -/
def isFolded (c : Char) : Bool :=
  if isAscii c then
    !isUpper c
  else
    !refused.contains c && !altered.contains c

end StorageBackends.Url.Domain
