import StorageBackends.Url.Domain.Composition
import StorageBackends.Url.Domain.Direction
import StorageBackends.Url.Domain.Joining
import StorageBackends.Url.Domain.Mapping
import StorageBackends.Url.Punycode

namespace StorageBackends.Url.Domain

/-!
# Labels

A domain has labels between its dots. A label of ASCII characters is taken as
it is unless it has the mark of an encoded one; then it stands for a text that
could not be written more simply. A label with other characters starts with
no mark, and its joiners and its directions are in order.
-/

/-- The start of an encoded label. -/
def encodedMark : List Char :=
  "xn--".toList

/-- Whether a text that is shown to readers may be a label. -/
def isShownLabel (label : List Char) : Bool :=
  match label with
  | [] => false
  | first :: _ =>
      !isMark first &&
        (if label.any isJoiner then
          isWellJoined label
        else
          isWellDirected label)

/-- Whether the digits of an encoded label stand for a label. -/
def isEncodedLabel (digits : List Char) : Bool :=
  match Punycode.decode? digits with
  | some label =>
      label.all isFolded && isComposed label && isShownLabel label
  | none => false

/-- Whether a mapped text may be a label. -/
def isLabel (label : List Char) : Bool :=
  if encodedMark.isPrefixOf label then
    label.all isAscii && isEncodedLabel (label.drop encodedMark.length)
  else
    label.all isAscii || isShownLabel label

end StorageBackends.Url.Domain
