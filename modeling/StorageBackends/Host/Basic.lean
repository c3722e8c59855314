import StorageBackends.Url.Location

namespace StorageBackends.Host

open StorageBackends.Text

/-!
# Hosts

A host is an address in dotted or colon-separated form, or a qualified domain
name: at least two labels of 1 to 63 letters, digits and inner hyphens, the
last of them not all digits, at most 253 characters in all. A domain name may
end in one more dot.

The check of colon-separated addresses is not a grammar of its own: it asks
the reader of URLs. It looks at the characters first, for the reader alone is
no check of a host. In a URL a path may follow the bracket, a user may stand
in front of it, and tabs and line ends are dropped, so the reader would take
`::1]/x?[`, `x@[::1` and `::1` with a line feed behind it.

Early releases of the check did hand the text on unseen. The release that the
service runs on does not: asked about `::1` with a line feed or a tab behind
it, and about `::@1\`, all of which the reader takes, the running service
refused them.
-/

/-- The longest label. -/
def maxLabel : Nat :=
  63

/-- The longest domain name, the dot at its end not counted. -/
def maxName : Nat :=
  253

/-- A letter, a digit or a hyphen. -/
def isLabelChar (c : Char) : Bool :=
  isLetterOrDigit c || c == '-'

/-- One label of a domain name. -/
def isLabel (label : List Char) : Bool :=
  !label.isEmpty && label.length ≤ maxLabel && label.all isLabelChar &&
    label.head? != some '-' && label.getLast? != some '-'

/-- A domain name without the dot that may end it. -/
def withoutFinalDot (text : List Char) : List Char :=
  if text.getLast? == some '.' then text.dropLast else text

/-- Labels that make a qualified name: two or more, the last not numeric. -/
def isQualified (labels : List (List Char)) : Bool :=
  2 ≤ labels.length &&
    match labels.getLast? with
    | some last => !last.all isDigit
    | none => false

/-- A qualified domain name. -/
def isDomainName (text : List Char) : Bool :=
  let name := withoutFinalDot text
  let labels := name.splitOn '.'
  name.length ≤ maxName && labels.all isLabel && isQualified labels

/-- A character of a colon-separated address. -/
def isAddressChar (c : Char) : Bool :=
  isHexDigit c || c == '.' || c == ':'

/-- The URL whose host is a text between brackets. -/
def bracketed (text : List Char) : List Char :=
  "http://[".toList ++ text ++ [']']

/-- Whether a text is a colon-separated address: the reader of URLs decides. -/
def isAddressText (text : List Char) : Bool :=
  text.all isAddressChar && Url.isAbsolute (bracketed text)

/-- An address or a qualified domain name. -/
def isHost (text : String) : Bool :=
  isIpv4 text.toList || isAddressText text.toList || isDomainName text.toList

end StorageBackends.Host
