import StorageBackends.Host.Ipv4

namespace StorageBackends.Host

open StorageBackends.Text

/-!
# Colon-separated addresses

An address has eight groups of one to four hexadecimal digits. The last two
groups may be written as a dotted address, and a double colon, at most one,
stands for one or more groups that are left out. Brackets, prefixes and zones
are no part of an address.
-/

/-- One to four hexadecimal digits. -/
def isGroup (text : List Char) : Bool :=
  !text.isEmpty && text.length ≤ 4 && text.all isHexDigit

/-- The number of groups in a run of pieces, each a group. -/
def groupCount? (pieces : List (List Char)) : Option Nat :=
  if pieces.all isGroup then some pieces.length else none

/-- The number of groups in a run whose last piece may be a dotted address. -/
def finalGroupCount? (pieces : List (List Char)) : Option Nat :=
  match pieces.getLast? with
  | none => some 0
  | some last =>
      if isIpv4 last then
        (groupCount? pieces.dropLast).map (· + 2)
      else
        groupCount? pieces

/-- The pieces between single colons; none for an empty text. -/
def colonPieces (text : List Char) : List (List Char) :=
  if text.isEmpty then [] else text.splitOn ':'

/-- The parts before and after the first double colon. -/
def splitAtGap? : List Char → Option (List Char × List Char)
  | ':' :: ':' :: rest => some ([], rest)
  | c :: rest =>
      (splitAtGap? rest).map fun parts => (c :: parts.1, parts.2)
  | [] => none

/-- An address in colon-separated form. -/
def isIpv6 (text : List Char) : Bool :=
  match splitAtGap? text with
  | none => finalGroupCount? (colonPieces text) == some 8
  | some (before, after) =>
      match groupCount? (colonPieces before),
          finalGroupCount? (colonPieces after) with
      | some left, some right => left + right ≤ 7
      | _, _ => false

end StorageBackends.Host
