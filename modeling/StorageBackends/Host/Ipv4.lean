import StorageBackends.Text.Characters

namespace StorageBackends.Host

open StorageBackends.Text

/-!
# Dotted addresses

An address of four decimal octets from 0 to 255, without leading zeros,
between dots.
-/

/-- A decimal from 0 to 255 without leading zeros. -/
def isOctet (text : List Char) : Bool :=
  !text.isEmpty && text.length ≤ 3 && text.all isDigit &&
    (text.length == 1 || text.head? != some '0') &&
    decimalValue text ≤ 255

/-- Four octets between dots. -/
def isIpv4 (text : List Char) : Bool :=
  let octets := text.splitOn '.'
  octets.length == 4 && octets.all isOctet

end StorageBackends.Host
