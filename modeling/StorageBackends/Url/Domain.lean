import StorageBackends.Url.Address
import StorageBackends.Url.Domain.Label
import StorageBackends.Url.Percent

namespace StorageBackends.Url

open StorageBackends.Text

/-!
# Hosts of URLs

Before its labels are judged a host is decoded from percent escapes, mapped
and composed. A host that ends in a number is an address.
-/

/-- A character that no host holds. -/
def isForbiddenInHost (c : Char) : Bool :=
  c.toNat == 0x00 || c.toNat == 0x09 || c.toNat == 0x0A || c.toNat == 0x0D ||
    " #/:<>?@[\\]^|".toList.contains c

/-- A character that no mapped domain holds. -/
def isForbiddenInDomain (c : Char) : Bool :=
  isForbiddenInHost c || c.toNat < 0x20 || c == '%' || c.toNat == 0x7F

/-- Whether a mapped host is a domain name or an address. -/
def isMappedHost (host : List Char) : Bool :=
  !host.isEmpty &&
    !host.any isForbiddenInDomain &&
    (host.splitOn '.').all Domain.isLabel &&
    (if endsInNumber host then isAddress host else true)

/-- Whether a text is a domain name or an address in a URL. -/
def isUrlHost (text : List Char) : Bool :=
  match (decode? text).bind Domain.mapText? with
  | some mapped => isMappedHost (Domain.composed mapped)
  | none => false

/-- Whether a text is a host that is kept as it is. -/
def isOpaqueHost (text : List Char) : Bool :=
  !text.any isForbiddenInHost

end StorageBackends.Url
