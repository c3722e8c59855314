import StorageBackends.Host.Ipv6
import StorageBackends.Url.Basic
import StorageBackends.Url.Domain

namespace StorageBackends.Url

open StorageBackends.Text

/-!
# Authorities of URLs

An authority is a host between an optional user and an optional port. Only
hosts and ports can be wrong; users take every text.
-/

/-- What stands in front of the port, and the port after its colon. -/
def splitPort : List Char → List Char × Option (List Char)
  | [] => ([], none)
  | ':' :: port => ([], some port)
  | '[' :: rest =>
      let inside := rest.takeWhile (· != ']')
      match splitPortAfter (rest.drop inside.length) with
      | (host, port) => ('[' :: inside ++ host, port)
  | c :: rest =>
      match splitPort rest with
      | (host, port) => (c :: host, port)
where
  /-- The same behind the brackets of an address. -/
  splitPortAfter : List Char → List Char × Option (List Char)
    | [] => ([], none)
    | ':' :: port => ([], some port)
    | c :: rest =>
        match splitPortAfter rest with
        | (host, port) => (c :: host, port)

/-- The greatest port. -/
def maxPort : Nat :=
  65535

/-- A port; it may be empty. -/
def isPort (text : List Char) : Bool :=
  text.all isDigit && decimalValue text ≤ maxPort

/-- A host in brackets, or one that passes another test. -/
def isBracketedOr (test : List Char → Bool) (host : List Char) : Bool :=
  match host with
  | '[' :: inside =>
      inside.getLast? == some ']' && Host.isIpv6 inside.dropLast
  | _ => test host

/-- The part of an authority behind the user. -/
def behindUser (authority : List Char) : List Char :=
  (authority.reverse.takeWhile (· != '@')).reverse

/-- Whether an authority is sound, with a test for hosts that are no address. -/
def isAuthority
    (mayBeEmpty : Bool)
    (test : List Char → Bool)
    (authority : List Char) :
    Bool :=
  let rest := behindUser authority
  let parts := splitPort rest
  if parts.1.isEmpty then
    mayBeEmpty && parts.2.isNone && !authority.contains '@'
  else
    isBracketedOr test parts.1 && parts.2.all isPort

end StorageBackends.Url
