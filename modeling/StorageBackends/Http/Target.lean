import StorageBackends.Text.CodeUnits
import StorageBackends.Url.Location

namespace StorageBackends.Http

open StorageBackends.Text

/-!
# Request targets

A target is a location with the path that routing goes by. A request may give
any URL, with or without a host; two slashes at its start belong to the path.
For routing the path is decoded, but escaped delimiters stay until the
parameters have been cut out of it.
-/

/-- A path and a query, each as it is sent. -/
abbrev Target :=
  Url.Location

namespace Target

/-- The target of a URL; nothing if the host of the URL is unsound. -/
def ofUrl? (url : String) : Option Target :=
  let text := Url.cleaned url.toList
  match url.toList with
  | '/' :: '/' :: _ => some (Url.Location.behindHost .web text)
  | _ => Url.Location.resolve? text

/-- A target in writing. -/
def written (target : Target) : String :=
  String.ofList target.text

/-- A text that starts with a scheme of the web and a host, from its path on. -/
def behindOrigin (text : List Char) : List Char :=
  let behindScheme? :=
    ["http://", "https://"].findSome? fun start =>
      if start.toList.isPrefixOf text then
        some (text.drop start.length)
      else
        none
  match behindScheme? with
  | none => text
  | some rest =>
      match rest.dropWhile (· != '/') with
      | [] => text
      | path => path

/-- The text that is routed; an opaque path may hold a host of its own. -/
def routed (target : Target) : List Char :=
  let text := target.text
  if text.head? = some '/' then text else behindOrigin text

/-- A delimiter whose escape stays while a path is taken apart. -/
def isDelimiter (byte : UInt8) : Bool :=
  ("#$&+,/:;=?@%".toList.map fun c => c.toNat).contains byte.toNat

/-- The path as it is matched; nothing if its escapes are malformed. -/
def decodedPath? (target : Target) : Option (List Char) :=
  match target.routed with
  | [] => some []
  | first :: rest =>
      Url.decodeExcept? isDelimiter (first :: rest.takeWhile (· != '?'))

/-- A part of a decoded path with its delimiters decoded too. -/
def decodePart (part : List Char) : String :=
  String.ofList ((Url.decode? part).getD part)

end Target

end StorageBackends.Http
