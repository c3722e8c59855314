import StorageBackends.Text.Characters

namespace StorageBackends.Http

open StorageBackends.Text

/-!
# Media types

A media type has two names with a slash between them. White space may stand
around both, and parameters may follow after a semicolon; they do not matter
here. Names are compared without regard to case.
-/

/-- The two names of a media type, in lower case. -/
structure MediaType where
  name : String
  subname : String
deriving DecidableEq, Repr

namespace MediaType

/-- JSON text. -/
def json : MediaType :=
  ⟨"application", "json"⟩

/-- Plain text. -/
def plain : MediaType :=
  ⟨"text", "plain"⟩

/-- A character that names are made of. -/
def isNameChar (c : Char) : Bool :=
  isLetterOrDigit c || "_!#$%&'*+.^\x60|~-".toList.contains c

/-- Whether a text is a name. -/
def isName (text : List Char) : Bool :=
  !text.isEmpty && text.all isNameChar

/-- The media type that a header names, if it names one. -/
def ofHeader? (header : String) : Option MediaType :=
  let names := header.toList.takeWhile (· != ';')
  let name := (names.takeWhile (· != '/')).dropWhile isBlank
  match names.dropWhile (· != '/') with
  | [] => none
  | _ :: rest =>
      let subname := (rest.reverse.dropWhile isBlank).reverse
      if isName name && isName subname then
        some ⟨toLower (String.ofList name), toLower (String.ofList subname)⟩
      else
        none

end MediaType

end StorageBackends.Http
