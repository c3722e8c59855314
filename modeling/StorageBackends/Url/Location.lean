import StorageBackends.Url.Authority
import StorageBackends.Url.Path

namespace StorageBackends.Url

open StorageBackends.Text

/-!
# Locations

What a URL says behind its host is its location: a path and a query. A URL
stands by itself if it has a scheme; without one it is read as a location on
the web, as a link on the front page of a site would be. A URL of an unknown
scheme that has no slash behind its colon has an opaque path, which is kept
as it stands.
-/

/-- A path and a query, as they are written. -/
structure Location where
  path : List Char
  query : Option (List Char)
deriving DecidableEq, Repr

namespace Location

/-- A location whose path is written by some rule. -/
def ofText
    (kind : SchemeKind)
    (writePath : List Char → List Char)
    (text : List Char) :
    Location :=
  match splitQuery text with
  | (path, query) =>
      { path := writePath path
        query := query.map (escape (Path.isEscapedInQuery kind)) }

/-- The location behind the host of the web or of a local file. -/
def behindHost (kind : SchemeKind) (text : List Char) : Location :=
  ofText kind (Path.normal kind) text

/-- The location behind an authority of an unknown scheme; it may be empty. -/
def behindAuthority (text : List Char) : Location :=
  ofText .other
    (fun path => if path.isEmpty then [] else Path.normal .other path) text

/-- An opaque location. -/
def opaquely (text : List Char) : Location :=
  ofText .other (escape Path.isEscapedEverywhere) text

/-- The authority in front of a text. -/
def authority (kind : SchemeKind) (text : List Char) : List Char :=
  text.takeWhile fun c => !kind.endsAuthority c

/-- The location of a web URL, from its authority on. -/
def ofWeb? (text : List Char) : Option Location :=
  let trimmed := text.dropWhile isSlash
  let authority := authority .web trimmed
  if isAuthority false isUrlHost authority then
    some (behindHost .web (trimmed.drop authority.length))
  else
    none

/-- The location of a local file. -/
def ofFile? : List Char → Option Location
  | first :: second :: rest =>
      if isSlash first && isSlash second then
        let host := authority .file rest
        if isDriveLetter host then
          some (behindHost .file rest)
        else if host.isEmpty || isBracketedOr isUrlHost host then
          some (behindHost .file (rest.drop host.length))
        else
          none
      else
        some (behindHost .file (first :: second :: rest))
  | text => some (behindHost .file text)

/-- The location of a URL of an unknown scheme. -/
def ofOther? : List Char → Option Location
  | '/' :: '/' :: text =>
      let authority := authority .other text
      if isAuthority true isOpaqueHost authority then
        some (behindAuthority (text.drop authority.length))
      else
        none
  | '/' :: text => some (ofText .other (Path.normal .other) ('/' :: text))
  | text => some (opaquely text)

/-- The location of what follows a scheme. -/
def ofScheme? (scheme : String) (rest : List Char) : Option Location :=
  match SchemeKind.ofScheme scheme with
  | .web => ofWeb? rest
  | .file => ofFile? rest
  | .other => ofOther? rest

/-- The location of a cleaned text that stands by itself. -/
def ofAbsolute? (text : List Char) : Option Location :=
  (splitScheme? text).bind fun parts => ofScheme? parts.1 parts.2

/-- The location of a link: two slashes start a host, all else is a path. -/
def ofLink? : List Char → Option Location
  | first :: second :: rest =>
      if isSlash first && isSlash second then
        ofWeb? rest
      else
        some (behindHost .web (first :: second :: rest))
  | text => some (behindHost .web text)

/-- The scheme of the front page. -/
def frontScheme : String :=
  "http"

/-- The location of a cleaned text on the front page of a site. -/
def resolve? (text : List Char) : Option Location :=
  match splitScheme? text with
  | none => ofLink? text
  | some (scheme, rest) =>
      if scheme == frontScheme then ofLink? rest else ofScheme? scheme rest

/-- A location in writing. -/
def text (location : Location) : List Char :=
  location.path ++
    match location.query with
    | some query => '?' :: query
    | none => []

end Location

/-- Whether a text is read as a URL that stands by itself. -/
def isAbsolute (text : List Char) : Bool :=
  (Location.ofAbsolute? (cleaned text)).isSome

/-- Whether a text is an absolute URL, white space at its ends aside. -/
def isUrl (text : String) : Bool :=
  isAbsolute (trim text.toList)

/--
A URL as it is kept: trimmed, and without the dropped characters. The check of
URLs removes tabs and line ends from the text that it hands on, also those in
the midst of it, as the reader of URLs does; all else stays as it is written.
-/
def kept (text : String) : String :=
  String.ofList ((trim text.toList).filter fun c => !isDropped c)

end StorageBackends.Url
