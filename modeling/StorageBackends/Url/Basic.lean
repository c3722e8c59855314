import StorageBackends.Text.Characters

namespace StorageBackends.Url

open StorageBackends.Text

/-!
# Parts of URLs

A URL has a scheme, which says how the rest is read: the schemes of the web
take both kinds of slashes and need a host, local files may lack one, and all
other schemes know only one kind of slash. A query is split off first, and a
fragment is dropped.
-/

/-- How the text behind a scheme is read. -/
inductive SchemeKind where
  | web
  | file
  | other
deriving DecidableEq, Repr

/-- The schemes with a host. -/
def webSchemes : List String :=
  ["ftp", "http", "https", "ws", "wss"]

/-- The scheme of local files, which may lack a host. -/
def fileScheme : String :=
  "file"

/-- The kind of a scheme. -/
def SchemeKind.ofScheme (scheme : String) : SchemeKind :=
  if scheme == fileScheme then
    .file
  else if webSchemes.contains scheme then
    .web
  else
    .other

/-- A character after the first one of a scheme. -/
def isSchemeChar (c : Char) : Bool :=
  isLetterOrDigit c || c == '+' || c == '-' || c == '.'

/-- A character that is dropped wherever it stands. -/
def isDropped (c : Char) : Bool :=
  c == '\t' || c == '\n' || c == '\r'

/-- A character that is dropped at the ends. -/
def isEdge (c : Char) : Bool :=
  c.toNat ≤ 0x20

/-- The text that is parsed: without edges and dropped characters. -/
def cleaned (text : List Char) : List Char :=
  (((text.dropWhile isEdge).reverse.dropWhile isEdge).reverse).filter
    fun c => !isDropped c

/-- The scheme in lower case and what follows its colon. -/
def splitScheme? (text : List Char) : Option (String × List Char) :=
  match text with
  | [] => none
  | first :: rest =>
      if isLower first || isUpper first then
        let tail := rest.takeWhile isSchemeChar
        match rest.drop tail.length with
        | ':' :: after =>
            some (toLower (String.ofList (first :: tail)), after)
        | _ => none
      else
        none

/-- A slash of either direction. -/
def isSlash (c : Char) : Bool :=
  c == '/' || c == '\\'

namespace SchemeKind

/-- A separator of path segments. -/
def separates : SchemeKind → Char → Bool
  | other, c => c == '/'
  | _, c => isSlash c

/-- The end of an authority. -/
def endsAuthority (kind : SchemeKind) (c : Char) : Bool :=
  kind.separates c || c == '?' || c == '#'

end SchemeKind

/-- The text in front of the query, and the query if it is not empty. -/
def splitQuery (text : List Char) : List Char × Option (List Char) :=
  let shown := text.takeWhile (· != '#')
  let path := shown.takeWhile (· != '?')
  let query := shown.drop (path.length + 1)
  (path, if query.isEmpty then none else some query)

/-- The text of a drive letter: a letter and a mark. -/
def isDriveLetter : List Char → Bool
  | [letter, mark] =>
      (isLower letter || isUpper letter) && (mark == ':' || mark == '|')
  | _ => false

end StorageBackends.Url
