import StorageBackends.Url.Basic
import StorageBackends.Url.Percent

namespace StorageBackends.Url.Path

open StorageBackends.Text

/-!
# Paths and queries of URLs

A path is kept as its segments without dot segments, and the characters that
do not belong into a URL are escaped. A drive letter at the start of the path
of a local file stays where it is.
-/

/-- A character that is escaped everywhere. -/
def isEscapedEverywhere (c : Char) : Bool :=
  c.toNat < 0x20 || 0x7F ≤ c.toNat

/-- A character that is escaped in queries. -/
def isEscapedInQuery (kind : SchemeKind) (c : Char) : Bool :=
  isEscapedEverywhere c || " \"#<>".toList.contains c ||
    (kind != .other && c == '\'')

/-- A character that is escaped in paths. -/
def isEscapedInPath (c : Char) : Bool :=
  isEscapedEverywhere c ||
    [' ', '"', '#', '<', '>', '?', '\x60', '\x7B', '\x7D'].contains c

/-- A segment with its escaped dots written as dots. -/
def plainDots : List Char → List Char
  | '%' :: '2' :: 'e' :: rest => '.' :: plainDots rest
  | '%' :: '2' :: 'E' :: rest => '.' :: plainDots rest
  | c :: rest => c :: plainDots rest
  | [] => []

/-- The segments without the last one; a lone drive letter stays. -/
def shorten (kind : SchemeKind) : List (List Char) → List (List Char)
  | [] => []
  | [segment] =>
      if kind = .file && isDriveLetter segment then [segment] else []
  | segments => segments.dropLast

/-- The next segment: a drive letter at the start is written with a colon. -/
def append
    (kind : SchemeKind)
    (done : List (List Char))
    (segment : List Char) :
    List (List Char) :=
  if kind = .file && done.isEmpty && isDriveLetter segment then
    [segment.take 1 ++ [':']]
  else
    done ++ [segment]

/-- Drop dot segments: one dot stays in place, two go back. -/
def dropDots (kind : SchemeKind) (done : List (List Char)) :
    List (List Char) → List (List Char)
  | [] => done
  | segment :: rest =>
      let next :=
        if plainDots segment = ['.', '.'] then
          shorten kind done ++ if rest.isEmpty then [[]] else []
        else if plainDots segment = ['.'] then
          done ++ if rest.isEmpty then [[]] else []
        else
          append kind done segment
      dropDots kind next rest

/-- The path behind a slash that is already read. -/
def behindSlash (kind : SchemeKind) (text : List Char) : List Char :=
  (dropDots kind [] (text.splitOnP kind.separates)).flatMap fun segment =>
    '/' :: escape isEscapedInPath segment

/-- A path with or without its first slash. -/
def normal (kind : SchemeKind) : List Char → List Char
  | [] => behindSlash kind []
  | c :: rest =>
      if kind.separates c then
        behindSlash kind rest
      else
        behindSlash kind (c :: rest)

end StorageBackends.Url.Path
