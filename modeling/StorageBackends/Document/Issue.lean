import StorageBackends.Json.Basic

namespace StorageBackends.Document

/-!
# Issues of a document

A document that does not have the shape asked for is answered with a list of
issues. An issue is a complaint about one part, and the path that leads to the
part from the whole.
-/

/-- One step from a part to a part of it. -/
inductive PathStep where
  | key (name : String)
  | index (position : Nat)
deriving DecidableEq, Repr

namespace PathStep

/-- The written form of a step. -/
def text : PathStep → String
  | key name => name
  | index position => toString position

/-- A step as JSON. -/
def toJson : PathStep → Json
  | key name => .str name
  | index position => Json.ofNat position

end PathStep

/-- The kinds of values that are asked for. -/
inductive Shape where
  | text
  | number
  | integer
  | flag
  | null
  | list
  | object
  | record
deriving DecidableEq, Repr

namespace Shape

/-- The name of a kind of values. -/
def name : Shape → String
  | text => "string"
  | number => "number"
  | integer => "int"
  | flag => "boolean"
  | null => "null"
  | list => "array"
  | object => "object"
  | record => "record"

end Shape

/-- The name of the kind that a part has; nothing at all has one too. -/
def receivedName : Option Json → String
  | none => "undefined"
  | some .null => "null"
  | some (.bool _) => "boolean"
  | some (.num (.infinite true)) => "-Infinity"
  | some (.num (.infinite false)) => "Infinity"
  | some (.num _) => "number"
  | some (.str _) => "string"
  | some (.arr _) => "array"
  | some (.obj _) => "object"

/-- What is wrong with a part. -/
inductive Complaint where
  | wrongShape (expected : Shape) (received : String)
  | notAmong (choices : List String)
  | notFlag (expected : Bool)
  | emptyText
  | numberBelow (bound : Nat)
  | numberAbove (bound : Nat)
  | integerBelowRange
  | integerAboveRange
  | notUrl
  | noAlternative
deriving DecidableEq, Repr

namespace Complaint

/-- The code of a complaint. -/
def code : Complaint → String
  | wrongShape _ _ => "invalid_type"
  | notAmong _ => "invalid_value"
  | notFlag _ => "invalid_value"
  | emptyText => "too_small"
  | numberBelow _ => "too_small"
  | numberAbove _ => "too_big"
  | integerBelowRange => "too_small"
  | integerAboveRange => "too_big"
  | notUrl => "invalid_format"
  | noAlternative => "invalid_union"

/-- A choice in quotes. -/
def quoted (choice : String) : String :=
  "\"" ++ choice ++ "\""

/-- The message of a complaint. -/
def message : Complaint → String
  | wrongShape expected received =>
      "Invalid input: expected " ++ expected.name ++ ", received " ++ received
  | notAmong [choice] => "Invalid input: expected " ++ quoted choice
  | notAmong choices =>
      "Invalid option: expected one of " ++
        String.intercalate "|" (choices.map quoted)
  | notFlag true => "Invalid input: expected true"
  | notFlag false => "Invalid input: expected false"
  | emptyText => "Too small: expected string to have >=1 characters"
  | numberBelow bound =>
      "Too small: expected number to be >=" ++ toString bound
  | numberAbove bound => "Too big: expected number to be <=" ++ toString bound
  | integerBelowRange =>
      "Too small: expected int to be >=-" ++ toString Number.maxSafeInteger
  | integerAboveRange =>
      "Too big: expected int to be <=" ++ toString Number.maxSafeInteger
  | notUrl => "Invalid URL"
  | noAlternative => "Invalid input"

end Complaint

/-- A complaint about the part at the end of a path. -/
structure Issue where
  path : List PathStep
  complaint : Complaint
deriving DecidableEq, Repr

namespace Issue

/-- The issue of the whole that an issue of a part is. -/
def under (step : PathStep) (issue : Issue) : Issue :=
  { issue with path := step :: issue.path }

/-- The steps of the path between dots. -/
def dottedPath (issue : Issue) : String :=
  String.intercalate "." (issue.path.map PathStep.text)

/-- An issue as an object. -/
def toJson (issue : Issue) : Json :=
  .obj
    [("code", .str issue.complaint.code),
      ("path", .arr (issue.path.map PathStep.toJson)),
      ("message", .str issue.complaint.message)]

end Issue

end StorageBackends.Document
