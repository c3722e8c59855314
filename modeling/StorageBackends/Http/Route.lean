import StorageBackends.Http.Target
import StorageBackends.Record

namespace StorageBackends.Http

open StorageBackends.Text

/-!
# Routes

A route is a method and a pattern of segments. A pattern segment is fixed or a
parameter; a parameter may be empty. Paths are matched case-sensitively and
segment by segment, so a slash at the end makes another path.

The pages below `/docs`, where the service shows a description of its own
interface, are not among the routes. They use neither the registry nor the
collaborators. Here a request to one of them is unknown, and not counted.
-/

/-- What the service answers. -/
inductive Route where
  | health
  | backendList
  | backendDetail
  | validate
  | putInstance
  | deleteInstance
  | options
deriving DecidableEq, Repr

/-- One segment of a pattern. -/
inductive PatternSegment where
  | fixed (text : String)
  | param (name : String)
deriving DecidableEq, Repr

namespace PatternSegment

/-- The written form of a segment. -/
def text : PatternSegment → String
  | fixed text => text
  | param name => ":" ++ name

end PatternSegment

namespace Route

/-- The parameter that names a backend. -/
def backendParam : String :=
  "backendType"

/-- The parameter that names an instance. -/
def instanceParam : String :=
  "instanceName"

/-- The parameter that holds a path without a route. -/
def wildcard : String :=
  "*"

/-- The segments of a route; the options of any path have none. -/
def pattern : Route → List PatternSegment
  | health => [.fixed "health"]
  | backendList => [.fixed "backends"]
  | backendDetail => [.fixed "backends", .param backendParam]
  | validate => [.fixed "backends", .param backendParam, .fixed "validate"]
  | putInstance =>
      [.fixed "backends", .param backendParam, .fixed "instances",
        .param instanceParam]
  | deleteInstance =>
      [.fixed "backends", .param backendParam, .fixed "instances",
        .param instanceParam]
  | options => []

/-- The routes of a method. -/
def ofVerb (verb : String) : List Route :=
  if verb = "GET" || verb = "HEAD" then
    [health, backendList, backendDetail]
  else if verb = "POST" then
    [validate]
  else if verb = "PUT" then
    [putInstance]
  else if verb = "DELETE" then
    [deleteInstance]
  else
    []

/-- The written form of a route. -/
def text (route : Route) : String :=
  match route with
  | options => wildcard
  | _ => String.join (route.pattern.map fun segment => "/" ++ segment.text)

/-- The longest value of a parameter in code units. -/
def maxParam : Nat :=
  100

/-- How the segments of a path compare with a pattern. -/
inductive Comparison where
  | differs
  | overlong
  | agrees (params : Record String)
deriving DecidableEq, Repr

/--
Compare segments with a pattern.

A value that is too long is found as soon as the segments in front of it
agree, whatever comes behind it.
-/
def compareSegments :
    List PatternSegment → List (List Char) → Comparison
  | [], [] => .agrees []
  | .fixed text :: pattern, segment :: rest =>
      if segment = text.toList then compareSegments pattern rest else .differs
  | .param name :: pattern, segment :: rest =>
      let value := Target.decodePart segment
      if maxParam < unitLength value then
        .overlong
      else
        match compareSegments pattern rest with
        | .agrees params => .agrees ((name, value) :: params)
        | comparison => comparison
  | _, _ => .differs

end Route

/-- Where a request leads: a route if there is one, and the parameters. -/
structure Destination where
  route : Option Route
  params : Record String
deriving DecidableEq, Repr

/-- Why a target leads nowhere, not even to an unknown route. -/
inductive TargetProblem where
  | malformed
  | overlongParam (path : List Char)
deriving DecidableEq, Repr

namespace Destination

/--
The first of some routes that agrees with a path.

Routes are compared with what follows the first character, which is a slash
unless the path is opaque.
-/
def among (path : List Char) :
    List Route → Except TargetProblem (Option Destination)
  | [] => .ok none
  | route :: rest =>
      match
        Route.compareSegments route.pattern
          ((path.drop 1).splitOn '/') with
      | .agrees params => .ok (some ⟨some route, params⟩)
      | .overlong => .error (.overlongParam path)
      | .differs => among path rest

/-- The destination of a path without a route. -/
def unknown (path : List Char) : Destination where
  route := none
  params :=
    if path.length = 1 then []
    else [(Route.wildcard, Target.decodePart (path.drop 1))]

/-- The destination of a decoded path. -/
def ofPath (verb : String) (path : List Char) :
    Except TargetProblem Destination :=
  if verb = "OPTIONS" then
    .ok ⟨some .options, [(Route.wildcard, Target.decodePart path)]⟩
  else
    (among path (Route.ofVerb verb)).map fun found =>
      found.getD (unknown path)

/-- The destination of a target. -/
def ofTarget (verb : String) (target : Target) :
    Except TargetProblem Destination :=
  match target.decodedPath? with
  | none => .error .malformed
  | some path => ofPath verb path

end Destination

end StorageBackends.Http
