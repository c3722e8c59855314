import StorageBackends.Json.Basic

namespace StorageBackends

/-!
# Log lines

A log line has a level, a message and named members. Levels are ordered by
severity, and a log that starts at some level drops the lines below it.
-/

/-- The severity of a log line. -/
inductive LogLevel where
  | trace
  | debug
  | info
  | warn
  | error
  | fatal
deriving DecidableEq, Repr

namespace LogLevel

/-- All levels in ascending order. -/
def all : List LogLevel :=
  [trace, debug, info, warn, error, fatal]

/-- The written form of a level. -/
def text : LogLevel → String
  | trace => "trace"
  | debug => "debug"
  | info => "info"
  | warn => "warn"
  | error => "error"
  | fatal => "fatal"

/-- The rank of a level. -/
def severity : LogLevel → Nat
  | trace => 10
  | debug => 20
  | info => 30
  | warn => 40
  | error => 50
  | fatal => 60

end LogLevel

/-- One line of a log. -/
structure LogLine where
  level : LogLevel
  message : String
  members : List (String × Json)
deriving Repr

namespace LogLine

/-- The lines at or above a level. -/
def atLeast (threshold : LogLevel) (lines : List LogLine) : List LogLine :=
  lines.filter fun line => threshold.severity ≤ line.level.severity

/-- A line as an object. -/
def toJson (line : LogLine) : Json :=
  .obj (Record.ofList
    (("level", .str line.level.text) ::
      ("msg", .str line.message) :: line.members))

end LogLine

end StorageBackends
