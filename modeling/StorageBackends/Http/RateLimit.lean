import StorageBackends.Http.ErrorReport
import StorageBackends.Service.Config

namespace StorageBackends.Http.RateLimit

open StorageBackends.Service

/-!
# The rate limit

The requests of each client to known routes are counted together, in a window
of time that begins with the first of them. The first request after the window
begins another one. A request beyond the limit is refused, and told how long
the window still lasts. Only a number of clients is remembered: beyond it the
client whose last request came first is forgotten.
-/

/-- The requests of one client since its window began. -/
structure Tally where
  client : String
  since : Nat
  count : Nat
deriving DecidableEq, Repr

namespace Tally

/-- The tally of a request that begins a window. -/
def first (arrival : Arrival) : Tally where
  client := arrival.client
  since := arrival.clock
  count := 1

/-- Whether the window of a tally is over. -/
def isOver (limit : Service.RateLimit) (clock : Nat) (tally : Tally) : Bool :=
  tally.since + limit.windowMs ≤ clock

/-- The tally after one more request of its client. -/
def next
    (limit : Service.RateLimit)
    (arrival : Arrival)
    (tally : Tally) :
    Tally :=
  if tally.isOver limit arrival.clock then
    first arrival
  else
    { tally with count := tally.count + 1 }

/-- How long the window of a tally lasts, a started second counted in full. -/
def secondsLeft
    (limit : Service.RateLimit)
    (clock : Nat)
    (tally : Tally) :
    Nat :=
  (tally.since + limit.windowMs - clock + 999) / 1000

end Tally

/-- How many clients are remembered. -/
def maxClients : Nat :=
  5000

/-- The tally of the client that sends a request, this request included. -/
def tallyOf
    (limit : Service.RateLimit)
    (arrival : Arrival)
    (tallies : List Tally) :
    Tally :=
  match tallies.find? (·.client == arrival.client) with
  | some tally => tally.next limit arrival
  | none => .first arrival

/-- The tallies with a new one, the one of the latest request in front. -/
def remember (tally : Tally) (tallies : List Tally) : List Tally :=
  (tally :: tallies.filter (·.client != tally.client)).take maxClients

/-- A count of some unit, the nearest one, in words. -/
def inUnits (value unit : Nat) (name : String) : String :=
  let count := (2 * value + unit) / (2 * unit)
  toString count ++ " " ++ name ++ if count = 1 then "" else "s"

/-- A time in its largest unit: a year is a quarter of a day over 365 days. -/
def durationText (seconds : Nat) : String :=
  if seconds < 60 then
    inUnits seconds 1 "second"
  else if seconds < 3600 then
    inUnits seconds 60 "minute"
  else if seconds < 86400 then
    inUnits seconds 3600 "hour"
  else if seconds < 31557600 then
    inUnits seconds 86400 "day"
  else
    inUnits seconds 31557600 "year"

/-- How many requests are left to a client. -/
def remaining (limit : Service.RateLimit) (tally : Tally) : Nat :=
  limit.global - tally.count

/-- Whether the last request of a tally is beyond the limit. -/
def exceeds (limit : Service.RateLimit) (tally : Tally) : Bool :=
  limit.global < tally.count

/-- The headers of the reply to a counted request. -/
def headers
    (limit : Service.RateLimit)
    (clock : Nat)
    (tally : Tally) :
    List (String × String) :=
  let left := toString (tally.secondsLeft limit clock)
  [("x-ratelimit-limit", toString limit.global),
    ("x-ratelimit-remaining", toString (remaining limit tally)),
    ("x-ratelimit-reset", left)] ++
    if exceeds limit tally then [("retry-after", left)] else []

/-- The report of a request beyond the limit. -/
def report
    (limit : Service.RateLimit)
    (clock : Nat)
    (tally : Tally) :
    ErrorReport where
  message :=
    "Rate limit exceeded, retry in " ++
      durationText (tally.secondsLeft limit clock)
  code := none
  status := some 429
  issues := none

end StorageBackends.Http.RateLimit
