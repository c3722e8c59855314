import StorageBackends.Http.Message
import StorageBackends.Number.Basic

namespace StorageBackends.Http

/-!
# Visits

A visit is a request that some client sends at some time, and the moment when
it is served. The moment holds all that differs from one run to the next, so
serving depends on nothing but the server and the visit.
-/

/-- What the surroundings tell the server when a request arrives. -/
structure Moment where
  identifier : String
  timestamp : String
  uptime : Number
  latency : Number
  trace : String
deriving DecidableEq, Repr

/-- Which client sends a request, and when, in milliseconds of some clock. -/
structure Arrival where
  client : String
  clock : Nat
deriving DecidableEq, Repr

/-- A request with its arrival and the moment when it is served. -/
structure Visit where
  request : Request
  arrival : Arrival
  moment : Moment
deriving DecidableEq, Repr

namespace Visit

/-- The method in upper case. -/
def verb (visit : Visit) : String :=
  visit.request.verb

/-- The target of the request in writing. -/
def url (visit : Visit) : String :=
  visit.request.target.written

/-- The identifier of the request: the one it gives, or that of the moment. -/
def requestId (visit : Visit) : String :=
  (visit.request.nonEmptyHeader? "x-request-id").getD visit.moment.identifier

end Visit

end StorageBackends.Http
