import StorageBackends.Http.Body
import StorageBackends.Http.Exchange

namespace StorageBackends.Http

/-!
# Serving requests

Serving is a function from a server and a visit to an exchange and the next
server, so a run of a server is a fold over its visits. A request passes the
cross-origin rules, the rate limit, its body, its parameters and its handler
in this order, and the first obstacle ends it.
-/

namespace Server

/-- Read the body of a request and handle it. -/
def handleBody
    (server : Server)
    (visit : Visit)
    (destination : Destination)
    (headers : List (String × String)) :
    Ending × Server :=
  match Body.ofRequest destination.route.isSome visit.request with
  | .error problem =>
      let allHeaders :=
        if problem.endsConnection then lastOnConnection :: headers else headers
      (server.endEarly visit destination allHeaders problem.report, server)
  | .ok body =>
      let handling :=
        destination.route.bind
          (server.handleRoute visit.moment destination.params body)
      match handling with
      | none => (endUnknown visit destination.params headers, server)
      | some handling =>
          (server.endHandled visit destination headers handling,
            { server with collaborators := handling.collaborators })

/-- The tally of the client of a visit, this visit included. -/
def tally (server : Server) (visit : Visit) : RateLimit.Tally :=
  RateLimit.tallyOf server.config.rateLimit visit.arrival server.tallies

/-- The server that has counted a visit. -/
def counting (server : Server) (visit : Visit) : Server :=
  { server with
    tallies := RateLimit.remember (server.tally visit) server.tallies }

/-- Whether a visit to a known route is beyond the rate limit. -/
def isBeyondLimit (server : Server) (visit : Visit) : Bool :=
  RateLimit.exceeds server.config.rateLimit (server.tally visit)

/-- The headers that tell about the rate limit. -/
def limitHeaders (server : Server) (visit : Visit) : List (String × String) :=
  RateLimit.headers server.config.rateLimit visit.arrival.clock
    (server.tally visit)

/-- The report of a visit that is beyond the rate limit. -/
def limitReport (server : Server) (visit : Visit) : ErrorReport :=
  RateLimit.report server.config.rateLimit visit.arrival.clock
    (server.tally visit)

/-- Count a request to a known route, and handle it within the limit. -/
def handleCounted
    (server : Server)
    (visit : Visit)
    (destination : Destination) :
    Ending × Server :=
  match destination.route with
  | none => server.handleBody visit destination []
  | some _ =>
      let next := server.counting visit
      let headers := server.limitHeaders visit
      if server.isBeyondLimit visit then
        (next.endEarly visit destination headers (server.limitReport visit),
          next)
      else
        next.handleBody visit destination headers

/-- Whether cross-origin rules answer a request before anything else. -/
def isPreflight (server : Server) (request : Request) : Bool :=
  server.config.isDevelopment && request.verb == "OPTIONS"

/-- The end of a request that cross-origin rules answer. -/
def endPreflight (request : Request) (destination : Destination) : Ending :=
  let sound :=
    (request.nonEmptyHeader? "origin").isSome &&
      (request.nonEmptyHeader? "access-control-request-method").isSome
  { route := destination.route
    params := destination.params
    headers :=
      if sound then
        [("access-control-allow-methods", "GET, POST, PUT, DELETE, OPTIONS"),
          ("access-control-allow-headers",
            "Content-Type, Authorization, X-Request-ID"),
          ("content-length", "0")]
      else
        []
    status := if sound then 204 else 400
    content := if sound then .empty else .text "Invalid Preflight Request"
    tracked := []
    lines := [] }

/-- Serve one visit. -/
def serve (server : Server) (visit : Visit) : Exchange × Server :=
  match Destination.ofTarget visit.verb visit.request.target with
  | .error problem => (problem.exchange visit, server)
  | .ok destination =>
      if server.isPreflight visit.request then
        (server.exchange visit [] (endPreflight visit.request destination),
          server)
      else
        match server.handleCounted visit destination with
        | (ending, next) =>
            (server.exchange visit [incomingLine visit] ending, next)

/-- Serve visits in order. -/
def serveAll (server : Server) : List Visit → List Exchange × Server
  | [] => ([], server)
  | visit :: rest =>
      match server.serve visit with
      | (exchange, next) =>
          match next.serveAll rest with
          | (exchanges, last) => (exchange :: exchanges, last)

end Server

end StorageBackends.Http
