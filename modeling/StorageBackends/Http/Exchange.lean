import StorageBackends.Http.Handler
import StorageBackends.Json.Printer

namespace StorageBackends.Http

/-!
# Exchanges

An exchange is what a request causes outside the server: the reply, the errors
reported to error tracking, and the lines of the log. Every reply carries
protective headers, and every request ends with one line that tells its
status.
-/

/-- What a request causes outside the server. -/
structure Exchange where
  reply : Reply
  tracked : List TrackedError
  lines : List LogLine

/-- What a request has come to when its reply is sent. -/
structure Ending where
  route : Option Route
  params : Record String
  headers : List (String × String)
  status : Nat
  content : Content
  tracked : List TrackedError
  lines : List LogLine

namespace Server

/-- The headers that protect every reply. -/
def protectionHeaders : List (String × String) :=
  [("cross-origin-opener-policy", "same-origin"),
    ("cross-origin-resource-policy", "same-origin"),
    ("origin-agent-cluster", "?1"),
    ("referrer-policy", "no-referrer"),
    ("strict-transport-security", "max-age=15552000; includeSubDomains"),
    ("x-content-type-options", "nosniff"),
    ("x-dns-prefetch-control", "off"),
    ("x-download-options", "noopen"),
    ("x-frame-options", "SAMEORIGIN"),
    ("x-permitted-cross-domain-policies", "none"),
    ("x-xss-protection", "0")]

/-- What browsers may load, outside development. -/
def contentPolicy : String :=
  "default-src 'self';base-uri 'self';font-src 'self' https: data:;" ++
    "form-action 'self';frame-ancestors 'self';img-src 'self' data:;" ++
    "object-src 'none';script-src 'self';script-src-attr 'none';" ++
    "style-src 'self' https: 'unsafe-inline';upgrade-insecure-requests"

/-- The headers that let other origins in, in development only. -/
def originHeaders (server : Server) (request : Request) :
    List (String × String) :=
  if server.config.isDevelopment then
    ("vary", "Origin") ::
      ((request.nonEmptyHeader? "origin").toList.map fun origin =>
        ("access-control-allow-origin", origin))
  else
    []

/-- The headers of every reply to a request. -/
def commonHeaders (server : Server) (request : Request) :
    List (String × String) :=
  protectionHeaders ++
    (if server.config.isDevelopment then []
      else [("content-security-policy", contentPolicy)]) ++
    server.originHeaders request

/-- The headers that tell the type and the length of some content. -/
def contentHeaders : Content → List (String × String)
  | .empty => []
  | .text content =>
      [("content-type", "text/plain"),
        ("content-length", toString content.utf8ByteSize)]
  | .json value =>
      [("content-type", "application/json; charset=utf-8"),
        ("content-length", toString (Json.compact value).utf8ByteSize)]

/-- The header of a reply that ends the connection. -/
def lastOnConnection : String × String :=
  ("connection", "close")

/-- Headers that tell about the connection: it stays open unless they say so. -/
def withConnection (headers : List (String × String)) :
    List (String × String) :=
  if (headers.lookup "connection").isSome then headers
  else headers ++ [("connection", "keep-alive")]

/-- The content that is sent: none in reply to a request for headers only. -/
def sentContent (request : Request) (content : Content) : Content :=
  if request.verb = "HEAD" then .empty else content

/-- The log line of a request that comes in. -/
def incomingLine (visit : Visit) : LogLine where
  level := .info
  message := "Incoming request"
  members :=
    [("method", .str visit.verb), ("url", .str visit.url),
      ("requestId", .str visit.requestId)] ++
      ((visit.request.header? "user-agent").toList.map fun agent =>
        ("userAgent", .str agent))

/-- The level and the message of a completed request. -/
def completion (status : Nat) : LogLevel × String :=
  if 500 ≤ status then
    (.error, "Request completed with server error")
  else if 400 ≤ status then
    (.warn, "Request completed with client error")
  else
    (.info, "Request completed")

/-- The log line of a completed request. -/
def completionLine
    (visit : Visit)
    (route : Option Route)
    (params : Record String)
    (status : Nat) :
    LogLine where
  level := (completion status).1
  message := (completion status).2
  members :=
    [("method", .str visit.verb), ("url", .str visit.url)] ++
      (route.toList.map fun route => ("route", .str route.text)) ++
      [("params", Json.ofTextRecord params),
        ("statusCode", Json.ofNat status),
        ("requestId", .str visit.requestId)]

/-- The log line of a request without a route. -/
def unknownLine (visit : Visit) : LogLine where
  level := .warn
  message := "Route not found"
  members :=
    [("method", .str visit.verb), ("url", .str visit.url),
      ("requestId", .str visit.requestId)]

/-- The status of a reply to a request without a route. -/
def notFound : Nat :=
  404

/-- The body of a reply to a request without a route. -/
def unknownBody (visit : Visit) : Json :=
  .obj
    [("error", .obj
      [("code", .str "NOT_FOUND"),
        ("message",
          .str ("Route " ++ visit.verb ++ ":" ++ visit.url ++ " not found")),
        ("statusCode", Json.ofNat notFound)]),
      ("requestId", .str visit.requestId),
      ("timestamp", .str visit.moment.timestamp)]

/-- The end of a request with an error. -/
def endWithError
    (server : Server)
    (visit : Visit)
    (destination : Destination)
    (headers : List (String × String))
    (report : ErrorReport) :
    Ending :=
  match report.reply server.config.isDevelopment visit with
  | (status, content) =>
      { route := destination.route
        params := destination.params
        headers := headers
        status := status
        content := content
        tracked := report.tracked visit
        lines := [report.line] }

/-- The end of a request with an error that is shown in plain form. -/
def endPlainly
    (destination : Destination)
    (headers : List (String × String))
    (report : ErrorReport) :
    Ending where
  route := destination.route
  params := destination.params
  headers := headers
  status := report.shownStatus.toNat
  content := .json report.plainBody
  tracked := []
  lines := []

/--
The end of a request that fails before it is handled.

The options of a path are asked for outside the service, so their errors are
neither logged nor shown in its form.
-/
def endEarly
    (server : Server)
    (visit : Visit)
    (destination : Destination)
    (headers : List (String × String))
    (report : ErrorReport) :
    Ending :=
  if destination.route = some .options then
    endPlainly destination headers report
  else
    server.endWithError visit destination headers report

/-- The end of a request without a route. -/
def endUnknown
    (visit : Visit)
    (params : Record String)
    (headers : List (String × String)) :
    Ending where
  route := none
  params := params
  headers := headers
  status := notFound
  content := .json (unknownBody visit)
  tracked := []
  lines := [unknownLine visit]

/-- The end of a request that was handled. -/
def endHandled
    (server : Server)
    (visit : Visit)
    (destination : Destination)
    (headers : List (String × String))
    (handling : Handling) :
    Ending :=
  match handling.result with
  | .error report =>
      let ending :=
        server.endWithError visit destination headers report
      { ending with lines := handling.lines ++ ending.lines }
  | .ok answer =>
      { route := destination.route
        params := destination.params
        headers := headers
        status := answer.status
        content := answer.content
        tracked := []
        lines := handling.lines }

/-- The exchange of a request that has come to its end. -/
def exchange
    (server : Server)
    (visit : Visit)
    (firstLines : List LogLine)
    (ending : Ending) :
    Exchange where
  reply :=
    { status := ending.status
      headers :=
        withConnection <|
          server.commonHeaders visit.request ++ ending.headers ++
            contentHeaders ending.content
      content := sentContent visit.request ending.content }
  tracked := ending.tracked
  lines :=
    LogLine.atLeast server.config.logging.level <|
      firstLines ++ ending.lines ++
        [completionLine visit ending.route ending.params ending.status]

end Server

namespace TargetProblem

/-- The status of the reply to a request with a problem in its target. -/
def status : TargetProblem → Nat
  | malformed => 400
  | overlongParam _ => 414

/-- The code of a problem. -/
def code : TargetProblem → String
  | malformed => "FST_ERR_BAD_URL"
  | overlongParam _ => "FST_ERR_MAX_PARAM_LENGTH"

/-- The message of a problem with a target. -/
def message (target : Target) : TargetProblem → String
  | malformed =>
      "'" ++ String.ofList target.routed ++ "' is not a valid url component"
  | overlongParam path =>
      "'" ++ String.ofList path ++ "' is exceeding the max param length"

/-- The body of the reply to a request with a problem in its target. -/
def body (target : Target) (problem : TargetProblem) : Json :=
  .obj
    [("error", .str "Bad Request"), ("code", .str problem.code),
      ("message", .str (problem.message target)),
      ("statusCode", Json.ofNat problem.status)]

/--
The exchange of a request with a problem in its target.

It is answered before anything else happens: without protective headers and
without a line in the log.
-/
def exchange (visit : Visit) (problem : TargetProblem) : Exchange where
  reply :=
    let body := problem.body visit.request.target
    { status := problem.status
      headers :=
        Server.withConnection
          [("content-type", "application/json"),
            ("content-length", toString (Text.unitLength (Json.compact body)))]
      content := Server.sentContent visit.request (.json body) }
  tracked := []
  lines := []

end TargetProblem

end StorageBackends.Http
