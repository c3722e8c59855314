import StorageBackends.Failure
import StorageBackends.Http.Visit
import StorageBackends.LogLine
import StorageBackends.Service.Payload

namespace StorageBackends.Http

/-!
# Error replies

Whatever fails while a request is served becomes one report. In development
the reply shows the report as it is, with a trace; elsewhere the message of an
internal error is replaced by a general one, and so is the message of every
error of the server that is not about a configuration or a backend. A report
in plain form shows its status, code and message and nothing else.
-/

/-- An error that was reported to error tracking. -/
structure TrackedError where
  message : String
  method : String
  url : String
deriving DecidableEq, Repr

namespace TrackedError

/-- A tracked error as an object. -/
def toJson (error : TrackedError) : Json :=
  .obj
    [("message", .str error.message), ("method", .str error.method),
      ("url", .str error.url)]

end TrackedError

/-- An error that reached the error handler. -/
structure ErrorReport where
  message : String
  code : Option String
  status : Option Int
  issues : Option (List ValidationIssue)
deriving DecidableEq, Repr

namespace ErrorReport

/-- The report of a failure. -/
def ofFailure (failure : Failure) : ErrorReport where
  message := failure.message
  code := failure.code?
  status := failure.status?.map Int.ofNat
  issues := failure.issues?

/-- The report of an error with a code and a status, and nothing more. -/
def ofCode (code : String) (status : Nat) (message : String) :
    ErrorReport where
  message := message
  code := some code
  status := some (status : Int)
  issues := none

/-- The code of errors that have none. -/
def internalCode : String :=
  "INTERNAL_ERROR"

/-- The message that replaces internal ones. -/
def generalMessage : String :=
  "An internal error occurred"

/-- The code that is shown. -/
def shownCode (report : ErrorReport) : String :=
  report.code.getD internalCode

/-- The status that is shown. -/
def shownStatus (report : ErrorReport) : Int :=
  report.status.getD 500

/-- Whether a text starts with another. -/
def startsWith (start text : String) : Bool :=
  start.toList.isPrefixOf text.toList

/-- Codes of errors whose messages may tell about the inside of the service. -/
def isInternalCode (code : String) : Bool :=
  code == internalCode || startsWith "SERVER_" code || startsWith "DEPLOY_" code

/-- Codes of errors whose messages are about a configuration or a backend. -/
def isDescriptiveCode (code : String) : Bool :=
  startsWith "CONFIG_" code || startsWith "BACKEND_" code

/-- Whether the message is replaced outside development. -/
def isHidden (report : ErrorReport) : Bool :=
  let code := report.shownCode
  500 ≤ report.shownStatus &&
    (isInternalCode code || !isDescriptiveCode code)

/-- The message that is shown. -/
def shownMessage (isDevelopment : Bool) (report : ErrorReport) : String :=
  if !isDevelopment && report.isHidden then generalMessage else report.message

/-- What is reported to error tracking: internal errors only. -/
def tracked (report : ErrorReport) (visit : Visit) : List TrackedError :=
  if 500 ≤ report.shownStatus then
    [⟨report.message, visit.verb, visit.url⟩]
  else
    []

/--
The log line of an error. Of the error itself it holds the message alone: the
members that a logger takes from an error besides, its issues, the name of its
schema, its code, its status and its trace, are left out. The code and the
status stand in the line on their own.
-/
def line (report : ErrorReport) : LogLine where
  level := .error
  message := "Request error"
  members :=
    [("err", .obj [("message", .str report.message)]),
      ("code", .str report.shownCode),
      ("statusCode", Json.ofInt report.shownStatus)]

/-- The body of an error reply. -/
def body
    (isDevelopment : Bool)
    (visit : Visit)
    (report : ErrorReport) :
    Json :=
  .obj
    [("error", .obj <|
      [("code", .str report.shownCode),
        ("message", .str (report.shownMessage isDevelopment)),
        ("statusCode", Json.ofInt report.shownStatus)] ++
        (report.issues.toList.map fun issues =>
          ("issues", .arr (issues.map ValidationIssue.toJson))) ++
        if isDevelopment then [("stack", .str visit.moment.trace)] else []),
      ("requestId", .str visit.requestId),
      ("timestamp", .str visit.moment.timestamp)]

/-- The name of a status. -/
def statusName (status : Int) : String :=
  if status = 400 then "Bad Request"
  else if status = 413 then "Payload Too Large"
  else if status = 415 then "Unsupported Media Type"
  else if status = 429 then "Too Many Requests"
  else "Internal Server Error"

/-- The body of an error reply in plain form. -/
def plainBody (report : ErrorReport) : Json :=
  .obj <|
    ("statusCode", Json.ofInt report.shownStatus) ::
      (report.code.toList.map fun code => ("code", .str code)) ++
      [("error", .str (statusName report.shownStatus)),
        ("message", .str report.message)]

/-- Whether a reply may have a status. -/
def isReplyStatus (status : Int) : Bool :=
  100 ≤ status && status ≤ 599

/-- The report of a report whose status no reply may have. -/
def ofBadStatus (status : Int) : ErrorReport :=
  .ofCode "FST_ERR_BAD_STATUS_CODE" 500
    ("Called reply with an invalid status code: " ++ toString status)

/-- Whether replies of a status carry nothing. -/
def isContentless (status : Int) : Bool :=
  status < 200 || status == 204 || status == 304

/-- What the reply to a request that failed carries. -/
def content
    (isDevelopment : Bool)
    (visit : Visit)
    (report : ErrorReport) :
    Content :=
  if isContentless report.shownStatus then
    .empty
  else
    .json (report.body isDevelopment visit)

/-- The status and the content of the reply to a request that failed. -/
def reply
    (isDevelopment : Bool)
    (visit : Visit)
    (report : ErrorReport) :
    Nat × Content :=
  if isReplyStatus report.shownStatus then
    (report.shownStatus.toNat, report.content isDevelopment visit)
  else
    (500, .json (ofBadStatus report.shownStatus).plainBody)

end ErrorReport

end StorageBackends.Http
