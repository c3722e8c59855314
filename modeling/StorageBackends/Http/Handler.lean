import StorageBackends.Http.ErrorReport
import StorageBackends.Http.Route
import StorageBackends.Http.Server

namespace StorageBackends.Http

open StorageBackends.Document

/-!
# Handlers

A handler takes the parameters and the body of a request to a known route. It
ends with an answer or with an error, some log lines, and the collaborators as
it leaves them. Parameters are checked before the body, and the body before
the handler runs.
-/

/-- A successful answer of a handler. -/
structure Answer where
  status : Nat
  content : Content

namespace Answer

/-- An answer with a JSON body. -/
def json (status : Nat) (value : Json) : Answer where
  status := status
  content := .json value

/-- An answer without a body. -/
def empty (status : Nat) : Answer where
  status := status
  content := .empty

end Answer

/-- How the handling of a request ended. -/
structure Handling where
  result : Except ErrorReport Answer
  lines : List LogLine
  collaborators : Collaborators

namespace Server

/-- The version of the service. -/
def version : String :=
  "0.1.0"

/-- The handling of a request that fails without a call. -/
def refuse (server : Server) (report : ErrorReport) : Handling where
  result := .error report
  lines := []
  collaborators := server.collaborators

/-- The handling of a request that is answered without a call. -/
def answer
    (server : Server)
    (answer : Answer)
    (lines : List LogLine) :
    Handling where
  result := .ok answer
  lines := lines
  collaborators := server.collaborators

/-- Handle a request for a backend that the registry may not have. -/
def withBackend
    (server : Server)
    (backendType : String)
    (handle : Backend → Handling) :
    Handling :=
  match server.registry.get backendType with
  | .ok backend => handle backend
  | .error fault => server.refuse (.ofFailure (.fault fault))

/-- The state of the engine as the health reply shows it. -/
def engineStatus (latency : Number) : Except Failure Bool → Json
  | .ok true => .obj [("status", .str "up"), ("latency", .num latency)]
  | .ok false => .obj [("status", .str "down"), ("latency", .num latency)]
  | .error failure =>
      .obj
        [("status", .str "down"), ("latency", .num latency),
          ("error", .str failure.message)]

/-- Whether the engine said that it is operational. -/
def isUp : Except Failure Bool → Bool
  | .ok up => up
  | .error _ => false

/-- The health of the service and its engine. -/
def health (server : Server) (moment : Moment) : Handling :=
  match server.collaborators.healthy with
  | (checked, collaborators) =>
      { result := .ok <| .json (if isUp checked then 200 else 503) <| .obj
          [("status", .str (if isUp checked then "healthy" else "unhealthy")),
            ("timestamp", .str moment.timestamp),
            ("version", .str version),
            ("uptime", .num moment.uptime),
            ("backends", Json.ofNat server.registry.size),
            ("dependencies",
              .obj
                [("deploymentEngine", engineStatus moment.latency checked)])]
        lines := []
        collaborators := collaborators }

/-- All registered backends. -/
def listBackends (server : Server) : Handling :=
  server.answer
    (.json 200 <| .obj
      [("backends", .arr (server.registry.backends.map fun backend =>
        backend.summary.toJson))]) []

/-- One backend with its fields. -/
def showBackend (server : Server) (backendType : String) : Handling :=
  server.withBackend backendType fun backend =>
    server.answer (.json 200 backend.detail.toJson) []

/-- The log line of a configuration that a dry run rejects. -/
def rejectionLine
    (backendType : String)
    (issues : List ValidationIssue) :
    LogLine where
  level := .info
  message := "Backend configuration rejected"
  members :=
    [("backendType", .str backendType),
      ("fields", Json.ofTexts (issues.map ValidationIssue.field))]

/-- Validate a configuration without applying it. -/
def validate
    (server : Server)
    (backendType : String)
    (raw : RawConfig) :
    Handling :=
  server.withBackend backendType fun backend =>
    match backend.schema.validate raw with
    | .accepted config =>
        let response :=
          Payload.ValidateResponse.passed (backend.schema.redact config)
        server.answer (.json 200 response.toJson) []
    | .rejected issues =>
        let response := Payload.ValidateResponse.refused issues
        server.answer (.json 422 response.toJson)
          [rejectionLine backendType issues]
    | .unprintable => server.refuse (.ofFailure .unprintable)

/-- The handling of a request that runs a program. -/
def runProgram
    {α : Type}
    (server : Server)
    (program : Program α)
    (toAnswer : α → Answer) :
    Handling :=
  let outcome := program.run server.collaborators
  { result :=
      match outcome.result with
      | .ok value => .ok (toAnswer value)
      | .error failure => .error (.ofFailure failure)
    lines := outcome.lines
    collaborators := outcome.collaborators }

/-- Validate a configuration and apply it as an instance. -/
def putInstance
    (server : Server)
    (params : Payload.InstanceParams)
    (raw : RawConfig) :
    Handling :=
  server.withBackend params.backendType fun backend =>
    match backend.schema.accept raw with
    | .error failure => server.refuse (.ofFailure failure)
    | .ok config =>
        server.runProgram
          (backend.addInstance server.config.spaces params.instanceName
            (.issued config))
          fun deployment =>
            .json 201 (Payload.InstanceResponse.mk params deployment).toJson

/-- Remove an instance. -/
def deleteInstance
    (server : Server)
    (params : Payload.InstanceParams) :
    Handling :=
  server.withBackend params.backendType fun backend =>
    server.runProgram (backend.removeInstance params.instanceName)
      fun _ => .empty 204

/-- One issue of the parameters of a path, in words. -/
def paramIssueText (issue : Issue) : String :=
  "params/" ++ issue.dottedPath ++ " " ++ issue.complaint.message

/-- One issue of a body, in words. -/
def bodyIssueText (issue : Issue) : String :=
  "body/" ++ issue.dottedPath ++ " " ++ issue.complaint.message

/-- The report of issues of a part of a request. -/
def validationReport
    (issueText : Issue → String)
    (issues : List Issue) :
    ErrorReport :=
  .ofCode "FST_ERR_VALIDATION" 400
    (String.intercalate ", " (issues.map issueText))

/-- Handle a request whose parameters are sound. -/
def withParams
    {α : Type}
    (server : Server)
    (decoder : Decoder α)
    (params : Record String)
    (handle : α → Handling) :
    Handling :=
  match decoder (some (Json.ofTextRecord params)) with
  | .valid value => handle value
  | .invalid issues =>
      server.refuse (validationReport paramIssueText issues)

/-- Handle a request whose body is a raw configuration; no body counts as null. -/
def withConfig
    (server : Server)
    (body : Option Json)
    (handle : RawConfig → Handling) :
    Handling :=
  match Payload.rawConfigDecoder (some (body.getD .null)) with
  | .valid raw => handle raw
  | .invalid issues =>
      server.refuse (validationReport bodyIssueText issues)

/-- Handle a request whose body has been read; nothing for an unknown route. -/
def handleRoute
    (server : Server)
    (moment : Moment)
    (params : Record String)
    (body : Option Json) :
    Route → Option Handling
  | .health => some (server.health moment)
  | .backendList => some server.listBackends
  | .backendDetail =>
      some <| server.withParams Payload.BackendParams.decoder params
        fun params => server.showBackend params.backendType
  | .validate =>
      some <| server.withParams Payload.BackendParams.decoder params
        fun params => server.withConfig body fun raw =>
          server.validate params.backendType raw
  | .putInstance =>
      some <| server.withParams Payload.InstanceParams.decoder params
        fun params => server.withConfig body fun raw =>
          server.putInstance params raw
  | .deleteInstance =>
      some <| server.withParams Payload.InstanceParams.decoder params
        fun params => server.deleteInstance params
  | .options => none

end Server

end StorageBackends.Http
