import StorageBackends.Backend.Basic
import StorageBackends.Document.Decoder
import StorageBackends.Fault
import StorageBackends.Json.Reader
import StorageBackends.LogLine
import StorageBackends.Url.Location

namespace StorageBackends.Service

open StorageBackends.Document

/-!
# The configuration of the service

The configuration is a document of optional sections. A member that is absent
from its section has a default, and so has a section that is absent; the
default of a section is a value by itself, which no check of a member sees.
Only error tracking has no default, and is off when its section is absent.
-/

/-- The kind of environment that the service runs in. -/
inductive Environment where
  | development
  | production
  | test
deriving DecidableEq, Repr

namespace Environment

/-- All environments. -/
def all : List Environment :=
  [development, production, test]

/-- The written form of an environment. -/
def text : Environment → String
  | development => "development"
  | production => "production"
  | test => "test"

end Environment

/-- Where deployments go: into files of a directory, or nowhere. -/
inductive EngineKind where
  | directory
  | memory
deriving DecidableEq, Repr

namespace EngineKind

/-- All kinds of engines. -/
def all : List EngineKind :=
  [directory, memory]

/-- The written form of a kind of engines. -/
def text : EngineKind → String
  | directory => "fs"
  | memory => "memory"

end EngineKind

/-- The address to listen at. -/
structure Listening where
  host : String
  port : Nat
deriving DecidableEq, Repr

namespace Listening

/-- The address of a service without the section. -/
def default : Listening where
  host := "0.0.0.0"
  port := 3000

/-- The section of an address. -/
def decoder : Decoder Listening :=
  .pair Listening.mk
    { key := "host", default := "0.0.0.0", decoder := .text }
    { key := "port", default := 3000, decoder := .integer 1 (some 65535) }

/-- An address as a section. -/
def toJson (listening : Listening) : Json :=
  .obj
    [("host", .str listening.host), ("port", Json.ofNat listening.port)]

end Listening

/-- What is logged, and how. -/
structure Logging where
  level : LogLevel
  pretty : Bool
deriving DecidableEq, Repr

namespace Logging

/-- The logging of a service without the section. -/
def default : Logging where
  level := .info
  pretty := false

/-- The section of logging. -/
def decoder : Decoder Logging :=
  .pair Logging.mk
    { key := "level"
      default := .info
      decoder := .choice LogLevel.text LogLevel.all }
    { key := "pretty", default := false, decoder := .flag }

/-- Logging as a section. -/
def toJson (logging : Logging) : Json :=
  .obj
    [("level", .str logging.level.text), ("pretty", .bool logging.pretty)]

end Logging

/-- Where errors are reported, and how many requests are traced. -/
structure ErrorTracking where
  dsn : String
  environment : String
  tracesSampleRate : Number
deriving DecidableEq, Repr

namespace ErrorTracking

/-- The environment of reports that name none. -/
def defaultEnvironment : String :=
  "development"

/-- A tenth of the requests is traced unless another share is set. -/
def defaultSampleRate : Number :=
  Number.ofDecimal false 1 (-1)

/-- A URL, read into the text that is kept of it. -/
def dsnDecoder : Decoder String
  | some (.str content) =>
      if Url.isUrl content then
        .valid (Url.kept content)
      else
        .complain .notUrl
  | part => .refuse .text part

/-- The section of error tracking. -/
def decoder : Decoder ErrorTracking :=
  .object fun members =>
    ErrorTracking.mk
      <$> .member "dsn" dsnDecoder members
      <*> .member "environment" (.withDefault defaultEnvironment .text) members
      <*> .member "tracesSampleRate"
        (.withDefault defaultSampleRate .fraction) members

/-- Error tracking as a section. -/
def toJson (tracking : ErrorTracking) : Json :=
  .obj
    [("dsn", .str tracking.dsn),
      ("environment", .str tracking.environment),
      ("tracesSampleRate", .num tracking.tracesSampleRate)]

end ErrorTracking

/-- How many requests are served in a window of time. -/
structure RateLimit where
  global : Nat
  windowMs : Nat
deriving DecidableEq, Repr

namespace RateLimit

/-- The limit of a service without the section. -/
def default : RateLimit where
  global := 100
  windowMs := 60000

/-- The section of the limit. -/
def decoder : Decoder RateLimit :=
  .pair RateLimit.mk
    { key := "global", default := 100, decoder := .integer 1 none }
    { key := "windowMs", default := 60000, decoder := .integer 1000 none }

/-- A limit as a section. -/
def toJson (limit : RateLimit) : Json :=
  .obj
    [("global", Json.ofNat limit.global),
      ("windowMs", Json.ofNat limit.windowMs)]

end RateLimit

/-- Which engine deploys, and the directory it writes to. -/
structure Deployment where
  engine : EngineKind
  outputDir : String
deriving DecidableEq, Repr

namespace Deployment

/-- The deployment of a service without the section. -/
def default : Deployment where
  engine := .directory
  outputDir := "./data/plans"

/-- The section of deployment. -/
def decoder : Decoder Deployment :=
  .pair Deployment.mk
    { key := "engine"
      default := .directory
      decoder := .choice EngineKind.text EngineKind.all }
    { key := "outputDir", default := "./data/plans", decoder := .text }

/-- Deployment as a section. -/
def toJson (deployment : Deployment) : Json :=
  .obj
    [("engine", .str deployment.engine.text),
      ("outputDir", .str deployment.outputDir)]

end Deployment

/-- The section of network spaces. -/
def spacesDecoder : Decoder NetworkSpaces :=
  .pair NetworkSpaces.mk
    { key := "managementSpace"
      default := "management"
      decoder := .nonEmptyText }
    { key := "storageSpace", default := "storage", decoder := .nonEmptyText }

/-- Network spaces as a section. -/
def spacesJson (spaces : NetworkSpaces) : Json :=
  .obj
    [("managementSpace", .str spaces.management),
      ("storageSpace", .str spaces.storage)]

/-- The configuration of the service. -/
structure Config where
  listening : Listening
  logging : Logging
  tracking : Option ErrorTracking
  environment : Environment
  rateLimit : RateLimit
  deployment : Deployment
  spaces : NetworkSpaces
deriving DecidableEq, Repr

namespace Config

/-- The environment of a service that sets none. -/
def defaultEnvironment : Environment :=
  .development

/-- The document of a configuration. -/
def decoder : Decoder Config :=
  .object fun members =>
    Config.mk
      <$> .member "server"
        (.withDefault Listening.default Listening.decoder) members
      <*> .member "logging"
        (.withDefault Logging.default Logging.decoder) members
      <*> .member "sentry" (.optional ErrorTracking.decoder) members
      <*> .member "env"
        (.withDefault defaultEnvironment
          (.choice Environment.text Environment.all)) members
      <*> .member "rateLimit"
        (.withDefault RateLimit.default RateLimit.decoder) members
      <*> .member "deployment"
        (.withDefault Deployment.default Deployment.decoder) members
      <*> .member "network"
        (.withDefault NetworkSpaces.default spacesDecoder) members

/-- A configuration as a document. -/
def toJson (config : Config) : Json :=
  .obj <|
    [("server", config.listening.toJson), ("logging", config.logging.toJson)] ++
      (config.tracking.toList.map fun tracking => ("sentry", tracking.toJson)) ++
      [("env", .str config.environment.text),
        ("rateLimit", config.rateLimit.toJson),
        ("deployment", config.deployment.toJson),
        ("network", spacesJson config.spaces)]

/-- One issue as part of the message of a refused configuration. -/
def issueText (issue : Issue) : String :=
  issue.dottedPath ++ ": " ++ issue.complaint.message

/-- The fault of a configuration with issues. -/
def invalidFault (issues : List Issue) : Fault where
  kind := .configInvalid
  arguments := [String.intercalate ", " (issues.map issueText)]

/-- The configuration of a document, or the fault that lists its issues. -/
def parse (document : Json) : Except Fault Config :=
  match decoder (some document) with
  | .valid config => .ok config
  | .invalid issues => .error (invalidFault issues)

/-- Whether error replies show internal details. -/
def isDevelopment (config : Config) : Bool :=
  config.environment == .development

/-- The variable that overrides the place of the configuration file. -/
def pathVariable : String :=
  "STORAGE_BACKENDS_CONFIG"

/-- The place of the configuration file. -/
def path (override : Option String) (workingDirectory : String) : String :=
  override.getD (workingDirectory ++ "/config/config.json")

/-- The configuration of a file at a path, which may be missing. -/
def load (path : String) (text : Option String) : Except Fault Config :=
  match text with
  | none => .error ⟨.configMissing, [path]⟩
  | some text =>
      match Json.parse? text with
      | none => .error ⟨.configUnreadable, ["the file holds no JSON text"]⟩
      | some document => parse document

end Config

end StorageBackends.Service
