import StorageBackends.Backend.Registry
import StorageBackends.Backend.Variables
import StorageBackends.Document.Decoder

namespace StorageBackends

open StorageBackends.Document

/-!
# Payloads

What clients send and receive: each payload is written as an object and read
back from one. Reading drops the members that a payload does not have.
-/

namespace DeployableUnit

/-- The object of a unit. -/
def decoder : Decoder DeployableUnit :=
  .object fun members =>
    DeployableUnit.mk
      <$> .member "name" .text members
      <*> .member "channel" .text members
      <*> .member "revision" (.nullable .text) members
      <*> .member "base" .text members

end DeployableUnit

namespace ConfigValue

/-- A text or a flag. -/
def decoder : Decoder ConfigValue :=
  (Decoder.either .text .flag).map fun value =>
    match value with
    | .inl content => .text content
    | .inr on => .flag on

end ConfigValue

namespace DeploymentVariables

/-- The object of variables. -/
def decoder : Decoder DeploymentVariables :=
  .object fun members =>
    DeploymentVariables.mk
      <$> .member "charm_name" .text members
      <*> .member "charm_channel" .text members
      <*> .member "charm_revision" (.nullable .text) members
      <*> .member "charm_base" .text members
      <*> .member "endpoint_bindings" (.record .text) members
      <*> .member "charm_config" (.record ConfigValue.decoder) members
      <*> .member "secret_ref" (.nullable .text) members

end DeploymentVariables

namespace IssueCode

/-- All codes of issues. -/
def all : List IssueCode :=
  [missingRequired, invalidValue]

end IssueCode

namespace ValidationIssue

/-- An issue as an object. -/
def toJson (issue : ValidationIssue) : Json :=
  .obj
    [("code", .str issue.code.text),
      ("field", .str issue.field),
      ("key", .str issue.key),
      ("message", .str issue.message)]

/-- The object of an issue. -/
def decoder : Decoder ValidationIssue :=
  .object fun members =>
    ValidationIssue.mk
      <$> .member "code" (.choice IssueCode.text IssueCode.all) members
      <*> .member "field" .text members
      <*> .member "key" .text members
      <*> .member "message" .text members

end ValidationIssue

/-- The kind of values of a described field. -/
inductive ValueType where
  | text
  | flag
  | choice
deriving DecidableEq, Repr

namespace ValueType

/-- All kinds of values. -/
def all : List ValueType :=
  [text, flag, choice]

/-- The written form of a kind of values. -/
def name : ValueType → String
  | text => "string"
  | flag => "boolean"
  | choice => "enum"

end ValueType

namespace TextFormat

/-- All formats. -/
def all : List TextFormat :=
  [host]

/-- The written form of a format. -/
def name : TextFormat → String
  | host => "host"

end TextFormat

namespace FieldKind

/-- The kind of values that a field takes. -/
def valueType : FieldKind → ValueType
  | text _ => .text
  | flag => .flag
  | choice _ => .choice

/-- The format of a text field. -/
def format? : FieldKind → Option TextFormat
  | text format => format
  | _ => none

/-- The values of a choice. -/
def values? : FieldKind → Option (List String)
  | choice values => some values
  | _ => none

end FieldKind

namespace Payload

/-- The backend that a path names. -/
structure BackendParams where
  backendType : String
deriving DecidableEq, Repr

namespace BackendParams

/-- The parameters of a path to a backend. -/
def decoder : Decoder BackendParams :=
  .object fun members =>
    BackendParams.mk <$> .member "backendType" .nonEmptyText members

/-- The parameters as an object. -/
def toJson (params : BackendParams) : Json :=
  .obj [("backendType", .str params.backendType)]

end BackendParams

/-- The instance that a path names. -/
structure InstanceParams where
  backendType : String
  instanceName : String
deriving DecidableEq, Repr

namespace InstanceParams

/-- The parameters of a path to an instance. -/
def decoder : Decoder InstanceParams :=
  .object fun members =>
    InstanceParams.mk
      <$> .member "backendType" .nonEmptyText members
      <*> .member "instanceName" .nonEmptyText members

/-- The parameters as an object. -/
def toJson (params : InstanceParams) : Json :=
  .obj
    [("backendType", .str params.backendType),
      ("instanceName", .str params.instanceName)]

end InstanceParams

/-- The body of a request: a raw configuration. -/
def rawConfigDecoder : Decoder RawConfig :=
  .record .anything

/-- What clients see of a backend in a list. -/
structure BackendSummary where
  backendType : String
  displayName : String
  unit : DeployableUnit
deriving DecidableEq, Repr

namespace BackendSummary

/-- The members of a summary. -/
def members (summary : BackendSummary) : List (String × Json) :=
  [("backendType", .str summary.backendType),
    ("displayName", .str summary.displayName),
    ("deployableUnit", summary.unit.toJson)]

/-- A summary as an object. -/
def toJson (summary : BackendSummary) : Json :=
  .obj summary.members

/-- The summary among the members of an object. -/
def ofMembers (members : Record Json) : Checked BackendSummary :=
  BackendSummary.mk
    <$> .member "backendType" .text members
    <*> .member "displayName" .text members
    <*> .member "deployableUnit" DeployableUnit.decoder members

/-- The object of a summary. -/
def decoder : Decoder BackendSummary :=
  .object ofMembers

end BackendSummary

/-- What clients see of a field. -/
structure FieldDescription where
  name : String
  valueType : ValueType
  required : Bool
  isSecret : Bool
  externalKeyName : String
  secretKey : Option String
  allowedValues : Option (List String)
  format : Option TextFormat
  description : String
deriving DecidableEq, Repr

namespace FieldDescription

/-- The description of a field. -/
def ofField (field : ConfigField) : FieldDescription where
  name := field.name
  valueType := field.kind.valueType
  required := field.required
  isSecret := field.isSecret
  externalKeyName := field.externalKey
  secretKey := field.secretKey
  allowedValues := field.kind.values?
  format := field.kind.format?
  description := field.description

/-- A list of texts, or null for its absence. -/
def textsJson : Option (List String) → Json
  | some texts => Json.ofTexts texts
  | none => .null

/-- A description as an object; no field has a default value. -/
def toJson (description : FieldDescription) : Json :=
  .obj
    [("name", .str description.name),
      ("valueType", .str description.valueType.name),
      ("required", .bool description.required),
      ("isSecret", .bool description.isSecret),
      ("externalKeyName", .str description.externalKeyName),
      ("secretKey", Json.ofText? description.secretKey),
      ("allowedValues", textsJson description.allowedValues),
      ("defaultValue", .null),
      ("format", Json.ofText? (description.format.map TextFormat.name)),
      ("description", .str description.description)]

/-- The object of a description. -/
def decoder : Decoder FieldDescription :=
  .object fun members =>
    (fun name valueType required isSecret externalKeyName secretKey
        allowedValues (_ : Unit) format description =>
      FieldDescription.mk name valueType required isSecret externalKeyName
        secretKey allowedValues format description)
      <$> .member "name" .text members
      <*> .member "valueType" (.choice ValueType.name ValueType.all) members
      <*> .member "required" .flag members
      <*> .member "isSecret" .flag members
      <*> .member "externalKeyName" .text members
      <*> .member "secretKey" (.nullable .text) members
      <*> .member "allowedValues" (.nullable (.list .text)) members
      <*> .member "defaultValue" .null members
      <*> .member "format"
        (.nullable (.choice TextFormat.name TextFormat.all)) members
      <*> .member "description" .text members

end FieldDescription

/-- What clients see of one backend. -/
structure BackendDetail where
  summary : BackendSummary
  fields : List FieldDescription
deriving DecidableEq, Repr

namespace BackendDetail

/-- A detail as an object. -/
def toJson (detail : BackendDetail) : Json :=
  .obj (detail.summary.members ++
    [("fields", .arr (detail.fields.map FieldDescription.toJson))])

/-- The object of a detail. -/
def decoder : Decoder BackendDetail :=
  .object fun members =>
    BackendDetail.mk
      <$> BackendSummary.ofMembers members
      <*> .member "fields" (.list FieldDescription.decoder) members

end BackendDetail

/-- The answer to a validation. -/
inductive ValidateResponse where
  /-- The set fields, with secret values masked. -/
  | passed (config : Record ConfigValue)
  /-- Every offending field. -/
  | refused (issues : List ValidationIssue)
deriving DecidableEq, Repr

namespace ValidateResponse

/-- An answer as an object. -/
def toJson : ValidateResponse → Json
  | passed config =>
      .obj
        [("valid", .bool true),
          ("config", .obj (Record.mapValues ConfigValue.toJson config))]
  | refused issues =>
      .obj
        [("valid", .bool false),
          ("issues", .arr (issues.map ValidationIssue.toJson))]

/-- The object of an answer. -/
def decoder : Decoder ValidateResponse :=
  (Decoder.either
    (.object fun members =>
      (fun (_ : Unit) config => passed config)
        <$> .member "valid" (.onlyFlag true) members
        <*> .member "config" (.record ConfigValue.decoder) members)
    (.object fun members =>
      (fun (_ : Unit) issues => refused issues)
        <$> .member "valid" (.onlyFlag false) members
        <*> .member "issues" (.list ValidationIssue.decoder) members)).map
    fun answer =>
      match answer with
      | .inl response => response
      | .inr response => response

end ValidateResponse

/-- The answer to an applied instance. -/
structure InstanceResponse where
  params : InstanceParams
  deployment : DeploymentVariables
deriving DecidableEq, Repr

namespace InstanceResponse

/-- An answer as an object. -/
def toJson (response : InstanceResponse) : Json :=
  .obj
    [("backendType", .str response.params.backendType),
      ("instanceName", .str response.params.instanceName),
      ("variables", response.deployment.toJson)]

/-- The object of an answer. -/
def decoder : Decoder InstanceResponse :=
  .object fun members =>
    (fun backendType instanceName deployment =>
      InstanceResponse.mk ⟨backendType, instanceName⟩ deployment)
      <$> .member "backendType" .text members
      <*> .member "instanceName" .text members
      <*> .member "variables" DeploymentVariables.decoder members

end InstanceResponse

end Payload

namespace Backend

/-- The summary of a backend. -/
def summary (backend : Backend) : Payload.BackendSummary where
  backendType := backend.backendType
  displayName := backend.displayName
  unit := backend.unit

/-- The detail of a backend. -/
def detail (backend : Backend) : Payload.BackendDetail where
  summary := backend.summary
  fields := backend.schema.fields.map Payload.FieldDescription.ofField

end Backend

end StorageBackends
