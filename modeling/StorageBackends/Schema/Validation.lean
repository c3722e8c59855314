import StorageBackends.Host.Basic
import StorageBackends.Json.Plain
import StorageBackends.Schema.Basic

namespace StorageBackends

/-!
# Validation of raw configurations

A field is read from its wire key and, if that holds nothing, from its own
name. Nulls count as absent. Validation looks at every field and reports all
offending ones together, in schema order; without an offender it gives one
value for every field.

A rejected value appears in its issue, masked for secret fields. A value that
has no plain text leaves the whole validation without an answer.
-/

/-- The value of a validated field. -/
inductive ConfigValue where
  | text (content : String)
  | flag (on : Bool)
deriving DecidableEq, Repr

namespace ConfigValue

/-- A field value as JSON. -/
def toJson : ConfigValue → Json
  | text content => .str content
  | flag on => .bool on

/-- A field value as text, which is how secrets are stored. -/
def toText : ConfigValue → String
  | text content => content
  | flag true => "true"
  | flag false => "false"

end ConfigValue

/-- The text that stands for a secret value. -/
def redacted : String :=
  "[redacted]"

/-- A configuration as it arrives, keyed by wire key or field name. -/
abbrev RawConfig :=
  Record Json

/-- Why a field is reported. -/
inductive IssueCode where
  | missingRequired
  | invalidValue
deriving DecidableEq, Repr

namespace IssueCode

/-- The written form of a code. -/
def text : IssueCode → String
  | missingRequired => "MISSING_REQUIRED_FIELD"
  | invalidValue => "INVALID_FIELD_VALUE"

end IssueCode

/-- One reported field. -/
structure ValidationIssue where
  code : IssueCode
  field : String
  key : String
  message : String
deriving DecidableEq, Repr

/-- A configuration that a schema has accepted: one entry for each field. -/
structure ValidatedConfig where
  schemaName : String
  entries : List (String × Option ConfigValue)
deriving DecidableEq, Repr

namespace ValidatedConfig

/-- The entry of a field; nothing if the schema has no such field. -/
def entry? (config : ValidatedConfig) (name : String) :
    Option (Option ConfigValue) :=
  config.entries.lookup name

/-- The value of a field that is set. -/
def get? (config : ValidatedConfig) (name : String) : Option ConfigValue :=
  (config.entry? name).join

/-- The entries keyed by field name, unset fields included. -/
def toRecord (config : ValidatedConfig) : Record (Option ConfigValue) :=
  Record.ofList config.entries

end ValidatedConfig

namespace FieldKind

/-- The field value that a JSON value gives, if the field takes it. -/
def accept? : FieldKind → Json → Option ConfigValue
  | .text none, .str content => some (.text content)
  | .text (some .host), .str content =>
      if Host.isHost content then some (.text content) else none
  | .flag, .bool on => some (.flag on)
  | .choice values, .str content =>
      if content ∈ values then some (.text content) else none
  | _, _ => none

/-- What a field takes, as its issues say. -/
def expectation : FieldKind → String
  | .choice values => "expected one of " ++ String.intercalate ", " values
  | .text (some .host) => "expected an IP address or FQDN"
  | .text none => "expected a string"
  | .flag => "expected a boolean"

end FieldKind

namespace RawConfig

/-- The value under a key, unless it is absent or null. -/
def present? (raw : RawConfig) (key : String) : Option Json :=
  (Record.get? key raw).filter fun value => !value.isNull

/-- The value a field takes: from its wire key, else from its name. -/
def effective? (raw : RawConfig) (field : ConfigField) : Option Json :=
  (raw.present? field.externalKey).or (raw.present? field.name)

end RawConfig

/-- What validation finds at one field. -/
inductive Finding where
  | missing
  | unset
  | rejected (value : Json)
  | accepted (value : ConfigValue)

namespace ConfigField

/-- The finding at a field. -/
def examine (field : ConfigField) (raw : RawConfig) : Finding :=
  match raw.effective? field with
  | none => if field.required then .missing else .unset
  | some value =>
      match field.kind.accept? value with
      | some accepted => .accepted accepted
      | none => .rejected value

/-- How an issue shows a rejected value; nothing if it has no plain text. -/
def describe? (field : ConfigField) (value : Json) : Option String :=
  if field.isSecret then
    some redacted
  else
    match value with
    | .str text => some ("\"" ++ text ++ "\"")
    | other => other.plain?.map String.ofList

/-- The name and wire key of a field, as its issues say. -/
def label (field : ConfigField) : String :=
  field.name ++ " (" ++ field.externalKey ++ ")"

/-- The issue of a required field that is absent. -/
def missingIssue (field : ConfigField) : ValidationIssue where
  code := .missingRequired
  field := field.name
  key := field.externalKey
  message := "Missing required field " ++ field.label

/-- The issue of a rejected value that is shown as a text. -/
def invalidIssue (field : ConfigField) (shown : String) : ValidationIssue where
  code := .invalidValue
  field := field.name
  key := field.externalKey
  message :=
    "Invalid value " ++ shown ++ " for field " ++ field.label ++ ": " ++
      field.kind.expectation

/-- Whether a finding is an offence. -/
def offends (field : ConfigField) (raw : RawConfig) : Bool :=
  match field.examine raw with
  | .missing => true
  | .rejected _ => true
  | _ => false

/-- The issue of an offending field; nothing if its value has no plain text. -/
def issue? (field : ConfigField) (raw : RawConfig) : Option ValidationIssue :=
  match field.examine raw with
  | .rejected value => (field.describe? value).map field.invalidIssue
  | _ => some field.missingIssue

/-- The value of a field without offence. -/
def value? (field : ConfigField) (raw : RawConfig) : Option ConfigValue :=
  match field.examine raw with
  | .accepted value => some value
  | _ => none

end ConfigField

/-- The answer of a validation. -/
inductive Validation where
  | accepted (config : ValidatedConfig)
  | rejected (issues : List ValidationIssue)
  | unprintable

namespace ConfigSchema

/-- The offending fields in schema order. -/
def offenders (schema : ConfigSchema) (raw : RawConfig) : List ConfigField :=
  schema.fields.filter fun field => field.offends raw

/-- The configuration of the values of all fields. -/
def configOf (schema : ConfigSchema) (raw : RawConfig) : ValidatedConfig where
  schemaName := schema.name
  entries := schema.fields.map fun field => (field.name, field.value? raw)

/-- Validate a raw configuration. -/
def validate (schema : ConfigSchema) (raw : RawConfig) : Validation :=
  match schema.offenders raw with
  | [] => .accepted (schema.configOf raw)
  | offenders =>
      match offenders.mapM fun field => field.issue? raw with
      | some issues => .rejected issues
      | none => .unprintable

/-- The set fields keyed by wire key, secret values masked. -/
def redact
    (schema : ConfigSchema)
    (config : ValidatedConfig) :
    Record ConfigValue :=
  Record.ofAssignments <| schema.fields.filterMap fun field =>
    (config.get? field.name).map fun value =>
      (field.externalKey, if field.isSecret then .text redacted else value)

end ConfigSchema

/-- The fault of a rejected configuration: the messages of all its issues. -/
def rejectionFault
    (schemaName : String)
    (issues : List ValidationIssue) :
    Fault where
  kind := .configRejected
  arguments :=
    [schemaName, String.intercalate "; " (issues.map ValidationIssue.message)]

end StorageBackends
