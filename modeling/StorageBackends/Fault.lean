import StorageBackends.Text.Template

namespace StorageBackends

/-!
# The catalogue of faults

Every fault of the service has a code, a status and a message template. A
fault is a kind with the arguments of its template.
-/

/-- The kinds of faults. -/
inductive FaultKind where
  | schemaDefinition
  | configNotValidated
  | configRejected
  | configInvalid
  | configMissing
  | configUnreadable
  | serverStart
  | duplicateType
  | duplicateUnit
  | unknownBackend
  | descriptorInvalid
  | instanceNameInvalid
  | configMismatch
  | secretReferenceMissing
  | unsafeName
  | planNotRegistered
deriving DecidableEq, Repr

namespace FaultKind

/-- The code that clients and logs see. -/
def code : FaultKind → String
  | schemaDefinition => "SCHEMA_DEFINITION_INVALID"
  | configNotValidated => "CONFIG_NOT_VALIDATED"
  | configRejected => "CONFIG_VALIDATION_FAILED"
  | configInvalid => "CONFIG_INVALID"
  | configMissing => "CONFIG_MISSING"
  | configUnreadable => "CONFIG_PARSE_ERROR"
  | serverStart => "SERVER_START_ERROR"
  | duplicateType => "BACKEND_DUPLICATE_TYPE"
  | duplicateUnit => "BACKEND_DUPLICATE_UNIT"
  | unknownBackend => "BACKEND_NOT_FOUND"
  | descriptorInvalid => "BACKEND_DESCRIPTOR_INVALID"
  | instanceNameInvalid => "BACKEND_INSTANCE_NAME_INVALID"
  | configMismatch => "BACKEND_CONFIG_MISMATCH"
  | secretReferenceMissing => "BACKEND_SECRET_REFERENCE_MISSING"
  | unsafeName => "DEPLOY_UNSAFE_NAME"
  | planNotRegistered => "DEPLOY_PLAN_NOT_REGISTERED"

/-- The status of a response that reports the fault. -/
def status : FaultKind → Nat
  | schemaDefinition => 500
  | configNotValidated => 500
  | configRejected => 422
  | configInvalid => 500
  | configMissing => 500
  | configUnreadable => 500
  | serverStart => 500
  | duplicateType => 409
  | duplicateUnit => 409
  | unknownBackend => 404
  | descriptorInvalid => 500
  | instanceNameInvalid => 400
  | configMismatch => 400
  | secretReferenceMissing => 500
  | unsafeName => 400
  | planNotRegistered => 500

/-- The message template. -/
def template : FaultKind → String
  | schemaDefinition => "Invalid %s schema definition: %s"
  | configNotValidated =>
      "Configuration for %s was not produced by schema validation"
  | configRejected => "Invalid %s configuration: %s"
  | configInvalid => "Invalid configuration: %s"
  | configMissing => "Missing configuration file: %s"
  | configUnreadable => "Failed to parse configuration: %s"
  | serverStart => "Failed to start server: %s"
  | duplicateType => "Backend type already registered: %s"
  | duplicateUnit => "Deployable unit %s already registered by backend %s"
  | unknownBackend => "Unknown backend type: %s"
  | descriptorInvalid => "Invalid descriptor for backend %s: %s"
  | instanceNameInvalid => "Invalid backend instance name: %s"
  | configMismatch =>
      "Configuration validated for %s cannot be used with backend %s"
  | secretReferenceMissing =>
      "Backend %s has secret values but no secret reference"
  | unsafeName => "Unsafe %s name: %s"
  | planNotRegistered => "Deployment plan not registered: %s"

end FaultKind

/-- A fault: its kind and the arguments of its message. -/
structure Fault where
  kind : FaultKind
  arguments : List String
deriving DecidableEq, Repr

namespace Fault

/-- The message of a fault. -/
def message (fault : Fault) : String :=
  Text.fill fault.kind.template fault.arguments

end Fault

end StorageBackends
