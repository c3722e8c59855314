import StorageBackends.Document.Issue
import StorageBackends.Fault
import StorageBackends.Json.Printer
import StorageBackends.Schema.Validation

namespace StorageBackends

/-!
# Failures

A call of the service fails with a fault of the catalogue, with a rejected
configuration, or with what a collaborator reports. A failure may have a code
and a status; those that have neither count as internal errors.
-/

/-- What storing and reading files reports. -/
inductive StorageError where
  | missing
  | notDirectory
  | isDirectory
  | alreadyThere
  | nameTooLong
  | directoryRemoval
deriving DecidableEq, Repr

namespace StorageError

/-- The code of a report. -/
def code : StorageError → String
  | missing => "ENOENT"
  | notDirectory => "ENOTDIR"
  | isDirectory => "EISDIR"
  | alreadyThere => "EEXIST"
  | nameTooLong => "ENAMETOOLONG"
  | directoryRemoval => "ERR_FS_EISDIR"

end StorageError

/-- Why a call fails. -/
inductive Failure where
  /-- A fault of the catalogue. -/
  | fault (fault : Fault)
  /-- A configuration that its schema rejects. -/
  | rejected (schemaName : String) (issues : List ValidationIssue)
  /-- A rejected value that has no plain text. -/
  | unprintable
  /-- A message of a collaborator. -/
  | collaborator (message : String)
  /-- A report of the file store. -/
  | storage (error : StorageError)
  /-- A file that holds no JSON text. -/
  | unreadable
  /-- A file that holds another document than was asked for. -/
  | malformed (issues : List Document.Issue)
deriving DecidableEq, Repr

namespace Failure

/-- The message of a value that has no plain text. -/
def unprintableMessage : String :=
  "Cannot convert object to primitive value"

/-- The code of a failure that has one. -/
def code? : Failure → Option String
  | .fault found => some found.kind.code
  | rejected _ _ => some FaultKind.configRejected.code
  | storage error => some error.code
  | _ => none

/-- The status of a failure that has one. -/
def status? : Failure → Option Nat
  | .fault found => some found.kind.status
  | rejected _ _ => some FaultKind.configRejected.status
  | _ => none

/-- The message of a failure. -/
def message : Failure → String
  | .fault found => found.message
  | rejected schemaName issues => (rejectionFault schemaName issues).message
  | unprintable => unprintableMessage
  | collaborator message => message
  | storage error => error.code
  | unreadable => "the file holds no JSON text"
  | malformed issues =>
      Json.compact (.arr (issues.map Document.Issue.toJson))

/-- The issues that clients see of a failure. -/
def issues? : Failure → Option (List ValidationIssue)
  | rejected _ issues => some issues
  | _ => none

end Failure

namespace ConfigSchema

/-- The configuration of a raw one, or the failure of its validation. -/
def accept (schema : ConfigSchema) (raw : RawConfig) :
    Except Failure ValidatedConfig :=
  match schema.validate raw with
  | .accepted config => .ok config
  | .rejected issues => .error (.rejected schema.name issues)
  | .unprintable => .error .unprintable

end ConfigSchema

end StorageBackends
