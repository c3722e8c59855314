import StorageBackends.Json.Basic
import StorageBackends.Schema.Validation

namespace StorageBackends

/-!
# Storage backends

A backend is an identity, a deployable unit and a configuration schema of the
same name. Vendors differ in data only.
-/

/-- The charm that realises a backend. -/
structure DeployableUnit where
  name : String
  channel : String
  revision : Option String
  base : String
deriving DecidableEq, Repr

namespace DeployableUnit

/-- A unit as an object. -/
def toJson (unit : DeployableUnit) : Json :=
  .obj
    [("name", .str unit.name),
      ("channel", .str unit.channel),
      ("revision", Json.ofText? unit.revision),
      ("base", .str unit.base)]

end DeployableUnit

/-- The network spaces that endpoints are bound to. -/
structure NetworkSpaces where
  management : String
  storage : String
deriving DecidableEq, Repr

namespace NetworkSpaces

/-- The spaces of a deployment that names none. -/
def default : NetworkSpaces where
  management := "management"
  storage := "storage"

end NetworkSpaces

/-- A storage backend. -/
structure Backend where
  backendType : String
  displayName : String
  unit : DeployableUnit
  schema : ConfigSchema
  schemaNamed : schema.name = backendType

namespace Backend

/-- The start of every charm name. -/
def charmPrefix : String :=
  "cinder-volume-"

/-- The parts of a charm that a backend pins; the others take their defaults. -/
structure Pins where
  name : Option String := none
  channel : Option String := none
  revision : Option String := none
  base : Option String := none

/-- The unit of a backend type with some parts pinned. -/
def unitOf (backendType : String) (pins : Pins) : DeployableUnit where
  name := pins.name.getD (charmPrefix ++ backendType)
  channel := pins.channel.getD "2025.1/edge"
  revision := pins.revision
  base := pins.base.getD "ubuntu@24.04"

/-- A backend of declared fields, or the first rule that they break. -/
def ofDeclarations?
    (backendType displayName : String)
    (pins : Pins)
    (declarations : List (String × FieldSpec)) :
    Except SchemaProblem Backend :=
  match search : firstProblem [] (ConfigSchema.resolve declarations) with
  | some problem => .error problem
  | none =>
      .ok
        { backendType := backendType
          displayName := displayName
          unit := unitOf backendType pins
          schema := ConfigSchema.ofSound backendType declarations search
          schemaNamed := rfl }

/-- A backend of declared fields in which the search finds no problem. -/
def ofSound
    (backendType displayName : String)
    (declarations : List (String × FieldSpec))
    (sound :
      firstProblem [] (ConfigSchema.resolve declarations) = none) :
    Backend where
  backendType := backendType
  displayName := displayName
  unit := unitOf backendType {}
  schema := ConfigSchema.ofSound backendType declarations sound
  schemaNamed := rfl

/-- The name of the plan that all instances of a backend are applied through. -/
def planName (backend : Backend) : String :=
  "storage-backend-" ++ backend.backendType

/-- The name of the secret of an instance. -/
def secretName (backend : Backend) (instanceName : String) : String :=
  backend.backendType ++ "-" ++ instanceName

end Backend

/-- The longest instance name. -/
def maxInstanceName : Nat :=
  63

/--
An instance name: a lower-case letter, then lower-case letters, digits and
hyphens, at most 63 characters, and no hyphen at its end.
-/
def isInstanceName (name : String) : Bool :=
  match name.toList with
  | [] => false
  | first :: rest =>
      Text.isLower first &&
        rest.all (fun c => Text.isLowerOrDigit c || c == '-') &&
        rest.length < maxInstanceName &&
        rest.getLast? != some '-'

end StorageBackends
