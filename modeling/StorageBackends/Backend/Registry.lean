import StorageBackends.Backend.Catalogue
import StorageBackends.Backend.Variables
import StorageBackends.LogLine

namespace StorageBackends

/-!
# The registry of backends

A registry lists backends in the order of their registration. Their
descriptors are sound, and their types and the names of their units are
distinct; a registration that would break one of these is refused.
-/

/-- Why a descriptor is refused. -/
inductive DescriptorProblem where
  | malformedType
  | emptyDisplayName
  | foreignUnitName
  | bareUnitName
  | missingPins
  | unkeyedSecret (field : String)
deriving DecidableEq, Repr

namespace DescriptorProblem

/-- The text of a problem. -/
def text : DescriptorProblem → String
  | malformedType => "backend type must be lowercase alphanumeric"
  | emptyDisplayName => "display name is empty"
  | foreignUnitName =>
      "deployable unit name must start with " ++ Backend.charmPrefix
  | bareUnitName => "deployable unit name has no suffix"
  | missingPins => "deployable unit channel and base are required"
  | unkeyedSecret field => "secret field " ++ field ++ " has no key"

end DescriptorProblem

/-- A lower-case letter, then lower-case letters and digits. -/
def isBackendType (text : String) : Bool :=
  match text.toList with
  | [] => false
  | first :: rest => Text.isLower first && rest.all Text.isLowerOrDigit

namespace Backend

/-- The first check that the descriptor of a backend fails. -/
def descriptorProblem (backend : Backend) : Option DescriptorProblem :=
  if !isBackendType backend.backendType then
    some .malformedType
  else if (Text.trim backend.displayName.toList).isEmpty then
    some .emptyDisplayName
  else if !charmPrefix.toList.isPrefixOf backend.unit.name.toList then
    some .foreignUnitName
  else if backend.unit.name = charmPrefix then
    some .bareUnitName
  else if backend.unit.channel = "" || backend.unit.base = "" then
    some .missingPins
  else
    (backend.schema.secretFields.find? fun field =>
      field.externalKey == "").map fun field => .unkeyedSecret field.name

end Backend

/-- Why a registration is refused. -/
inductive RegistrationError where
  | descriptor (backendType : String) (problem : DescriptorProblem)
  | duplicateType (backendType : String)
  | duplicateUnit (unitName owner : String)
deriving DecidableEq, Repr

namespace RegistrationError

/-- The fault of a refused registration. -/
def fault : RegistrationError → Fault
  | descriptor backendType problem =>
      ⟨.descriptorInvalid, [backendType, problem.text]⟩
  | duplicateType backendType => ⟨.duplicateType, [backendType]⟩
  | duplicateUnit unitName owner => ⟨.duplicateUnit, [unitName, owner]⟩

end RegistrationError

/-- Backends in the order of their registration. -/
structure Registry where
  backends : List Backend
  sound : ∀ backend ∈ backends, backend.descriptorProblem = none
  distinctTypes : (backends.map Backend.backendType).Nodup
  distinctUnits : (backends.map fun backend => backend.unit.name).Nodup

namespace Registry

/-- The registry without backends. -/
def empty : Registry where
  backends := []
  sound := by simp
  distinctTypes := by simp
  distinctUnits := by simp

/-- The backend of a type. -/
def find? (registry : Registry) (backendType : String) : Option Backend :=
  registry.backends.find? fun backend => backend.backendType == backendType

/-- The backend of a type, or the fault of an unknown one. -/
def get (registry : Registry) (backendType : String) : Except Fault Backend :=
  match registry.find? backendType with
  | some backend => .ok backend
  | none => .error ⟨.unknownBackend, [backendType]⟩

/-- Whether a type is registered. -/
def has (registry : Registry) (backendType : String) : Bool :=
  (registry.find? backendType).isSome

/-- The number of backends. -/
def size (registry : Registry) : Nat :=
  registry.backends.length

/-- The registered types in order. -/
def types (registry : Registry) : List String :=
  registry.backends.map Backend.backendType

/-- The backend that holds a unit name. -/
def owner? (registry : Registry) (unitName : String) : Option Backend :=
  registry.backends.find? fun backend => backend.unit.name == unitName

/-- A list with one more element has distinct images if the new one is new. -/
theorem nodup_map_append_singleton
    {α : Type}
    {backends : List Backend}
    {image : Backend → α}
    {backend : Backend}
    (distinct : (backends.map image).Nodup)
    (fresh : ∀ other ∈ backends, image other ≠ image backend) :
    ((backends ++ [backend]).map image).Nodup := by
  rw [List.map_append, List.nodup_append]
  refine ⟨distinct, by simp, ?_⟩
  intro left listed right single
  obtain ⟨other, member, rfl⟩ := List.mem_map.1 listed
  have same : right = image backend := by simpa using single
  rw [same]
  exact fresh other member

/-- Register a backend behind the others. -/
def register
    (registry : Registry)
    (backend : Backend) :
    Except RegistrationError Registry :=
  match checked : backend.descriptorProblem with
  | some problem => .error (.descriptor backend.backendType problem)
  | none =>
      match freshType : registry.find? backend.backendType with
      | some _ => .error (.duplicateType backend.backendType)
      | none =>
          match freshUnit : registry.owner? backend.unit.name with
          | some owner =>
              .error (.duplicateUnit backend.unit.name owner.backendType)
          | none =>
              .ok
                { backends := registry.backends ++ [backend]
                  sound := by
                    intro other listed
                    rcases List.mem_append.1 listed with before | last
                    · exact registry.sound other before
                    · rw [List.mem_singleton.1 last]
                      exact checked
                  distinctTypes := by
                    refine nodup_map_append_singleton registry.distinctTypes ?_
                    intro other listed same
                    have unequal := List.find?_eq_none.1 freshType other listed
                    simp [same] at unequal
                  distinctUnits := by
                    refine nodup_map_append_singleton registry.distinctUnits ?_
                    intro other listed same
                    have unequal := List.find?_eq_none.1 freshUnit other listed
                    simp [same] at unequal }

/-- The log line of a registration. -/
def registrationLine (backend : Backend) : LogLine where
  level := .debug
  message := "Storage backend registered"
  members :=
    [("backendType", .str backend.backendType),
      ("charm", .str backend.unit.name)]

/-- The registry of the built-in backends. -/
def builtin : Registry where
  backends := Catalogue.all
  sound := by decide +kernel
  distinctTypes := by decide +kernel
  distinctUnits := by decide +kernel

end Registry

end StorageBackends
