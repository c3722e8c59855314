import StorageBackends.Backend.Basic

namespace StorageBackends

/-!
# Deployment variables

The variables of an instance are what the deployment engine consumes. Plain
options stand under their wire keys; secret options are only reachable
through the reference to the stored secret.

The network bindings, the secret content and the variables of a configuration
are only given out for a configuration that the backend's own schema issued.
-/

/-- The variables that an instance is applied with. -/
structure DeploymentVariables where
  charmName : String
  charmChannel : String
  charmRevision : Option String
  charmBase : String
  endpointBindings : Record String
  charmConfig : Record ConfigValue
  secretRef : Option String
deriving DecidableEq, Repr

namespace DeploymentVariables

/-- Variables as an object, in the order of their file. -/
def toJson (deployment : DeploymentVariables) : Json :=
  .obj
    [("charm_name", .str deployment.charmName),
      ("charm_channel", .str deployment.charmChannel),
      ("charm_revision", Json.ofText? deployment.charmRevision),
      ("charm_base", .str deployment.charmBase),
      ("endpoint_bindings", Json.ofTextRecord deployment.endpointBindings),
      ("charm_config",
        .obj (Record.mapValues ConfigValue.toJson deployment.charmConfig)),
      ("secret_ref", Json.ofText? deployment.secretRef)]

end DeploymentVariables

/-- A configuration that a caller hands over. -/
inductive HandedConfig where
  /-- Issued by the validation of some schema. -/
  | issued (config : ValidatedConfig)
  /-- An object of the same look that no validation issued. -/
  | forged

/-- Why a backend refuses a call. -/
inductive BackendError where
  | instanceNameInvalid (name : String)
  | configNotValidated (backendType : String)
  | configMismatch (schemaName backendType : String)
  | secretReferenceMissing (backendType : String)
deriving DecidableEq, Repr

namespace BackendError

/-- The fault of a refusal. -/
def fault : BackendError → Fault
  | instanceNameInvalid name => ⟨.instanceNameInvalid, [name]⟩
  | configNotValidated backendType => ⟨.configNotValidated, [backendType]⟩
  | configMismatch schemaName backendType =>
      ⟨.configMismatch, [schemaName, backendType]⟩
  | secretReferenceMissing backendType =>
      ⟨.secretReferenceMissing, [backendType]⟩

end BackendError

namespace Backend

/-- The option that selects how an array is reached. -/
def protocolField : String :=
  "protocol"

/-- The protocol that touches no IP network. -/
def fibreChannel : ConfigValue :=
  .text "fc"

/-- The option that every charm reports the backend under. -/
def backendNameKey : String :=
  "volume-backend-name"

/-- The configuration that a caller hands over, if the own schema issued it. -/
def ownConfig
    (backend : Backend)
    (handed : HandedConfig) :
    Except BackendError ValidatedConfig :=
  match handed with
  | .forged => .error (.configNotValidated backend.backendType)
  | .issued config =>
      if config.schemaName = backend.schema.name then
        .ok config
      else
        .error (.configMismatch config.schemaName backend.backendType)

/-- Accept an instance name. -/
def checkInstanceName (instanceName : String) : Except BackendError Unit :=
  if isInstanceName instanceName then
    .ok ()
  else
    .error (.instanceNameInvalid instanceName)

/-- The bindings of a configuration: the storage space too, unless over FC. -/
def bindingsOf
    (config : ValidatedConfig)
    (spaces : NetworkSpaces) :
    Record String :=
  if config.get? protocolField = some fibreChannel then
    [("", spaces.management)]
  else
    [("", spaces.management), ("storage", spaces.storage)]

/-- The set secret fields keyed by secret key, as text. -/
def secretsOf (backend : Backend) (config : ValidatedConfig) : Record String :=
  Record.ofAssignments <| backend.schema.fields.filterMap fun field =>
    match field.secretKey, config.get? field.name with
    | some key, some value => some (key, value.toText)
    | _, _ => none

/-- The set plain fields keyed by wire key, over the instance's own name. -/
def optionsOf
    (backend : Backend)
    (config : ValidatedConfig)
    (instanceName : String) :
    Record ConfigValue :=
  Record.ofAssignments <|
    (backendNameKey, .text instanceName) ::
      backend.schema.fields.filterMap fun field =>
        if field.isSecret then
          none
        else
          (config.get? field.name).map fun value => (field.externalKey, value)

/-- The variables of a configuration of the own schema. -/
def variablesOf
    (backend : Backend)
    (config : ValidatedConfig)
    (instanceName : String)
    (secretRef : Option String)
    (spaces : NetworkSpaces) :
    DeploymentVariables where
  charmName := backend.unit.name
  charmChannel := backend.unit.channel
  charmRevision := backend.unit.revision
  charmBase := backend.unit.base
  endpointBindings := bindingsOf config spaces
  charmConfig := backend.optionsOf config instanceName
  secretRef :=
    if (backend.secretsOf config).isEmpty then none else secretRef

/-- The network bindings of a configuration. -/
def endpointBindings
    (backend : Backend)
    (handed : HandedConfig)
    (spaces : NetworkSpaces) :
    Except BackendError (Record String) := do
  let config ← backend.ownConfig handed
  return bindingsOf config spaces

/-- The content of the secret of a configuration. -/
def secretContent
    (backend : Backend)
    (handed : HandedConfig) :
    Except BackendError (Record String) := do
  let config ← backend.ownConfig handed
  return backend.secretsOf config

/-- The variables of a configuration, which need a reference for its secrets. -/
def buildVariables
    (backend : Backend)
    (handed : HandedConfig)
    (instanceName : String)
    (secretRef : Option String)
    (spaces : NetworkSpaces) :
    Except BackendError DeploymentVariables := do
  let config ← backend.ownConfig handed
  if secretRef.isNone && !(backend.secretsOf config).isEmpty then
    throw (.secretReferenceMissing backend.backendType)
  return backend.variablesOf config instanceName secretRef spaces

end Backend

end StorageBackends
