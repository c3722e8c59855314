import StorageBackends.Lifecycle.Program

namespace StorageBackends

/-!
# The lifecycle of instances

Adding an instance stores its secrets first and then applies its variables,
which refer to them. Removing an instance destroys it first and then drops its
secret. Names and configurations are checked before any call is made.
-/

namespace Backend

/-- The program that fails with a refusal. -/
def refused {α : Type} (error : BackendError) : Program α :=
  .failed (.fault error.fault)

/-- The plan of a backend. -/
def plan (backend : Backend) : DeploymentPlan where
  name := backend.planName
  backendType := backend.backendType
  unit := backend.unit

/-- The log line of a registered plan. -/
def planLine (backend : Backend) : LogLine where
  level := .debug
  message := "Deployment plan registered"
  members :=
    [("backendType", .str backend.backendType),
      ("plan", .str backend.planName)]

/-- Register the plan of a backend. -/
def registerPlan (backend : Backend) : Program Unit :=
  .registerPlan backend.plan (.finished () backend.planLine)

/-- The log line of an applied instance. -/
def appliedLine
    (backend : Backend)
    (instanceName : String)
    (secretKeys : List String) :
    LogLine where
  level := .info
  message := "Backend instance applied"
  members :=
    [("backendType", .str backend.backendType),
      ("instanceName", .str instanceName),
      ("charm", .str backend.unit.name),
      ("secretKeys", Json.ofTexts secretKeys)]

/-- Apply the variables of an instance whose secrets are stored. -/
def applyInstance
    (backend : Backend)
    (handed : HandedConfig)
    (instanceName : String)
    (secretKeys : List String)
    (secretRef : Option String)
    (spaces : NetworkSpaces) :
    Program DeploymentVariables :=
  match backend.buildVariables handed instanceName secretRef spaces with
  | .error error => refused error
  | .ok deployment =>
      .apply backend.planName instanceName deployment
        (.finished deployment (backend.appliedLine instanceName secretKeys))

/-- Add or update an instance. -/
def addInstance
    (backend : Backend)
    (spaces : NetworkSpaces)
    (instanceName : String)
    (handed : HandedConfig) :
    Program DeploymentVariables :=
  match checkInstanceName instanceName with
  | .error error => refused error
  | .ok () =>
      match backend.secretContent handed with
      | .error error => refused error
      | .ok content =>
          let secretKeys := Record.keys content
          if content.isEmpty then
            backend.applyInstance handed instanceName secretKeys none spaces
          else
            .putSecret (backend.secretName instanceName) content fun reference =>
              backend.applyInstance handed instanceName secretKeys
                (some reference) spaces

/-- The log line of a removed instance. -/
def removedLine (backend : Backend) (instanceName : String) : LogLine where
  level := .info
  message := "Backend instance removed"
  members :=
    [("backendType", .str backend.backendType),
      ("instanceName", .str instanceName)]

/-- Remove an instance. -/
def removeInstance (backend : Backend) (instanceName : String) :
    Program Unit :=
  match checkInstanceName instanceName with
  | .error error => refused error
  | .ok () =>
      .destroy backend.planName instanceName
        (.removeSecret (backend.secretName instanceName)
          (.finished () (backend.removedLine instanceName)))

end Backend

end StorageBackends
