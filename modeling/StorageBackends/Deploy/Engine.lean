import StorageBackends.Deploy.DirectoryEngine
import StorageBackends.Deploy.MemoryEngine
import StorageBackends.Service.Config

namespace StorageBackends

/-!
# Deployment engines

A deployment engine either records what it is asked to do or writes it into
files. Both take the same calls.
-/

/-- A deployment engine with all that it holds. -/
inductive Engine where
  | memory (engine : MemoryEngine)
  | directory (engine : DirectoryEngine)
deriving Repr

namespace Engine

/-- A new engine of some kind. -/
def ofKind : Service.EngineKind → Engine
  | .memory => memory MemoryEngine.empty
  | .directory => directory DirectoryEngine.fresh

/-- Register a plan under its name. -/
def registerPlan (planName : String) (plan : Json) :
    Engine → Except Failure Unit × Engine
  | memory engine => (.ok (), memory (engine.registerPlan planName plan))
  | directory engine =>
      match engine.registerPlan planName plan with
      | (result, next) => (result, directory next)

/-- Apply an instance with its variables. -/
def apply (planName instanceName : String) (deployment : Json) :
    Engine → Except Failure Unit × Engine
  | memory engine =>
      match engine.apply planName instanceName deployment with
      | (result, next) => (result, memory next)
  | directory engine =>
      match engine.apply planName instanceName deployment with
      | (result, next) => (result, directory next)

/-- Destroy an instance. -/
def destroy (planName instanceName : String) :
    Engine → Except Failure Unit × Engine
  | memory engine => (.ok (), memory (engine.destroy planName instanceName))
  | directory engine =>
      match engine.destroy planName instanceName with
      | (result, next) => (result, directory next)

/-- Whether the engine is operational. -/
def healthy : Engine → Bool × Engine
  | memory engine => (true, memory engine)
  | directory engine =>
      match engine.healthy with
      | (result, next) => (result, directory next)

end Engine

end StorageBackends
