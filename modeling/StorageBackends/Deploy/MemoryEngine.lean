import StorageBackends.Failure

namespace StorageBackends

/-!
# The recording engine

The recording engine keeps plans and variables in memory. Variables are kept
under one key made of the plan and the instance with a slash between them.
-/

/-- Plans by name, and applied variables by their joint key. -/
structure MemoryEngine where
  plans : Record Json
  applied : Record Json
deriving Repr

namespace MemoryEngine

/-- The engine that has recorded nothing. -/
def empty : MemoryEngine where
  plans := []
  applied := []

/-- The joint key of a plan and an instance. -/
def jointKey (planName instanceName : String) : String :=
  planName ++ "/" ++ instanceName

/-- Record a plan. -/
def registerPlan
    (engine : MemoryEngine)
    (planName : String)
    (plan : Json) :
    MemoryEngine :=
  { engine with plans := Record.insert planName plan engine.plans }

/-- Record the variables of an instance of a recorded plan. -/
def apply
    (engine : MemoryEngine)
    (planName instanceName : String)
    (deployment : Json) :
    Except Failure Unit × MemoryEngine :=
  if Record.contains planName engine.plans then
    (.ok (),
      { engine with
        applied :=
          Record.insert (jointKey planName instanceName) deployment
            engine.applied })
  else
    (.error (.fault ⟨.planNotRegistered, [planName]⟩), engine)

/-- Forget the variables of an instance. -/
def destroy
    (engine : MemoryEngine)
    (planName instanceName : String) :
    MemoryEngine :=
  { engine with
    applied := Record.erase (jointKey planName instanceName) engine.applied }

/-- The recorded plan of a name. -/
def plan? (engine : MemoryEngine) (planName : String) : Option Json :=
  Record.get? planName engine.plans

/-- The variables last applied for an instance. -/
def variables? (engine : MemoryEngine) (planName instanceName : String) :
    Option Json :=
  Record.get? (jointKey planName instanceName) engine.applied

end MemoryEngine

end StorageBackends
