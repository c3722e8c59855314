import StorageBackends.Deploy.Engine
import StorageBackends.Deploy.SecretStore

namespace StorageBackends

/-!
# Collaborators

The lifecycle of instances delegates to an engine and to a secret store. Each
operation may be out of order; it then fails with a message, before it does
anything.
-/

/-- An operation of a collaborator. -/
inductive Operation where
  | registerPlan
  | apply
  | destroy
  | healthy
  | putSecret
  | removeSecret
deriving DecidableEq, Repr

/-- The collaborators, and the messages of the operations out of order. -/
structure Collaborators where
  engine : Engine
  secrets : SecretStore
  outages : List (Operation × String)
  unhealthy : Bool

namespace Collaborators

/-- Collaborators in order, with a secret store that is empty. -/
def ofEngine (supply : ReferenceSupply) (engine : Engine) : Collaborators where
  engine := engine
  secrets := SecretStore.empty supply
  outages := []
  unhealthy := false

/-- Put an operation out of order with a message, or back in order. -/
def arm
    (collaborators : Collaborators)
    (operation : Operation)
    (message : Option String) :
    Collaborators :=
  let others :=
    collaborators.outages.filter fun outage => outage.1 != operation
  { collaborators with
    outages :=
      match message with
      | some message => (operation, message) :: others
      | none => others }

/-- The failure of an operation that is out of order. -/
def outage? (collaborators : Collaborators) (operation : Operation) :
    Option Failure :=
  (collaborators.outages.lookup operation).map .collaborator

/-- A call of the engine, unless its operation is out of order. -/
def callEngine
    (collaborators : Collaborators)
    (operation : Operation)
    (call : Engine → Except Failure Unit × Engine) :
    Except Failure Unit × Collaborators :=
  match collaborators.outage? operation with
  | some failure => (.error failure, collaborators)
  | none =>
      match call collaborators.engine with
      | (result, engine) => (result, { collaborators with engine := engine })

/-- Register a plan. -/
def registerPlan
    (collaborators : Collaborators)
    (planName : String)
    (plan : Json) :
    Except Failure Unit × Collaborators :=
  collaborators.callEngine .registerPlan (Engine.registerPlan planName plan)

/-- Apply an instance. -/
def apply
    (collaborators : Collaborators)
    (planName instanceName : String)
    (deployment : Json) :
    Except Failure Unit × Collaborators :=
  collaborators.callEngine .apply
    (Engine.apply planName instanceName deployment)

/-- Destroy an instance. -/
def destroy
    (collaborators : Collaborators)
    (planName instanceName : String) :
    Except Failure Unit × Collaborators :=
  collaborators.callEngine .destroy (Engine.destroy planName instanceName)

/-- Whether the engine is operational. -/
def healthy (collaborators : Collaborators) :
    Except Failure Bool × Collaborators :=
  match collaborators.outage? .healthy with
  | some failure => (.error failure, collaborators)
  | none =>
      if collaborators.unhealthy then
        (.ok false, collaborators)
      else
        match collaborators.engine.healthy with
        | (result, engine) =>
            (.ok result, { collaborators with engine := engine })

/-- Store a secret; the result is its reference. -/
def putSecret
    (collaborators : Collaborators)
    (name : String)
    (content : Record String) :
    Except Failure String × Collaborators :=
  match collaborators.outage? .putSecret with
  | some failure => (.error failure, collaborators)
  | none =>
      match collaborators.secrets.put name content with
      | (reference, secrets) =>
          (.ok reference, { collaborators with secrets := secrets })

/-- Remove a secret. -/
def removeSecret (collaborators : Collaborators) (name : String) :
    Except Failure Unit × Collaborators :=
  match collaborators.outage? .removeSecret with
  | some failure => (.error failure, collaborators)
  | none =>
      (.ok (),
        { collaborators with secrets := collaborators.secrets.remove name })

end Collaborators

end StorageBackends
