import StorageBackends.Backend.Variables
import StorageBackends.Lifecycle.Collaborators
import StorageBackends.LogLine

namespace StorageBackends

/-!
# Programs of collaborator calls

A lifecycle operation is a program: a sequence of calls that ends with a
result and a log line, or with a failure. Every call is one atomic step, so
the programs of several operations can be run one after the other or have
their steps interleaved. A call that fails ends its program, and what earlier
calls did stays.
-/

/-- What a plan tells the engine. -/
structure DeploymentPlan where
  name : String
  backendType : String
  unit : DeployableUnit
deriving DecidableEq, Repr

namespace DeploymentPlan

/-- A plan as an object, in the order of its file. -/
def toJson (plan : DeploymentPlan) : Json :=
  .obj
    [("name", .str plan.name),
      ("backendType", .str plan.backendType),
      ("deployableUnit", plan.unit.toJson)]

end DeploymentPlan

/-- A sequence of calls with a result. -/
inductive Program (α : Type) where
  | finished (value : α) (line : LogLine)
  | failed (failure : Failure)
  | registerPlan (plan : DeploymentPlan) (next : Program α)
  | apply
      (planName instanceName : String)
      (deployment : DeploymentVariables)
      (next : Program α)
  | destroy (planName instanceName : String) (next : Program α)
  | putSecret
      (name : String)
      (content : Record String)
      (next : String → Program α)
  | removeSecret (name : String) (next : Program α)

namespace Program

variable {α : Type}

/-- The program after a call with some outcome. -/
def continueWith {β : Type} (next : β → Program α) :
    Except Failure β × Collaborators → Program α × Collaborators
  | (.ok value, collaborators) => (next value, collaborators)
  | (.error failure, collaborators) => (.failed failure, collaborators)

/-- Make the first call of a program; an ended program stays as it is. -/
def step (program : Program α) (collaborators : Collaborators) :
    Program α × Collaborators :=
  match program with
  | finished value line => (finished value line, collaborators)
  | failed failure => (failed failure, collaborators)
  | registerPlan plan next =>
      continueWith (fun _ => next)
        (collaborators.registerPlan plan.name plan.toJson)
  | apply planName instanceName deployment next =>
      continueWith (fun _ => next)
        (collaborators.apply planName instanceName deployment.toJson)
  | destroy planName instanceName next =>
      continueWith (fun _ => next)
        (collaborators.destroy planName instanceName)
  | putSecret name content next =>
      continueWith next (collaborators.putSecret name content)
  | removeSecret name next =>
      continueWith (fun _ => next) (collaborators.removeSecret name)

/-- How a program ended. -/
structure Outcome (α : Type) where
  result : Except Failure α
  lines : List LogLine
  collaborators : Collaborators

/-- The outcome after a call, given the outcome of what follows a success. -/
def outcomeAfter {β : Type} (next : β → Collaborators → Outcome α) :
    Except Failure β × Collaborators → Outcome α
  | (.ok value, collaborators) => next value collaborators
  | (.error failure, collaborators) => ⟨.error failure, [], collaborators⟩

/-- Make all the calls of a program one after the other. -/
def run : Program α → Collaborators → Outcome α
  | finished value line, collaborators => ⟨.ok value, [line], collaborators⟩
  | failed failure, collaborators => ⟨.error failure, [], collaborators⟩
  | registerPlan plan next, collaborators =>
      outcomeAfter (fun _ => next.run)
        (collaborators.registerPlan plan.name plan.toJson)
  | apply planName instanceName deployment next, collaborators =>
      outcomeAfter (fun _ => next.run)
        (collaborators.apply planName instanceName deployment.toJson)
  | destroy planName instanceName next, collaborators =>
      outcomeAfter (fun _ => next.run)
        (collaborators.destroy planName instanceName)
  | putSecret name content next, collaborators =>
      outcomeAfter (fun reference => (next reference).run)
        (collaborators.putSecret name content)
  | removeSecret name next, collaborators =>
      outcomeAfter (fun _ => next.run) (collaborators.removeSecret name)

/-- Running an unfinished program is making its first call and running the rest. -/
theorem run_step (program : Program α) (collaborators : Collaborators) :
    (program.step collaborators).1.run (program.step collaborators).2 =
      program.run collaborators := by
  cases program with
  | finished value line => rfl
  | failed failure => rfl
  | registerPlan plan next =>
      simp only [step, run]
      rcases collaborators.registerPlan plan.name plan.toJson with
        ⟨_ | _, after⟩ <;> rfl
  | apply planName instanceName deployment next =>
      simp only [step, run]
      rcases collaborators.apply planName instanceName deployment.toJson with
        ⟨_ | _, after⟩ <;> rfl
  | destroy planName instanceName next =>
      simp only [step, run]
      rcases collaborators.destroy planName instanceName with
        ⟨_ | _, after⟩ <;> rfl
  | putSecret name content next =>
      simp only [step, run]
      rcases collaborators.putSecret name content with
        ⟨_ | _, after⟩ <;> rfl
  | removeSecret name next =>
      simp only [step, run]
      rcases collaborators.removeSecret name with
        ⟨_ | _, after⟩ <;> rfl

end Program

end StorageBackends
