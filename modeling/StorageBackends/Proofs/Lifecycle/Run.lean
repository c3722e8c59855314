import StorageBackends.Proofs.Lifecycle.Invariant

namespace StorageBackends

/-!
# Runs of the lifecycle

A run is a list of attempts. Each attempt makes one call while some operations
of the collaborators are out of order, and what the calls before it did stays.
Along every run the secret store stays sound, and the variables and the secret
of an instance change only through calls that get past their argument checks
and act on that very instance.
-/

/-- A call of the lifecycle. -/
inductive Call where
  | register (backend : Backend)
  | add
      (backend : Backend)
      (spaces : NetworkSpaces)
      (instanceName : String)
      (handed : HandedConfig)
  | remove (backend : Backend) (instanceName : String)

namespace Call

/-- The backend that a call is made on. -/
def backend : Call → Backend
  | register backend => backend
  | add backend _ _ _ => backend
  | remove backend _ => backend

/-- The program of a call; an addition gives back the applied variables. -/
def program : Call → Program (Option DeploymentVariables)
  | register backend => backend.registerPlan.map fun _ => none
  | add backend spaces instanceName handed =>
      (backend.addInstance spaces instanceName handed).map some
  | remove backend instanceName =>
      (backend.removeInstance instanceName).map fun _ => none

/--
Whether a call gets past its argument checks and acts on the instance of some
name of the backend of some type.
-/
def reaches (call : Call) (backendType instanceName : String) : Bool :=
  match call with
  | register _ => false
  | add backend _ name handed =>
      backend.backendType == backendType && name == instanceName &&
        isInstanceName name && (backend.ownConfig handed).isOk
  | remove backend name =>
      backend.backendType == backendType && name == instanceName &&
        isInstanceName name

end Call

/-- A call, and the operations that are out of order while it is made. -/
structure Attempt where
  call : Call
  outages : List (Operation × String)

namespace Attempt

/-- Make the call of an attempt. -/
def run (attempt : Attempt) (before : Collaborators) :
    Program.Outcome (Option DeploymentVariables) :=
  attempt.call.program.run { before with outages := attempt.outages }

theorem run_add
    {attempt : Attempt}
    {backend : Backend}
    {spaces : NetworkSpaces}
    {instanceName : String}
    {handed : HandedConfig}
    (isAdd : attempt.call = .add backend spaces instanceName handed)
    (before : Collaborators) :
    attempt.run before =
      ((backend.addInstance spaces instanceName handed).run
        { before with outages := attempt.outages }).map some := by
  rw [run, isAdd]
  exact Program.run_map some _ _

theorem run_remove
    {attempt : Attempt}
    {backend : Backend}
    {instanceName : String}
    (isRemove : attempt.call = .remove backend instanceName)
    (before : Collaborators) :
    attempt.run before =
      ((backend.removeInstance instanceName).run
        { before with outages := attempt.outages }).map fun _ => none := by
  rw [run, isRemove]
  exact Program.run_map (fun _ => none) _ _

end Attempt

namespace Collaborators

/-- The collaborators after the attempts of a run. -/
def after (before : Collaborators) : List Attempt → Collaborators
  | [] => before
  | attempt :: rest => (attempt.run before).collaborators.after rest

theorem after_append
    (before : Collaborators)
    (earlier later : List Attempt) :
    before.after (earlier ++ later) = (before.after earlier).after later := by
  induction earlier generalizing before with
  | nil => rfl
  | cons attempt rest inductionHypothesis =>
      exact inductionHypothesis (attempt.run before).collaborators

/-- A whole run keeps what its operations keep. -/
theorem after_invariant
    {reach : Target → Prop}
    {holds : Collaborators → Prop}
    (invariant : Invariant reach holds)
    (rearmed :
      ∀ {before outages}, holds before → holds { before with outages })
    {attempts : List Attempt}
    (within :
      ∀ attempt ∈ attempts, attempt.call.program.Within reach)
    {before : Collaborators}
    (start : holds before) :
    holds (before.after attempts) := by
  induction attempts generalizing before with
  | nil => exact start
  | cons attempt rest inductionHypothesis =>
      obtain ⟨first, others⟩ := List.forall_mem_cons.1 within
      exact inductionHypothesis others
        (Program.run_invariant invariant first (rearmed start))

theorem sound_after
    {before : Collaborators}
    (sound : before.secrets.Sound)
    (attempts : List Attempt) :
    (before.after attempts).secrets.Sound :=
  after_invariant Invariant.sound (fun start => start)
    (fun attempt _ => attempt.call.program.within_true) sound

theorem isMemory_after
    {before : Collaborators}
    (memory : before.engine.isMemory = true)
    (attempts : List Attempt) :
    (before.after attempts).engine.isMemory = true :=
  after_invariant Invariant.isMemory (fun start => start)
    (fun attempt _ => attempt.call.program.within_true) memory

/-- The variables recorded for an instance of a backend. -/
def variables?
    (collaborators : Collaborators)
    (backend : Backend)
    (instanceName : String) :
    Option Json :=
  collaborators.engine.recorded? backend.planName instanceName

/-- The secret stored for an instance of a backend. -/
def secret?
    (collaborators : Collaborators)
    (backend : Backend)
    (instanceName : String) :
    Option StoredSecret :=
  collaborators.secrets.secret? (backend.secretName instanceName)

end Collaborators

namespace Backend

/-- The targets apart from the variables and the secret of an instance. -/
def apart (backend : Backend) (instanceName : String) : Target → Prop
  | .plan _ => True
  | .deployment planName otherName =>
      MemoryEngine.jointKey planName otherName ≠
        MemoryEngine.jointKey backend.planName instanceName
  | .secret name => name ≠ backend.secretName instanceName

/-- A program of an instance that reaches its variables and its secret. -/
theorem addInstance_within
    {reach : Target → Prop}
    {backend : Backend}
    {instanceName : String}
    (deployment : reach (.deployment backend.planName instanceName))
    (secret : reach (.secret (backend.secretName instanceName)))
    (spaces : NetworkSpaces)
    (handed : HandedConfig) :
    (backend.addInstance spaces instanceName handed).Within reach := by
  cases valid : isInstanceName instanceName with
  | false =>
      obtain ⟨failure, refusal⟩ :=
        addInstance_eq_failed (.inl valid) spaces
      rw [refusal]
      exact True.intro
  | true =>
      cases own : backend.ownConfig handed with
      | error error =>
          obtain ⟨failure, refusal⟩ :=
            addInstance_eq_failed (.inr ⟨error, own⟩) spaces
          rw [refusal]
          exact True.intro
      | ok config =>
          rw [addInstance_eq valid own]
          split
          · exact ⟨deployment, True.intro⟩
          · exact ⟨secret, fun _ => ⟨deployment, True.intro⟩⟩

/-- A removal reaches the deployment and the secret of its instance only. -/
theorem removeInstance_within
    {reach : Target → Prop}
    {backend : Backend}
    {instanceName : String}
    (deployment : reach (.deployment backend.planName instanceName))
    (secret : reach (.secret (backend.secretName instanceName))) :
    (backend.removeInstance instanceName).Within reach := by
  cases valid : isInstanceName instanceName with
  | false =>
      obtain ⟨failure, refusal⟩ := removeInstance_eq_failed backend valid
      rw [refusal]
      exact True.intro
  | true =>
      rw [removeInstance_eq valid]
      exact ⟨deployment, secret, True.intro⟩

end Backend

namespace Call

/-- A call that does not reach an instance stays apart from it. -/
theorem within_apart
    {backend : Backend}
    (sound : isBackendType backend.backendType = true)
    {call : Call}
    (callSound : isBackendType call.backend.backendType = true)
    {instanceName : String}
    (unreached : call.reaches backend.backendType instanceName = false) :
    call.program.Within (backend.apart instanceName) := by
  cases call with
  | register other => exact ⟨True.intro, True.intro⟩
  | add other spaces name handed =>
      refine Program.Within.map ?_ some
      by_cases checked :
          isInstanceName name = true ∧
            (other.ownConfig handed).isOk = true
      · have different :
            ¬(other.backendType = backend.backendType ∧
              name = instanceName) := by
          rintro ⟨sameType, sameName⟩
          simp [reaches, sameType, sameName, sameName ▸ checked.1,
            checked.2] at unreached
        refine Backend.addInstance_within ?_ ?_ spaces handed
        · exact fun same =>
            different ((Backend.jointKey_inj callSound sound).1 same)
        · exact fun same =>
            different ((Backend.secretName_inj callSound sound).1 same)
      · have unchecked :
            isInstanceName name = false ∨
              ∃ error, other.ownConfig handed = .error error := by
          cases own : other.ownConfig handed with
          | error error => exact .inr ⟨error, rfl⟩
          | ok config =>
              refine .inl (Bool.eq_false_iff.2 fun valid => checked ?_)
              exact ⟨valid, by rw [own]; rfl⟩
        obtain ⟨failure, refusal⟩ :=
          Backend.addInstance_eq_failed unchecked spaces
        rw [refusal]
        exact True.intro
  | remove other name =>
      refine Program.Within.map ?_ _
      cases valid : isInstanceName name with
      | false =>
          obtain ⟨failure, refusal⟩ :=
            Backend.removeInstance_eq_failed other valid
          rw [refusal]
          exact True.intro
      | true =>
          have different :
              ¬(other.backendType = backend.backendType ∧
                name = instanceName) := by
            rintro ⟨sameType, sameName⟩
            simp [reaches, sameType, sameName, sameName ▸ valid] at unreached
          refine Backend.removeInstance_within ?_ ?_
          · exact fun same =>
              different ((Backend.jointKey_inj callSound sound).1 same)
          · exact fun same =>
              different ((Backend.secretName_inj callSound sound).1 same)

end Call

/-- No attempt of a list reaches the instance of some name of a backend. -/
def Unreached
    (backend : Backend)
    (instanceName : String)
    (attempts : List Attempt) : Prop :=
  ∀ attempt ∈ attempts,
    attempt.call.reaches backend.backendType instanceName = false

namespace Collaborators

/-- The variables and the secret that are held for an instance. -/
def Holds
    (backend : Backend)
    (instanceName : String)
    (recorded : Option Json)
    (secret : Option StoredSecret)
    (collaborators : Collaborators) : Prop :=
  collaborators.variables? backend instanceName = recorded ∧
    collaborators.secret? backend instanceName = secret

/-- What is held for an instance survives all operations apart from it. -/
theorem Invariant.apart
    (backend : Backend)
    (instanceName : String)
    (recorded : Option Json)
    (secret : Option StoredSecret) :
    Invariant (backend.apart instanceName)
      (Holds backend instanceName recorded secret) where
  registerPlan := fun _ _ start =>
    callEngine_keeps (Holds backend instanceName recorded secret) start
      ⟨(Engine.recorded?_registerPlan _ _ _ _ _).trans start.1, start.2⟩
  apply := fun elsewhere _ start =>
    callEngine_keeps (Holds backend instanceName recorded secret) start
      ⟨(Engine.recorded?_apply_of_ne elsewhere _ _).trans start.1, start.2⟩
  destroy := fun elsewhere start =>
    callEngine_keeps (Holds backend instanceName recorded secret) start
      ⟨(Engine.recorded?_destroy_of_ne elsewhere _).trans start.1, start.2⟩
  putSecret := fun elsewhere _ start =>
    putSecret_keeps (Holds backend instanceName recorded secret) start
      ⟨start.1,
        ((SecretStore.secret?_put _ _ _ _).trans
          (if_neg elsewhere.symm)).trans start.2⟩
  removeSecret := fun elsewhere start =>
    removeSecret_keeps (Holds backend instanceName recorded secret) start
      ⟨start.1,
        ((SecretStore.secret?_remove _ _ _).trans
          (if_neg elsewhere.symm)).trans start.2⟩

/-- A run none of whose calls reaches an instance leaves it as it was. -/
theorem after_of_unreached
    {backend : Backend}
    (sound : isBackendType backend.backendType = true)
    {instanceName : String}
    {attempts : List Attempt}
    (callsSound :
      ∀ attempt ∈ attempts,
        isBackendType attempt.call.backend.backendType = true)
    (unreached : Unreached backend instanceName attempts)
    (before : Collaborators) :
    Holds backend instanceName
      (before.variables? backend instanceName)
      (before.secret? backend instanceName)
      (before.after attempts) :=
  after_invariant
    (Invariant.apart backend instanceName
      (before.variables? backend instanceName)
      (before.secret? backend instanceName))
    (fun start => start)
    (fun attempt listed =>
      Call.within_apart sound (callsSound attempt listed)
        (unreached attempt listed))
    ⟨rfl, rfl⟩

end Collaborators

/-- A PowerStore configuration with some password, for concrete runs. -/
def powerStoreConfig (password : String) : HandedConfig :=
  .issued
    { schemaName := Catalogue.dellPowerStore.schema.name
      entries :=
        [("san_ip", some (.text "192.0.2.1")),
          ("san_username", some (.text "admin")),
          ("san_password", some (.text password))] }

end StorageBackends
