import StorageBackends.Lifecycle.Instances
import StorageBackends.Proofs.Engine
import StorageBackends.Proofs.SecretStore

namespace StorageBackends

/-!
# Calls of the lifecycle

A call registers the plan of a backend, adds an instance or removes one. Its
program is refused before it does anything, or makes its collaborator calls in
order. The main statements, `addInstance_run` and `removeInstance_run`, list
all the ways in which the program of an instance can run.
-/

namespace Collaborators

theorem callEngine_eq_ok
    {before after : Collaborators}
    {operation : Operation}
    {call : Engine → Except Failure Unit × Engine}
    (called : before.callEngine operation call = (.ok (), after)) :
    call before.engine = (.ok (), after.engine) ∧
      after = { before with engine := after.engine } := by
  unfold callEngine at called
  split at called
  · cases called
  · obtain ⟨succeeded, rfl⟩ := Prod.mk.inj called
    exact ⟨Prod.ext succeeded rfl, rfl⟩

/-- An engine call that fails is out of order or made the engine fail. -/
theorem callEngine_eq_error
    {before after : Collaborators}
    {operation : Operation}
    {call : Engine → Except Failure Unit × Engine}
    {failure : Failure}
    (called :
      before.callEngine operation call = (.error failure, after)) :
    (before.outage? operation = some failure ∧ after = before) ∨
      call before.engine = (.error failure, after.engine) ∧
        after = { before with engine := after.engine } := by
  unfold callEngine at called
  split at called
  · rename_i outage
    cases called
    exact .inl ⟨outage, rfl⟩
  · obtain ⟨failed, rfl⟩ := Prod.mk.inj called
    exact .inr ⟨Prod.ext failed rfl, rfl⟩

/-- An application that fails has changed nothing, whichever way it fails. -/
theorem apply_eq_error
    {before after : Collaborators}
    {planName instanceName : String}
    {deployment : Json}
    {failure : Failure}
    (called :
      before.apply planName instanceName deployment =
        (.error failure, after)) :
    after = before := by
  rcases callEngine_eq_error called with
    ⟨-, unchanged⟩ | ⟨refused, replaced⟩
  · exact unchanged
  · rw [replaced, Engine.apply_eq_error refused]

end Collaborators

namespace Program

/-- Apply a function to the result of a program. -/
def map {α β : Type} (f : α → β) : Program α → Program β
  | finished value line => finished (f value) line
  | failed failure => failed failure
  | registerPlan plan next => registerPlan plan (next.map f)
  | apply planName instanceName deployment next =>
      apply planName instanceName deployment (next.map f)
  | destroy planName instanceName next =>
      destroy planName instanceName (next.map f)
  | putSecret name content next =>
      putSecret name content fun reference => (next reference).map f
  | removeSecret name next => removeSecret name (next.map f)

namespace Outcome

/-- Apply a function to the result of an outcome. -/
def map {α β : Type} (f : α → β) (outcome : Outcome α) : Outcome β where
  result := outcome.result.map f
  lines := outcome.lines
  collaborators := outcome.collaborators

theorem map_result_eq_ok
    {α β : Type}
    {f : α → β}
    {outcome : Outcome α}
    {value : β}
    (succeeded : (outcome.map f).result = .ok value) :
    ∃ original, outcome.result = .ok original ∧ f original = value := by
  rcases outcome with ⟨failure | original, lines, collaborators⟩
  · cases succeeded
  · cases succeeded
    exact ⟨original, rfl, rfl⟩

theorem map_result_eq_error
    {α β : Type}
    {f : α → β}
    {outcome : Outcome α}
    {failure : Failure}
    (failed : (outcome.map f).result = .error failure) :
    outcome.result = .error failure := by
  rcases outcome with ⟨failure | original, lines, collaborators⟩
  · cases failed
    rfl
  · cases failed

end Outcome

/-- Applying a function to what follows a call applies it to the outcome. -/
theorem outcomeAfter_map
    {α β γ : Type}
    (f : α → β)
    {mapped : γ → Collaborators → Outcome β}
    {next : γ → Collaborators → Outcome α}
    (same : ∀ value after, mapped value after = (next value after).map f)
    (called : Except Failure γ × Collaborators) :
    outcomeAfter mapped called = (outcomeAfter next called).map f := by
  rcases called with ⟨failure | value, after⟩
  · rfl
  · exact same value after

theorem run_map
    {α β : Type}
    (f : α → β)
    (program : Program α)
    (collaborators : Collaborators) :
    (program.map f).run collaborators =
      (program.run collaborators).map f := by
  induction program generalizing collaborators with
  | finished value line => rfl
  | failed failure => rfl
  | registerPlan plan next inductionHypothesis =>
      exact outcomeAfter_map f (fun _ => inductionHypothesis) _
  | apply planName instanceName deployment next inductionHypothesis =>
      exact outcomeAfter_map f (fun _ => inductionHypothesis) _
  | destroy planName instanceName next inductionHypothesis =>
      exact outcomeAfter_map f (fun _ => inductionHypothesis) _
  | putSecret name content next inductionHypothesis =>
      exact outcomeAfter_map f inductionHypothesis _
  | removeSecret name next inductionHypothesis =>
      exact outcomeAfter_map f (fun _ => inductionHypothesis) _

end Program

namespace Backend

/--
Where the secret of an added instance goes: the reference to it and the store
that holds it, or nothing and the old store if no secret is set.
-/
def storeSecret
    (backend : Backend)
    (config : ValidatedConfig)
    (instanceName : String)
    (store : SecretStore) :
    Option String × SecretStore :=
  if (backend.secretsOf config).isEmpty then
    (none, store)
  else
    (some store.nextReference,
      (store.put (backend.secretName instanceName)
        (backend.secretsOf config)).2)

theorem storeSecret_of_isEmpty
    {backend : Backend}
    {config : ValidatedConfig}
    (noSecret : (backend.secretsOf config).isEmpty = true)
    (instanceName : String)
    (store : SecretStore) :
    backend.storeSecret config instanceName store = (none, store) :=
  if_pos noSecret

/-- A secret is stored under the name of its instance. -/
theorem storeSecret_of_secret
    {backend : Backend}
    {config : ValidatedConfig}
    (secret : (backend.secretsOf config).isEmpty = false)
    (instanceName : String)
    (store : SecretStore) :
    backend.storeSecret config instanceName store =
      (some store.nextReference,
        (store.put (backend.secretName instanceName)
          (backend.secretsOf config)).2) :=
  if_neg (by simp [secret])

theorem storeSecret_fst
    (backend : Backend)
    (config : ValidatedConfig)
    (instanceName : String)
    (store : SecretStore) :
    (backend.storeSecret config instanceName store).1 =
      if (backend.secretsOf config).isEmpty then
        none
      else
        some
          (store.put (backend.secretName instanceName)
            (backend.secretsOf config)).1 := by
  unfold storeSecret
  split <;> rfl

theorem secretContent_eq_ok
    {backend : Backend}
    {handed : HandedConfig}
    {config : ValidatedConfig}
    (own : backend.ownConfig handed = .ok config) :
    backend.secretContent handed = .ok (backend.secretsOf config) := by
  simp only [secretContent, own, bind, Except.bind]
  rfl

/-- The end of an addition whose secret is stored. -/
def applyConfig
    (backend : Backend)
    (config : ValidatedConfig)
    (instanceName : String)
    (secretRef : Option String)
    (spaces : NetworkSpaces) :
    Program DeploymentVariables :=
  let deployment :=
    backend.variablesOf config instanceName secretRef spaces
  .apply backend.planName instanceName deployment
    (.finished deployment
      (backend.appliedLine instanceName
        (Record.keys (backend.secretsOf config))))

/-- An application that succeeds gives back the variables it was made with. -/
theorem applyConfig_run_ok
    {backend : Backend}
    {config : ValidatedConfig}
    {instanceName : String}
    {secretRef : Option String}
    {spaces : NetworkSpaces}
    {before : Collaborators}
    {deployment : DeploymentVariables}
    (applied :
      ((backend.applyConfig config instanceName secretRef spaces).run
        before).result = .ok deployment) :
    deployment =
        backend.variablesOf config instanceName secretRef spaces ∧
      before.apply backend.planName instanceName deployment.toJson =
        (.ok (),
          ((backend.applyConfig config instanceName secretRef spaces).run
            before).collaborators) := by
  simp only [applyConfig, Program.run] at applied ⊢
  rcases called :
      before.apply backend.planName instanceName
        (backend.variablesOf config instanceName secretRef spaces).toJson with
    ⟨failure | done, after⟩
  · rw [called] at applied
    cases applied
  · rw [called] at applied
    cases applied
    exact ⟨rfl, called⟩

/-- An application that fails leaves its collaborators as they were. -/
theorem applyConfig_run_error
    {backend : Backend}
    {config : ValidatedConfig}
    {instanceName : String}
    {secretRef : Option String}
    {spaces : NetworkSpaces}
    {before : Collaborators}
    {failure : Failure}
    (failed :
      ((backend.applyConfig config instanceName secretRef spaces).run
        before).result = .error failure) :
    ((backend.applyConfig config instanceName secretRef spaces).run
      before).collaborators = before := by
  simp only [applyConfig, Program.run] at failed ⊢
  rcases called :
      before.apply backend.planName instanceName
        (backend.variablesOf config instanceName secretRef spaces).toJson with
    ⟨failure | done, after⟩
  · exact Collaborators.apply_eq_error called
  · rw [called] at failed
    cases failed

/-- An own configuration has variables once its secrets have a reference. -/
theorem buildVariables_eq_ok
    {backend : Backend}
    {handed : HandedConfig}
    {config : ValidatedConfig}
    (own : backend.ownConfig handed = .ok config)
    {secretRef : Option String}
    (supplied :
      secretRef = none → (backend.secretsOf config).isEmpty = true)
    (instanceName : String)
    (spaces : NetworkSpaces) :
    backend.buildVariables handed instanceName secretRef spaces =
      .ok (backend.variablesOf config instanceName secretRef spaces) := by
  have enough :
      (secretRef.isNone && !(backend.secretsOf config).isEmpty) = false := by
    cases secretRef with
    | none => simp [supplied rfl]
    | some reference => rfl
  simp only [buildVariables, own, bind, Except.bind, enough]
  rfl

theorem secretContent_eq_error
    {backend : Backend}
    {handed : HandedConfig}
    {error : BackendError}
    (foreign : backend.ownConfig handed = .error error) :
    backend.secretContent handed = .error error := by
  simp only [secretContent, foreign, bind, Except.bind]

/-- The program of an addition that passes its argument checks. -/
theorem addInstance_eq
    {backend : Backend}
    {handed : HandedConfig}
    {config : ValidatedConfig}
    {instanceName : String}
    (valid : isInstanceName instanceName = true)
    (own : backend.ownConfig handed = .ok config)
    (spaces : NetworkSpaces) :
    backend.addInstance spaces instanceName handed =
      if (backend.secretsOf config).isEmpty then
        backend.applyConfig config instanceName none spaces
      else
        .putSecret (backend.secretName instanceName)
          (backend.secretsOf config) fun reference =>
            backend.applyConfig config instanceName (some reference)
              spaces := by
  simp only [addInstance, checkInstanceName, valid, if_true,
    secretContent_eq_ok own]
  split
  · rename_i noSecrets
    simp only [applyInstance, applyConfig,
      buildVariables_eq_ok own (fun _ => noSecrets)]
  · have supplied : ∀ reference : String,
        some reference = none → (backend.secretsOf config).isEmpty = true :=
      fun _ impossible => nomatch impossible
    simp only [applyInstance, applyConfig,
      buildVariables_eq_ok own (supplied _)]

/-- An unsound name is refused before the configuration is looked at. -/
theorem addInstance_eq_refused
    {instanceName : String}
    (invalid : isInstanceName instanceName = false)
    (backend : Backend)
    (spaces : NetworkSpaces)
    (handed : HandedConfig) :
    backend.addInstance spaces instanceName handed =
      refused (.instanceNameInvalid instanceName) := by
  simp only [addInstance, checkInstanceName, invalid]
  rfl

theorem addInstance_eq_failed
    {backend : Backend}
    {handed : HandedConfig}
    {instanceName : String}
    (unchecked :
      isInstanceName instanceName = false ∨
        ∃ error, backend.ownConfig handed = .error error)
    (spaces : NetworkSpaces) :
    ∃ failure,
      backend.addInstance spaces instanceName handed = .failed failure := by
  rcases valid : isInstanceName instanceName with _ | _
  · exact ⟨_, addInstance_eq_refused valid backend spaces handed⟩
  · obtain ⟨error, foreign⟩ := unchecked.resolve_left (by simp [valid])
    refine ⟨.fault error.fault, ?_⟩
    simp only [addInstance, checkInstanceName, valid, secretContent, foreign,
      bind, Except.bind]
    rfl

theorem removeInstance_eq
    {backend : Backend}
    {instanceName : String}
    (valid : isInstanceName instanceName = true) :
    backend.removeInstance instanceName =
      .destroy backend.planName instanceName
        (.removeSecret (backend.secretName instanceName)
          (.finished () (backend.removedLine instanceName))) := by
  simp only [removeInstance, checkInstanceName, valid, if_true]

theorem removeInstance_eq_refused
    {instanceName : String}
    (invalid : isInstanceName instanceName = false)
    (backend : Backend) :
    backend.removeInstance instanceName =
      refused (.instanceNameInvalid instanceName) := by
  simp only [removeInstance, checkInstanceName, invalid]
  rfl

theorem removeInstance_eq_failed
    (backend : Backend)
    {instanceName : String}
    (invalid : isInstanceName instanceName = false) :
    ∃ failure, backend.removeInstance instanceName = .failed failure :=
  ⟨_, removeInstance_eq_refused invalid backend⟩

/-- The ways in which an addition can run. -/
inductive AddRun
    (backend : Backend)
    (spaces : NetworkSpaces)
    (instanceName : String)
    (handed : HandedConfig)
    (before : Collaborators) :
    Program.Outcome DeploymentVariables → Prop where
  /-- The name is unsound or the configuration is not the backend's own. -/
  | refused
      (failure : Failure)
      (unchecked :
        isInstanceName instanceName = false ∨
          ∃ error, backend.ownConfig handed = .error error) :
      AddRun backend spaces instanceName handed before
        ⟨.error failure, [], before⟩
  /-- A secret is set and cannot be stored. -/
  | unstored
      (config : ValidatedConfig)
      (failure : Failure)
      (valid : isInstanceName instanceName = true)
      (own : backend.ownConfig handed = .ok config)
      (secret : (backend.secretsOf config).isEmpty = false)
      (outage : before.outage? .putSecret = some failure) :
      AddRun backend spaces instanceName handed before
        ⟨.error failure, [], before⟩
  /-- The secret, if one is set, is stored, and the instance is applied. -/
  | stored
      (config : ValidatedConfig)
      (valid : isInstanceName instanceName = true)
      (own : backend.ownConfig handed = .ok config)
      (available :
        (backend.secretsOf config).isEmpty = true ∨
          before.outage? .putSecret = none) :
      AddRun backend spaces instanceName handed before
        ((backend.applyConfig config instanceName
            (backend.storeSecret config instanceName before.secrets).1
            spaces).run
          { before with
            secrets :=
              (backend.storeSecret config instanceName before.secrets).2 })

/-- Every addition runs in one of these ways. -/
theorem addInstance_run
    (backend : Backend)
    (spaces : NetworkSpaces)
    (instanceName : String)
    (handed : HandedConfig)
    (before : Collaborators) :
    AddRun backend spaces instanceName handed before
      ((backend.addInstance spaces instanceName handed).run before) := by
  cases valid : isInstanceName instanceName with
  | false =>
      have unchecked :
          isInstanceName instanceName = false ∨
            ∃ error, backend.ownConfig handed = .error error :=
        .inl valid
      obtain ⟨failure, refusal⟩ := addInstance_eq_failed unchecked spaces
      rw [refusal]
      exact .refused failure unchecked
  | true =>
      cases own : backend.ownConfig handed with
      | error error =>
          have unchecked :
              isInstanceName instanceName = false ∨
                ∃ error, backend.ownConfig handed = .error error :=
            .inr ⟨error, own⟩
          obtain ⟨failure, refusal⟩ := addInstance_eq_failed unchecked spaces
          rw [refusal]
          exact .refused failure unchecked
      | ok config =>
          rw [addInstance_eq valid own]
          cases secrets : (backend.secretsOf config).isEmpty with
          | true =>
              have run : AddRun backend spaces instanceName handed before _ :=
                .stored config valid own (.inl secrets)
              simpa [storeSecret, secrets] using run
          | false =>
              cases outage : before.outage? .putSecret with
              | some failure =>
                  have run :
                      AddRun backend spaces instanceName handed before _ :=
                    .unstored config failure valid own secrets outage
                  simpa [Program.run, Program.outcomeAfter,
                    Collaborators.putSecret, outage] using run
              | none =>
                  have run :
                      AddRun backend spaces instanceName handed before _ :=
                    .stored config valid own (.inr outage)
                  simpa [Program.run, Program.outcomeAfter, storeSecret,
                    secrets, Collaborators.putSecret, outage] using run

/-- A successful addition has stored its secret and applied its variables. -/
theorem addInstance_run_applied
    {backend : Backend}
    {spaces : NetworkSpaces}
    {instanceName : String}
    {handed : HandedConfig}
    {before : Collaborators}
    {deployment : DeploymentVariables}
    (added :
      ((backend.addInstance spaces instanceName handed).run before).result =
        .ok deployment) :
    let after :=
      ((backend.addInstance spaces instanceName handed).run
        before).collaborators
    ∃ config,
      isInstanceName instanceName = true ∧
      backend.ownConfig handed = .ok config ∧
      deployment =
        backend.variablesOf config instanceName
          (backend.storeSecret config instanceName before.secrets).1 spaces ∧
      Engine.apply backend.planName instanceName deployment.toJson
          before.engine =
        (.ok (), after.engine) ∧
      after.secrets =
        (backend.storeSecret config instanceName before.secrets).2 := by
  have ways := backend.addInstance_run spaces instanceName handed before
  generalize
    (backend.addInstance spaces instanceName handed).run before = outcome
    at ways added ⊢
  cases ways with
  | refused failure unchecked => cases added
  | unstored config failure valid own secret outage => cases added
  | stored config valid own available =>
      obtain ⟨built, called⟩ := applyConfig_run_ok added
      obtain ⟨applied, replaced⟩ := Collaborators.callEngine_eq_ok called
      refine ⟨config, valid, own, built, applied, ?_⟩
      rw [replaced]

/-- The ways in which a removal can run. -/
inductive RemoveRun
    (backend : Backend)
    (instanceName : String)
    (before : Collaborators) :
    Program.Outcome Unit → Prop where
  /-- The name is unsound. -/
  | refused
      (failure : Failure)
      (invalid : isInstanceName instanceName = false) :
      RemoveRun backend instanceName before ⟨.error failure, [], before⟩
  /-- The engine fails to destroy the instance. -/
  | undestroyed
      (failure : Failure)
      (after : Collaborators)
      (valid : isInstanceName instanceName = true)
      (called :
        before.destroy backend.planName instanceName =
          (.error failure, after)) :
      RemoveRun backend instanceName before ⟨.error failure, [], after⟩
  /-- The instance is destroyed, but its secret cannot be removed. -/
  | kept
      (failure : Failure)
      (after : Collaborators)
      (valid : isInstanceName instanceName = true)
      (called :
        before.destroy backend.planName instanceName = (.ok (), after))
      (outage : after.outage? .removeSecret = some failure) :
      RemoveRun backend instanceName before ⟨.error failure, [], after⟩
  /-- The instance is destroyed and its secret removed. -/
  | removed
      (after : Collaborators)
      (valid : isInstanceName instanceName = true)
      (called :
        before.destroy backend.planName instanceName = (.ok (), after))
      (available : after.outage? .removeSecret = none) :
      RemoveRun backend instanceName before
        ⟨.ok (), [backend.removedLine instanceName],
          { after with
            secrets :=
              after.secrets.remove (backend.secretName instanceName) }⟩

/-- Every removal runs in one of these ways. -/
theorem removeInstance_run
    (backend : Backend)
    (instanceName : String)
    (before : Collaborators) :
    RemoveRun backend instanceName before
      ((backend.removeInstance instanceName).run before) := by
  cases valid : isInstanceName instanceName with
  | false =>
      obtain ⟨failure, refusal⟩ := removeInstance_eq_failed backend valid
      rw [refusal]
      exact .refused failure valid
  | true =>
      rw [removeInstance_eq valid]
      simp only [Program.run]
      rcases called : before.destroy backend.planName instanceName with
        ⟨failure | done, after⟩
      · exact .undestroyed failure after valid called
      · simp only [Program.outcomeAfter, Collaborators.removeSecret]
        cases outage : after.outage? .removeSecret with
        | some failure => exact .kept failure after valid called outage
        | none => exact .removed after valid called outage

/-- A successful removal has destroyed the instance and dropped its secret. -/
theorem removeInstance_run_removed
    {backend : Backend}
    {instanceName : String}
    {before : Collaborators}
    {done : Unit}
    (removed :
      ((backend.removeInstance instanceName).run before).result =
        .ok done) :
    let after :=
      ((backend.removeInstance instanceName).run before).collaborators
    isInstanceName instanceName = true ∧
      Engine.destroy backend.planName instanceName before.engine =
        (.ok (), after.engine) ∧
      after.secrets =
        before.secrets.remove (backend.secretName instanceName) := by
  have ways := backend.removeInstance_run instanceName before
  generalize
    (backend.removeInstance instanceName).run before = outcome
    at ways removed ⊢
  cases ways with
  | refused failure invalid => cases removed
  | undestroyed failure after valid called => cases removed
  | kept failure after valid called outage => cases removed
  | removed after valid called available =>
      obtain ⟨destroyed, replaced⟩ := Collaborators.callEngine_eq_ok called
      refine ⟨valid, destroyed, ?_⟩
      rw [replaced]

end Backend

end StorageBackends
