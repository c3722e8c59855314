import StorageBackends.Proofs.Lifecycle.Run

namespace StorageBackends

/-!
# The last writer of an instance

After any run of calls, whatever was out of order during it, what is held for
an instance is decided by the last call that reached it. If that was a
successful addition, the engine holds the variables of its configuration and
their reference leads to the secret of that configuration; if it was a
successful removal, nothing is left. All other calls are without effect on
the instance.
-/

namespace Backend

/-- A successful addition has recorded its variables and stored its secret. -/
theorem addInstance_run_ok
    {backend : Backend}
    {spaces : NetworkSpaces}
    {instanceName : String}
    {handed : HandedConfig}
    {before : Collaborators}
    (memory : before.engine.isMemory = true)
    {deployment : DeploymentVariables}
    (added :
      ((backend.addInstance spaces instanceName handed).run before).result =
        .ok deployment) :
    ∃ config,
      backend.ownConfig handed = .ok config ∧
      deployment =
        backend.variablesOf config instanceName
          (backend.storeSecret config instanceName before.secrets).1 spaces ∧
      ((backend.addInstance spaces instanceName handed).run
        before).collaborators.variables? backend instanceName =
          some deployment.toJson ∧
      ((backend.addInstance spaces instanceName handed).run
        before).collaborators.secrets =
          (backend.storeSecret config instanceName before.secrets).2 := by
  obtain ⟨config, valid, own, built, applied, stored⟩ :=
    addInstance_run_applied added
  have recorded := Engine.recorded?_apply_of_ok memory applied
  exact ⟨config, own, built, recorded, stored⟩

/-- A successful removal has left neither variables nor a secret. -/
theorem removeInstance_run_ok
    {backend : Backend}
    {instanceName : String}
    {before : Collaborators}
    {done : Unit}
    (removed :
      ((backend.removeInstance instanceName).run before).result =
        .ok done) :
    Collaborators.Holds backend instanceName none none
      ((backend.removeInstance instanceName).run before).collaborators := by
  obtain ⟨valid, destroyed, dropped⟩ := removeInstance_run_removed removed
  constructor
  · have gone :=
      Engine.recorded?_destroy_self before.engine backend.planName
        instanceName
    rw [destroyed] at gone
    exact gone
  · unfold Collaborators.secret?
    rw [dropped]
    exact (SecretStore.secret?_remove _ _ _).trans (if_pos rfl)

end Backend

namespace Attempt

theorem run_add_ok
    {attempt : Attempt}
    {backend : Backend}
    {spaces : NetworkSpaces}
    {instanceName : String}
    {handed : HandedConfig}
    (isAdd : attempt.call = .add backend spaces instanceName handed)
    {before : Collaborators}
    (memory : before.engine.isMemory = true)
    {result : Option DeploymentVariables}
    (succeeded : (attempt.run before).result = .ok result) :
    ∃ config deployment,
      result = some deployment ∧
      backend.ownConfig handed = .ok config ∧
      deployment =
        backend.variablesOf config instanceName
          (backend.storeSecret config instanceName before.secrets).1 spaces ∧
      (attempt.run before).collaborators.variables? backend instanceName =
        some deployment.toJson ∧
      (attempt.run before).collaborators.secrets =
        (backend.storeSecret config instanceName before.secrets).2 := by
  rw [run_add isAdd] at succeeded ⊢
  obtain ⟨deployment, ended, returned⟩ :=
    Program.Outcome.map_result_eq_ok succeeded
  have armedMemory :
      ({ before with outages := attempt.outages } :
        Collaborators).engine.isMemory = true := memory
  obtain ⟨config, own, built, recorded, stored⟩ :=
    Backend.addInstance_run_ok armedMemory ended
  exact ⟨config, deployment, returned.symm, own, built, recorded, stored⟩

theorem run_remove_ok
    {attempt : Attempt}
    {backend : Backend}
    {instanceName : String}
    (isRemove : attempt.call = .remove backend instanceName)
    {before : Collaborators}
    {result : Option DeploymentVariables}
    (succeeded : (attempt.run before).result = .ok result) :
    Collaborators.Holds backend instanceName none none
      (attempt.run before).collaborators := by
  rw [run_remove isRemove] at succeeded ⊢
  obtain ⟨done, ended, -⟩ := Program.Outcome.map_result_eq_ok succeeded
  exact Backend.removeInstance_run_ok ended

end Attempt

/--
What is held for an instance after a run, by the last attempt that reached it.

Backends are told apart by their types. An attempt reaches an instance when it
is made on that very instance and gets past its argument checks, whether the
collaborators then do what they are asked or fail.
-/
structure LastWriterLaw
    (start : Collaborators)
    (attempts : List Attempt)
    (backend : Backend)
    (instanceName : String) : Prop where
  /-- Attempts elsewhere, or refused, change nothing. -/
  isolated :
    ∀ {earlier later},
      attempts = earlier ++ later →
      Unreached backend instanceName later →
      Collaborators.Holds backend instanceName
        ((start.after earlier).variables? backend instanceName)
        ((start.after earlier).secret? backend instanceName)
        (start.after attempts)
  /-- An instance that was never reached has neither variables nor a secret. -/
  unreached :
    Unreached backend instanceName attempts →
    Collaborators.Holds backend instanceName none none
      (start.after attempts)
  /-- A successful addition has left its variables and its secret. -/
  added :
    ∀ {earlier last later spaces handed result},
      attempts = earlier ++ last :: later →
      Unreached backend instanceName later →
      last.call = .add backend spaces instanceName handed →
      (last.run (start.after earlier)).result = .ok result →
      ∃ content deployment,
        result = some deployment ∧
        backend.secretContent handed = .ok content ∧
        backend.buildVariables handed instanceName
            (if content.isEmpty then
              none
            else
              some
                ((start.after earlier).secrets.put
                  (backend.secretName instanceName) content).1)
            spaces =
          .ok deployment ∧
        (start.after attempts).variables? backend instanceName =
          some deployment.toJson ∧
        (content.isEmpty = false →
          ∃ reference,
            deployment.secretRef = some reference ∧
            (start.after attempts).secrets.resolve? reference =
              some content)
  /-- A successful removal has left neither variables nor a secret. -/
  removed :
    ∀ {earlier last later result},
      attempts = earlier ++ last :: later →
      Unreached backend instanceName later →
      last.call = .remove backend instanceName →
      (last.run (start.after earlier)).result = .ok result →
      (start.after attempts).variables? backend instanceName = none ∧
        (start.after attempts).secrets.has
            (backend.secretName instanceName) =
          false

/-- What the last attempt to reach an instance left is there after the run. -/
private theorem holds_after_last
    (start : Collaborators)
    {backend : Backend}
    (sound : isBackendType backend.backendType = true)
    {instanceName : String}
    {attempts earlier later : List Attempt}
    {last : Attempt}
    (callsSound :
      ∀ attempt ∈ attempts,
        isBackendType attempt.call.backend.backendType = true)
    (split : attempts = earlier ++ last :: later)
    (unreached : Unreached backend instanceName later) :
    let left := (last.run (start.after earlier)).collaborators
    Collaborators.Holds backend instanceName
      (left.variables? backend instanceName)
      (left.secret? backend instanceName)
      (start.after attempts) := by
  subst split
  rw [Collaborators.after_append]
  exact Collaborators.after_of_unreached sound
    (fun attempt listed => callsSound attempt (by simp [listed])) unreached
    (last.run (start.after earlier)).collaborators

/-- The last-writer law holds after every run over a recording engine. -/
theorem after_lastWriterLaw
    (supply : ReferenceSupply)
    (plans : Record Json)
    {attempts : List Attempt}
    (callsSound :
      ∀ attempt ∈ attempts,
        isBackendType attempt.call.backend.backendType = true)
    {backend : Backend}
    (sound : isBackendType backend.backendType = true)
    (instanceName : String) :
    LastWriterLaw
      (.ofEngine supply (.memory { plans := plans, applied := [] }))
      attempts backend instanceName := by
  generalize begun :
    Collaborators.ofEngine supply (.memory { plans := plans, applied := [] }) =
      start
  have storeSound : ∀ attempts, (start.after attempts).secrets.Sound :=
    Collaborators.sound_after (begun ▸ SecretStore.sound_empty supply)
  have memory : ∀ attempts, (start.after attempts).engine.isMemory = true :=
    Collaborators.isMemory_after (begun ▸ rfl)
  constructor
  case isolated =>
    intro earlier later split unreached
    subst split
    rw [Collaborators.after_append]
    exact Collaborators.after_of_unreached sound
      (fun attempt listed => callsSound attempt (by simp [listed])) unreached
      (start.after earlier)
  case unreached =>
    intro unreached
    subst begun
    exact Collaborators.after_of_unreached sound callsSound unreached _
  case added =>
    intro earlier last later spaces handed result split unreached isAdd
      succeeded
    obtain ⟨recordedThen, secretThen⟩ :=
      holds_after_last start sound callsSound split unreached
    obtain ⟨config, deployment, returned, own, built, recorded, stored⟩ :=
      Attempt.run_add_ok isAdd (memory earlier) succeeded
    refine ⟨backend.secretsOf config, deployment, returned,
      Backend.secretContent_eq_ok own, ?_, recordedThen.trans recorded, ?_⟩
    · rw [built, Backend.storeSecret_fst]
      refine Backend.buildVariables_eq_ok own ?_ instanceName spaces
      intro noReference
      cases secrets : (backend.secretsOf config).isEmpty with
      | true => rfl
      | false => simp [secrets] at noReference
    · intro nonempty
      rw [Backend.storeSecret_of_secret nonempty] at built stored
      refine ⟨(start.after earlier).secrets.nextReference, ?_, ?_⟩
      · rw [built]
        exact if_neg (by simp [nonempty])
      · refine (storeSound attempts).resolve?_eq_some_iff.2
          ⟨backend.secretName instanceName, ?_⟩
        refine secretThen.trans ?_
        unfold Collaborators.secret?
        rw [stored, SecretStore.secret?_put]
        exact if_pos rfl
  case removed =>
    intro earlier last later result split unreached isRemove succeeded
    obtain ⟨recordedThen, secretThen⟩ :=
      holds_after_last start sound callsSound split unreached
    obtain ⟨noVariables, noSecret⟩ :=
      Attempt.run_remove_ok isRemove succeeded
    refine ⟨recordedThen.trans noVariables, ?_⟩
    rw [SecretStore.has_eq_isSome]
    exact congrArg Option.isSome (secretThen.trans noSecret)

/-- A run that updates an instance and then fails to remove its neighbour. -/
def updateRun : List Attempt :=
  let backend := Catalogue.dellPowerStore
  [⟨.register backend, []⟩,
    ⟨.add backend .default "ps" (powerStoreConfig "old"), []⟩,
    ⟨.add backend .default "ps" (powerStoreConfig "new"), []⟩,
    ⟨.remove backend "ps-other", [(.destroy, "engine unreachable")]⟩]

/-- After an update the applied reference leads to the new password. -/
theorem after_lastWriterLaw_updateRun :
    let final :=
      (Collaborators.ofEngine .numbered (.memory MemoryEngine.empty)).after
        updateRun
    ∃ reference deployment,
      final.variables? Catalogue.dellPowerStore "ps" =
        some (DeploymentVariables.toJson deployment) ∧
      deployment.secretRef = some reference ∧
      final.secrets.resolve? reference =
        some
          [("san-ip", "192.0.2.1"),
            ("san-username", "admin"),
            ("san-password", "new")] := by
  have callsSound :
      ∀ attempt ∈ updateRun,
        isBackendType attempt.call.backend.backendType = true := by
    decide +kernel
  have sound :
      isBackendType Catalogue.dellPowerStore.backendType = true := by
    decide +kernel
  have law := after_lastWriterLaw .numbered [] callsSound sound "ps"
  have split :
      updateRun = updateRun.take 2 ++ updateRun[2] :: updateRun.drop 3 := rfl
  have unreached :
      Unreached Catalogue.dellPowerStore "ps" (updateRun.drop 3) := by
    unfold Unreached
    decide +kernel
  obtain ⟨content, deployment, -, stored, -, recorded, resolves⟩ :=
    law.added split unreached rfl rfl
  have contentIs :
      content =
        [("san-ip", "192.0.2.1"),
          ("san-username", "admin"),
          ("san-password", "new")] := by
    cases stored
    decide +kernel
  subst contentIs
  obtain ⟨reference, secretRef, resolved⟩ := resolves rfl
  exact ⟨reference, deployment, recorded, secretRef, resolved⟩

end StorageBackends
