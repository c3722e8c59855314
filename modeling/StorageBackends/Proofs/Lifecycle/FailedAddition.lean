import StorageBackends.Proofs.Lifecycle.Run

namespace StorageBackends

/-!
# Additions that fail

An addition has an effect on the secret store before it has one on the engine,
and neither is taken back. A failed addition has therefore left the engine as
it was, but if the engine was what failed, the secret of the instance has been
replaced: the reference that the engine still holds leads nowhere then. No
other reference is affected.
-/

namespace Backend

/-- Why an addition comes to its end without storing a secret. -/
def StoresNothing
    (backend : Backend)
    (instanceName : String)
    (handed : HandedConfig)
    (outages : List (Operation × String)) : Prop :=
  isInstanceName instanceName = false ∨
    (∃ error, backend.secretContent handed = .error error) ∨
    backend.secretContent handed = .ok [] ∨
    (outages.lookup .putSecret).isSome = true

/-- A failed addition has stored its secret, or had a reason not to. -/
theorem addInstance_run_error
    {backend : Backend}
    {spaces : NetworkSpaces}
    {instanceName : String}
    {handed : HandedConfig}
    {before : Collaborators}
    {failure : Failure}
    (failed :
      ((backend.addInstance spaces instanceName handed).run before).result =
        .error failure) :
    ∃ secrets,
      ((backend.addInstance spaces instanceName handed).run
        before).collaborators = { before with secrets := secrets } ∧
      (secrets = before.secrets ∧
          backend.StoresNothing instanceName handed before.outages ∨
        ∃ content,
          backend.secretContent handed = .ok content ∧
          ¬backend.StoresNothing instanceName handed before.outages ∧
          secrets =
            (before.secrets.put (backend.secretName instanceName)
              content).2) := by
  have ways := backend.addInstance_run spaces instanceName handed before
  generalize
    (backend.addInstance spaces instanceName handed).run before = outcome
    at ways failed ⊢
  cases ways with
  | refused failure unchecked =>
      refine ⟨before.secrets, rfl, .inl ⟨rfl, ?_⟩⟩
      rcases unchecked with invalid | ⟨error, foreign⟩
      · exact .inl invalid
      · exact .inr (.inl ⟨error, secretContent_eq_error foreign⟩)
  | unstored config failure valid own secret outage =>
      obtain ⟨message, armed, -⟩ := Option.map_eq_some_iff.1 outage
      have armed : (before.outages.lookup .putSecret).isSome = true :=
        Option.isSome_of_eq_some armed
      exact ⟨before.secrets, rfl, .inl ⟨rfl, .inr (.inr (.inr armed))⟩⟩
  | stored config valid own available =>
      have content := secretContent_eq_ok own
      refine ⟨(backend.storeSecret config instanceName before.secrets).2,
        applyConfig_run_error failed, ?_⟩
      cases secret : (backend.secretsOf config).isEmpty with
      | true =>
          rw [storeSecret_of_isEmpty secret]
          rw [List.isEmpty_iff.1 secret] at content
          exact .inl ⟨rfl, .inr (.inr (.inl content))⟩
      | false =>
          rw [storeSecret_of_secret secret]
          refine .inr ⟨backend.secretsOf config, content, ?_, rfl⟩
          have inOrder : before.outages.lookup .putSecret = none :=
            Option.map_eq_none_iff.1
              (available.resolve_left (by simp [secret]))
          rintro (invalid | ⟨error, foreign⟩ | empty | armed)
          · simp [valid] at invalid
          · simp [content] at foreign
          · rw [content] at empty
            rw [Except.ok.inj empty] at secret
            cases secret
          · rw [inOrder] at armed
            cases armed

end Backend

/-- What a failed attempt to add an instance has left behind. -/
structure FailedAdditionLaw
    (before : Collaborators)
    (attempt : Attempt)
    (backend : Backend)
    (instanceName : String)
    (handed : HandedConfig) : Prop where
  /-- The engine is as it was. -/
  engine : (attempt.run before).collaborators.engine = before.engine
  /-- So is the store, if the attempt had a reason to store nothing. -/
  unstored :
    backend.StoresNothing instanceName handed attempt.outages →
    (attempt.run before).collaborators.secrets = before.secrets
  /-- Otherwise the store is as writing the secret has left it. -/
  stored :
    ¬backend.StoresNothing instanceName handed attempt.outages →
    ∃ content,
      backend.secretContent handed = .ok content ∧
      (attempt.run before).collaborators.secrets =
        (before.secrets.put (backend.secretName instanceName) content).2
  /-- In any case the references of other secrets lead where they led. -/
  resolves :
    ∀ {reference content},
      before.secrets.resolve? reference = some content →
      before.secrets.reference? (backend.secretName instanceName) ≠
        some reference →
      (attempt.run before).collaborators.secrets.resolve? reference =
        some content

/-- The law of failed additions holds in every state that a run reaches. -/
theorem after_failedAdditionLaw
    (supply : ReferenceSupply)
    (engine : Engine)
    (history : List Attempt)
    {attempt : Attempt}
    {backend : Backend}
    {spaces : NetworkSpaces}
    {instanceName : String}
    {handed : HandedConfig}
    (isAdd : attempt.call = .add backend spaces instanceName handed)
    {failure : Failure}
    (failed :
      (attempt.run
          ((Collaborators.ofEngine supply engine).after history)).result =
        .error failure) :
    FailedAdditionLaw ((Collaborators.ofEngine supply engine).after history)
      attempt backend instanceName handed := by
  have sound :
      ((Collaborators.ofEngine supply engine).after history).secrets.Sound :=
    Collaborators.sound_after (SecretStore.sound_empty supply) history
  generalize (Collaborators.ofEngine supply engine).after history = before
    at failed sound ⊢
  rw [Attempt.run_add isAdd] at failed
  obtain ⟨secrets, left, ways⟩ :=
    Backend.addInstance_run_error
      (Program.Outcome.map_result_eq_error failed)
  have leaves :
      (attempt.run before).collaborators =
        { before with outages := attempt.outages, secrets := secrets } := by
    rw [Attempt.run_add isAdd]
    exact left
  constructor
  case engine => rw [leaves]
  case unstored =>
    intro reason
    rw [leaves]
    rcases ways with ⟨kept, -⟩ | ⟨content, supplied, noReason, written⟩
    · exact kept
    · exact absurd reason noReason
  case stored =>
    intro noReason
    rw [leaves]
    rcases ways with ⟨kept, reason⟩ | ⟨content, supplied, -, written⟩
    · exact absurd reason noReason
    · exact ⟨content, supplied, written⟩
  case resolves =>
    intro reference found resolved elsewhere
    rw [leaves]
    rcases ways with ⟨kept, -⟩ | ⟨content, supplied, -, written⟩
    · rw [kept]
      exact resolved
    · have old : reference ≠ before.secrets.nextReference := by
        obtain ⟨name, stored⟩ := sound.resolve?_eq_some_iff.1 resolved
        exact (sound.issuedBefore stored).ne_nextReference
      rw [written, sound.resolve?_put, if_neg old, if_neg elsewhere]
      exact resolved

/-- A run that adds an instance of the PowerStore. -/
def addingRun : List Attempt :=
  let backend := Catalogue.dellPowerStore
  [⟨.register backend, []⟩,
    ⟨.add backend .default "ps" (powerStoreConfig "old"), []⟩]

/-- An update of that instance that the engine fails to apply. -/
def failingUpdate : Attempt where
  call := .add Catalogue.dellPowerStore .default "ps" (powerStoreConfig "new")
  outages := [(.apply, "engine unreachable")]

/-- The failing update leaves the engine alone but has stored its secret. -/
theorem after_failedAdditionLaw_failingUpdate :
    let before :=
      (Collaborators.ofEngine .numbered (.memory MemoryEngine.empty)).after
        addingRun
    let left := (failingUpdate.run before).collaborators
    left.engine = before.engine ∧
      ∃ content,
        Catalogue.dellPowerStore.secretContent (powerStoreConfig "new") =
          .ok content ∧
        left.secrets =
          (before.secrets.put "dellpowerstore-ps" content).2 := by
  intro before left
  have failed :
      (failingUpdate.run before).result =
        .error (.collaborator "engine unreachable") := rfl
  have law := after_failedAdditionLaw _ _ addingRun rfl failed
  refine ⟨law.engine, law.stored ?_⟩
  rintro (invalid | ⟨error, foreign⟩ | empty | armed)
  · exact absurd invalid (by decide +kernel)
  · cases foreign
  · cases empty
  · cases armed

/-- The applied reference led to the old secret and now leads nowhere. -/
theorem failingUpdate_loses_secret :
    let before :=
      (Collaborators.ofEngine .numbered (.memory MemoryEngine.empty)).after
        addingRun
    let left := (failingUpdate.run before).collaborators
    (failingUpdate.run before).result =
        .error (.collaborator "engine unreachable") ∧
      (∃ deployment,
        left.variables? Catalogue.dellPowerStore "ps" =
          some (DeploymentVariables.toJson deployment) ∧
        deployment.secretRef = some "secret:#1") ∧
      before.secrets.resolve? "secret:#1" =
        some
          [("san-ip", "192.0.2.1"),
            ("san-username", "admin"),
            ("san-password", "old")] ∧
      left.secrets.resolve? "secret:#1" = none := by
  refine ⟨rfl, ⟨_, rfl, ?_⟩, ?_, ?_⟩
  · decide +kernel
  · decide +kernel
  · decide +kernel

end StorageBackends
