import StorageBackends.Proofs.Lifecycle.Run

namespace StorageBackends

/-!
# Secrets left over by updates

An addition that sets a secret stores it under the name of its instance, and a
removal drops what is stored there. An addition that sets none refers to no
secret, but it does not touch the store either. After a run of successful
calls the store therefore agrees with the reference of the last addition,
except when that addition sets no secret and an earlier one did, with no
removal in between. The earlier credentials are then still there.
-/

namespace Call

/--
The content that an addition stores as the secret of the instance of some name
of the backend of some type.
-/
def stores?
    (call : Call)
    (backendType instanceName : String) :
    Option (Record String) :=
  match call with
  | register _ => none
  | add backend _ name handed =>
      if backend.backendType = backendType ∧ name = instanceName then
        (backend.secretContent handed).toOption.filter fun content =>
          !content.isEmpty
      else
        none
  | remove _ _ => none

/-- A call removes the instance of some name of the backend of some type. -/
def Removes (call : Call) (backendType instanceName : String) : Prop :=
  match call with
  | register _ => False
  | add _ _ _ _ => False
  | remove backend name =>
      backend.backendType = backendType ∧ name = instanceName

/-- A call neither stores a secret for an instance nor removes the instance. -/
def Spares (call : Call) (backendType instanceName : String) : Prop :=
  call.stores? backendType instanceName = none ∧
    ¬call.Removes backendType instanceName

end Call

/-- The attempts of a run all succeed. -/
inductive Succeeds : Collaborators → List Attempt → Prop where
  | nil (before : Collaborators) : Succeeds before []
  | cons
      (before : Collaborators)
      (attempt : Attempt)
      (rest : List Attempt)
      (result : Option DeploymentVariables)
      (succeeded : (attempt.run before).result = .ok result)
      (others : Succeeds (attempt.run before).collaborators rest) :
      Succeeds before (attempt :: rest)

/--
A history leaves a content for an instance: some addition stored it, and no
later call stored another or removed the instance.
-/
def Leaves
    (history : List Attempt)
    (backendType instanceName : String)
    (content : Record String) : Prop :=
  ∃ earlier addition later,
    history = earlier ++ addition :: later ∧
    addition.call.stores? backendType instanceName = some content ∧
    ∀ attempt ∈ later, attempt.call.Spares backendType instanceName

/-- What a history leaves, it left later or with its first attempt. -/
theorem leaves_cons_iff
    {attempt : Attempt}
    {rest : List Attempt}
    {backendType instanceName : String}
    {content : Record String} :
    Leaves (attempt :: rest) backendType instanceName content ↔
      Leaves rest backendType instanceName content ∨
        attempt.call.stores? backendType instanceName = some content ∧
          ∀ other ∈ rest, other.call.Spares backendType instanceName := by
  constructor
  · intro leaves
    obtain ⟨earlier, addition, later, split, stored, spared⟩ := leaves
    cases earlier with
    | nil =>
        obtain ⟨rfl, rfl⟩ := List.cons.inj split
        exact .inr ⟨stored, spared⟩
    | cons first between =>
        obtain ⟨-, behind⟩ := List.cons.inj split
        exact .inl ⟨between, addition, later, behind, stored, spared⟩
  · intro ways
    rcases ways with leaves | ⟨stored, spared⟩
    · obtain ⟨earlier, addition, later, split, stored, spared⟩ := leaves
      exact ⟨attempt :: earlier, addition, later,
        congrArg (attempt :: ·) split, stored, spared⟩
    · exact ⟨[], attempt, rest, rfl, stored, spared⟩

namespace Collaborators

/-- The content of the secret stored for an instance of a backend. -/
def content?
    (collaborators : Collaborators)
    (backend : Backend)
    (instanceName : String) :
    Option (Record String) :=
  (collaborators.secret? backend instanceName).map StoredSecret.content

end Collaborators

/-- An addition stores its content under its own instance, unless it is empty. -/
private theorem secret?_storeSecret_of_handed
    {backend other : Backend}
    (sound : isBackendType backend.backendType = true)
    (otherSound : isBackendType other.backendType = true)
    {handed : HandedConfig}
    {config : ValidatedConfig}
    (own : other.ownConfig handed = .ok config)
    (spaces : NetworkSpaces)
    (instanceName otherName : String)
    (store : SecretStore) :
    (other.storeSecret config otherName store).2.secret?
        (backend.secretName instanceName) =
      (((Call.add other spaces otherName handed).stores? backend.backendType
        instanceName).map fun content =>
          ⟨store.nextReference, content⟩).or
        (store.secret? (backend.secretName instanceName)) := by
  have supplied := Backend.secretContent_eq_ok own
  simp only [Call.stores?, supplied, Except.toOption]
  cases secret : (other.secretsOf config).isEmpty with
  | true =>
      rw [Backend.storeSecret_of_isEmpty secret]
      split <;> simp [Option.filter, secret]
  | false =>
      rw [Backend.storeSecret_of_secret secret, SecretStore.secret?_put]
      by_cases same :
          other.backendType = backend.backendType ∧ otherName = instanceName
      · have sameName :
            backend.secretName instanceName = other.secretName otherName :=
          ((Backend.secretName_inj otherSound sound).2 same).symm
        simp [Option.filter, secret, same, sameName]
      · have elsewhere :
            backend.secretName instanceName ≠ other.secretName otherName :=
          fun sameName =>
            same ((Backend.secretName_inj otherSound sound).1 sameName.symm)
        simp [same, elsewhere]

namespace Attempt

/-- What a successful attempt does to the secret of an instance. -/
inductive SecretRun
    (attempt : Attempt)
    (before : Collaborators)
    (backend : Backend)
    (instanceName : String) :
    Option StoredSecret → Prop where
  /-- It stores a content under a new reference. -/
  | stored
      (content : Record String)
      (stores :
        attempt.call.stores? backend.backendType instanceName =
          some content) :
      SecretRun attempt before backend instanceName
        (some ⟨before.secrets.nextReference, content⟩)
  /-- It removes the instance. -/
  | removed
      (storesNothing :
        attempt.call.stores? backend.backendType instanceName = none)
      (removes : attempt.call.Removes backend.backendType instanceName) :
      SecretRun attempt before backend instanceName none
  /-- It leaves the secret as it was. -/
  | spared
      (spares : attempt.call.Spares backend.backendType instanceName) :
      SecretRun attempt before backend instanceName
        (before.secret? backend instanceName)

variable
  {attempt : Attempt}
  {before : Collaborators}
  {result : Option DeploymentVariables}

private theorem secrets_run_add
    {other : Backend}
    {spaces : NetworkSpaces}
    {otherName : String}
    {handed : HandedConfig}
    (isAdd : attempt.call = .add other spaces otherName handed)
    (succeeded : (attempt.run before).result = .ok result) :
    ∃ config,
      other.ownConfig handed = .ok config ∧
      (attempt.run before).collaborators.secrets =
        (other.storeSecret config otherName before.secrets).2 ∧
      result =
        some
          (other.variablesOf config otherName
            (other.storeSecret config otherName before.secrets).1 spaces) := by
  rw [run_add isAdd] at succeeded ⊢
  obtain ⟨deployment, added, rfl⟩ :=
    Program.Outcome.map_result_eq_ok succeeded
  obtain ⟨config, -, own, built, -, secrets⟩ :=
    Backend.addInstance_run_applied added
  exact ⟨config, own, secrets, congrArg some built⟩

/--
An addition that gives back variables without a reference leaves the store as
it was; the reference of any others leads to the content of its configuration.
-/
theorem secret?_run_add
    {backend : Backend}
    {spaces : NetworkSpaces}
    {instanceName : String}
    {handed : HandedConfig}
    (isAdd : attempt.call = .add backend spaces instanceName handed)
    {deployment : DeploymentVariables}
    (added : (attempt.run before).result = .ok (some deployment)) :
    (deployment.secretRef = none ∧
        (attempt.run before).collaborators.secrets = before.secrets) ∨
      ∃ reference content,
        deployment.secretRef = some reference ∧
        backend.secretContent handed = .ok content ∧
        (attempt.run before).collaborators.secret? backend instanceName =
          some ⟨reference, content⟩ := by
  obtain ⟨config, own, secrets, built⟩ := secrets_run_add isAdd added
  rw [Option.some.inj built]
  unfold Collaborators.secret?
  cases secret : (backend.secretsOf config).isEmpty with
  | true =>
      rw [Backend.storeSecret_of_isEmpty secret] at secrets ⊢
      exact .inl ⟨by simp [Backend.variablesOf, secret], secrets⟩
  | false =>
      rw [Backend.storeSecret_of_secret secret] at secrets ⊢
      refine .inr ⟨before.secrets.nextReference, backend.secretsOf config,
        by simp [Backend.variablesOf, secret],
        Backend.secretContent_eq_ok own, ?_⟩
      rw [secrets, SecretStore.secret?_put, if_pos rfl]

/-- After an addition there is a secret if it refers to one or there was one. -/
theorem has_run_add_iff
    {backend : Backend}
    {spaces : NetworkSpaces}
    {instanceName : String}
    {handed : HandedConfig}
    (isAdd : attempt.call = .add backend spaces instanceName handed)
    {deployment : DeploymentVariables}
    (added : (attempt.run before).result = .ok (some deployment)) :
    (attempt.run before).collaborators.secrets.has
          (backend.secretName instanceName) = true ↔
      deployment.secretRef ≠ none ∨
        ∃ content, before.content? backend instanceName = some content := by
  rw [SecretStore.has_eq_isSome]
  rcases secret?_run_add isAdd added with
    ⟨unreferred, same⟩ | ⟨reference, content, refers, -, found⟩
  · simp [unreferred, same, Collaborators.content?, Collaborators.secret?,
      Option.isSome_iff_exists]
  · unfold Collaborators.secret? at found
    simp [refers, found]

private theorem secrets_run_remove
    {other : Backend}
    {otherName : String}
    (isRemove : attempt.call = .remove other otherName)
    (succeeded : (attempt.run before).result = .ok result) :
    (attempt.run before).collaborators.secrets =
      before.secrets.remove (other.secretName otherName) := by
  rw [run_remove isRemove] at succeeded ⊢
  obtain ⟨done, removed, -⟩ := Program.Outcome.map_result_eq_ok succeeded
  obtain ⟨-, -, secrets⟩ := Backend.removeInstance_run_removed removed
  exact secrets

/-- Every successful attempt does one of these to the secret of an instance. -/
theorem secretRun_of_succeeded
    (callSound : isBackendType attempt.call.backend.backendType = true)
    {backend : Backend}
    (sound : isBackendType backend.backendType = true)
    (instanceName : String)
    (succeeded : (attempt.run before).result = .ok result) :
    SecretRun attempt before backend instanceName
      ((attempt.run before).collaborators.secret? backend instanceName) := by
  cases called : attempt.call with
  | register other =>
      have unreached : Unreached backend instanceName [attempt] := by
        simp [Unreached, called, Call.reaches]
      have kept :
          (attempt.run before).collaborators.secret? backend instanceName =
            before.secret? backend instanceName :=
        (Collaborators.after_of_unreached sound (by simpa using callSound)
          unreached before).2
      rw [kept]
      refine .spared ⟨?_, ?_⟩
      · rw [called]
        rfl
      · rw [called]
        exact fun impossible => impossible
  | add other spaces otherName handed =>
      have otherSound : isBackendType other.backendType = true := by
        rwa [called] at callSound
      obtain ⟨config, own, secrets, -⟩ := secrets_run_add called succeeded
      unfold Collaborators.secret?
      rw [secrets,
        secret?_storeSecret_of_handed sound otherSound own spaces, ← called]
      cases stores :
          attempt.call.stores? backend.backendType instanceName with
      | some content => exact .stored content stores
      | none =>
          refine .spared ⟨stores, ?_⟩
          rw [called]
          exact fun impossible => impossible
  | remove other otherName =>
      have otherSound : isBackendType other.backendType = true := by
        rwa [called] at callSound
      unfold Collaborators.secret?
      rw [secrets_run_remove called succeeded, SecretStore.secret?_remove]
      by_cases same :
          other.backendType = backend.backendType ∧ otherName = instanceName
      · rw [if_pos ((Backend.secretName_inj otherSound sound).2 same).symm]
        refine .removed ?_ ?_
        · rw [called]
          rfl
        · rw [called]
          exact same
      · have elsewhere :
            backend.secretName instanceName ≠ other.secretName otherName :=
          fun sameName =>
            same ((Backend.secretName_inj otherSound sound).1 sameName.symm)
        rw [if_neg elsewhere]
        refine .spared ⟨?_, ?_⟩
        · rw [called]
          rfl
        · rw [called]
          exact same

/-- The content held for an instance was stored just now or has been spared. -/
theorem content?_run_iff
    (callSound : isBackendType attempt.call.backend.backendType = true)
    {backend : Backend}
    (sound : isBackendType backend.backendType = true)
    (instanceName : String)
    (succeeded : (attempt.run before).result = .ok result)
    (content : Record String) :
    (attempt.run before).collaborators.content? backend instanceName =
        some content ↔
      attempt.call.stores? backend.backendType instanceName = some content ∨
        attempt.call.Spares backend.backendType instanceName ∧
          before.content? backend instanceName = some content := by
  have ways := secretRun_of_succeeded callSound sound instanceName succeeded
  unfold Collaborators.content?
  generalize
    (attempt.run before).collaborators.secret? backend instanceName = after
    at ways
  cases ways with
  | stored found stores => simp [stores, Call.Spares]
  | removed storesNothing removes =>
      simp [storesNothing, Call.Spares, removes]
  | spared spares => simp [spares.1, spares]

end Attempt

namespace Collaborators

/-- After successful attempts an instance has what they left, or else what it had. -/
theorem content?_after_iff
    {backend : Backend}
    (sound : isBackendType backend.backendType = true)
    (instanceName : String)
    {attempts : List Attempt}
    (callsSound :
      ∀ attempt ∈ attempts,
        isBackendType attempt.call.backend.backendType = true)
    {before : Collaborators}
    (succeeds : Succeeds before attempts)
    (content : Record String) :
    (before.after attempts).content? backend instanceName = some content ↔
      Leaves attempts backend.backendType instanceName content ∨
        (∀ attempt ∈ attempts,
            attempt.call.Spares backend.backendType instanceName) ∧
          before.content? backend instanceName = some content := by
  induction succeeds with
  | nil before => simp [after, Leaves]
  | cons before attempt rest result succeeded others inductionHypothesis =>
      obtain ⟨callSound, restSound⟩ := List.forall_mem_cons.1 callsSound
      have first :=
        Attempt.content?_run_iff callSound sound instanceName succeeded content
      have behind := inductionHypothesis restSound
      rw [leaves_cons_iff, List.forall_mem_cons]
      refine behind.trans ?_
      rw [first]
      constructor
      · intro ways
        rcases ways with left | ⟨spared, stores | ⟨spares, had⟩⟩
        · exact .inl (.inl left)
        · exact .inl (.inr ⟨stores, spared⟩)
        · exact .inr ⟨⟨spares, spared⟩, had⟩
      · intro ways
        rcases ways with (left | ⟨stores, spared⟩) | ⟨⟨spares, spared⟩, had⟩
        · exact .inl left
        · exact .inr ⟨spared, .inl stores⟩
        · exact .inr ⟨spared, .inr ⟨spares, had⟩⟩

/-- A history that starts without secrets has what it left, and nothing else. -/
theorem content?_history_iff
    (supply : ReferenceSupply)
    (engine : Engine)
    {backend : Backend}
    (sound : isBackendType backend.backendType = true)
    (instanceName : String)
    {history : List Attempt}
    (callsSound :
      ∀ attempt ∈ history,
        isBackendType attempt.call.backend.backendType = true)
    (succeeds : Succeeds (.ofEngine supply engine) history)
    (content : Record String) :
    ((Collaborators.ofEngine supply engine).after history).content? backend
        instanceName = some content ↔
      Leaves history backend.backendType instanceName content := by
  have ways :=
    content?_after_iff sound instanceName callsSound succeeds content
  have startsEmpty :
      (Collaborators.ofEngine supply engine).content? backend
        instanceName = none := rfl
  simpa [startsEmpty] using ways

end Collaborators

/--
What the store holds for an instance after an addition that ends a history of
successful calls and gives back its variables.
-/
structure LeftoverLaw
    (start : Collaborators)
    (history : List Attempt)
    (addition : Attempt)
    (backend : Backend)
    (instanceName : String)
    (handed : HandedConfig)
    (deployment : DeploymentVariables) : Prop where
  /-- There is a secret if the variables refer to one or an old one is left. -/
  held :
    let after := (addition.run (start.after history)).collaborators
    after.secrets.has (backend.secretName instanceName) = true ↔
      deployment.secretRef ≠ none ∨
        ∃ content, Leaves history backend.backendType instanceName content
  /-- So the store and the reference disagree exactly on what is left over. -/
  agrees :
    let after := (addition.run (start.after history)).collaborators
    (after.secrets.has (backend.secretName instanceName) = true ↔
        deployment.secretRef ≠ none) ↔
      ¬(deployment.secretRef = none ∧
        ∃ content, Leaves history backend.backendType instanceName content)
  /-- A reference leads to the content of the configuration. -/
  referred :
    ∀ {reference},
      deployment.secretRef = some reference →
      ∃ content,
        backend.secretContent handed = .ok content ∧
        (addition.run (start.after history)).collaborators.secret? backend
          instanceName = some ⟨reference, content⟩
  /-- Without a reference, what the history left can still be looked up. -/
  leftOver :
    deployment.secretRef = none →
    ∀ {content},
      Leaves history backend.backendType instanceName content →
      ∃ reference,
        (start.after history).secret? backend instanceName =
          some ⟨reference, content⟩ ∧
        (addition.run (start.after history)).collaborators.secrets.resolve?
          reference = some content

/-- The law of leftover secrets holds after all runs of successful calls. -/
theorem after_leftoverLaw
    (supply : ReferenceSupply)
    (engine : Engine)
    {history : List Attempt}
    (callsSound :
      ∀ attempt ∈ history,
        isBackendType attempt.call.backend.backendType = true)
    (succeeds : Succeeds (.ofEngine supply engine) history)
    {backend : Backend}
    (sound : isBackendType backend.backendType = true)
    {addition : Attempt}
    {spaces : NetworkSpaces}
    {instanceName : String}
    {handed : HandedConfig}
    (isAdd : addition.call = .add backend spaces instanceName handed)
    {deployment : DeploymentVariables}
    (added :
      (addition.run
          ((Collaborators.ofEngine supply engine).after history)).result =
        .ok (some deployment)) :
    LeftoverLaw (.ofEngine supply engine) history addition backend
      instanceName handed deployment := by
  have left :=
    Collaborators.content?_history_iff supply engine sound instanceName callsSound
      succeeds
  have storeSound :
      ((Collaborators.ofEngine supply engine).after
        (history ++ [addition])).secrets.Sound :=
    Collaborators.sound_after (SecretStore.sound_empty supply) _
  rw [Collaborators.after_append] at storeSound
  have ways := Attempt.secret?_run_add isAdd added
  have held := Attempt.has_run_add_iff isAdd added
  rw [exists_congr left] at held
  constructor
  case held => exact held
  case agrees =>
    intro after
    rw [held]
    by_cases refers : deployment.secretRef = none <;> simp [refers]
  case referred =>
    intro reference refers
    rcases ways with
      ⟨unreferred, -⟩ | ⟨given, content, gives, supplied, found⟩
    · rw [unreferred] at refers
      cases refers
    · rw [gives] at refers
      cases refers
      exact ⟨content, supplied, found⟩
  case leftOver =>
    intro unreferred found leaves
    obtain ⟨⟨reference, kept⟩, stored, rfl⟩ :=
      Option.map_eq_some_iff.1 ((left found).2 leaves)
    rcases ways with ⟨-, same⟩ | ⟨given, content, gives, -⟩
    · have sameStore :
          (((Collaborators.ofEngine supply engine).after history).after
            [addition]).secrets =
            ((Collaborators.ofEngine supply engine).after history).secrets :=
        same
      refine ⟨reference, stored, storeSound.resolve?_eq_some_iff.2
        ⟨backend.secretName instanceName, ?_⟩⟩
      rw [sameStore]
      exact stored
    · rw [unreferred] at gives
      cases gives

/-- A backend whose only option is a secret that may be left out. -/
def tokenArray : Backend :=
  .ofSound "tokenarray" "Token Array"
    [("token", (FieldSpec.text "Access token" false none none).markSecret
      "token")]
    (by decide)

/-- The configuration of that backend that a raw one is accepted as. -/
def tokenConfig (raw : RawConfig) : HandedConfig :=
  .issued (tokenArray.schema.configOf raw)

/-- A run that adds an instance with a token. -/
def tokenRun : List Attempt :=
  [⟨.register tokenArray, []⟩,
    ⟨.add tokenArray .default "ta" (tokenConfig [("token", .str "old")]), []⟩]

/-- An update of that instance that gives the token up. -/
def tokenlessUpdate : Attempt where
  call := .add tokenArray .default "ta" (tokenConfig [])
  outages := []

private theorem tokenRun_succeeds :
    Succeeds (.ofEngine .numbered (.memory MemoryEngine.empty)) tokenRun :=
  .cons _ _ _ none rfl (.cons _ _ _ _ rfl (.nil _))

/-- The old token can still be looked up after that update. -/
theorem after_leftoverLaw_tokenless :
    let before :=
      (Collaborators.ofEngine .numbered (.memory MemoryEngine.empty)).after
        tokenRun
    let after := (tokenlessUpdate.run before).collaborators
    ∃ reference deployment,
      (tokenlessUpdate.run before).result = .ok (some deployment) ∧
      deployment.secretRef = none ∧
      after.secrets.resolve? reference = some [("token", "old")] := by
  have callsSound :
      ∀ attempt ∈ tokenRun,
        isBackendType attempt.call.backend.backendType = true := by
    decide +kernel
  have sound : isBackendType tokenArray.backendType = true := by
    decide +kernel
  have law :
      LeftoverLaw (.ofEngine .numbered (.memory MemoryEngine.empty)) tokenRun
        tokenlessUpdate tokenArray "ta" (tokenConfig []) _ :=
    after_leftoverLaw _ _ callsSound tokenRun_succeeds sound rfl rfl
  have leaves :
      Leaves tokenRun tokenArray.backendType "ta" [("token", "old")] := by
    refine ⟨tokenRun.take 1, tokenRun[1], [], rfl, by decide +kernel, ?_⟩
    intro attempt listed
    cases listed
  obtain ⟨reference, -, resolved⟩ := law.leftOver rfl leaves
  exact ⟨reference, _, rfl, rfl, resolved⟩

/--
The update succeeds with accepted configurations and refers to no secret, but
the store has one under the name of its instance.
-/
theorem tokenlessUpdate_keeps_secret :
    let before :=
      (Collaborators.ofEngine .numbered (.memory MemoryEngine.empty)).after
        tokenRun
    (∃ config,
      tokenArray.schema.validate [("token", .str "old")] = .accepted config ∧
      tokenConfig [("token", .str "old")] = .issued config) ∧
    (∃ config,
      tokenArray.schema.validate [] = .accepted config ∧
      tokenConfig [] = .issued config) ∧
    Succeeds (.ofEngine .numbered (.memory MemoryEngine.empty)) tokenRun ∧
    ∃ deployment,
      (tokenlessUpdate.run before).result = .ok (some deployment) ∧
      deployment.secretRef = none ∧
      (tokenlessUpdate.run before).collaborators.secrets.has
        (tokenArray.secretName "ta") = true := by
  intro before
  refine ⟨⟨_, rfl, rfl⟩, ⟨_, rfl, rfl⟩, tokenRun_succeeds, _, rfl, rfl, ?_⟩
  decide +kernel

end StorageBackends
