import StorageBackends.Proofs.Lifecycle.Call
import StorageBackends.Proofs.Names
import StorageBackends.Proofs.Schema.Secrecy

namespace StorageBackends

/-!
# Additions that differ in secret values

The variables of configurations that differ in secret values are the same, and
their secret contents have the same keys. Their additions are therefore the
same programs up to the content that they store, and no outcome depends on
what is stored: collaborators that differ in stored contents only answer every
call in the same way and stay so.
-/

namespace Backend

/-- A backend whose protocol and plain options are read apart from secrets. -/
structure KeepsSecrets (backend : Backend) : Prop where
  apart : backend.schema.KeepsApart
  protocol :
    ∀ field ∈ backend.schema.fields,
      field.name = protocolField → field.isSecret = false

instance (backend : Backend) : Decidable backend.KeepsSecrets :=
  decidable_of_iff
    (backend.schema.KeepsApart ∧
      ∀ field ∈ backend.schema.fields,
        field.name = protocolField → field.isSecret = false)
    ⟨fun ⟨apart, protocol⟩ => ⟨apart, protocol⟩,
      fun ⟨apart, protocol⟩ => ⟨apart, protocol⟩⟩

variable
  {backend : Backend}
  {config other : ValidatedConfig}

/-- Bindings do not depend on secrets, for the protocol is none. -/
theorem bindingsOf_sameButSecrets
    (keeps : backend.KeepsSecrets)
    (same : backend.schema.SameButSecrets config other)
    (spaces : NetworkSpaces) :
    bindingsOf config spaces = bindingsOf other spaces := by
  unfold bindingsOf
  rw [same.plain protocolField keeps.protocol]

/-- Options do not depend on secrets. -/
theorem optionsOf_sameButSecrets
    (same : backend.schema.SameButSecrets config other)
    (instanceName : String) :
    backend.optionsOf config instanceName =
      backend.optionsOf other instanceName := by
  unfold optionsOf
  congr 2
  refine List.filterMap_congr fun field listed => ?_
  cases secret : field.isSecret with
  | true => rfl
  | false => rw [same.get?_of_plain listed secret]

/-- Secret contents have the same keys in the same order. -/
theorem keys_secretsOf_sameButSecrets
    (same : backend.schema.SameButSecrets config other) :
    Record.keys (backend.secretsOf config) =
      Record.keys (backend.secretsOf other) := by
  -- The keys are those of the contents with every value forgotten.
  have forgotten :
      Record.mapValues (fun _ => ()) (backend.secretsOf config) =
        Record.mapValues (fun _ => ()) (backend.secretsOf other) := by
    unfold secretsOf
    rw [Record.mapValues_ofAssignments, Record.mapValues_ofAssignments,
      List.map_filterMap, List.map_filterMap]
    congr 1
    refine List.filterMap_congr fun field listed => ?_
    cases keyed : field.secretKey with
    | none => rfl
    | some key =>
        have secret : field.isSecret = true := by
          simp [ConfigField.isSecret, keyed]
        have sameShape := same.map_get?_of_secret listed secret (key, ())
        cases found : config.get? field.name <;>
          cases otherFound : other.get? field.name <;>
          simp_all
  rw [← Record.keys_mapValues (fun _ => ()) (backend.secretsOf config),
    forgotten, Record.keys_mapValues]

/-- Whether a secret is set does not depend on what it is. -/
theorem isEmpty_secretsOf_sameButSecrets
    (same : backend.schema.SameButSecrets config other) :
    (backend.secretsOf config).isEmpty =
      (backend.secretsOf other).isEmpty := by
  have sameKeys := keys_secretsOf_sameButSecrets same
  cases found : backend.secretsOf config <;>
    cases otherFound : backend.secretsOf other <;>
    simp_all

/-- The variables of an instance do not depend on its secrets. -/
theorem variablesOf_sameButSecrets
    (keeps : backend.KeepsSecrets)
    (same : backend.schema.SameButSecrets config other)
    (instanceName : String)
    (secretRef : Option String)
    (spaces : NetworkSpaces) :
    backend.variablesOf config instanceName secretRef spaces =
      backend.variablesOf other instanceName secretRef spaces := by
  simp only [variablesOf, bindingsOf_sameButSecrets keeps same,
    optionsOf_sameButSecrets same, isEmpty_secretsOf_sameButSecrets same]

end Backend

namespace Registry

/-- Every backend of a registry keeps its secrets apart. -/
def KeepsSecrets (registry : Registry) : Prop :=
  ∀ backend ∈ registry.backends, backend.KeepsSecrets

/-- The built-in backends keep their secrets. -/
theorem keepsSecrets_builtin : builtin.KeepsSecrets := by
  unfold KeepsSecrets
  decide +kernel

end Registry

namespace Program

variable {α : Type}

/-- Programs that differ in the content that they store first, if at all. -/
inductive Alike : Program α → Program α → Prop where
  | same (program : Program α) : Alike program program
  | putSecret
      (name : String)
      (content other : Record String)
      (next : String → Program α) :
      Alike (.putSecret name content next) (.putSecret name other next)

end Program

namespace Backend

/-- Configurations that differ in secret values make alike additions. -/
theorem addInstance_alike
    {backend : Backend}
    (keeps : backend.KeepsSecrets)
    {config other : ValidatedConfig}
    (same : backend.schema.SameButSecrets config other)
    (spaces : NetworkSpaces)
    (instanceName : String) :
    (backend.addInstance spaces instanceName (.issued config)).Alike
      (backend.addInstance spaces instanceName (.issued other)) := by
  have sameApplication : ∀ secretRef,
      backend.applyConfig config instanceName secretRef spaces =
        backend.applyConfig other instanceName secretRef spaces := by
    intro secretRef
    simp only [applyConfig, variablesOf_sameButSecrets keeps same,
      keys_secretsOf_sameButSecrets same]
  cases valid : isInstanceName instanceName with
  | false =>
      simp only [addInstance, checkInstanceName, valid]
      exact .same _
  | true =>
      by_cases named : config.schemaName = backend.schema.name
      · have own : backend.ownConfig (.issued config) = .ok config :=
          if_pos named
        have otherOwn : backend.ownConfig (.issued other) = .ok other :=
          if_pos (same.schemaName ▸ named)
        rw [addInstance_eq valid own, addInstance_eq valid otherOwn,
          isEmpty_secretsOf_sameButSecrets same]
        simp only [sameApplication]
        split
        · exact .same _
        · exact .putSecret _ _ _ _
      · have refused : ∀ handed : ValidatedConfig,
            ¬handed.schemaName = backend.schema.name →
              backend.secretContent (.issued handed) =
                .error (.configMismatch handed.schemaName
                  backend.backendType) :=
          fun handed foreign => secretContent_eq_error (if_neg foreign)
        simp only [addInstance, checkInstanceName, valid, refused config named,
          refused other (same.schemaName ▸ named), same.schemaName]
        exact .same _

end Backend

namespace Collaborators

/-- Collaborators that differ in the contents of stored secrets only. -/
structure Alike (before other : Collaborators) : Prop where
  engine : before.engine = other.engine
  outages : before.outages = other.outages
  unhealthy : before.unhealthy = other.unhealthy
  supply : before.secrets.supply = other.secrets.supply
  issued : before.secrets.issued = other.secrets.issued
  references :
    Record.mapValues StoredSecret.reference before.secrets.secrets =
      Record.mapValues StoredSecret.reference other.secrets.secrets

/-- Calls with the same result and alike collaborators. -/
structure AlikeCalls
    {α : Type}
    (called other : Except Failure α × Collaborators) : Prop where
  result : called.1 = other.1
  collaborators : called.2.Alike other.2

namespace Alike

theorem refl (before : Collaborators) : before.Alike before :=
  ⟨rfl, rfl, rfl, rfl, rfl, rfl⟩

variable {before other : Collaborators}

theorem outage?
    (alike : before.Alike other)
    (operation : Operation) :
    before.outage? operation = other.outage? operation := by
  unfold Collaborators.outage?
  rw [alike.outages]

theorem callEngine
    (alike : before.Alike other)
    (operation : Operation)
    (call : Engine → Except Failure Unit × Engine) :
    AlikeCalls (before.callEngine operation call)
      (other.callEngine operation call) := by
  unfold Collaborators.callEngine
  rw [alike.outage? operation, alike.engine]
  split
  · exact ⟨rfl, alike⟩
  · exact ⟨rfl,
      ⟨rfl, alike.outages, alike.unhealthy, alike.supply, alike.issued,
        alike.references⟩⟩

/-- Any two contents are stored alike. -/
theorem putSecret
    (alike : before.Alike other)
    (name : String)
    (content otherContent : Record String) :
    AlikeCalls (before.putSecret name content)
      (other.putSecret name otherContent) := by
  unfold Collaborators.putSecret
  rw [alike.outage? .putSecret]
  split
  · exact ⟨rfl, alike⟩
  · simp only [SecretStore.put, SecretStore.putUnder,
      SecretStore.nextReference, alike.supply, alike.issued]
    refine ⟨rfl, ⟨alike.engine, alike.outages, alike.unhealthy, rfl, rfl, ?_⟩⟩
    simp only [Record.mapValues_insert, alike.references]

theorem removeSecret
    (alike : before.Alike other)
    (name : String) :
    AlikeCalls (before.removeSecret name) (other.removeSecret name) := by
  unfold Collaborators.removeSecret
  rw [alike.outage? .removeSecret]
  split
  · exact ⟨rfl, alike⟩
  · refine ⟨rfl,
      ⟨alike.engine, alike.outages, alike.unhealthy, alike.supply,
        alike.issued, ?_⟩⟩
    simp only [SecretStore.remove, Record.mapValues_erase, alike.references]

theorem healthy (alike : before.Alike other) :
    AlikeCalls before.healthy other.healthy := by
  unfold Collaborators.healthy
  rw [alike.outage? .healthy, alike.unhealthy, alike.engine]
  split
  · exact ⟨rfl, alike⟩
  · split
    · exact ⟨rfl, alike⟩
    · exact ⟨rfl,
        ⟨rfl, alike.outages, rfl, alike.supply, alike.issued,
          alike.references⟩⟩

end Alike

end Collaborators

namespace Program

variable {α : Type}

/-- Outcomes that differ in the contents of stored secrets only. -/
structure Outcome.Alike (outcome other : Outcome α) : Prop where
  result : outcome.result = other.result
  lines : outcome.lines = other.lines
  collaborators : outcome.collaborators.Alike other.collaborators

/-- What follows calls that are alike comes out alike. -/
private theorem outcomeAfter_alike
    {β : Type}
    {next : β → Collaborators → Outcome α}
    (follows :
      ∀ value {after otherAfter},
        after.Alike otherAfter →
        (next value after).Alike (next value otherAfter))
    {called other : Except Failure β × Collaborators}
    (alike : Collaborators.AlikeCalls called other) :
    (outcomeAfter next called).Alike (outcomeAfter next other) := by
  rcases called with ⟨result, after⟩
  rcases other with ⟨otherResult, otherAfter⟩
  obtain ⟨sameResult, sameAfter⟩ := alike
  simp only at sameResult sameAfter
  subst sameResult
  cases result with
  | error failure => exact ⟨rfl, rfl, sameAfter⟩
  | ok value => exact follows value sameAfter

/-- A program runs alike over alike collaborators. -/
theorem run_alike
    (program : Program α)
    {before other : Collaborators}
    (alike : before.Alike other) :
    (program.run before).Alike (program.run other) := by
  induction program generalizing before other with
  | finished value line => exact ⟨rfl, rfl, alike⟩
  | failed failure => exact ⟨rfl, rfl, alike⟩
  | registerPlan plan next inductionHypothesis =>
      exact outcomeAfter_alike (fun _ _ _ => inductionHypothesis)
        (alike.callEngine _ _)
  | apply planName instanceName deployment next inductionHypothesis =>
      exact outcomeAfter_alike (fun _ _ _ => inductionHypothesis)
        (alike.callEngine _ _)
  | destroy planName instanceName next inductionHypothesis =>
      exact outcomeAfter_alike (fun _ _ _ => inductionHypothesis)
        (alike.callEngine _ _)
  | putSecret name content next inductionHypothesis =>
      exact outcomeAfter_alike
        (fun reference _ _ => inductionHypothesis reference)
        (alike.putSecret name content content)
  | removeSecret name next inductionHypothesis =>
      exact outcomeAfter_alike (fun _ _ _ => inductionHypothesis)
        (alike.removeSecret name)

/-- Alike programs run alike over alike collaborators. -/
theorem Alike.run
    {program otherProgram : Program α}
    (programs : program.Alike otherProgram)
    {before other : Collaborators}
    (alike : before.Alike other) :
    (program.run before).Alike (otherProgram.run other) := by
  cases programs with
  | same program => exact program.run_alike alike
  | putSecret name content otherContent next =>
      exact outcomeAfter_alike
        (fun reference _ _ => (next reference).run_alike)
        (alike.putSecret name content otherContent)

end Program

end StorageBackends
