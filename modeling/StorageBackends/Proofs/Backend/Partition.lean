import StorageBackends.Backend.Catalogue
import StorageBackends.Proofs.Lifecycle.Call
import StorageBackends.Proofs.Record
import StorageBackends.Proofs.Schema.Finding
import StorageBackends.Proofs.Schema.Secrecy

namespace StorageBackends

/-!
# What becomes of a configuration

The options of an instance, the content of its secret and what is shown of its
configuration are three records over the same fields. The rules on keys keep
the assignments of each record from meeting, so a record says exactly which
fields are set and to what. Options and secret together tell the configuration.
-/

namespace ConfigSchema

/-- A field of the schema has a value in a configuration. -/
structure Sets
    (schema : ConfigSchema)
    (config : ValidatedConfig)
    (field : ConfigField)
    (value : ConfigValue) : Prop where
  listed : field ∈ schema.fields
  set : config.get? field.name = some value

/-- Some secret field has a value in a configuration. -/
def SetsSecret (schema : ConfigSchema) (config : ValidatedConfig) : Prop :=
  ∃ field value, schema.Sets config field value ∧ field.isSecret = true

/-- What is shown of a configuration: set fields, secrets masked. -/
inductive Shows (schema : ConfigSchema) (config : ValidatedConfig) :
    String → ConfigValue → Prop where
  | plain
      (field : ConfigField)
      (value : ConfigValue)
      (sets : schema.Sets config field value)
      (plain : field.isSecret = false) :
      Shows schema config field.externalKey value
  | secret
      (field : ConfigField)
      (value : ConfigValue)
      (sets : schema.Sets config field value)
      (secret : field.isSecret = true) :
      Shows schema config field.externalKey (.text redacted)

/-- No field is kept under the key that assignments ignore. -/
structure AssignsAll (schema : ConfigSchema) : Prop where
  keys : ∀ field ∈ schema.fields, field.externalKey ≠ Record.ancestorKey
  secretKeys :
    ∀ field ∈ schema.fields, field.secretKey ≠ some Record.ancestorKey

/--
The keys that are assigned appear among the keys of the fields, in order.
-/
private theorem keys_filterMap_sublist
    {α : Type}
    {key : ConfigField → Option String}
    {assignment : ConfigField → Option (String × α)}
    (keyed :
      ∀ field member,
        assignment field = some member → key field = some member.1)
    (fields : List ConfigField) :
    (Record.keys (fields.filterMap assignment)).Sublist
      (fields.filterMap key) := by
  induction fields with
  | nil => exact .slnil
  | cons field rest inductionHypothesis =>
      cases assigned : assignment field with
      | none =>
          rw [List.filterMap_cons_none assigned]
          have longer := (List.sublist_cons_self field rest).filterMap key
          exact inductionHypothesis.trans longer
      | some member =>
          rw [List.filterMap_cons_some assigned,
            List.filterMap_cons_some (keyed field member assigned)]
          exact inductionHypothesis.cons_cons member.1

/-- Assignments under distinct keys are all found. -/
theorem get?_assignments
    {α : Type}
    {fields : List ConfigField}
    {key : ConfigField → Option String}
    (distinct : (fields.filterMap key).Nodup)
    {assignment : ConfigField → Option (String × α)}
    (keyed :
      ∀ field member,
        assignment field = some member → key field = some member.1)
    (wanted : String)
    (value : α) :
    Record.get? wanted (fields.filterMap assignment).reverse = some value ↔
      ∃ field ∈ fields, assignment field = some (wanted, value) := by
  have distinctMembers :=
    (keys_filterMap_sublist keyed fields).nodup distinct
  rw [Record.get?_reverse_eq_some_iff distinctMembers, List.mem_filterMap]

/-- The external keys of a schema are distinct. -/
theorem filterMap_externalKey (schema : ConfigSchema) :
    (schema.fields.filterMap fun field => some field.externalKey).Nodup := by
  have distinct := schema.consistent.distinctKeys
  rwa [← List.filterMap_eq_map] at distinct

/-- The assignments of what is shown do not meet. -/
private theorem get?_shownAssignments
    (schema : ConfigSchema)
    (config : ValidatedConfig)
    (key : String)
    (shown : ConfigValue) :
    Record.get? key
        (schema.fields.filterMap fun field =>
          (config.get? field.name).map fun value =>
            (field.externalKey,
              if field.isSecret then .text redacted else value)).reverse =
        some shown ↔
      ∃ field value,
        schema.Sets config field value ∧
          field.externalKey = key ∧
          (if field.isSecret then .text redacted else value) = shown := by
  rw [get?_assignments schema.filterMap_externalKey]
  · simp only [Option.map_eq_some_iff, Prod.mk.injEq]
    constructor
    · rintro ⟨field, listed, value, set, sameKey, same⟩
      exact ⟨field, value, ⟨listed, set⟩, sameKey, same⟩
    · rintro ⟨field, value, ⟨listed, set⟩, sameKey, same⟩
      exact ⟨field, listed, value, set, sameKey, same⟩
  · intro field member assigned
    obtain ⟨_, _, rfl⟩ := Option.map_eq_some_iff.1 assigned
    rfl

/-- What is shown of a field. -/
theorem get?_redact
    (schema : ConfigSchema)
    {field : ConfigField}
    (listed : field ∈ schema.fields)
    (config : ValidatedConfig) :
    Record.get? field.externalKey (schema.redact config) =
      if field.externalKey = Record.ancestorKey then none
      else
        (config.get? field.name).map fun value =>
          if field.isSecret then .text redacted else value := by
  unfold redact
  rw [Record.get?_ofAssignments]
  split
  · rfl
  · refine Option.ext fun shown => ?_
    rw [schema.get?_shownAssignments, Option.map_eq_some_iff]
    constructor
    · rintro ⟨other, value, sets, sameKey, same⟩
      rw [← schema.externalKey_inj sets.listed listed sameKey]
      exact ⟨value, sets.set, same⟩
    · rintro ⟨value, set, same⟩
      exact ⟨field, value, ⟨listed, set⟩, rfl, same⟩

/-- What is shown of a configuration is each set field once. -/
theorem redact_comprises
    {schema : ConfigSchema}
    (assignsAll : schema.AssignsAll)
    (config : ValidatedConfig) :
    Record.Comprises (schema.redact config) (schema.Shows config) := by
  refine Record.comprises_ofAssignments ?_ fun key shown _ => ?_
  · intro value shows
    generalize ancestor : Record.ancestorKey = key at shows
    cases shows with
    | plain field value sets =>
        exact assignsAll.keys field sets.listed ancestor.symm
    | secret field value sets =>
        exact assignsAll.keys field sets.listed ancestor.symm
  · rw [schema.get?_shownAssignments]
    constructor
    · rintro ⟨field, value, sets, rfl, rfl⟩
      cases secret : field.isSecret with
      | true => exact .secret field value sets secret
      | false => exact .plain field value sets secret
    · rintro (⟨field, _, sets, plain⟩ | ⟨field, value, sets, secret⟩)
      · exact ⟨field, shown, sets, rfl, by rw [plain]; rfl⟩
      · exact ⟨field, value, sets, rfl, by rw [secret]; rfl⟩

/-- A value of an accepted configuration is one that its field takes. -/
theorem get?_takes
    {schema : ConfigSchema}
    {raw : RawConfig}
    {config : ValidatedConfig}
    (accepted : schema.validate raw = .accepted config)
    {field : ConfigField}
    (listed : field ∈ schema.fields)
    {value : ConfigValue}
    (set : config.get? field.name = some value) :
    ∃ given, field.kind.Takes given value := by
  rw [eq_configOf_of_accepted accepted, get?_configOf,
    schema.field?_name listed] at set
  obtain ⟨given, _, taken⟩ := (field.value?_eq_some_iff raw value).1 set
  exact ⟨given, taken⟩

end ConfigSchema

namespace Backend

/--
The options of an instance: the set plain fields, and its name under the key
of backend names unless a set plain field has that key.
-/
inductive HasOption
    (backend : Backend)
    (config : ValidatedConfig)
    (instanceName : String) :
    String → ConfigValue → Prop where
  | field
      (field : ConfigField)
      (value : ConfigValue)
      (sets : backend.schema.Sets config field value)
      (plain : field.isSecret = false) :
      HasOption backend config instanceName field.externalKey value
  | ownName
      (unset :
        ∀ field value,
          backend.schema.Sets config field value →
          field.isSecret = false →
          field.externalKey ≠ backendNameKey) :
      HasOption backend config instanceName backendNameKey
        (.text instanceName)

/-- The content of the secret: the set secret fields, as text. -/
inductive HasSecret (backend : Backend) (config : ValidatedConfig) :
    String → String → Prop where
  | field
      (field : ConfigField)
      (key : String)
      (value : ConfigValue)
      (sets : backend.schema.Sets config field value)
      (kept : field.secretKey = some key) :
      HasSecret backend config key value.toText

/-- A plain field is assigned under its external key. -/
private theorem plainAssignment_eq_some_iff
    (config : ValidatedConfig)
    (field : ConfigField)
    (key : String)
    (value : ConfigValue) :
    (if field.isSecret then none
      else
        (config.get? field.name).map fun value =>
          (field.externalKey, value)) = some (key, value) ↔
      field.isSecret = false ∧
        config.get? field.name = some value ∧ field.externalKey = key := by
  cases secret : field.isSecret with
  | true => simp
  | false => simp [and_comm]

/-- The assignments of plain fields do not meet. -/
private theorem get?_plainAssignments
    (backend : Backend)
    (config : ValidatedConfig)
    (key : String)
    (value : ConfigValue) :
    Record.get? key
        (backend.schema.fields.filterMap fun field =>
          if field.isSecret then none
          else
            (config.get? field.name).map fun value =>
              (field.externalKey, value)).reverse = some value ↔
      ∃ field,
        backend.schema.Sets config field value ∧
          field.isSecret = false ∧ field.externalKey = key := by
  rw [ConfigSchema.get?_assignments backend.schema.filterMap_externalKey]
  · simp only [plainAssignment_eq_some_iff]
    constructor
    · rintro ⟨field, listed, plain, set, sameKey⟩
      exact ⟨field, ⟨listed, set⟩, plain, sameKey⟩
    · rintro ⟨field, ⟨listed, set⟩, plain, sameKey⟩
      exact ⟨field, listed, plain, set, sameKey⟩
  · intro field member assigned
    exact congrArg some
      ((plainAssignment_eq_some_iff config field _ _).1 assigned).2.2

/-- The options of an instance are each set plain field once, and its name. -/
theorem optionsOf_comprises
    {backend : Backend}
    (assignsAll : backend.schema.AssignsAll)
    (config : ValidatedConfig)
    (instanceName : String) :
    Record.Comprises (backend.optionsOf config instanceName)
      (backend.HasOption config instanceName) := by
  have notAncestor : backendNameKey ≠ Record.ancestorKey := by decide
  refine Record.comprises_ofAssignments ?_ fun key value _ => ?_
  · intro value option
    generalize ancestor : Record.ancestorKey = key at option
    cases option with
    | field field value sets =>
        exact assignsAll.keys field sets.listed ancestor.symm
    | ownName => exact notAncestor ancestor.symm
  · -- The name is assigned first, so it is what a look-up finds last.
    have assigned := backend.get?_plainAssignments config key
    rw [List.reverse_cons, Record.get?, List.lookup_append,
      Option.or_eq_some_iff, ← Record.get?, ← Record.get?, assigned,
      Record.get?_cons]
    constructor
    · rintro (⟨field, sets, plain, rfl⟩ | ⟨unassigned, ownName⟩)
      · exact .field field value sets plain
      · by_cases isName : key = backendNameKey
        · rw [if_pos isName] at ownName
          cases ownName
          subst isName
          refine .ownName fun field other sets plain sameKey => ?_
          rw [(assigned other).2 ⟨field, sets, plain, sameKey⟩] at unassigned
          cases unassigned
        · rw [if_neg isName] at ownName
          cases ownName
    · rintro (⟨field, _, sets, plain⟩ | unset)
      · exact .inl ⟨field, sets, plain, rfl⟩
      · refine .inr ⟨?_, if_pos rfl⟩
        refine Option.eq_none_iff_forall_ne_some.2 fun other found => ?_
        obtain ⟨field, sets, plain, sameKey⟩ := (assigned other).1 found
        exact unset field other sets plain sameKey

/-- A secret field is assigned under its secret key, as a text. -/
private theorem secretAssignment_eq_some_iff
    (config : ValidatedConfig)
    (field : ConfigField)
    (key text : String) :
    (match field.secretKey, config.get? field.name with
      | some key, some value => some (key, value.toText)
      | _, _ => none) = some (key, text) ↔
      field.secretKey = some key ∧
        ∃ value, config.get? field.name = some value ∧ value.toText = text := by
  cases field.secretKey <;> cases config.get? field.name <;> simp

/-- The content of the secret is each set secret field once. -/
theorem secretsOf_comprises
    {backend : Backend}
    (assignsAll : backend.schema.AssignsAll)
    (config : ValidatedConfig) :
    Record.Comprises (backend.secretsOf config)
      (backend.HasSecret config) := by
  refine Record.comprises_ofAssignments ?_ fun key text _ => ?_
  · intro text secret
    generalize ancestor : Record.ancestorKey = key at secret
    cases secret with
    | field field _ value sets kept =>
        rw [← ancestor] at kept
        exact assignsAll.secretKeys field sets.listed kept
  · rw [ConfigSchema.get?_assignments
      backend.schema.consistent.distinctSecretKeys]
    · constructor
      · rintro ⟨field, listed, assigned⟩
        obtain ⟨kept, value, set, rfl⟩ :=
          (secretAssignment_eq_some_iff config field key text).1 assigned
        exact .field field key value ⟨listed, set⟩ kept
      · rintro ⟨field, _, value, ⟨listed, set⟩, kept⟩
        refine ⟨field, listed, ?_⟩
        exact (secretAssignment_eq_some_iff config field key _).2
          ⟨kept, value, set, rfl⟩
    · intro field member assigned
      exact ((secretAssignment_eq_some_iff config field _ _).1 assigned).1

/-- The secret content is empty exactly when no secret is set. -/
theorem isEmpty_secretsOf_iff
    {backend : Backend}
    (assignsAll : backend.schema.AssignsAll)
    (config : ValidatedConfig) :
    (backend.secretsOf config).isEmpty = true ↔
      ¬backend.schema.SetsSecret config := by
  have comprises := secretsOf_comprises assignsAll config
  rw [List.isEmpty_iff, List.eq_nil_iff_forall_not_mem]
  constructor
  · rintro noMember ⟨field, value, sets, secret⟩
    obtain ⟨key, kept⟩ := Option.isSome_iff_exists.1 secret
    refine noMember (key, value.toText) ?_
    exact (comprises.listed _ _).2 (.field field key value sets kept)
  · rintro unset ⟨key, text⟩ listed
    obtain ⟨field, _, value, sets, kept⟩ := (comprises.listed key text).1 listed
    refine unset ⟨field, value, sets, ?_⟩
    rw [ConfigField.isSecret, kept]
    rfl

/-- The option under the key of a plain field tells the field. -/
theorem hasOption_externalKey_iff
    {backend : Backend}
    {field : ConfigField}
    (listed : field ∈ backend.schema.fields)
    (plain : field.isSecret = false)
    (config : ValidatedConfig)
    (instanceName : String)
    (value : ConfigValue) :
    backend.HasOption config instanceName field.externalKey value ↔
      config.get? field.name = some value ∨
        field.externalKey = backendNameKey ∧
          config.get? field.name = none ∧ value = .text instanceName := by
  constructor
  · intro option
    generalize sameKey : field.externalKey = key at option
    cases option with
    | field other value sets otherPlain =>
        have same :=
          backend.schema.externalKey_inj listed sets.listed sameKey
        rw [same]
        exact .inl sets.set
    | ownName unset =>
        refine .inr ⟨rfl, ?_, rfl⟩
        refine Option.eq_none_iff_forall_ne_some.2 fun other set => ?_
        exact unset field other ⟨listed, set⟩ plain sameKey
  · rintro (set | ⟨isName, unset, rfl⟩)
    · exact .field field value ⟨listed, set⟩ plain
    · rw [isName]
      refine .ownName fun other value sets otherPlain otherIsName => ?_
      have same :=
        backend.schema.externalKey_inj listed sets.listed
          (isName.trans otherIsName.symm)
      have set := sets.set
      rw [← same, unset] at set
      cases set

/-- The secret kept for a field is the text of its value. -/
theorem hasSecret_iff
    {backend : Backend}
    {field : ConfigField}
    (listed : field ∈ backend.schema.fields)
    {key : String}
    (kept : field.secretKey = some key)
    (config : ValidatedConfig)
    (text : String) :
    backend.HasSecret config key text ↔
      ∃ value, config.get? field.name = some value ∧ value.toText = text := by
  constructor
  · rintro ⟨other, _, value, sets, otherKept⟩
    have same :=
      backend.schema.secretKey_inj listed sets.listed kept otherKept
    rw [same]
    exact ⟨value, sets.set, rfl⟩
  · rintro ⟨value, set, rfl⟩
    exact .field field key value ⟨listed, set⟩ kept

/--
Two configurations agree on a field, or the field is plain, is called like the
key of backend names, and is unset in one of them while the other sets it to
the name of the instance.
-/
inductive AgreeOn
    (config other : ValidatedConfig)
    (instanceName : String)
    (field : ConfigField) : Prop where
  | same (equal : config.get? field.name = other.get? field.name)
  | named
      (plain : field.isSecret = false)
      (isName : field.externalKey = backendNameKey)
      (unset : config.get? field.name = none)
      (otherSet : other.get? field.name = some (.text instanceName))
  | otherNamed
      (plain : field.isSecret = false)
      (isName : field.externalKey = backendNameKey)
      (set : config.get? field.name = some (.text instanceName))
      (otherUnset : other.get? field.name = none)

/-- Equal options leave plain fields no room to differ. -/
theorem agreeOn_of_plain
    {backend : Backend}
    {config other : ValidatedConfig}
    {instanceName : String}
    (sameOptions :
      ∀ key value,
        backend.HasOption config instanceName key value ↔
          backend.HasOption other instanceName key value)
    {field : ConfigField}
    (listed : field ∈ backend.schema.fields)
    (plain : field.isSecret = false) :
    AgreeOn config other instanceName field := by
  have same : ∀ value,
      (config.get? field.name = some value ∨
          field.externalKey = backendNameKey ∧
            config.get? field.name = none ∧ value = .text instanceName) ↔
        (other.get? field.name = some value ∨
          field.externalKey = backendNameKey ∧
            other.get? field.name = none ∧ value = .text instanceName) := by
    intro value
    rw [← hasOption_externalKey_iff listed plain,
      ← hasOption_externalKey_iff listed plain]
    exact sameOptions field.externalKey value
  cases set : config.get? field.name with
  | some value =>
      rcases (same value).1 (.inl set) with otherSet | ⟨isName, unset, rfl⟩
      · exact .same (set.trans otherSet.symm)
      · exact .otherNamed plain isName set unset
  | none =>
      cases otherSet : other.get? field.name with
      | none => exact .same (set.trans otherSet.symm)
      | some value =>
          rcases (same value).2 (.inl otherSet) with both | ⟨isName, _, rfl⟩
          · rw [set] at both
            cases both
          · exact .named plain isName set otherSet

/-- Equal secrets leave secret fields no room to differ. -/
theorem get?_eq_of_secret
    {backend : Backend}
    {raw otherRaw : RawConfig}
    {config other : ValidatedConfig}
    (accepted : backend.schema.validate raw = .accepted config)
    (acceptedOther : backend.schema.validate otherRaw = .accepted other)
    (sameSecrets :
      ∀ key text,
        backend.HasSecret config key text ↔
          backend.HasSecret other key text)
    {field : ConfigField}
    (listed : field ∈ backend.schema.fields)
    (secret : field.isSecret = true) :
    config.get? field.name = other.get? field.name := by
  obtain ⟨key, kept⟩ := Option.isSome_iff_exists.1 secret
  have same : ∀ text,
      (∃ value, config.get? field.name = some value ∧ value.toText = text) ↔
        ∃ value, other.get? field.name = some value ∧ value.toText = text := by
    intro text
    rw [← hasSecret_iff listed kept, ← hasSecret_iff listed kept]
    exact sameSecrets key text
  -- Texts are equal, and values of one kind are told by their texts.
  cases set : config.get? field.name with
  | some value =>
      obtain ⟨otherValue, otherSet, sameText⟩ :=
        (same value.toText).1 ⟨value, set, rfl⟩
      obtain ⟨_, taken⟩ :=
        ConfigSchema.get?_takes accepted listed set
      obtain ⟨_, otherTaken⟩ :=
        ConfigSchema.get?_takes acceptedOther listed otherSet
      rw [otherSet, otherTaken.toText_inj taken sameText]
  | none =>
      cases otherSet : other.get? field.name with
      | none => rfl
      | some value =>
          obtain ⟨_, both, _⟩ := (same value.toText).2 ⟨value, otherSet, rfl⟩
          rw [set] at both
          cases both

/-- The variables, the secret and what is shown of a configuration. -/
structure Splits
    (backend : Backend)
    (config : ValidatedConfig)
    (instanceName : String)
    (reference : Option String)
    (deployment : DeploymentVariables)
    (content : Record String) : Prop where
  options :
    Record.Comprises deployment.charmConfig
      (backend.HasOption config instanceName)
  secrets : Record.Comprises content (backend.HasSecret config)
  shown :
    Record.Comprises (backend.schema.redact config)
      (backend.schema.Shows config)
  referenced :
    backend.schema.SetsSecret config → deployment.secretRef = reference
  unreferenced :
    ¬backend.schema.SetsSecret config → deployment.secretRef = none

/-- The variables and the secret content of a configuration split it. -/
theorem variablesOf_splits
    {backend : Backend}
    (assignsAll : backend.schema.AssignsAll)
    (config : ValidatedConfig)
    (instanceName : String)
    (reference : Option String)
    (spaces : NetworkSpaces) :
    backend.Splits config instanceName reference
      (backend.variablesOf config instanceName reference spaces)
      (backend.secretsOf config) where
  options := optionsOf_comprises assignsAll config instanceName
  secrets := secretsOf_comprises assignsAll config
  shown := ConfigSchema.redact_comprises assignsAll config
  referenced := by
    intro setsSecret
    refine if_neg fun isEmpty => ?_
    exact (isEmpty_secretsOf_iff assignsAll config).1 isEmpty setsSecret
  unreferenced := by
    intro unset
    exact if_pos ((isEmpty_secretsOf_iff assignsAll config).2 unset)

/-- A backend takes what its schema has accepted for its own. -/
theorem ownConfig_of_accepted
    {backend : Backend}
    {raw : RawConfig}
    {config : ValidatedConfig}
    (accepted : backend.schema.validate raw = .accepted config) :
    backend.ownConfig (.issued config) = .ok config := by
  rw [ConfigSchema.eq_configOf_of_accepted accepted]
  exact if_pos rfl

/-- The variables of an own configuration, if it has any. -/
theorem eq_variablesOf_of_ok
    {backend : Backend}
    {handed : HandedConfig}
    {config : ValidatedConfig}
    (own : backend.ownConfig handed = .ok config)
    {instanceName : String}
    {reference : Option String}
    {spaces : NetworkSpaces}
    {deployment : DeploymentVariables}
    (built :
      backend.buildVariables handed instanceName reference spaces =
        .ok deployment) :
    deployment =
      backend.variablesOf config instanceName reference spaces := by
  simp only [buildVariables, own, bind, Except.bind] at built
  split at built
  · cases built
  · cases built
    rfl

/--
A configuration is split exactly: nothing is lost and nothing is added.

An accepted configuration whose secrets have a reference has variables and a
secret content that consist of its set fields. Another accepted configuration
with the same options under the same name and with the same secret content
agrees on every field, except for an option that repeats the name.
-/
theorem buildVariables_splits
    {backend : Backend}
    (assignsAll : backend.schema.AssignsAll)
    {raw : RawConfig}
    {config : ValidatedConfig}
    (accepted : backend.schema.validate raw = .accepted config)
    {reference : Option String}
    (referenced : backend.schema.SetsSecret config → reference ≠ none)
    (instanceName : String)
    (spaces : NetworkSpaces) :
    ∃ deployment content,
      backend.buildVariables (.issued config) instanceName reference spaces =
          .ok deployment ∧
        backend.secretContent (.issued config) = .ok content ∧
        backend.Splits config instanceName reference deployment content ∧
        ∀ otherRaw other otherReference otherSpaces otherDeployment
            otherContent,
          backend.schema.validate otherRaw = .accepted other →
          backend.buildVariables (.issued other) instanceName otherReference
              otherSpaces = .ok otherDeployment →
          backend.secretContent (.issued other) = .ok otherContent →
          (∀ key,
            Record.get? key deployment.charmConfig =
              Record.get? key otherDeployment.charmConfig) →
          (∀ key, Record.get? key content = Record.get? key otherContent) →
          ∀ field ∈ backend.schema.fields,
            AgreeOn config other instanceName field := by
  have own := ownConfig_of_accepted accepted
  have supplied :
      reference = none → (backend.secretsOf config).isEmpty = true := by
    intro noReference
    refine (isEmpty_secretsOf_iff assignsAll config).2 fun setsSecret => ?_
    exact referenced setsSecret noReference
  have splits :=
    variablesOf_splits assignsAll config instanceName reference spaces
  refine ⟨_, _, buildVariables_eq_ok own supplied instanceName spaces,
    secretContent_eq_ok own, splits, ?_⟩
  intro otherRaw other otherReference otherSpaces otherDeployment otherContent
    acceptedOther built stored sameOptions sameContent field listed
  have ownOther := ownConfig_of_accepted acceptedOther
  rw [eq_variablesOf_of_ok ownOther built] at sameOptions
  rw [secretContent_eq_ok ownOther] at stored
  cases stored
  have otherSplits :=
    variablesOf_splits assignsAll other instanceName otherReference otherSpaces
  cases secret : field.isSecret with
  | false =>
      refine agreeOn_of_plain (fun key value => ?_) listed secret
      rw [← splits.options.get?_eq_some_iff, sameOptions,
        otherSplits.options.get?_eq_some_iff]
  | true =>
      refine .same (get?_eq_of_secret accepted acceptedOther
        (fun key text => ?_) listed secret)
      rw [← splits.secrets.get?_eq_some_iff, sameContent,
        otherSplits.secrets.get?_eq_some_iff]

/-- A backend is called like its instance, by its option or without it. -/
theorem buildVariables_splits_powerStore :
    Catalogue.dellPowerStore.schema.AssignsAll ∧
      ∃ config other deployment content,
        Catalogue.dellPowerStore.schema.validate
            [("san-ip", .str "10.0.0.5"), ("san-username", .str "admin"),
              ("san-password", .str "s3cret"),
              ("volume-backend-name", .str "ps"),
              ("powerstore_nvme", .bool false)] = .accepted config ∧
          Catalogue.dellPowerStore.schema.validate
              [("san-ip", .str "10.0.0.5"), ("san-username", .str "admin"),
                ("san-password", .str "s3cret"),
                ("powerstore_nvme", .bool false)] = .accepted other ∧
          Catalogue.dellPowerStore.Splits config "ps" (some "secret:#1")
            deployment content ∧
          Record.get? "powerstore-nvme" deployment.charmConfig =
            some (.flag false) ∧
          Record.keys content = ["san-ip", "san-username", "san-password"] ∧
          deployment.secretRef = some "secret:#1" ∧
          ∀ field ∈ Catalogue.dellPowerStore.schema.fields,
            AgreeOn config other "ps" field := by
  have assignsAll : Catalogue.dellPowerStore.schema.AssignsAll :=
    ⟨by decide +kernel, by decide +kernel⟩
  have accepted :
      Catalogue.dellPowerStore.schema.validate
          [("san-ip", .str "10.0.0.5"), ("san-username", .str "admin"),
            ("san-password", .str "s3cret"),
            ("volume-backend-name", .str "ps"),
            ("powerstore_nvme", .bool false)] = .accepted _ := rfl
  have otherAccepted :
      Catalogue.dellPowerStore.schema.validate
          [("san-ip", .str "10.0.0.5"), ("san-username", .str "admin"),
            ("san-password", .str "s3cret"),
            ("powerstore_nvme", .bool false)] = .accepted _ := rfl
  have reference : ∀ config,
      Catalogue.dellPowerStore.schema.SetsSecret config →
        some "secret:#1" ≠ none := fun _ _ => nofun
  obtain ⟨deployment, content, built, stored, splits, agree⟩ :=
    buildVariables_splits assignsAll accepted (reference _) "ps" .default
  cases built
  cases stored
  refine ⟨assignsAll, _, _, _, _, accepted, otherAccepted, splits, rfl, rfl,
    rfl, ?_⟩
  exact agree _ _ (some "secret:#1") .default _ _ otherAccepted rfl rfl
    (fun _ => rfl) (fun _ => rfl)

end Backend

end StorageBackends
