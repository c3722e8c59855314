import Mathlib.Data.List.Basic
import Mathlib.Data.List.Nodup
import StorageBackends.Schema.Validation

namespace StorageBackends

/-!
# Configurations that differ in secret values

Two raw configurations are alike if they agree under every key where no secret
arrives, and if each secret field is absent, rejected or accepted in both.
Validation then says the same about them, and what is shown or applied of an
accepted configuration is the same too.
-/

/-- What a finding tells about a field besides its value. -/
inductive Verdict where
  | absent
  | rejected
  | accepted
deriving DecidableEq, Repr

namespace Finding

def verdict : Finding → Verdict
  | missing => .absent
  | unset => .absent
  | rejected _ => .rejected
  | accepted _ => .accepted

end Finding

namespace ConfigField

/-- The verdict on a field decides whether it offends. -/
theorem offends_eq (field : ConfigField) (raw : RawConfig) :
    field.offends raw =
      match (field.examine raw).verdict with
      | .absent => field.required
      | .rejected => true
      | .accepted => false := by
  unfold offends examine
  cases raw.effective? field with
  | none => cases field.required <;> rfl
  | some value =>
      dsimp only
      cases field.kind.accept? value <;> rfl

/-- A field has a value exactly when the examination accepts one. -/
theorem isSome_value? (field : ConfigField) (raw : RawConfig) :
    (field.value? raw).isSome =
      match (field.examine raw).verdict with
      | .accepted => true
      | _ => false := by
  unfold value?
  cases field.examine raw <;> rfl

/-- The verdict on a secret field decides its issue. -/
theorem issue?_of_isSecret
    {field : ConfigField}
    (secret : field.isSecret = true)
    (raw : RawConfig) :
    field.issue? raw =
      match (field.examine raw).verdict with
      | .rejected => some (field.invalidIssue redacted)
      | _ => some field.missingIssue := by
  unfold issue? describe?
  rw [secret]
  cases field.examine raw <;> rfl

end ConfigField

namespace ConfigSchema

/-- The keys under which the values of secret fields arrive. -/
def secretArrivals (schema : ConfigSchema) : List String :=
  schema.secretFields.flatMap fun field => [field.externalKey, field.name]

/-- No plain field is read from a key where a secret arrives. -/
def KeepsApart (schema : ConfigSchema) : Prop :=
  ∀ field ∈ schema.fields,
    field.isSecret = false →
    field.externalKey ∉ schema.secretArrivals ∧
      field.name ∉ schema.secretArrivals

instance (schema : ConfigSchema) : Decidable schema.KeepsApart :=
  inferInstanceAs (Decidable (∀ field ∈ schema.fields, _ → _))

/-- Raw configurations that differ in the values of secret fields only. -/
structure Alike (schema : ConfigSchema) (raw other : RawConfig) : Prop where
  plain :
    ∀ key,
      key ∉ schema.secretArrivals →
      Record.get? key raw = Record.get? key other
  verdicts :
    ∀ field ∈ schema.fields,
      field.isSecret = true →
      (field.examine raw).verdict = (field.examine other).verdict

/-- Validated configurations that differ in the values of secret fields only. -/
structure SameButSecrets
    (schema : ConfigSchema)
    (config other : ValidatedConfig) : Prop where
  schemaName : config.schemaName = other.schemaName
  plain :
    ∀ name,
      (∀ field ∈ schema.fields, field.name = name → field.isSecret = false) →
      config.get? name = other.get? name
  secret :
    ∀ field ∈ schema.fields,
      field.isSecret = true →
      (config.get? field.name).isSome = (other.get? field.name).isSome

/-- The entry of a name in the configuration of a raw one. -/
theorem entry?_configOf
    (schema : ConfigSchema)
    (raw : RawConfig)
    (name : String) :
    ValidatedConfig.entry? (schema.configOf raw) name =
      (schema.field? name).map fun field => field.value? raw := by
  have general : ∀ fields : List ConfigField,
      (fields.map fun field => (field.name, field.value? raw)).lookup name =
        (fields.find? fun field => field.name == name).map
          fun field => field.value? raw := by
    intro fields
    induction fields with
    | nil => rfl
    | cons field rest inductionHypothesis =>
        by_cases here : field.name = name
        · simp [here]
        · have missed : (name == field.name) = false := by
            simp [Ne.symm here]
          simp [List.lookup_cons, missed, here, inductionHypothesis]
  exact general schema.fields

/-- The value of a name in the configuration of a raw one. -/
theorem get?_configOf
    (schema : ConfigSchema)
    (raw : RawConfig)
    (name : String) :
    (schema.configOf raw).get? name =
      (schema.field? name).bind fun field => field.value? raw := by
  unfold ValidatedConfig.get?
  rw [entry?_configOf]
  cases schema.field? name <;> rfl

/-- Every field is found under its own name. -/
theorem field?_name
    (schema : ConfigSchema)
    {field : ConfigField}
    (listed : field ∈ schema.fields) :
    schema.field? field.name = some field := by
  have distinct := schema.distinctNames
  unfold field?
  generalize schema.fields = fields at listed distinct
  induction fields with
  | nil => cases listed
  | cons first rest inductionHypothesis =>
      obtain ⟨fresh, restDistinct⟩ := List.nodup_cons.1 distinct
      rcases List.mem_cons.1 listed with atHead | behind
      · simp [atHead]
      · have unequal : first.name ≠ field.name := by
          intro same
          exact fresh (List.mem_map.2 ⟨field, behind, same.symm⟩)
        simp [unequal, inductionHypothesis behind restDistinct]

/-- A field is found by its name. -/
theorem field?_eq_some_iff
    (schema : ConfigSchema)
    (wanted : String)
    (field : ConfigField) :
    schema.field? wanted = some field ↔
      field ∈ schema.fields ∧ field.name = wanted := by
  constructor
  · intro found
    unfold field? at found
    have named := List.find?_some found
    exact ⟨List.mem_of_find?_eq_some found, beq_iff_eq.1 named⟩
  · rintro ⟨listed, rfl⟩
    exact schema.field?_name listed

/-- No two fields of a schema have the same name. -/
theorem name_inj
    (schema : ConfigSchema)
    {field other : ConfigField}
    (listed : field ∈ schema.fields)
    (otherListed : other ∈ schema.fields)
    (sameName : field.name = other.name) :
    field = other :=
  List.inj_on_of_nodup_map schema.distinctNames listed otherListed sameName

/-- No two fields of a schema have the same external key. -/
theorem externalKey_inj
    (schema : ConfigSchema)
    {field other : ConfigField}
    (listed : field ∈ schema.fields)
    (otherListed : other ∈ schema.fields)
    (sameKey : field.externalKey = other.externalKey) :
    field = other :=
  List.inj_on_of_nodup_map schema.consistent.distinctKeys listed otherListed
    sameKey

/-- No two fields of a schema are kept under the same secret key. -/
theorem secretKey_inj
    (schema : ConfigSchema)
    {field other : ConfigField}
    (listed : field ∈ schema.fields)
    (otherListed : other ∈ schema.fields)
    {key : String}
    (kept : field.secretKey = some key)
    (otherKept : other.secretKey = some key) :
    field = other := by
  have distinct := schema.consistent.distinctSecretKeys
  generalize schema.fields = fields at listed otherListed distinct
  induction fields with
  | nil => cases listed
  | cons first rest inductionHypothesis =>
      have restDistinct : (rest.filterMap ConfigField.secretKey).Nodup :=
        ((List.sublist_cons_self first rest).filterMap _).nodup distinct
      have fresh :
          ∀ later ∈ rest,
            first.secretKey = some key → later.secretKey ≠ some key := by
        intro later behind atFirst atLater
        rw [List.filterMap_cons_some atFirst] at distinct
        refine (List.nodup_cons.1 distinct).1 ?_
        exact List.mem_filterMap.2 ⟨later, behind, atLater⟩
      rcases List.mem_cons.1 listed with rfl | behind <;>
        rcases List.mem_cons.1 otherListed with rfl | otherBehind
      · rfl
      · exact absurd otherKept (fresh other otherBehind kept)
      · exact absurd kept (fresh field behind otherKept)
      · exact inductionHypothesis behind otherBehind restDistinct

/-- A plain field kept apart is read from entries that are no secret's. -/
theorem KeepsApart.effective?_eq
    {schema : ConfigSchema}
    (apart : schema.KeepsApart)
    {raw other : RawConfig}
    (agree :
      ∀ key,
        key ∉ schema.secretArrivals →
        Record.get? key raw = Record.get? key other)
    {field : ConfigField}
    (listed : field ∈ schema.fields)
    (plain : field.isSecret = false) :
    raw.effective? field = other.effective? field := by
  obtain ⟨keyApart, nameApart⟩ := apart field listed plain
  simp only [RawConfig.effective?, RawConfig.present?, agree _ keyApart,
    agree _ nameApart]

namespace Alike

variable
  {schema : ConfigSchema}
  {raw other : RawConfig}

/-- Where secrets are kept apart, plain fields are examined alike. -/
theorem examine_of_plain
    (alike : schema.Alike raw other)
    (apart : schema.KeepsApart)
    {field : ConfigField}
    (listed : field ∈ schema.fields)
    (plain : field.isSecret = false) :
    field.examine raw = field.examine other := by
  simp only [ConfigField.examine,
    apart.effective?_eq alike.plain listed plain]

/-- Mappings that are alike get the same verdict for every field. -/
theorem verdict
    (alike : schema.Alike raw other)
    (apart : schema.KeepsApart)
    {field : ConfigField}
    (listed : field ∈ schema.fields) :
    (field.examine raw).verdict = (field.examine other).verdict := by
  cases secret : field.isSecret with
  | true => exact alike.verdicts field listed secret
  | false => rw [alike.examine_of_plain apart listed secret]

/-- Mappings that are alike have the same offenders. -/
theorem offenders
    (alike : schema.Alike raw other)
    (apart : schema.KeepsApart) :
    schema.offenders raw = schema.offenders other := by
  refine List.filter_congr fun field listed => ?_
  rw [field.offends_eq, field.offends_eq, alike.verdict apart listed]

/-- Mappings that are alike have the same issue reported for every field. -/
theorem issue?
    (alike : schema.Alike raw other)
    (apart : schema.KeepsApart)
    {field : ConfigField}
    (listed : field ∈ schema.fields) :
    field.issue? raw = field.issue? other := by
  cases secret : field.isSecret with
  | true =>
      rw [ConfigField.issue?_of_isSecret secret,
        ConfigField.issue?_of_isSecret secret, alike.verdict apart listed]
  | false =>
      simp only [ConfigField.issue?,
        alike.examine_of_plain apart listed secret]

/-- Alike configurations are alike once they are accepted. -/
theorem configOf
    (alike : schema.Alike raw other)
    (apart : schema.KeepsApart) :
    schema.SameButSecrets (schema.configOf raw) (schema.configOf other) where
  schemaName := rfl
  plain := by
    intro name plain
    rw [get?_configOf, get?_configOf]
    cases found : schema.field? name with
    | none => rfl
    | some field =>
        obtain ⟨listed, named⟩ := (schema.field?_eq_some_iff name field).1 found
        have sameFinding :=
          alike.examine_of_plain apart listed (plain field listed named)
        simp only [Option.bind_some, ConfigField.value?, sameFinding]
  secret := by
    intro field listed secret
    rw [get?_configOf, get?_configOf, schema.field?_name listed]
    simp only [Option.bind_some]
    rw [field.isSome_value?, field.isSome_value?, alike.verdict apart listed]

end Alike

/-- Validations that differ in accepted secret values only. -/
inductive AlikeValidations (schema : ConfigSchema) :
    Validation → Validation → Prop where
  | accepted
      (config other : ValidatedConfig)
      (same : schema.SameButSecrets config other) :
      AlikeValidations schema (.accepted config) (.accepted other)
  | rejected (issues : List ValidationIssue) :
      AlikeValidations schema (.rejected issues) (.rejected issues)
  | unprintable : AlikeValidations schema .unprintable .unprintable

/-- Steps that agree on the fields agree in sequence. -/
private theorem mapM_congr
    {f g : ConfigField → Option ValidationIssue}
    {fields : List ConfigField}
    (same : ∀ field ∈ fields, f field = g field) :
    fields.mapM f = fields.mapM g := by
  induction fields with
  | nil => rfl
  | cons first rest inductionHypothesis =>
      obtain ⟨atHead, behind⟩ := List.forall_mem_cons.1 same
      rw [List.mapM_cons, List.mapM_cons, atHead, inductionHypothesis behind]

/-- Validation tells alike configurations apart by accepted secrets only. -/
theorem Alike.validate
    {schema : ConfigSchema}
    {raw other : RawConfig}
    (alike : schema.Alike raw other)
    (apart : schema.KeepsApart) :
    schema.AlikeValidations (schema.validate raw) (schema.validate other) := by
  unfold ConfigSchema.validate
  rw [← alike.offenders apart]
  cases offending : schema.offenders raw with
  | nil => exact .accepted _ _ (alike.configOf apart)
  | cons first rest =>
      have sameIssues :
          ((first :: rest).mapM fun field => field.issue? raw) =
            (first :: rest).mapM fun field => field.issue? other := by
        refine mapM_congr fun field offends => alike.issue? apart ?_
        rw [← offending] at offends
        exact List.mem_of_mem_filter offends
      simp only [sameIssues]
      cases (first :: rest).mapM fun field => field.issue? other with
      | none => exact .unprintable
      | some issues => exact .rejected issues

namespace SameButSecrets

variable
  {schema : ConfigSchema}
  {config other : ValidatedConfig}

/-- The value of a plain field is the same. -/
theorem get?_of_plain
    (same : schema.SameButSecrets config other)
    {field : ConfigField}
    (listed : field ∈ schema.fields)
    (plain : field.isSecret = false) :
    config.get? field.name = other.get? field.name := by
  refine same.plain field.name fun namesake otherListed named => ?_
  have found := schema.field?_name otherListed
  rw [named, schema.field?_name listed] at found
  rw [← Option.some.inj found]
  exact plain

/-- A secret field gives the same for any value if it is set in both. -/
theorem map_get?_of_secret
    {β : Type}
    (same : schema.SameButSecrets config other)
    {field : ConfigField}
    (listed : field ∈ schema.fields)
    (secret : field.isSecret = true)
    (shown : β) :
    ((config.get? field.name).map fun _ => shown) =
      (other.get? field.name).map fun _ => shown := by
  have bothSet := same.secret field listed secret
  cases found : config.get? field.name <;>
    cases otherFound : other.get? field.name <;>
    simp_all

/-- What is shown of a configuration does not depend on its secrets. -/
theorem redact (same : schema.SameButSecrets config other) :
    schema.redact config = schema.redact other := by
  unfold ConfigSchema.redact
  congr 1
  refine List.filterMap_congr fun field listed => ?_
  cases secret : field.isSecret with
  | true =>
      exact same.map_get?_of_secret listed secret
        (field.externalKey, ConfigValue.text redacted)
  | false => rw [same.get?_of_plain listed secret]

end SameButSecrets

end ConfigSchema

end StorageBackends
