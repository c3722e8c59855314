import StorageBackends.Proofs.Backend.Sources
import StorageBackends.Proofs.Schema.Construction
import StorageBackends.Proofs.Schema.Exactness

namespace StorageBackends

/-!
# Validating again

An accepted configuration can be written down again under the names of its
fields, with a null for every unset one, or under the wire keys of the set
ones. Where no wire key is the name of another field, both give every field
what it was given before, and so they are accepted as the same configuration.
-/

namespace ValidatedConfig

/-- The entries under the names of their fields, with nulls for unset ones. -/
def byName (config : ValidatedConfig) : RawConfig :=
  Record.mapValues (fun value => (value.map ConfigValue.toJson).getD .null)
    config.toRecord

end ValidatedConfig

namespace ConfigField

/-- The value of a field without offence is what the look-up finds. -/
theorem toJson_value?
    {field : ConfigField}
    {raw : RawConfig}
    (sound : ¬field.Offends raw) :
    (field.value? raw).map ConfigValue.toJson = raw.effective? field := by
  have suits := (field.not_offends_iff raw).1 sound
  refine Option.ext fun value => ?_
  rw [suits.toJson_value?_eq_some_iff, raw.effective?_eq_some_iff]

theorem examine_congr
    {field : ConfigField}
    {raw other : RawConfig}
    (same : other.effective? field = raw.effective? field) :
    field.examine other = field.examine raw := by
  unfold examine
  rw [same]

end ConfigField

namespace RawConfig

variable {raw other : RawConfig} {field : ConfigField}

/-- What a look-up finds is no null. -/
theorem effective?_filter (raw : RawConfig) (field : ConfigField) :
    ((raw.effective? field).filter fun value => !value.isNull) =
      raw.effective? field := by
  cases found : raw.effective? field with
  | none => rfl
  | some value =>
      have given := (raw.effective?_eq_some_iff field value).1 found
      have isNull : value.isNull = false := by
        rw [← Bool.not_eq_true, Json.isNull_eq_true_iff]
        exact given.1
      rw [Option.filter_some, isNull]
      rfl

/--
A field is given what it was before if one of its keys gives that, and the
other one gives it too or is absent.
-/
theorem effective?_eq_of_present?
    (sound :
      other.present? field.name = raw.effective? field ∧
          (other.present? field.externalKey = raw.effective? field ∨
            other.present? field.externalKey = none) ∨
        other.present? field.externalKey = raw.effective? field ∧
          (other.present? field.name = raw.effective? field ∨
            other.present? field.name = none)) :
    other.effective? field = raw.effective? field := by
  unfold effective? at sound ⊢
  rcases sound with ⟨first, second | second⟩ | ⟨first, second | second⟩ <;>
    rw [first, second] <;> simp

end RawConfig

namespace ConfigSchema

/-- The set fields of a configuration under their wire keys. -/
def byWireKey (schema : ConfigSchema) (config : ValidatedConfig) : RawConfig :=
  Record.ofList <| schema.fields.filterMap fun field =>
    (config.get? field.name).map fun value =>
      (field.externalKey, value.toJson)

variable {schema : ConfigSchema} {raw other : RawConfig}

/-- Validation depends on the look-ups of the fields only. -/
theorem accepted_congr
    (same :
      ∀ field ∈ schema.fields,
        other.effective? field = raw.effective? field)
    {config : ValidatedConfig}
    (accepted : schema.validate raw = .accepted config) :
    schema.validate other = .accepted config := by
  obtain ⟨sound, rfl⟩ := (schema.validate_eq_accepted_iff raw config).1 accepted
  refine (schema.validate_eq_accepted_iff other _).2 ⟨?_, ?_⟩
  · intro field listed offends
    have examined := ConfigField.examine_congr (same field listed)
    refine sound field listed ?_
    rw [← field.offends_eq_true_iff] at offends ⊢
    rwa [ConfigField.offends, examined] at offends
  · unfold configOf
    congr 1
    refine List.map_congr_left fun field listed => ?_
    have examined := ConfigField.examine_congr (same field listed)
    rw [ConfigField.value?, ConfigField.value?, examined]

theorem nodup_keys_configOf (schema : ConfigSchema) (raw : RawConfig) :
    (Record.keys (schema.configOf raw).entries).Nodup := by
  have names :
      Record.keys (schema.configOf raw).entries =
        schema.fields.map ConfigField.name := by
    simp [Record.keys, configOf]
  rw [names]
  exact schema.distinctNames

/-- The entries of an accepted configuration, read back by name. -/
theorem get?_byName
    (sound : ∀ field ∈ schema.fields, ¬field.Offends raw)
    (key : String) :
    Record.get? key (schema.configOf raw).byName =
      (schema.field? key).map fun field =>
        (raw.effective? field).getD .null := by
  have distinct := schema.nodup_keys_configOf raw
  have entry :
      Record.get? key (schema.configOf raw).toRecord =
        ValidatedConfig.entry? (schema.configOf raw) key := by
    refine Option.ext fun value => ?_
    rw [ValidatedConfig.toRecord, Record.get?_ofList,
      Record.get?_reverse_eq_some_iff distinct,
      Record.mem_iff_get?_eq_some distinct]
    rfl
  rw [ValidatedConfig.byName, Record.get?_mapValues, entry, entry?_configOf,
    Option.map_map]
  refine Option.map_congr fun field found => ?_
  obtain ⟨listed, -⟩ := (schema.field?_eq_some_iff key field).1 found
  rw [Function.comp_apply, ConfigField.toJson_value? (sound field listed)]

theorem present?_byName
    (sound : ∀ field ∈ schema.fields, ¬field.Offends raw)
    {field : ConfigField}
    (listed : field ∈ schema.fields) :
    (schema.configOf raw).byName.present? field.name =
      raw.effective? field := by
  have notNull := raw.effective?_filter field
  unfold RawConfig.present?
  rw [get?_byName sound, schema.field?_name listed, Option.map_some]
  cases found : raw.effective? field with
  | none => rfl
  | some value =>
      rw [found] at notNull
      exact notNull

/-- The names give every field of an uncrossed schema what it was given. -/
theorem effective?_byName
    (uncrossed : schema.Uncrossed)
    (sound : ∀ field ∈ schema.fields, ¬field.Offends raw)
    {field : ConfigField}
    (listed : field ∈ schema.fields) :
    (schema.configOf raw).byName.effective? field =
      raw.effective? field := by
  have atName := present?_byName sound listed
  refine RawConfig.effective?_eq_of_present? (.inl ⟨atName, ?_⟩)
  cases found : schema.field? field.externalKey with
  | some other =>
      obtain ⟨otherListed, named⟩ := (schema.field?_eq_some_iff _ _).1 found
      have same := uncrossed field listed other otherListed named.symm
      rw [← same] at named
      rw [← named]
      exact .inl atName
  | none =>
      refine .inr ?_
      unfold RawConfig.present?
      rw [get?_byName sound, found]
      rfl

/-- The set fields of an accepted configuration, read back by wire key. -/
theorem get?_byWireKey_eq_some_iff
    (sound : ∀ field ∈ schema.fields, ¬field.Offends raw)
    (key : String)
    (value : Json) :
    Record.get? key (schema.byWireKey (schema.configOf raw)) = some value ↔
      ∃ field ∈ schema.fields,
        field.externalKey = key ∧ raw.effective? field = some value := by
  unfold byWireKey
  rw [Record.get?_ofList, get?_assignments schema.filterMap_externalKey]
  · refine exists_congr fun field => and_congr_right fun listed => ?_
    rw [get?_configOf, schema.field?_name listed, Option.bind_some,
      ← ConfigField.toJson_value? (sound field listed)]
    simp only [Option.map_eq_some_iff, Prod.mk.injEq]
    constructor
    · rintro ⟨accepted, found, sameKey, rfl⟩
      exact ⟨sameKey, accepted, found, rfl⟩
    · rintro ⟨sameKey, accepted, found, rfl⟩
      exact ⟨accepted, found, sameKey, rfl⟩
  · intro field member assigned
    obtain ⟨_, _, rfl⟩ := Option.map_eq_some_iff.1 assigned
    rfl

theorem present?_byWireKey
    (sound : ∀ field ∈ schema.fields, ¬field.Offends raw)
    {field : ConfigField}
    (listed : field ∈ schema.fields) :
    (schema.byWireKey (schema.configOf raw)).present? field.externalKey =
      raw.effective? field := by
  have found :
      Record.get? field.externalKey (schema.byWireKey (schema.configOf raw)) =
        raw.effective? field := by
    refine Option.ext fun value => ?_
    rw [get?_byWireKey_eq_some_iff sound]
    constructor
    · rintro ⟨other, otherListed, sameKey, given⟩
      rw [schema.externalKey_inj listed otherListed sameKey.symm]
      exact given
    · exact fun given => ⟨field, listed, rfl, given⟩
  rw [RawConfig.present?, found, raw.effective?_filter field]

/-- The wire keys give every field of an uncrossed schema what it was given. -/
theorem effective?_byWireKey
    (uncrossed : schema.Uncrossed)
    (sound : ∀ field ∈ schema.fields, ¬field.Offends raw)
    {field : ConfigField}
    (listed : field ∈ schema.fields) :
    (schema.byWireKey (schema.configOf raw)).effective? field =
      raw.effective? field := by
  have atWireKey := present?_byWireKey sound listed
  refine RawConfig.effective?_eq_of_present? (.inr ⟨atWireKey, ?_⟩)
  cases found :
      Record.get? field.name (schema.byWireKey (schema.configOf raw)) with
  | some value =>
      obtain ⟨other, otherListed, sameKey, -⟩ :=
        (get?_byWireKey_eq_some_iff sound field.name value).1 found
      have same := uncrossed other otherListed field listed sameKey
      rw [same] at sameKey
      rw [← sameKey]
      exact .inl atWireKey
  | none =>
      refine .inr ?_
      rw [RawConfig.present?, found]
      rfl

/-- An accepted configuration is accepted again as it is, by both encodings. -/
structure RoundTrip (schema : ConfigSchema) (config : ValidatedConfig) : Prop where
  byName : schema.validate config.byName = .accepted config
  byWireKey : schema.validate (schema.byWireKey config) = .accepted config

/--
Validating an accepted configuration again accepts the same configuration.

This holds under the names of the fields with nulls for unset ones, and under
the wire keys of the set fields, wherever no wire key is the name of another
field. All the backends that come with the catalogue are of this kind.
-/
theorem validate_roundTrip :
    (∀ backend ∈ Catalogue.all, backend.schema.Uncrossed) ∧
      ∀ schema : ConfigSchema,
        schema.Uncrossed →
        ∀ raw config,
          schema.validate raw = .accepted config →
          schema.RoundTrip config := by
  refine ⟨Catalogue.uncrossed, fun schema uncrossed raw config accepted => ?_⟩
  obtain ⟨sound, rfl⟩ := (schema.validate_eq_accepted_iff raw config).1 accepted
  constructor
  case byName =>
    exact accepted_congr
      (fun _ listed => effective?_byName uncrossed sound listed) accepted
  case byWireKey =>
    exact accepted_congr
      (fun _ listed => effective?_byWireKey uncrossed sound listed) accepted

/-- The small array accepts its configuration again by names and by wire keys. -/
theorem validate_roundTrip_smallArray :
    smallArray.Uncrossed ∧
      smallArray.validate
          [("san-ip", .null), ("san_ip", .str "10.0.0.5"),
            ("pool_name", .str "gold"), ("protocol", .str "fc")] =
        .accepted
          { schemaName := "smallarray"
            entries :=
              [("san_ip", some (.text "10.0.0.5")),
                ("pool_name", some (.text "gold")),
                ("protocol", some (.text "fc")), ("use_nvme", none)] } ∧
      smallArray.validate
          [("san_ip", .str "10.0.0.5"), ("pool_name", .str "gold"),
            ("protocol", .str "fc"), ("use_nvme", .null)] =
        .accepted
          { schemaName := "smallarray"
            entries :=
              [("san_ip", some (.text "10.0.0.5")),
                ("pool_name", some (.text "gold")),
                ("protocol", some (.text "fc")), ("use_nvme", none)] } ∧
      smallArray.validate
          [("san-ip", .str "10.0.0.5"), ("pool", .str "gold"),
            ("protocol", .str "fc")] =
        .accepted
          { schemaName := "smallarray"
            entries :=
              [("san_ip", some (.text "10.0.0.5")),
                ("pool_name", some (.text "gold")),
                ("protocol", some (.text "fc")), ("use_nvme", none)] } := by
  have uncrossed : smallArray.Uncrossed := by
    unfold Uncrossed
    decide +kernel
  have accepted :
      smallArray.validate
          [("san-ip", .null), ("san_ip", .str "10.0.0.5"),
            ("pool_name", .str "gold"), ("protocol", .str "fc")] =
        .accepted _ := rfl
  have roundTrip := validate_roundTrip.2 smallArray uncrossed _ _ accepted
  exact ⟨uncrossed, accepted, roundTrip.byName, roundTrip.byWireKey⟩

end ConfigSchema

end StorageBackends
