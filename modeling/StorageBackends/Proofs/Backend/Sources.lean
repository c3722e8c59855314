import StorageBackends.Proofs.Backend.Partition

namespace StorageBackends

/-!
# Where values come from

A field draws its value from the entry of its wire key, or from the entry of
its name. The rules on keys compare wire keys with each other only, so a wire
key can be the name of another field. Then one entry feeds two fields, and a
secret value can become a plain option. The main statement says that nothing
else lets entries and fields get mixed up.
-/

namespace RawConfig

/--
A field draws a value from the entry of a key: from that of its wire key, or
from that of its name if there is no wire key or it holds null.
-/
inductive Draws (raw : RawConfig) (field : ConfigField) :
    String → Json → Prop where
  | wireKey
      (value : Json)
      (notNull : value ≠ .null)
      (entry : Record.get? field.externalKey raw = some value) :
      Draws raw field field.externalKey value
  | name
      (value : Json)
      (notNull : value ≠ .null)
      (noWireKey :
        Record.get? field.externalKey raw = none ∨
          Record.get? field.externalKey raw = some .null)
      (entry : Record.get? field.name raw = some value) :
      Draws raw field field.name value

/-- What the look-up of a field finds is drawn from some entry. -/
theorem effective?_eq_some_iff_draws
    (raw : RawConfig)
    (field : ConfigField)
    (value : Json) :
    raw.effective? field = some value ↔
      ∃ key, raw.Draws field key value := by
  rw [effective?_eq_some_iff]
  constructor
  · rintro ⟨notNull, entry | ⟨noWireKey, entry⟩⟩
    · exact ⟨_, .wireKey value notNull entry⟩
    · exact ⟨_, .name value notNull noWireKey entry⟩
  · rintro ⟨_, ⟨_, notNull, entry⟩ | ⟨_, notNull, noWireKey, entry⟩⟩
    · exact ⟨notNull, .inl entry⟩
    · exact ⟨notNull, .inr ⟨noWireKey, entry⟩⟩

/-- A field draws its value from its external key or from its own name. -/
theorem Draws.key_eq
    {raw : RawConfig}
    {field : ConfigField}
    {key : String}
    {value : Json}
    (draws : raw.Draws field key value) :
    key = field.externalKey ∨ key = field.name := by
  cases draws with
  | wireKey => exact .inl rfl
  | name => exact .inr rfl

/-- A lone entry is drawn by every field that it can belong to. -/
theorem draws_lone
    {field : ConfigField}
    {key : String}
    (own : key = field.externalKey ∨ key = field.name) :
    Draws [(key, .bool true)] field key (.bool true) := by
  have entry : Record.get? key [(key, Json.bool true)] = some (.bool true) := by
    rw [Record.get?_cons, if_pos rfl]
  by_cases isWireKey : key = field.externalKey
  · subst isWireKey
    exact .wireKey _ nofun entry
  · have isName := own.resolve_left isWireKey
    subst isName
    refine .name _ nofun (.inl ?_) entry
    rw [Record.get?_cons, if_neg (Ne.symm isWireKey)]
    rfl

end RawConfig

namespace ConfigSchema

/-- No wire key is the name of another field. -/
def Uncrossed (schema : ConfigSchema) : Prop :=
  ∀ field ∈ schema.fields, ∀ other ∈ schema.fields,
    field.externalKey = other.name → field = other

/-- No entry is drawn by two fields. -/
def FeedsSingly (schema : ConfigSchema) : Prop :=
  ∀ raw : RawConfig, ∀ field ∈ schema.fields, ∀ other ∈ schema.fields,
    ∀ key value otherValue,
      raw.Draws field key value →
      raw.Draws other key otherValue →
      field = other

/-- Where every key is a wire key, the look-up of a field finds its own. -/
def ReadsWireKeys (schema : ConfigSchema) : Prop :=
  ∀ raw : RawConfig,
    (∀ key ∈ Record.keys raw,
      ∃ field ∈ schema.fields, field.externalKey = key) →
    ∀ field ∈ schema.fields,
      raw.effective? field = raw.present? field.externalKey

/-- No plain field draws from an entry under which a secret arrives. -/
def ConfinesSecrets (schema : ConfigSchema) : Prop :=
  ∀ raw : RawConfig, ∀ field ∈ schema.fields,
    field.isSecret = false →
    ∀ key ∈ schema.secretArrivals, ∀ value, ¬raw.Draws field key value

/--
What a schema and its backends make known of a configuration does not depend
on the entries under which secrets arrive.
-/
def ShowsNoSecret (schema : ConfigSchema) : Prop :=
  ∀ (raw otherRaw : RawConfig) config other,
    (∀ key,
      key ∉ schema.secretArrivals →
      Record.get? key raw = Record.get? key otherRaw) →
    schema.validate raw = .accepted config →
    schema.validate otherRaw = .accepted other →
    (∀ backend : Backend,
      backend.schema = schema →
      ∀ instanceName,
        backend.optionsOf config instanceName =
          backend.optionsOf other instanceName) ∧
      ∀ field ∈ schema.fields,
        field.isSecret = false →
        Record.get? field.externalKey (schema.redact config) =
          Record.get? field.externalKey (schema.redact other)

/-- Each entry feeds one field exactly when no name crosses a key. -/
theorem feedsSingly_iff (schema : ConfigSchema) :
    schema.FeedsSingly ↔ schema.Uncrossed := by
  constructor
  · intro feedsSingly field listed other otherListed crossing
    exact feedsSingly [(other.name, .bool true)] field listed other otherListed
      other.name _ _ (RawConfig.draws_lone (.inl crossing.symm))
      (RawConfig.draws_lone (.inr rfl))
  · intro uncrossed raw field listed other otherListed key _ _ draws drawsOther
    rcases draws.key_eq with atWireKey | atName <;>
      rcases drawsOther.key_eq with otherAtWireKey | otherAtName
    · exact schema.externalKey_inj listed otherListed
        (atWireKey.symm.trans otherAtWireKey)
    · exact uncrossed field listed other otherListed
        (atWireKey.symm.trans otherAtName)
    · exact (uncrossed other otherListed field listed
        (otherAtWireKey.symm.trans atName)).symm
    · exact schema.name_inj listed otherListed
        (atName.symm.trans otherAtName)

/-- Fields are read from their wire keys exactly when no name crosses a key. -/
theorem readsWireKeys_iff (schema : ConfigSchema) :
    schema.ReadsWireKeys ↔ schema.Uncrossed := by
  constructor
  · intro readsWireKeys field listed other otherListed crossing
    have drawn :
        RawConfig.effective? [(other.name, .bool true)] other =
          some (.bool true) :=
      (RawConfig.effective?_eq_some_iff_draws _ _ _).2
        ⟨other.name, RawConfig.draws_lone (.inr rfl)⟩
    have wireKeys : ∀ key ∈ Record.keys [(other.name, Json.bool true)],
        ∃ owner ∈ schema.fields, owner.externalKey = key := by
      intro key isKey
      rw [List.mem_singleton.1 isKey]
      exact ⟨field, listed, crossing⟩
    rw [readsWireKeys _ wireKeys other otherListed,
      RawConfig.present?_eq_some_iff, Record.get?_cons] at drawn
    split at drawn
    · rename_i sameKey
      exact schema.externalKey_inj listed otherListed
        (crossing.trans sameKey.symm)
    · cases drawn.1
  · intro uncrossed raw wireKeys field listed
    refine Option.ext fun value => ?_
    rw [RawConfig.effective?_eq_some_iff, RawConfig.present?_eq_some_iff]
    constructor
    · rintro ⟨notNull, entry | ⟨noWireKey, entry⟩⟩
      · exact ⟨entry, notNull⟩
      · -- The name is a key of the entries, so it is the field's wire key.
        have isKey : field.name ∈ Record.keys raw := by
          refine Decidable.byContradiction fun absent => ?_
          rw [(Record.get?_eq_none_iff _ _).2 absent] at entry
          cases entry
        obtain ⟨owner, ownerListed, isWireKey⟩ := wireKeys _ isKey
        have same := uncrossed owner ownerListed field listed isWireKey
        rw [← isWireKey, same] at entry
        exact ⟨entry, notNull⟩
    · rintro ⟨entry, notNull⟩
      exact ⟨notNull, .inl entry⟩

/-- Secrets stay confined exactly when their arrivals are kept apart. -/
theorem confinesSecrets_iff (schema : ConfigSchema) :
    schema.ConfinesSecrets ↔ schema.KeepsApart := by
  constructor
  · intro confines field listed plain
    constructor
    · intro arrives
      exact confines _ field listed plain _ arrives _
        (RawConfig.draws_lone (.inl rfl))
    · intro arrives
      exact confines _ field listed plain _ arrives _
        (RawConfig.draws_lone (.inr rfl))
  · intro apart raw field listed plain key arrives value draws
    obtain ⟨keyApart, nameApart⟩ := apart field listed plain
    rcases draws.key_eq with rfl | rfl
    · exact keyApart arrives
    · exact nameApart arrives

/-- Without any crossing the arrivals of secrets are kept apart. -/
theorem Uncrossed.keepsApart
    {schema : ConfigSchema}
    (uncrossed : schema.Uncrossed) :
    schema.KeepsApart := by
  rw [← schema.confinesSecrets_iff]
  intro raw field listed plain key arrives value draws
  obtain ⟨secret, secretListed, arrivesThere⟩ := List.mem_flatMap.1 arrives
  obtain ⟨declared, isSecret⟩ := List.mem_filter.1 secretListed
  have drawsToo : RawConfig.Draws [(key, .bool true)] secret key (.bool true) :=
    RawConfig.draws_lone (by simpa using arrivesThere)
  have drawsLone : RawConfig.Draws [(key, .bool true)] field key (.bool true) :=
    RawConfig.draws_lone draws.key_eq
  have same :=
    schema.feedsSingly_iff.2 uncrossed _ field listed secret declared key _ _
      drawsLone drawsToo
  rw [same, isSecret] at plain
  cases plain

/--
Where secrets are kept apart, plain fields do not depend on what arrives for
secrets.
-/
theorem KeepsApart.get?_eq
    {schema : ConfigSchema}
    (apart : schema.KeepsApart)
    {raw otherRaw : RawConfig}
    (agree :
      ∀ key,
        key ∉ schema.secretArrivals →
        Record.get? key raw = Record.get? key otherRaw)
    {field : ConfigField}
    (listed : field ∈ schema.fields)
    (plain : field.isSecret = false) :
    (schema.configOf raw).get? field.name =
      (schema.configOf otherRaw).get? field.name := by
  rw [get?_configOf, get?_configOf, schema.field?_name listed]
  simp only [Option.bind_some, ConfigField.value?, ConfigField.examine,
    apart.effective?_eq agree listed plain]

/-- Where secrets are kept apart, no option shows one. -/
theorem KeepsApart.showsNoSecret
    {schema : ConfigSchema}
    (apart : schema.KeepsApart) :
    schema.ShowsNoSecret := by
  intro raw otherRaw config other agree accepted acceptedOther
  rw [eq_configOf_of_accepted accepted, eq_configOf_of_accepted acceptedOther]
  constructor
  · rintro backend rfl instanceName
    unfold Backend.optionsOf
    congr 2
    refine List.filterMap_congr fun field listed => ?_
    cases secret : field.isSecret with
    | true => rfl
    | false => rw [apart.get?_eq agree listed secret]
  · intro field listed plain
    rw [schema.get?_redact listed, schema.get?_redact listed,
      apart.get?_eq agree listed plain]

/-- An external key is its own external key. -/
private theorem externalKey_externalKey (name : String) :
    StorageBackends.externalKey (StorageBackends.externalKey name) =
      StorageBackends.externalKey name := by
  unfold StorageBackends.externalKey
  rw [String.toList_ofList, List.map_map]
  congr 1
  refine List.map_congr_left fun c _ => ?_
  by_cases isUnderscore : c = '_' <;> simp [isUnderscore]

/-- Only a wire key that was chosen by hand can cross a name. -/
theorem uncrossed_of_derivedKeys
    {schema : ConfigSchema}
    (derived :
      ∀ field ∈ schema.fields,
        field.externalKey = StorageBackends.externalKey field.name) :
    schema.Uncrossed := by
  intro field listed other otherListed crossing
  refine schema.externalKey_inj listed otherListed ?_
  rw [derived other otherListed, ← crossing, derived field listed,
    externalKey_externalKey]

/--
Entries and fields are kept apart exactly by the schemas in which no wire key
is the name of another field.

A look-up finds what its field draws from an entry. No entry is drawn by two
fields in these schemas only, and in these only is a configuration by wire
keys read key by key. Secrets are drawn by secret fields only exactly if no
plain field has the name or wire key of a secret field; what is applied and
shown in plain then depends on no entry of a secret. Schemas whose wire keys
all derive from names are among them.
-/
theorem sources_apart_iff (schema : ConfigSchema) :
    (∀ (raw : RawConfig) (field : ConfigField) (value : Json),
        raw.effective? field = some value ↔
          ∃ key, raw.Draws field key value) ∧
      (schema.FeedsSingly ↔ schema.Uncrossed) ∧
      (schema.ReadsWireKeys ↔ schema.Uncrossed) ∧
      (schema.ConfinesSecrets ↔ schema.KeepsApart) ∧
      (schema.Uncrossed → schema.KeepsApart) ∧
      (schema.KeepsApart → schema.ShowsNoSecret) ∧
      ((∀ field ∈ schema.fields,
          field.externalKey = StorageBackends.externalKey field.name) →
        schema.Uncrossed) :=
  ⟨RawConfig.effective?_eq_some_iff_draws, schema.feedsSingly_iff,
    schema.readsWireKeys_iff, schema.confinesSecrets_iff,
    Uncrossed.keepsApart, KeepsApart.showsNoSecret,
    uncrossed_of_derivedKeys⟩

end ConfigSchema

/-- Declarations without a key leave all wire keys to derive from names. -/
theorem Backend.derivedKeys_ofSound
    {backendType displayName : String}
    {declarations : List (String × FieldSpec)}
    {sound : firstProblem [] (ConfigSchema.resolve declarations) = none}
    (unkeyed : ∀ declaration ∈ declarations, declaration.2.key = none) :
    ∀ field ∈
        (ofSound backendType displayName declarations sound).schema.fields,
      field.externalKey = externalKey field.name := by
  intro field listed
  obtain ⟨declaration, declared, rfl⟩ := List.mem_map.1 listed
  have noKey := unkeyed declaration (Record.mem_of_mem_ofList declared)
  simp only [ConfigField.ofSpec, noKey, Option.getD_none]

/--
The keys of the built-in schemas are made from the names of their fields.
-/
theorem Catalogue.derivedKeys :
    ∀ backend ∈ Catalogue.all, ∀ field ∈ backend.schema.fields,
      field.externalKey = externalKey field.name := by
  intro backend listed
  simp only [Catalogue.all, List.mem_cons, List.not_mem_nil, or_false]
    at listed
  rcases listed with rfl | rfl | rfl | rfl <;>
    exact Backend.derivedKeys_ofSound (by decide)

/-- No name crosses a key in a built-in schema. -/
theorem Catalogue.uncrossed :
    ∀ backend ∈ Catalogue.all, backend.schema.Uncrossed :=
  fun backend listed =>
    ConfigSchema.uncrossed_of_derivedKeys (derivedKeys backend listed)

/-- The PowerStore keeps entries and fields apart. -/
theorem ConfigSchema.sources_apart_iff_powerStore :
    Catalogue.dellPowerStore.schema.FeedsSingly ∧
      Catalogue.dellPowerStore.schema.ReadsWireKeys ∧
      Catalogue.dellPowerStore.schema.ConfinesSecrets ∧
      Catalogue.dellPowerStore.schema.ShowsNoSecret := by
  have listed : Catalogue.dellPowerStore ∈ Catalogue.all := by
    simp [Catalogue.all]
  obtain ⟨-, feedsSingly, readsWireKeys, confines, apart, shows, derived⟩ :=
    Catalogue.dellPowerStore.schema.sources_apart_iff
  have uncrossed :=
    derived (Catalogue.derivedKeys Catalogue.dellPowerStore listed)
  exact ⟨feedsSingly.2 uncrossed, readsWireKeys.2 uncrossed,
    confines.2 (apart uncrossed), shows (apart uncrossed)⟩

/-- A backend whose secret field has the name of a plain field as its wire key. -/
def crossedArray : Backend :=
  .ofSound "crossedarray" "Crossed Array"
    [("token",
        (FieldSpec.text "API token" true none (some "pool")).markSecret
          "token"),
      ("pool", .text "Pool name" false none (some "pool-name"))]
    (by decide +kernel)

/-- One entry of the crossed array is its secret and a plain option. -/
theorem crossedArray_shows_secret :
    (∃ secret ∈ crossedArray.schema.fields,
        ∃ plain ∈ crossedArray.schema.fields,
          secret.isSecret = true ∧
            plain.isSecret = false ∧
            RawConfig.Draws [("pool", .str "s3cret")] secret "pool"
              (.str "s3cret") ∧
            RawConfig.Draws [("pool", .str "s3cret")] plain "pool"
              (.str "s3cret")) ∧
      ∃ config,
        crossedArray.schema.validate [("pool", .str "s3cret")] =
            .accepted config ∧
          Record.get? "pool-name" (crossedArray.optionsOf config "ps") =
            some (.text "s3cret") ∧
          Record.get? "pool-name" (crossedArray.schema.redact config) =
            some (.text "s3cret") := by
  constructor
  · refine
      ⟨⟨"token", .text none, true, "pool", some "token", "API token"⟩,
        by decide +kernel,
        ⟨"pool", .text none, false, "pool-name", none, "Pool name"⟩,
        by decide +kernel, rfl, rfl, ?_, ?_⟩
    · exact .wireKey _ nofun rfl
    · exact .name _ nofun (.inl rfl) rfl
  · exact ⟨_, rfl, rfl, rfl⟩

end StorageBackends
