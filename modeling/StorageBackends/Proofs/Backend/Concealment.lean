import StorageBackends.Proofs.Backend.Partition
import StorageBackends.Proofs.Lifecycle.Secrecy

namespace StorageBackends

/-!
# What the variables conceal

Two accepted configurations that differ in secret values only have the same
options, and both need a reference or neither does. Their network bindings are
another matter, because they are decided by the value of one field, whether it
is secret or not. So the variables conceal the secrets of a backend unless its
protocol field is secret and takes Fibre Channel as well as something else.
-/

namespace FieldKind

/-- A value that fields of some kind take. -/
def sample : FieldKind → Json
  | text none => .str ""
  | text (some .host) => .str "192.0.2.1"
  | flag => .bool false
  | choice values => .str (values.headD "")

/-- Every kind takes its sample, unless it leaves nothing to choose from. -/
theorem takes_sample
    {kind : FieldKind}
    (choices : kind ≠ .choice []) :
    ∃ accepted, kind.Takes kind.sample accepted := by
  cases kind with
  | text format =>
      cases format with
      | none => exact ⟨_, .text ""⟩
      | some format =>
          cases format with
          | host => exact ⟨_, .host "192.0.2.1" (by decide +kernel)⟩
  | flag => exact ⟨_, .flag false⟩
  | choice values =>
      cases values with
      | nil => exact absurd rfl choices
      | cons first rest =>
          exact ⟨_, .choice _ first List.mem_cons_self⟩

/-- No kind of field takes null. -/
theorem Takes.not_null
    {kind : FieldKind}
    {value : Json}
    {accepted : ConfigValue}
    (takes : kind.Takes value accepted) :
    value ≠ .null := by
  cases takes <;> nofun

end FieldKind

namespace ConfigSchema

/-- The raw configuration with a value under the wire key of every field. -/
def filledWith
    (schema : ConfigSchema)
    (value : ConfigField → Json) :
    RawConfig :=
  schema.fields.map fun field => (field.externalKey, value field)

/-- A mapping filled field by field gives each field its value. -/
theorem filledWith_gives
    (schema : ConfigSchema)
    {value : ConfigField → Json}
    {field : ConfigField}
    (listed : field ∈ schema.fields)
    (present : value field ≠ .null) :
    (schema.filledWith value).Gives field (value field) := by
  have keys :
      Record.keys (schema.filledWith value) =
        schema.fields.map ConfigField.externalKey := by
    simp [filledWith, Record.keys, Function.comp_def]
  have distinct : (Record.keys (schema.filledWith value)).Nodup := by
    rw [keys]
    exact schema.consistent.distinctKeys
  have entry :
      (field.externalKey, value field) ∈ schema.filledWith value :=
    List.mem_map.2 ⟨field, listed, rfl⟩
  exact ⟨present, .inl ((Record.mem_iff_get?_eq_some distinct _ _).1 entry)⟩

/-- A filled configuration is accepted if every field takes its value. -/
theorem validate_filledWith
    (schema : ConfigSchema)
    {value : ConfigField → Json}
    (taken :
      ∀ field ∈ schema.fields,
        ∃ accepted, field.kind.Takes (value field) accepted) :
    schema.validate (schema.filledWith value) =
      .accepted (schema.configOf (schema.filledWith value)) := by
  have sound :
      ∀ field ∈ schema.fields, ¬field.Offends (schema.filledWith value) := by
    intro field listed offends
    obtain ⟨accepted, takes⟩ := taken field listed
    have given := schema.filledWith_gives listed takes.not_null
    cases offends with
    | missing required ungiven => exact ungiven _ given
    | rejected other otherGiven refused =>
        rw [otherGiven.unique given] at refused
        exact refused accepted takes
  unfold validate
  rw [(schema.offenders_eq_nil_iff _).2 sound]

/--
A configuration of a filled mapping holds what its kinds make of the values.
-/
theorem get?_filledWith
    (schema : ConfigSchema)
    {value : ConfigField → Json}
    {field : ConfigField}
    (listed : field ∈ schema.fields)
    {accepted : ConfigValue}
    (takes : field.kind.Takes (value field) accepted) :
    (schema.configOf (schema.filledWith value)).get? field.name =
      some accepted := by
  have given := schema.filledWith_gives listed takes.not_null
  rw [get?_configOf, schema.field?_name listed, Option.bind_some]
  exact (field.value?_eq_some_iff _ _).2 ⟨_, given, takes⟩

/--
Accepted configurations that agree on every plain field and set the same
secret fields.
-/
structure AcceptedAlike
    (schema : ConfigSchema)
    (config other : ValidatedConfig) : Prop where
  accepted : ∃ raw, schema.validate raw = .accepted config
  otherAccepted : ∃ raw, schema.validate raw = .accepted other
  plain :
    ∀ field ∈ schema.fields,
      field.isSecret = false →
      config.get? field.name = other.get? field.name
  secret :
    ∀ field ∈ schema.fields,
      field.isSecret = true →
      (config.get? field.name).isSome = (other.get? field.name).isSome

/-- A sample of every field but the one of some name, which gets some value. -/
def sampleWith
    (schema : ConfigSchema)
    (name : String)
    (value : Json) :
    RawConfig :=
  schema.filledWith fun field =>
    if field.name = name then value else field.kind.sample

section Samples

variable
  {schema : ConfigSchema}
  {field : ConfigField}
  {value : Json}
  {accepted : ConfigValue}

/-- Samples are taken by all fields, and so is the one value put among them. -/
private theorem sampleWith_taken
    (listed : field ∈ schema.fields)
    (takes : field.kind.Takes value accepted) :
    ∀ other ∈ schema.fields,
      ∃ accepted,
        other.kind.Takes
          (if other.name = field.name then value else other.kind.sample)
          accepted := by
  intro other otherListed
  by_cases sameName : other.name = field.name
  · rw [if_pos sameName, schema.name_inj otherListed listed sameName]
    exact ⟨accepted, takes⟩
  · rw [if_neg sameName]
    exact FieldKind.takes_sample
      (schema.consistent.choices other otherListed)

/-- The field under test holds the value put for it. -/
theorem get?_sampleWith_self
    (listed : field ∈ schema.fields)
    (takes : field.kind.Takes value accepted) :
    (schema.configOf (schema.sampleWith field.name value)).get? field.name =
      some accepted :=
  schema.get?_filledWith listed (by rwa [if_pos rfl])

/-- The other fields hold their samples. -/
private theorem get?_sampleWith_other
    {other : ConfigField}
    (otherListed : other ∈ schema.fields)
    (elsewhere : other.name ≠ field.name)
    {sample : ConfigValue}
    (takes : other.kind.Takes other.kind.sample sample) :
    (schema.configOf (schema.sampleWith field.name value)).get? other.name =
      some sample :=
  schema.get?_filledWith otherListed (by rwa [if_neg elsewhere])

/-- Samples that differ in the value of one secret field are alike. -/
theorem acceptedAlike_sampleWith
    (listed : field ∈ schema.fields)
    (secret : field.isSecret = true)
    (takes : field.kind.Takes value accepted)
    {otherValue : Json}
    {otherAccepted : ConfigValue}
    (takesOther : field.kind.Takes otherValue otherAccepted) :
    schema.AcceptedAlike
      (schema.configOf (schema.sampleWith field.name value))
      (schema.configOf (schema.sampleWith field.name otherValue)) where
  accepted :=
    ⟨_, schema.validate_filledWith (sampleWith_taken listed takes)⟩
  otherAccepted :=
    ⟨_, schema.validate_filledWith (sampleWith_taken listed takesOther)⟩
  plain := by
    intro other otherListed plain
    have elsewhere : other.name ≠ field.name := by
      intro sameName
      rw [schema.name_inj otherListed listed sameName, secret] at plain
      cases plain
    obtain ⟨sample, taken⟩ :=
      FieldKind.takes_sample (schema.consistent.choices other otherListed)
    rw [get?_sampleWith_other otherListed elsewhere taken,
      get?_sampleWith_other otherListed elsewhere taken]
  secret := by
    intro other otherListed _
    by_cases sameName : other.name = field.name
    · rw [sameName, get?_sampleWith_self listed takes,
        get?_sampleWith_self listed takesOther]
      rfl
    · obtain ⟨sample, taken⟩ :=
        FieldKind.takes_sample (schema.consistent.choices other otherListed)
      rw [get?_sampleWith_other otherListed sameName taken,
        get?_sampleWith_other otherListed sameName taken]

end Samples

namespace AcceptedAlike

variable
  {schema : ConfigSchema}
  {config other : ValidatedConfig}

theorem symm
    (alike : schema.AcceptedAlike config other) :
    schema.AcceptedAlike other config where
  accepted := alike.otherAccepted
  otherAccepted := alike.accepted
  plain := fun field listed plain => (alike.plain field listed plain).symm
  secret := fun field listed secret => (alike.secret field listed secret).symm

theorem self
    (alike : schema.AcceptedAlike config other) :
    schema.AcceptedAlike config config where
  accepted := alike.accepted
  otherAccepted := alike.accepted
  plain := fun _ _ _ => rfl
  secret := fun _ _ _ => rfl

/-- Such configurations differ in secret values only, whatever is looked up. -/
theorem sameButSecrets
    (alike : schema.AcceptedAlike config other) :
    schema.SameButSecrets config other := by
  obtain ⟨raw, accepted⟩ := alike.accepted
  obtain ⟨otherRaw, otherAccepted⟩ := alike.otherAccepted
  have issued := eq_configOf_of_accepted accepted
  have otherIssued := eq_configOf_of_accepted otherAccepted
  refine ⟨?_, ?_, alike.secret⟩
  · rw [issued, otherIssued]
    rfl
  · intro name plain
    cases found : schema.field? name with
    | none =>
        rw [issued, otherIssued, get?_configOf, get?_configOf, found]
        rfl
    | some field =>
        obtain ⟨listed, named⟩ := (schema.field?_eq_some_iff name field).1 found
        have agree := alike.plain field listed (plain field listed named)
        rwa [named] at agree

end AcceptedAlike

end ConfigSchema

namespace Backend

/--
The bindings and the variables of a backend are the same for all accepted
configurations that differ in secret values only.
-/
def Conceals (backend : Backend) : Prop :=
  ∀ config other,
    backend.schema.AcceptedAlike config other →
    ∀ instanceName secretRef spaces,
      backend.endpointBindings (.issued config) spaces =
          backend.endpointBindings (.issued other) spaces ∧
        backend.buildVariables (.issued config) instanceName secretRef spaces =
          backend.buildVariables (.issued other) instanceName secretRef spaces

/--
The protocol of a backend is a secret that takes Fibre Channel and something
else.
-/
def HidesProtocol (backend : Backend) : Prop :=
  ∃ field ∈ backend.schema.fields,
    field.name = protocolField ∧
      field.isSecret = true ∧
      (∃ value, field.kind.Takes value fibreChannel) ∧
      ∃ value accepted,
        field.kind.Takes value accepted ∧ accepted ≠ fibreChannel

variable
  {backend : Backend}
  {config other : ValidatedConfig}

/-- Bindings tell one thing about a configuration: whether it is over FC. -/
theorem bindingsOf_eq_iff
    (config other : ValidatedConfig)
    (spaces : NetworkSpaces) :
    bindingsOf config spaces = bindingsOf other spaces ↔
      (config.get? protocolField = some fibreChannel ↔
        other.get? protocolField = some fibreChannel) := by
  unfold bindingsOf
  by_cases overFibre : config.get? protocolField = some fibreChannel <;>
    by_cases otherOverFibre :
        other.get? protocolField = some fibreChannel <;>
      simp [overFibre, otherOverFibre]

/-- The variables of alike configurations differ in their bindings at most. -/
theorem variablesOf_acceptedAlike
    (alike : backend.schema.AcceptedAlike config other)
    (instanceName : String)
    (secretRef : Option String)
    (spaces : NetworkSpaces) :
    backend.variablesOf other instanceName secretRef spaces =
      { backend.variablesOf config instanceName secretRef spaces with
        endpointBindings := bindingsOf other spaces } := by
  have same := alike.sameButSecrets
  simp only [variablesOf, optionsOf_sameButSecrets same,
    isEmpty_secretsOf_sameButSecrets same]

/--
Between configurations that are accepted alike only the bindings may differ.
-/
theorem buildVariables_acceptedAlike
    (alike : backend.schema.AcceptedAlike config other)
    (instanceName : String)
    (secretRef : Option String)
    (spaces : NetworkSpaces) :
    backend.buildVariables (.issued other) instanceName secretRef spaces =
      (backend.buildVariables (.issued config) instanceName secretRef
        spaces).map
          fun deployment =>
            { deployment with endpointBindings := bindingsOf other spaces } := by
  obtain ⟨raw, accepted⟩ := alike.accepted
  obtain ⟨otherRaw, otherAccepted⟩ := alike.otherAccepted
  have own := ownConfig_of_accepted accepted
  have otherOwn := ownConfig_of_accepted otherAccepted
  simp only [buildVariables, own, otherOwn, bind, Except.bind,
    isEmpty_secretsOf_sameButSecrets alike.sameButSecrets]
  split
  · rfl
  · rw [variablesOf_acceptedAlike alike]
    rfl

/-- An accepted configuration is bound by its protocol. -/
private theorem endpointBindings_of_accepted
    {raw : RawConfig}
    (accepted : backend.schema.validate raw = .accepted config)
    (spaces : NetworkSpaces) :
    backend.endpointBindings (.issued config) spaces =
      .ok (bindingsOf config spaces) := by
  simp only [endpointBindings, ownConfig_of_accepted accepted, bind,
    Except.bind]
  rfl

/--
The bindings tell whether the protocol is the one of fibre channels, and no
more.
-/
theorem endpointBindings_eq_iff
    (alike : backend.schema.AcceptedAlike config other)
    (spaces : NetworkSpaces) :
    backend.endpointBindings (.issued config) spaces =
        backend.endpointBindings (.issued other) spaces ↔
      (config.get? protocolField = some fibreChannel ↔
        other.get? protocolField = some fibreChannel) := by
  obtain ⟨raw, accepted⟩ := alike.accepted
  obtain ⟨otherRaw, otherAccepted⟩ := alike.otherAccepted
  rw [endpointBindings_of_accepted accepted,
    endpointBindings_of_accepted otherAccepted, ← bindingsOf_eq_iff _ _ spaces]
  exact ⟨Except.ok.inj, congrArg Except.ok⟩

/-- A protocol that is not hidden is over FC in both configurations or neither. -/
theorem overFibre_of_acceptedAlike
    (shown : ¬backend.HidesProtocol)
    (alike : backend.schema.AcceptedAlike config other)
    (overFibre : config.get? protocolField = some fibreChannel) :
    other.get? protocolField = some fibreChannel := by
  obtain ⟨raw, accepted⟩ := alike.accepted
  obtain ⟨otherRaw, otherAccepted⟩ := alike.otherAccepted
  have found := overFibre
  rw [ConfigSchema.eq_configOf_of_accepted accepted,
    ConfigSchema.get?_configOf] at found
  obtain ⟨field, declared, -⟩ := Option.bind_eq_some_iff.1 found
  have listed : field ∈ backend.schema.fields :=
    List.mem_of_find?_eq_some declared
  have named : field.name = protocolField := by
    simpa using List.find?_some declared
  rw [← named] at overFibre ⊢
  cases secret : field.isSecret with
  | false => rw [← alike.plain field listed secret, overFibre]
  | true =>
      have bothSet := alike.secret field listed secret
      rw [overFibre] at bothSet
      obtain ⟨value, set⟩ := Option.isSome_iff_exists.1 bothSet.symm
      by_cases same : value = fibreChannel
      · rw [set, same]
      · have takesFibre :=
          ConfigSchema.get?_takes accepted listed overFibre
        obtain ⟨given, takes⟩ :=
          ConfigSchema.get?_takes otherAccepted listed set
        have hidden : backend.HidesProtocol :=
          ⟨field, listed, named, secret, takesFibre, given, value, takes,
            same⟩
        exact absurd hidden shown

/-- Samples that differ at a hidden protocol are told apart by their bindings. -/
theorem not_conceals_of_hidesProtocol
    (hidden : backend.HidesProtocol) :
    ¬backend.Conceals := by
  obtain ⟨protocol, listed, named, secret, ⟨fibre, takesFibre⟩,
    elsewhere, accepted, takesElsewhere, different⟩ := hidden
  have alike :=
    ConfigSchema.acceptedAlike_sampleWith listed secret takesFibre
      takesElsewhere
  have overFibre :=
    ConfigSchema.get?_sampleWith_self listed takesFibre
  have notOverFibre :=
    ConfigSchema.get?_sampleWith_self listed takesElsewhere
  intro conceals
  have sameBindings := (conceals _ _ alike "" none .default).1
  have bothOrNeither :=
    (endpointBindings_eq_iff alike .default).1 sameBindings
  rw [← named, overFibre, notOverFibre] at bothOrNeither
  exact different (Option.some.inj (bothOrNeither.1 rfl))

/-- What the bindings and the variables of a backend tell about its secrets. -/
structure ConcealmentLaw (backend : Backend) : Prop where
  /-- Variables differ in their bindings at most, and fail in the same way. -/
  deployments :
    ∀ config other,
      backend.schema.AcceptedAlike config other →
      ∀ instanceName secretRef spaces,
        backend.buildVariables (.issued other) instanceName secretRef spaces =
          (backend.buildVariables (.issued config) instanceName secretRef
            spaces).map fun deployment =>
              { deployment with
                endpointBindings := bindingsOf other spaces }
  /-- Bindings differ exactly if one configuration alone is over FC. -/
  bindings :
    ∀ config other,
      backend.schema.AcceptedAlike config other →
      ∀ spaces,
        backend.endpointBindings (.issued config) spaces =
            backend.endpointBindings (.issued other) spaces ↔
          (config.get? protocolField = some fibreChannel ↔
            other.get? protocolField = some fibreChannel)
  /-- So all secrets are concealed exactly if no protocol is hidden. -/
  conceals : backend.Conceals ↔ ¬backend.HidesProtocol

/-- The law of concealment holds for every backend. -/
theorem concealmentLaw (backend : Backend) : backend.ConcealmentLaw where
  deployments := fun _ _ alike => buildVariables_acceptedAlike alike
  bindings := fun _ _ alike => endpointBindings_eq_iff alike
  conceals := by
    constructor
    · intro conceals hidden
      exact not_conceals_of_hidesProtocol hidden conceals
    · intro shown config other alike instanceName secretRef spaces
      have bothOrNeither :
          config.get? protocolField = some fibreChannel ↔
            other.get? protocolField = some fibreChannel :=
        ⟨overFibre_of_acceptedAlike shown alike,
          overFibre_of_acceptedAlike shown alike.symm⟩
      refine ⟨(endpointBindings_eq_iff alike spaces).2 bothOrNeither, ?_⟩
      have sameBindings :=
        (bindingsOf_eq_iff config other spaces).2 bothOrNeither
      have built := buildVariables_acceptedAlike alike instanceName secretRef
      have rebuilt :=
        buildVariables_acceptedAlike alike.self instanceName secretRef
      rw [built spaces, ← sameBindings]
      exact rebuilt spaces

/-- The PowerStore conceals its secrets, since its protocol is none of them. -/
theorem concealmentLaw_powerStore : Catalogue.dellPowerStore.Conceals := by
  have plain :
      ∀ field ∈ Catalogue.dellPowerStore.schema.fields,
        field.name = protocolField → field.isSecret = false := by
    decide +kernel
  refine (concealmentLaw Catalogue.dellPowerStore).conceals.2 ?_
  intro hidden
  obtain ⟨field, listed, named, secret, -⟩ := hidden
  rw [plain field listed named] at secret
  cases secret

/-- A backend whose only field is its protocol, which is secret. -/
def hiddenArray : Backend :=
  .ofSound "hiddenarray" "Hidden Array"
    [("protocol",
      (FieldSpec.choice ["fc", "iscsi"] "Protocol" false none).markSecret
        "protocol")]
    (by decide +kernel)

/-- The bindings and the variables of that backend tell its secret protocol. -/
theorem hiddenArray_shows_protocol :
    ∃ config other,
      hiddenArray.schema.validate [("protocol", .str "iscsi")] =
          .accepted config ∧
        hiddenArray.schema.validate [("protocol", .str "fc")] =
          .accepted other ∧
        hiddenArray.schema.AcceptedAlike config other ∧
        hiddenArray.endpointBindings (.issued config) .default ≠
          hiddenArray.endpointBindings (.issued other) .default ∧
        hiddenArray.buildVariables (.issued config) "ha" (some "secret:#1")
            .default ≠
          hiddenArray.buildVariables (.issued other) "ha" (some "secret:#1")
            .default := by
  have accepted : ∃ config,
      hiddenArray.schema.validate [("protocol", .str "iscsi")] =
        .accepted config := ⟨_, rfl⟩
  have otherAccepted : ∃ config,
      hiddenArray.schema.validate [("protocol", .str "fc")] =
        .accepted config := ⟨_, rfl⟩
  obtain ⟨config, accepted⟩ := accepted
  obtain ⟨other, otherAccepted⟩ := otherAccepted
  refine ⟨config, other, accepted, otherAccepted,
    ⟨⟨_, accepted⟩, ⟨_, otherAccepted⟩, ?_, ?_⟩, ?_, ?_⟩
  all_goals
    cases accepted
    cases otherAccepted
  · decide +kernel
  · decide +kernel
  · intro same
    have sameBindings := Except.ok.inj same
    exact absurd sameBindings (by decide +kernel)
  · intro same
    have sameBindings :=
      congrArg DeploymentVariables.endpointBindings (Except.ok.inj same)
    exact absurd sameBindings (by decide +kernel)

end Backend

end StorageBackends
