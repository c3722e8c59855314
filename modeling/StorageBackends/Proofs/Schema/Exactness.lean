import StorageBackends.Failure
import StorageBackends.Proofs.Schema.Finding

namespace StorageBackends

/-!
# Validation is exact

The answer of a validation is told field by field. A raw configuration is
accepted exactly if it suits every field; the accepted configuration then
repeats what the fields are given. Otherwise every offending field is reported
once, in the order of the schema, and the failure tells all the messages.
-/

namespace ConfigField

/-- A required field is given a value, and what a field is given it takes. -/
structure Suits (field : ConfigField) (raw : RawConfig) : Prop where
  given : field.required = true → ∃ value, raw.Gives field value
  taken :
    ∀ value,
      raw.Gives field value →
      ∃ accepted, field.kind.Takes value accepted

/-- A field offends unless it suits. -/
theorem not_offends_iff (field : ConfigField) (raw : RawConfig) :
    ¬field.Offends raw ↔ field.Suits raw := by
  constructor
  · intro sound
    constructor
    case given =>
      intro required
      refine Classical.byContradiction fun ungiven => sound ?_
      exact .missing required fun value given => ungiven ⟨value, given⟩
    case taken =>
      intro value given
      refine Classical.byContradiction fun refused => sound ?_
      exact .rejected value given fun accepted taken =>
        refused ⟨accepted, taken⟩
  · rintro suits (⟨required, ungiven⟩ | ⟨value, given, refused⟩)
    · obtain ⟨value, given⟩ := suits.given required
      exact ungiven value given
    · obtain ⟨accepted, taken⟩ := suits.taken value given
      exact refused accepted taken

/-- The value of a field is the one it is given, as it stands. -/
theorem Suits.toJson_value?_eq_some_iff
    {field : ConfigField}
    {raw : RawConfig}
    (suits : field.Suits raw)
    (value : Json) :
    (field.value? raw).map ConfigValue.toJson = some value ↔
      raw.Gives field value := by
  rw [Option.map_eq_some_iff]
  constructor
  · rintro ⟨accepted, found, rfl⟩
    obtain ⟨given, gives, taken⟩ :=
      (field.value?_eq_some_iff raw accepted).1 found
    rw [taken.toJson_eq]
    exact gives
  · intro given
    obtain ⟨accepted, taken⟩ := suits.taken value given
    exact ⟨accepted,
      (field.value?_eq_some_iff raw accepted).2 ⟨value, given, taken⟩,
      taken.toJson_eq⟩

/-- The issue of an offending field names the field and says why it offends. -/
inductive Reported (field : ConfigField) (raw : RawConfig) :
    ValidationIssue → Prop where
  | missing
      (message : String)
      (required : field.required = true)
      (ungiven : ∀ value, ¬raw.Gives field value) :
      Reported field raw
        ⟨.missingRequired, field.name, field.externalKey, message⟩
  | rejected
      (message : String)
      (value : Json)
      (given : raw.Gives field value)
      (refused : ∀ accepted, ¬field.kind.Takes value accepted) :
      Reported field raw
        ⟨.invalidValue, field.name, field.externalKey, message⟩

theorem reported_of_issue?
    {field : ConfigField}
    {raw : RawConfig}
    {issue : ValidationIssue}
    (offends : field.Offends raw)
    (reported : field.issue? raw = some issue) :
    field.Reported raw issue := by
  have finds := field.examine_finds raw
  unfold issue? at reported
  generalize field.examine raw = finding at finds reported
  cases finds with
  | missing required ungiven =>
      cases reported
      exact .missing _ required ungiven
  | rejected value given refused =>
      obtain ⟨shown, -, rfl⟩ := Option.map_eq_some_iff.1 reported
      exact .rejected _ value given refused
  | unset optional ungiven =>
      rcases offends with ⟨required, -⟩ | ⟨value, given, -⟩
      · rw [optional] at required
        cases required
      · exact absurd given (ungiven value)
  | accepted value accepted given taken =>
      rcases offends with ⟨-, ungiven⟩ | ⟨other, givenOther, refused⟩
      · exact absurd given (ungiven value)
      · rw [given.unique givenOther] at taken
        exact absurd taken (refused accepted)

end ConfigField

namespace ConfigSchema

/--
An accepted configuration has one entry for each field in their order, with
the value that the field is given as it stands, or none if it is given none.
-/
structure Repeats
    (schema : ConfigSchema)
    (raw : RawConfig)
    (config : ValidatedConfig) : Prop where
  schemaName : config.schemaName = schema.name
  entries :
    List.Forall₂
      (fun field entry =>
        entry.1 = field.name ∧
          ∀ value,
            entry.2.map ConfigValue.toJson = some value ↔
              raw.Gives field value)
      schema.fields config.entries

/-- The issues report each offending field once, in their order. -/
structure Reports
    (schema : ConfigSchema)
    (raw : RawConfig)
    (issues : List ValidationIssue) : Prop where
  reported :
    ∃ offenders : List ConfigField,
      offenders.Sublist schema.fields ∧
      (∀ field ∈ schema.fields,
        field ∈ offenders ↔ field.Offends raw) ∧
      List.Forall₂ (fun field issue => field.Reported raw issue)
        offenders issues
  message :
    (Failure.rejected schema.name issues).message =
      "Invalid " ++ schema.name ++ " configuration: " ++
        String.intercalate "; " (issues.map ValidationIssue.message)

/-- The configuration repeats the values that suit. -/
theorem configOf_repeats
    {schema : ConfigSchema}
    {raw : RawConfig}
    (suits : ∀ field ∈ schema.fields, field.Suits raw) :
    schema.Repeats raw (schema.configOf raw) := by
  refine ⟨rfl, ?_⟩
  unfold configOf
  rw [List.forall₂_map_right_iff, List.forall₂_same]
  intro field listed
  exact ⟨rfl, (suits field listed).toJson_value?_eq_some_iff⟩

/-- The message of a rejected configuration. -/
theorem message_rejected
    (schemaName : String)
    (issues : List ValidationIssue) :
    (Failure.rejected schemaName issues).message =
      "Invalid " ++ schemaName ++ " configuration: " ++
        String.intercalate "; " (issues.map ValidationIssue.message) := by
  have template :
      FaultKind.configRejected.template =
        "Invalid " ++ "%s" ++ " configuration: " ++ "%s" := rfl
  simp only [Failure.message, rejectionFault, Fault.message, template]
  exact Text.fill_pair (by decide) (by decide) _ _

theorem reports_of_reported
    {schema : ConfigSchema}
    {raw : RawConfig}
    {issues : List ValidationIssue}
    (reported :
      List.Forall₂ (fun field issue => field.issue? raw = some issue)
        (schema.offenders raw) issues) :
    schema.Reports raw issues := by
  refine ⟨⟨schema.offenders raw, List.filter_sublist, ?_, ?_⟩,
    message_rejected schema.name issues⟩
  · intro field listed
    rw [schema.mem_offenders_iff raw field]
    exact and_iff_right listed
  · have offend : ∀ field ∈ schema.offenders raw, field.Offends raw :=
      fun field listed => ((schema.mem_offenders_iff raw field).1 listed).2
    generalize schema.offenders raw = offenders at reported offend
    induction reported with
    | nil => exact .nil
    | cons first others inductionHypothesis =>
        obtain ⟨offends, othersOffend⟩ := List.forall_mem_cons.1 offend
        exact .cons (ConfigField.reported_of_issue? offends first)
          (inductionHypothesis othersOffend)

/--
Validation is exact.

If it answers at all, it accepts exactly the raw configurations that suit
every field and rejects those in which a field offends. What it accepts
repeats the raw configuration, and its issues report the offending fields.
-/
theorem validate_exact
    (schema : ConfigSchema)
    (raw : RawConfig)
    (answered : schema.validate raw ≠ .unprintable) :
    ((∃ config, schema.validate raw = .accepted config) ↔
        ∀ field ∈ schema.fields, field.Suits raw) ∧
      ((∃ issues, schema.validate raw = .rejected issues) ↔
        ∃ field ∈ schema.fields, field.Offends raw) ∧
      (∀ config,
        schema.validate raw = .accepted config →
        schema.Repeats raw config) ∧
      (∀ issues,
        schema.validate raw = .rejected issues →
        schema.Reports raw issues) := by
  have answers := schema.validate_answers raw
  generalize schema.validate raw = validation at answered answers ⊢
  cases answers with
  | accepted sound =>
      have suits : ∀ field ∈ schema.fields, field.Suits raw :=
        fun field listed =>
          (field.not_offends_iff raw).1 (sound field listed)
      refine ⟨⟨fun _ => suits, fun _ => ⟨_, rfl⟩⟩, ?_, ?_, nofun⟩
      · refine ⟨nofun, ?_⟩
        rintro ⟨field, listed, offends⟩
        exact absurd offends (sound field listed)
      · rintro config ⟨⟩
        exact configOf_repeats suits
  | rejected issues offence reported =>
      obtain ⟨field, listed, offends⟩ := offence
      refine ⟨⟨nofun, fun suits => ?_⟩,
        ⟨fun _ => ⟨field, listed, offends⟩, fun _ => ⟨issues, rfl⟩⟩,
        nofun, ?_⟩
      · exact absurd offends
          ((field.not_offends_iff raw).2 (suits field listed))
      · rintro others ⟨⟩
        exact reports_of_reported reported
  | unprintable => exact absurd rfl answered

/-- A small array with a field of each kind. -/
def smallArray : ConfigSchema :=
  .ofSound "smallarray"
    [("san_ip",
        (FieldSpec.text "Address" true (some .host) none).markSecret "san-ip"),
      ("pool_name", .text "Pool" false none (some "pool")),
      ("protocol", .choice ["fc", "iscsi"] "Protocol" true none),
      ("use_nvme", .flag "Connect over NVMe" false none)]
    (by decide +kernel)

/-- The small array accepts a name for a null wire key, and reports all offences. -/
theorem validate_exact_smallArray :
    smallArray.Repeats
        [("san-ip", .null), ("san_ip", .str "10.0.0.5"),
          ("pool", .str "gold"), ("pool_name", .str "silver"),
          ("protocol", .str "fc"), ("other", .bool true)]
        { schemaName := "smallarray"
          entries :=
            [("san_ip", some (.text "10.0.0.5")),
              ("pool_name", some (.text "gold")),
              ("protocol", some (.text "fc")), ("use_nvme", none)] } ∧
      smallArray.Reports
        [("san-ip", .str "nowhere"), ("pool", .bool true)]
        [⟨.invalidValue, "san_ip", "san-ip",
            "Invalid value [redacted] for field san_ip (san-ip): " ++
              "expected an IP address or FQDN"⟩,
          ⟨.invalidValue, "pool_name", "pool",
            "Invalid value true for field pool_name (pool): " ++
              "expected a string"⟩,
          ⟨.missingRequired, "protocol", "protocol",
            "Missing required field protocol (protocol)"⟩] := by
  constructor
  · have accepted :
        smallArray.validate
            [("san-ip", .null), ("san_ip", .str "10.0.0.5"),
              ("pool", .str "gold"), ("pool_name", .str "silver"),
              ("protocol", .str "fc"), ("other", .bool true)] =
          .accepted _ := rfl
    have exactly :=
      smallArray.validate_exact _ (by rw [accepted]; exact nofun)
    exact exactly.2.2.1 _ accepted
  · have rejected :
        smallArray.validate
            [("san-ip", .str "nowhere"), ("pool", .bool true)] =
          .rejected _ := rfl
    have exactly :=
      smallArray.validate_exact _ (by rw [rejected]; exact nofun)
    exact exactly.2.2.2 _ rejected

end ConfigSchema

end StorageBackends
