import Mathlib.Data.List.Forall2
import StorageBackends.Proofs.Record
import StorageBackends.Schema.Validation

namespace StorageBackends

/-!
# What validation finds

A field is given a value by a raw configuration, and takes it or refuses it.
Both notions are stated here without the look-up that finds the value and
without the check that accepts it. The main statements list everything that
can come of it: `examine_finds` at one field, and `validate_answers` for a
whole schema.
-/

namespace Json

theorem isNull_eq_true_iff (value : Json) :
    value.isNull = true ↔ value = .null := by
  cases value <;> simp [isNull]

end Json

namespace RawConfig

/--
A raw configuration gives a field a value: under the wire key, or under the
name if there is no wire key or it holds null.
-/
def Gives
    (raw : RawConfig)
    (field : ConfigField)
    (value : Json) : Prop :=
  value ≠ .null ∧
    (Record.get? field.externalKey raw = some value ∨
      (Record.get? field.externalKey raw = none ∨
          Record.get? field.externalKey raw = some .null) ∧
        Record.get? field.name raw = some value)

/-- Present is what stands under a key and is not null. -/
theorem present?_eq_some_iff
    (raw : RawConfig)
    (key : String)
    (value : Json) :
    raw.present? key = some value ↔
      Record.get? key raw = some value ∧ value ≠ .null := by
  have notNull : (!value.isNull) = true ↔ value ≠ .null := by
    rw [Bool.not_eq_true', ← Bool.not_eq_true, Json.isNull_eq_true_iff]
  unfold present?
  rw [Option.filter_eq_some_iff, notNull]

/-- Null under a key counts as nothing under it. -/
theorem present?_eq_none_iff
    (raw : RawConfig)
    (key : String) :
    raw.present? key = none ↔
      Record.get? key raw = none ∨ Record.get? key raw = some .null := by
  unfold present?
  cases found : Record.get? key raw with
  | none => simp
  | some value =>
      have nullOnly := Json.isNull_eq_true_iff value
      cases isNull : value.isNull <;> simp_all

/-- The look-up finds exactly what a field is given. -/
theorem effective?_eq_some_iff
    (raw : RawConfig)
    (field : ConfigField)
    (value : Json) :
    raw.effective? field = some value ↔ raw.Gives field value := by
  unfold effective? Gives
  rw [Option.or_eq_some_iff, present?_eq_some_iff, present?_eq_none_iff,
    present?_eq_some_iff]
  constructor
  · rintro (⟨atKey, notNull⟩ | ⟨noKey, atName, notNull⟩)
    · exact ⟨notNull, .inl atKey⟩
    · exact ⟨notNull, .inr ⟨noKey, atName⟩⟩
  · rintro ⟨notNull, atKey | ⟨noKey, atName⟩⟩
    · exact .inl ⟨atKey, notNull⟩
    · exact .inr ⟨noKey, atName, notNull⟩

/-- A field has no effective value if nothing gives it one. -/
theorem effective?_eq_none_iff
    (raw : RawConfig)
    (field : ConfigField) :
    raw.effective? field = none ↔ ∀ value, ¬raw.Gives field value := by
  simp only [Option.eq_none_iff_forall_ne_some, ne_eq,
    effective?_eq_some_iff]

end RawConfig

namespace FieldKind

/-- The values that a field takes, each as the value of a configuration. -/
inductive Takes : FieldKind → Json → ConfigValue → Prop where
  | text (content : String) :
      Takes (.text none) (.str content) (.text content)
  | host
      (content : String)
      (isHost : Host.isHost content = true) :
      Takes (.text (some .host)) (.str content) (.text content)
  | flag (on : Bool) : Takes .flag (.bool on) (.flag on)
  | choice
      (values : List String)
      (content : String)
      (listed : content ∈ values) :
      Takes (.choice values) (.str content) (.text content)

/-- The check accepts exactly the values that a field takes. -/
theorem accept?_eq_some_iff
    (kind : FieldKind)
    (value : Json)
    (accepted : ConfigValue) :
    kind.accept? value = some accepted ↔ kind.Takes value accepted := by
  constructor
  · intro passed
    unfold accept? at passed
    split at passed
    · cases passed
      exact .text _
    · split at passed
      · rename_i isHost
        cases passed
        exact .host _ isHost
      · cases passed
    · cases passed
      exact .flag _
    · split at passed
      · rename_i listed
        cases passed
        exact .choice _ _ listed
      · cases passed
    · cases passed
  · rintro (_ | ⟨content, isHost⟩ | _ | ⟨values, content, listed⟩)
    · rfl
    · exact if_pos isHost
    · rfl
    · exact if_pos listed

/-- A kind refuses the values that it takes as nothing. -/
theorem accept?_eq_none_iff
    (kind : FieldKind)
    (value : Json) :
    kind.accept? value = none ↔ ∀ accepted, ¬kind.Takes value accepted := by
  simp only [Option.eq_none_iff_forall_ne_some, ne_eq, accept?_eq_some_iff]

/-- A value that a field takes is kept as it stands. -/
theorem Takes.toJson_eq
    {kind : FieldKind}
    {value : Json}
    {accepted : ConfigValue}
    (takes : kind.Takes value accepted) :
    accepted.toJson = value := by
  cases takes <;> rfl

/-- What a field takes is told by its text, since all of it is of one kind. -/
theorem Takes.toText_inj
    {kind : FieldKind}
    {value otherValue : Json}
    {accepted other : ConfigValue}
    (takes : kind.Takes value accepted)
    (takesOther : kind.Takes otherValue other)
    (sameText : accepted.toText = other.toText) :
    accepted = other := by
  have ofText : ∀ {content otherContent : String},
      (ConfigValue.text content).toText =
          (ConfigValue.text otherContent).toText →
        ConfigValue.text content = .text otherContent :=
    fun same => congrArg ConfigValue.text same
  cases takes with
  | flag on =>
      cases takesOther with
      | flag otherOn =>
          cases on <;> cases otherOn
          · rfl
          · exact absurd sameText (by decide)
          · exact absurd sameText (by decide)
          · rfl
  | text => cases takesOther; exact ofText sameText
  | host => cases takesOther; exact ofText sameText
  | choice => cases takesOther; exact ofText sameText

end FieldKind

namespace ConfigField

/-- All that can be found at a field. -/
inductive Finds (field : ConfigField) (raw : RawConfig) : Finding → Prop where
  | missing
      (required : field.required = true)
      (ungiven : ∀ value, ¬raw.Gives field value) :
      Finds field raw .missing
  | unset
      (optional : field.required = false)
      (ungiven : ∀ value, ¬raw.Gives field value) :
      Finds field raw .unset
  | rejected
      (value : Json)
      (given : raw.Gives field value)
      (refused : ∀ accepted, ¬field.kind.Takes value accepted) :
      Finds field raw (.rejected value)
  | accepted
      (value : Json)
      (accepted : ConfigValue)
      (given : raw.Gives field value)
      (taken : field.kind.Takes value accepted) :
      Finds field raw (.accepted accepted)

/-- The examination of a field comes to what there is to find. -/
theorem examine_finds (field : ConfigField) (raw : RawConfig) :
    field.Finds raw (field.examine raw) := by
  unfold examine
  cases found : raw.effective? field with
  | none =>
      have ungiven := (raw.effective?_eq_none_iff field).1 found
      cases required : field.required with
      | true => exact .missing required ungiven
      | false => exact .unset required ungiven
  | some value =>
      have given := (raw.effective?_eq_some_iff field value).1 found
      dsimp only
      cases checked : field.kind.accept? value with
      | none =>
          exact .rejected value given
            ((field.kind.accept?_eq_none_iff value).1 checked)
      | some accepted =>
          exact .accepted value accepted given
            ((field.kind.accept?_eq_some_iff value accepted).1 checked)

end ConfigField

/-- A field is given one value at most. -/
theorem RawConfig.Gives.unique
    {raw : RawConfig}
    {field : ConfigField}
    {value other : Json}
    (given : raw.Gives field value)
    (givenOther : raw.Gives field other) :
    value = other := by
  have found := (raw.effective?_eq_some_iff field value).2 given
  rw [(raw.effective?_eq_some_iff field other).2 givenOther] at found
  exact (Option.some.inj found).symm

namespace ConfigField

/-- A field of which an issue is reported. -/
inductive Offends (field : ConfigField) (raw : RawConfig) : Prop where
  | missing
      (required : field.required = true)
      (ungiven : ∀ value, ¬raw.Gives field value)
  | rejected
      (value : Json)
      (given : raw.Gives field value)
      (refused : ∀ accepted, ¬field.kind.Takes value accepted)

/-- The check of offences is the offence. -/
theorem offends_eq_true_iff (field : ConfigField) (raw : RawConfig) :
    field.offends raw = true ↔ field.Offends raw := by
  have finds := field.examine_finds raw
  unfold offends
  generalize field.examine raw = finding at finds
  cases finds with
  | missing required ungiven => simpa using .missing required ungiven
  | unset optional ungiven =>
      simp only [Bool.false_eq_true, false_iff]
      rintro (⟨required, _⟩ | ⟨value, given, _⟩)
      · rw [optional] at required
        cases required
      · exact ungiven value given
  | rejected value given refused => simpa using .rejected value given refused
  | accepted value accepted given taken =>
      simp only [Bool.false_eq_true, false_iff]
      rintro (⟨_, ungiven⟩ | ⟨other, givenOther, refused⟩)
      · exact ungiven value given
      · rw [given.unique givenOther] at taken
        exact refused accepted taken

/-- The value of a field is what it is given and takes. -/
theorem value?_eq_some_iff
    (field : ConfigField)
    (raw : RawConfig)
    (accepted : ConfigValue) :
    field.value? raw = some accepted ↔
      ∃ value, raw.Gives field value ∧ field.kind.Takes value accepted := by
  have finds := field.examine_finds raw
  have ungivenCase :
      (∀ value, ¬raw.Gives field value) →
        ¬∃ value, raw.Gives field value ∧
          field.kind.Takes value accepted :=
    fun ungiven ⟨value, given, _⟩ => ungiven value given
  unfold value?
  generalize field.examine raw = finding at finds
  cases finds with
  | missing _ ungiven => simpa using ungivenCase ungiven
  | unset _ ungiven => simpa using ungivenCase ungiven
  | rejected value given refused =>
      simp only [reduceCtorEq, false_iff]
      rintro ⟨other, givenOther, taken⟩
      rw [← given.unique givenOther] at taken
      exact refused accepted taken
  | accepted value found given taken =>
      constructor
      · intro same
        cases same
        exact ⟨value, given, taken⟩
      · rintro ⟨other, givenOther, takenToo⟩
        rw [← given.unique givenOther] at takenToo
        show some found = some accepted
        rw [← (field.kind.accept?_eq_some_iff value found).2 taken,
          (field.kind.accept?_eq_some_iff value accepted).2 takenToo]

end ConfigField

/-- The steps succeed together if each of them does, in order. -/
private theorem mapM_eq_some_iff_forall₂
    {α β : Type}
    (step : α → Option β)
    (items : List α)
    (results : List β) :
    items.mapM step = some results ↔
      List.Forall₂ (fun item result => step item = some result)
        items results := by
  induction items generalizing results with
  | nil => simp [eq_comm]
  | cons item rest inductionHypothesis =>
      rw [List.mapM_cons, List.forall₂_cons_left_iff]
      cases found : step item with
      | none => simp
      | some result =>
          simp only [Option.pure_def, Option.bind_eq_bind, Option.bind_some,
            Option.bind_eq_some_iff, Option.some.injEq]
          constructor
          · rintro ⟨others, run, rfl⟩
            exact ⟨result, others, rfl,
              (inductionHypothesis others).1 run, rfl⟩
          · rintro ⟨first, others, rfl, run, rfl⟩
            exact ⟨others, (inductionHypothesis others).2 run, rfl⟩

/-- The steps fail together if one of them fails. -/
private theorem mapM_eq_none_iff_exists
    {α β : Type}
    (step : α → Option β)
    (items : List α) :
    items.mapM step = none ↔ ∃ item ∈ items, step item = none := by
  induction items with
  | nil => simp
  | cons item rest inductionHypothesis =>
      rw [List.mapM_cons]
      cases found : step item with
      | none => simp [found]
      | some result =>
          have goesOn :
              (rest.mapM step = none) ↔ ∃ other ∈ rest, step other = none :=
            inductionHypothesis
          cases run : rest.mapM step with
          | none => simpa [found] using goesOn.1 run
          | some results =>
              have noneFails : ¬∃ other ∈ rest, step other = none := by
                rw [← goesOn, run]
                simp
              simpa [found] using noneFails

namespace ConfigSchema

/-- The offenders are the fields that offend. -/
theorem mem_offenders_iff
    (schema : ConfigSchema)
    (raw : RawConfig)
    (field : ConfigField) :
    field ∈ schema.offenders raw ↔
      field ∈ schema.fields ∧ field.Offends raw := by
  unfold offenders
  rw [List.mem_filter, field.offends_eq_true_iff]

/-- There is no offender if no field offends. -/
theorem offenders_eq_nil_iff
    (schema : ConfigSchema)
    (raw : RawConfig) :
    schema.offenders raw = [] ↔
      ∀ field ∈ schema.fields, ¬field.Offends raw := by
  simp only [List.eq_nil_iff_forall_not_mem, mem_offenders_iff, not_and]

/-- All that a validation can answer. -/
inductive Answers (schema : ConfigSchema) (raw : RawConfig) :
    Validation → Prop where
  | accepted (sound : ∀ field ∈ schema.fields, ¬field.Offends raw) :
      Answers schema raw (.accepted (schema.configOf raw))
  | rejected
      (issues : List ValidationIssue)
      (offence : ∃ field ∈ schema.fields, field.Offends raw)
      (reported :
        List.Forall₂ (fun field issue => field.issue? raw = some issue)
          (schema.offenders raw) issues) :
      Answers schema raw (.rejected issues)
  | unprintable
      (field : ConfigField)
      (listed : field ∈ schema.fields)
      (offends : field.Offends raw)
      (unreported : field.issue? raw = none) :
      Answers schema raw .unprintable

/-- A validation accepts, rejects or stalls as the examined fields tell. -/
theorem validate_answers (schema : ConfigSchema) (raw : RawConfig) :
    schema.Answers raw (schema.validate raw) := by
  unfold validate
  cases offending : schema.offenders raw with
  | nil => exact .accepted ((schema.offenders_eq_nil_iff raw).1 offending)
  | cons first rest =>
      have offenders : ∀ field ∈ first :: rest,
          field ∈ schema.fields ∧ field.Offends raw :=
        fun field listed =>
          (schema.mem_offenders_iff raw field).1 (offending ▸ listed)
      dsimp only
      cases reports : (first :: rest).mapM fun field => field.issue? raw with
      | none =>
          obtain ⟨field, listed, unreported⟩ :=
            (mapM_eq_none_iff_exists _ _).1 reports
          obtain ⟨declared, offends⟩ := offenders field listed
          exact .unprintable field declared offends unreported
      | some issues =>
          refine .rejected issues
            ⟨first, offenders first List.mem_cons_self⟩ ?_
          rw [offending]
          exact (mapM_eq_some_iff_forall₂ _ _ _).1 reports

/-- What is accepted is the configuration of the mapping. -/
theorem eq_configOf_of_accepted
    {schema : ConfigSchema}
    {raw : RawConfig}
    {config : ValidatedConfig}
    (accepted : schema.validate raw = .accepted config) :
    config = schema.configOf raw := by
  have answers := schema.validate_answers raw
  rw [accepted] at answers
  cases answers with
  | accepted => rfl

/-- A mapping is accepted exactly when no field offends. -/
theorem validate_eq_accepted_iff
    (schema : ConfigSchema)
    (raw : RawConfig)
    (config : ValidatedConfig) :
    schema.validate raw = .accepted config ↔
      (∀ field ∈ schema.fields, ¬field.Offends raw) ∧
        config = schema.configOf raw := by
  constructor
  · intro accepted
    refine ⟨?_, eq_configOf_of_accepted accepted⟩
    have answers := schema.validate_answers raw
    rw [accepted] at answers
    cases answers with
    | accepted sound => exact sound
  · rintro ⟨sound, rfl⟩
    unfold validate
    rw [(schema.offenders_eq_nil_iff raw).2 sound]

/-- A mapping is accepted exactly when there is no offender. -/
theorem exists_accepted_iff (schema : ConfigSchema) (raw : RawConfig) :
    (∃ config, schema.validate raw = .accepted config) ↔
      schema.offenders raw = [] := by
  simp only [validate_eq_accepted_iff, offenders_eq_nil_iff]
  exact ⟨fun ⟨_, sound, _⟩ => sound, fun sound => ⟨_, sound, rfl⟩⟩

/--
A mapping that does not stall is rejected exactly when there is an offender.
-/
theorem exists_rejected_iff
    {schema : ConfigSchema}
    {raw : RawConfig}
    (answered : schema.validate raw ≠ .unprintable) :
    (∃ issues, schema.validate raw = .rejected issues) ↔
      schema.offenders raw ≠ [] := by
  rw [ne_eq, ← exists_accepted_iff]
  cases answer : schema.validate raw with
  | accepted config => simp
  | rejected issues => simp
  | unprintable => exact absurd answer answered

/-- A rejection reports each offender once, in the order of the fields. -/
theorem reported_of_rejected
    {schema : ConfigSchema}
    {raw : RawConfig}
    {issues : List ValidationIssue}
    (rejected : schema.validate raw = .rejected issues) :
    List.Forall₂ (fun field issue => field.issue? raw = some issue)
      (schema.offenders raw) issues := by
  have answers := schema.validate_answers raw
  rw [rejected] at answers
  cases answers with
  | rejected _ _ reported => exact reported

end ConfigSchema

end StorageBackends
