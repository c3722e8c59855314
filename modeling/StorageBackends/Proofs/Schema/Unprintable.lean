import StorageBackends.Proofs.Schema.Finding

namespace StorageBackends

/-!
# Validations without an answer

An object that redefines its conversion to text has no plain text, however
deep inside lists it stands. Such a value is never taken by a field, so the
issue of its field has to show it, unless the field is secret. This is the
only way in which a validation comes to no answer.
-/

namespace Json

/-- An object that redefines its conversion, or a list that reaches one. -/
inductive Unprintable : Json → Prop where
  | object
      (members : Record Json)
      (redefined : conversionKey ∈ Record.keys members) :
      Unprintable (.obj members)
  | element
      (elements : List Json)
      (element : Json)
      (listed : element ∈ elements)
      (inside : Unprintable element) :
      Unprintable (.arr elements)

theorem unprintable_obj_iff (members : List (String × Json)) :
    (Json.obj members).Unprintable ↔
      Record.contains conversionKey members = true := by
  rw [Record.contains_iff]
  constructor
  · rintro ⟨_, redefined⟩
    exact redefined
  · exact .object members

theorem unprintable_arr_iff (elements : List Json) :
    (Json.arr elements).Unprintable ↔
      ∃ element ∈ elements, element.Unprintable := by
  constructor
  · rintro (_ | ⟨_, element, listed, inside⟩)
    exact ⟨element, listed, inside⟩
  · rintro ⟨element, listed, inside⟩
    exact .element elements element listed inside

mutual

theorem plainElement?_eq_none_iff :
    ∀ value : Json, plainElement? value = none ↔ value.Unprintable
  | .null => ⟨nofun, nofun⟩
  | .bool true => ⟨nofun, nofun⟩
  | .bool false => ⟨nofun, nofun⟩
  | .num _ => ⟨nofun, nofun⟩
  | .str _ => ⟨nofun, nofun⟩
  | .arr elements => by
      rw [unprintable_arr_iff, plainElement?]
      exact plainElements?_eq_none_iff elements
  | .obj members => by
      rw [unprintable_obj_iff, plainElement?]
      split <;> simp_all

theorem plainElements?_eq_none_iff :
    ∀ elements : List Json,
      plainElements? elements = none ↔
        ∃ element ∈ elements, element.Unprintable
  | [] => by simp [plainElements?]
  | [element] => by
      simpa [plainElements?] using plainElement?_eq_none_iff element
  | element :: next :: rest => by
      have atHead := plainElement?_eq_none_iff element
      have behind := plainElements?_eq_none_iff (next :: rest)
      rw [List.exists_mem_cons_iff, ← atHead, ← behind, plainElements?]
      cases plainElement? element <;>
        cases plainElements? (next :: rest) <;>
        simp

end

/-- A value without a plain text is one that cannot be printed. -/
theorem plain?_eq_none_iff (value : Json) :
    value.plain? = none ↔ value.Unprintable := by
  cases value with
  | null => exact ⟨nofun, nofun⟩
  | bool on => exact plainElement?_eq_none_iff (.bool on)
  | num number => exact plainElement?_eq_none_iff (.num number)
  | str text => exact plainElement?_eq_none_iff (.str text)
  | arr elements => exact plainElement?_eq_none_iff (.arr elements)
  | obj members => exact plainElement?_eq_none_iff (.obj members)

end Json

/-- No field takes a value that cannot be printed. -/
theorem FieldKind.Takes.printable
    {kind : FieldKind}
    {value : Json}
    {accepted : ConfigValue}
    (taken : kind.Takes value accepted) :
    ¬value.Unprintable := by
  cases taken <;> exact nofun

namespace ConfigField

/--
A value in a secret field is never printed, so it can always be described.
-/
theorem describe?_eq_none_iff (field : ConfigField) (value : Json) :
    field.describe? value = none ↔
      field.isSecret = false ∧ value.Unprintable := by
  unfold describe?
  cases secret : field.isSecret with
  | true => simp
  | false =>
      rw [← value.plain?_eq_none_iff]
      simp only [Bool.false_eq_true, if_false, true_and]
      split
      · exact ⟨nofun, nofun⟩
      · exact Option.map_eq_none_iff

/-- A plain field that is given a value which cannot be printed. -/
def Stalls (field : ConfigField) (raw : RawConfig) : Prop :=
  field.isSecret = false ∧
    ∃ value, raw.Gives field value ∧ value.Unprintable

/-- A field that stalls offends. -/
theorem Stalls.offends
    {field : ConfigField}
    {raw : RawConfig}
    (stalls : field.Stalls raw) :
    field.Offends raw := by
  obtain ⟨-, value, given, unprintable⟩ := stalls
  exact .rejected value given fun _ taken => taken.printable unprintable

/-- An issue cannot be told exactly when its field stalls. -/
theorem issue?_eq_none_iff (field : ConfigField) (raw : RawConfig) :
    field.issue? raw = none ↔ field.Stalls raw := by
  have finds := field.examine_finds raw
  unfold issue? Stalls
  generalize field.examine raw = finding at finds
  cases finds with
  | missing _ ungiven => simp [ungiven]
  | unset _ ungiven => simp [ungiven]
  | rejected value given refused =>
      simp only [Option.map_eq_none_iff, field.describe?_eq_none_iff]
      refine and_congr_right fun _ => ⟨fun unprintable => ?_, ?_⟩
      · exact ⟨value, given, unprintable⟩
      · rintro ⟨other, givenOther, unprintable⟩
        rw [given.unique givenOther]
        exact unprintable
  | accepted value accepted given taken =>
      simp only [reduceCtorEq, false_iff]
      rintro ⟨-, other, givenOther, unprintable⟩
      rw [← given.unique givenOther] at unprintable
      exact taken.printable unprintable

end ConfigField

namespace ConfigSchema

/-- Some plain field is given a value that cannot be printed. -/
def Stalls (schema : ConfigSchema) (raw : RawConfig) : Prop :=
  ∃ field ∈ schema.fields, field.Stalls raw

private theorem exists_result_of_mem
    {step : ConfigField → Option ValidationIssue}
    {fields : List ConfigField}
    {issues : List ValidationIssue}
    (results :
      List.Forall₂ (fun field issue => step field = some issue)
        fields issues)
    {field : ConfigField}
    (listed : field ∈ fields) :
    ∃ issue, step field = some issue := by
  induction results with
  | nil => cases listed
  | cons first others inductionHypothesis =>
      rcases List.mem_cons.1 listed with rfl | behind
      · exact ⟨_, first⟩
      · exact inductionHypothesis behind

/-- A validation comes to no answer exactly if some plain field stalls it. -/
theorem validate_eq_unprintable_iff
    (schema : ConfigSchema)
    (raw : RawConfig) :
    schema.validate raw = .unprintable ↔ schema.Stalls raw := by
  have answers := schema.validate_answers raw
  generalize schema.validate raw = validation at answers
  cases answers with
  | accepted sound =>
      simp only [reduceCtorEq, false_iff]
      rintro ⟨field, listed, stalls⟩
      exact sound field listed stalls.offends
  | rejected issues offence reported =>
      simp only [reduceCtorEq, false_iff]
      rintro ⟨field, listed, stalls⟩
      have offender : field ∈ schema.offenders raw :=
        (schema.mem_offenders_iff raw field).2 ⟨listed, stalls.offends⟩
      obtain ⟨issue, found⟩ := exists_result_of_mem reported offender
      rw [(field.issue?_eq_none_iff raw).2 stalls] at found
      cases found
  | unprintable field listed offends unreported =>
      simp only [true_iff]
      exact ⟨field, listed, (field.issue?_eq_none_iff raw).1 unreported⟩

end ConfigSchema

end StorageBackends
