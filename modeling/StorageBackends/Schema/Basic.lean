import StorageBackends.Fault
import StorageBackends.Record
import StorageBackends.Schema.Field

namespace StorageBackends

/-!
# Configuration schemas

A schema is a name and a list of resolved fields. Its fields are consistent:
names, wire keys and secret keys are distinct, no choice is empty and no
secret key is empty. A shape that breaks one of these rules is refused, and
the refusal is about the first field that breaks one.

The main statement is `firstProblem_eq_none_iff`: the search for a problem
comes back empty exactly on consistent fields.
-/

/-- A field with its keys resolved. -/
structure ConfigField where
  name : String
  kind : FieldKind
  required : Bool
  externalKey : String
  secretKey : Option String
  description : String
deriving DecidableEq, Repr

namespace ConfigField

/-- Resolve a declaration: the wire key defaults to that of the name. -/
def ofSpec (name : String) (spec : FieldSpec) : ConfigField where
  name := name
  kind := spec.kind
  required := spec.required
  externalKey := spec.key.getD (StorageBackends.externalKey name)
  secretKey := Marker.secretKey? spec.markers
  description := spec.description

/-- Whether the value of a field is kept in the secret. -/
def isSecret (field : ConfigField) : Bool :=
  field.secretKey.isSome

end ConfigField

/-- Why a shape makes no schema. -/
inductive SchemaProblem where
  | emptyChoice (field : String)
  | emptySecretKey (field : String)
  | duplicateKey (key : String)
  | duplicateSecretKey (key : String)
deriving DecidableEq, Repr

namespace SchemaProblem

/-- The text of a problem. -/
def text : SchemaProblem → String
  | emptyChoice field => "enum field " ++ field ++ " has no values"
  | emptySecretKey field => "secret field " ++ field ++ " has an empty key"
  | duplicateKey key => "duplicate key " ++ key
  | duplicateSecretKey key => "duplicate secret key " ++ key

/-- The fault of a schema of some name with this problem. -/
def fault (problem : SchemaProblem) (schemaName : String) : Fault where
  kind := .schemaDefinition
  arguments := [schemaName, problem.text]

end SchemaProblem

/-- The rules on the fields of a schema. -/
structure Consistent (fields : List ConfigField) : Prop where
  choices : ∀ field ∈ fields, field.kind ≠ .choice []
  secretKeys : ∀ field ∈ fields, field.secretKey ≠ some ""
  distinctKeys : (fields.map ConfigField.externalKey).Nodup
  distinctSecretKeys : (fields.filterMap ConfigField.secretKey).Nodup

/-- The rule that a field breaks behind the fields declared before it. -/
def ConfigField.problemAfter
    (field : ConfigField)
    (earlier : List ConfigField) :
    Option SchemaProblem :=
  if field.kind = .choice [] then
    some (.emptyChoice field.name)
  else if field.secretKey = some "" then
    some (.emptySecretKey field.name)
  else if field.externalKey ∈ earlier.map ConfigField.externalKey then
    some (.duplicateKey field.externalKey)
  else
    match field.secretKey with
    | none => none
    | some key =>
        if key ∈ earlier.filterMap ConfigField.secretKey then
          some (.duplicateSecretKey key)
        else
          none

/-- The first rule broken by a field behind the fields declared before it. -/
def firstProblem
    (earlier : List ConfigField) :
    List ConfigField → Option SchemaProblem
  | [] => none
  | field :: later =>
      match field.problemAfter earlier with
      | some problem => some problem
      | none => firstProblem (earlier ++ [field]) later

/-- A field breaks no rule exactly when it can follow the earlier ones. -/
theorem ConfigField.problemAfter_eq_none_iff
    (field : ConfigField)
    (earlier : List ConfigField) :
    field.problemAfter earlier = none ↔
      field.kind ≠ .choice [] ∧
        field.secretKey ≠ some "" ∧
        field.externalKey ∉ earlier.map ConfigField.externalKey ∧
        ∀ key ∈ field.secretKey,
          key ∉ earlier.filterMap ConfigField.secretKey := by
  unfold problemAfter
  split
  · simp_all
  · split
    · simp_all
    · split
      · simp_all
      · cases secret : field.secretKey with
        | none => simp_all
        | some key =>
            simp only [Option.mem_def]
            split <;> simp_all

/-- Consistency of a list that grows at its end. -/
theorem Consistent.append_singleton_iff
    (earlier : List ConfigField)
    (field : ConfigField) :
    Consistent (earlier ++ [field]) ↔
      Consistent earlier ∧ field.problemAfter earlier = none := by
  rw [ConfigField.problemAfter_eq_none_iff]
  constructor
  · rintro ⟨choices, secretKeys, distinctKeys, distinctSecretKeys⟩
    refine ⟨⟨fun f listed => choices f (by simp [listed]),
      fun f listed => secretKeys f (by simp [listed]), ?_, ?_⟩,
      choices field (by simp), secretKeys field (by simp), ?_, ?_⟩
    · rw [List.map_append] at distinctKeys
      exact (List.nodup_append.1 distinctKeys).1
    · rw [List.filterMap_append] at distinctSecretKeys
      exact (List.nodup_append.1 distinctSecretKeys).1
    · rw [List.map_append] at distinctKeys
      intro listed
      exact (List.nodup_append.1 distinctKeys).2.2 _ listed _ (by simp) rfl
    · rw [List.filterMap_append] at distinctSecretKeys
      intro key isKey listed
      refine (List.nodup_append.1 distinctSecretKeys).2.2 _ listed key ?_ rfl
      simp only [Option.mem_def] at isKey
      simp [isKey]
  · rintro ⟨⟨choices, secretKeys, distinctKeys, distinctSecretKeys⟩,
      choice, secretKey, newKey, newSecretKey⟩
    refine ⟨?_, ?_, ?_, ?_⟩
    · intro f listed
      rcases List.mem_append.1 listed with before | last
      · exact choices f before
      · rw [List.mem_singleton.1 last]
        exact choice
    · intro f listed
      rcases List.mem_append.1 listed with before | last
      · exact secretKeys f before
      · rw [List.mem_singleton.1 last]
        exact secretKey
    · rw [List.map_append, List.nodup_append]
      refine ⟨distinctKeys, by simp, ?_⟩
      intro key listed other single same
      subst same
      simp only [List.map_cons, List.map_nil, List.mem_singleton] at single
      exact newKey (single ▸ listed)
    · rw [List.filterMap_append, List.nodup_append]
      refine ⟨distinctSecretKeys, ?_, ?_⟩
      · cases secret : field.secretKey <;> simp [secret]
      · intro key listed other single same
        subst same
        refine newSecretKey key ?_ listed
        cases secret : field.secretKey with
        | none => simp [secret] at single
        | some found =>
            simp only [List.filterMap_cons, secret, List.filterMap_nil,
              List.mem_singleton] at single
            simp [single]

/-- The search behind consistent fields finds nothing exactly on consistency. -/
theorem firstProblem_eq_none_iff_append
    {earlier : List ConfigField}
    (consistent : Consistent earlier)
    (later : List ConfigField) :
    firstProblem earlier later = none ↔ Consistent (earlier ++ later) := by
  induction later generalizing earlier with
  | nil => simp [firstProblem, consistent]
  | cons field rest inductionHypothesis =>
      have regroup : earlier ++ field :: rest = (earlier ++ [field]) ++ rest := by
        simp
      unfold firstProblem
      cases problem : field.problemAfter earlier with
      | some found =>
          simp only [reduceCtorEq, false_iff]
          rintro ⟨choices, secretKeys, distinctKeys, distinctSecretKeys⟩
          have whole : Consistent (earlier ++ [field]) := by
            refine ⟨fun f listed => choices f ?_,
              fun f listed => secretKeys f ?_, ?_, ?_⟩
            · rw [regroup]
              exact List.mem_append_left _ listed
            · rw [regroup]
              exact List.mem_append_left _ listed
            · rw [regroup, List.map_append] at distinctKeys
              exact (List.nodup_append.1 distinctKeys).1
            · rw [regroup, List.filterMap_append] at distinctSecretKeys
              exact (List.nodup_append.1 distinctSecretKeys).1
          rw [Consistent.append_singleton_iff, problem] at whole
          exact absurd whole.2 (by simp)
      | none =>
          rw [regroup]
          exact inductionHypothesis
            ((Consistent.append_singleton_iff earlier field).2
              ⟨consistent, problem⟩)

/-- No fields are consistent. -/
theorem Consistent.nil : Consistent [] where
  choices := by simp
  secretKeys := by simp
  distinctKeys := by simp
  distinctSecretKeys := by simp

/-- The search finds nothing exactly on consistent fields. -/
theorem firstProblem_eq_none_iff (fields : List ConfigField) :
    firstProblem [] fields = none ↔ Consistent fields := by
  simpa using firstProblem_eq_none_iff_append Consistent.nil fields

/-- A named list of consistent fields with distinct names. -/
structure ConfigSchema where
  name : String
  fields : List ConfigField
  distinctNames : (fields.map ConfigField.name).Nodup
  consistent : Consistent fields

namespace ConfigSchema

/-- The fields of a list of declarations, in the listing order of records. -/
def resolve (declarations : List (String × FieldSpec)) : List ConfigField :=
  (Record.ofList declarations).map fun member =>
    ConfigField.ofSpec member.1 member.2

/-- Resolving keeps the names of the record of declarations. -/
theorem map_name_resolve (declarations : List (String × FieldSpec)) :
    (resolve declarations).map ConfigField.name =
      Record.keys (Record.ofList declarations) := by
  simp only [resolve, Record.keys, List.map_map]
  rfl

/-- The schema of declarations in which the search finds no problem. -/
def ofSound
    (name : String)
    (declarations : List (String × FieldSpec))
    (sound : firstProblem [] (resolve declarations) = none) :
    ConfigSchema where
  name := name
  fields := resolve declarations
  distinctNames := by
    rw [map_name_resolve]
    exact Record.nodup_keys_ofList declarations
  consistent := (firstProblem_eq_none_iff _).1 sound

/-- The schema of a list of declarations, or the first rule they break. -/
def ofDeclarations?
    (name : String)
    (declarations : List (String × FieldSpec)) :
    Except SchemaProblem ConfigSchema :=
  match search : firstProblem [] (resolve declarations) with
  | some problem => .error problem
  | none => .ok (ofSound name declarations search)

/-- The field of a name. -/
def field? (schema : ConfigSchema) (name : String) : Option ConfigField :=
  schema.fields.find? fun field => field.name == name

/-- The secret fields in schema order. -/
def secretFields (schema : ConfigSchema) : List ConfigField :=
  schema.fields.filter ConfigField.isSecret

/-- The required fields in schema order. -/
def requiredFields (schema : ConfigSchema) : List ConfigField :=
  schema.fields.filter ConfigField.required

end ConfigSchema

end StorageBackends
