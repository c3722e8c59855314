import Mathlib.Data.List.Forall2
import Mathlib.Data.List.Infix
import StorageBackends.Proofs.Schema.Secrecy

namespace StorageBackends

/-!
# Which shapes make a schema

The rules on a shape are told here on the declarations themselves, without the
keys that a schema resolves. The main statements say that exactly the coherent
shapes make a schema, what becomes of their declarations, and which of them a
refusal is about.
-/

namespace Marker

/-- The markers keep a value under a key: the first secret one names it. -/
def KeepUnder (markers : List Marker) (key : String) : Prop :=
  ∃ earlier marker later,
    markers = earlier ++ marker :: later ∧
      (∀ other ∈ earlier, other.kind ≠ secretKind) ∧
      marker.kind = secretKind ∧
      marker.key = key

theorem isSecret_eq_true_iff (marker : Marker) :
    marker.isSecret = true ↔ marker.kind = secretKind :=
  beq_iff_eq

/-- The first marker of a secret decides the key that is used. -/
theorem secretKey?_eq_some_iff
    (markers : List Marker)
    (key : String) :
    secretKey? markers = some key ↔ KeepUnder markers key := by
  unfold secretKey? KeepUnder
  simp only [Option.map_eq_some_iff, List.find?_eq_some_iff_append,
    Bool.not_eq_true', ← Bool.not_eq_true, isSecret_eq_true_iff]
  constructor
  · rintro ⟨marker, ⟨isSecret, earlier, later, rfl, others⟩, rfl⟩
    exact ⟨earlier, marker, later, rfl, others, isSecret, rfl⟩
  · rintro ⟨earlier, marker, later, rfl, others, isSecret, rfl⟩
    exact ⟨marker, ⟨isSecret, earlier, later, rfl, others⟩, rfl⟩

/-- One marker makes a field secret, wherever it stands. -/
theorem isSome_secretKey?_iff (markers : List Marker) :
    (secretKey? markers).isSome = true ↔
      ∃ marker ∈ markers, marker.kind = secretKind := by
  simp only [secretKey?, Option.isSome_map, List.find?_isSome,
    isSecret_eq_true_iff]

end Marker

/-- A field with its name, as a shape lists it. -/
abbrev Declaration :=
  String × FieldSpec

namespace Declaration

/-- The wire key: the override, else the name with hyphens for underscores. -/
def wireKey : Declaration → String
  | (_, { key := some override, .. }) => override
  | (name, { key := none, .. }) => externalKey name

/-- The value of the field is kept in the secret under a key. -/
def KeptUnder (declaration : Declaration) (key : String) : Prop :=
  Marker.KeepUnder declaration.2.markers key

/-- The field that a schema makes of a declaration. -/
def resolved (declaration : Declaration) : ConfigField :=
  ConfigField.ofSpec declaration.1 declaration.2

theorem externalKey_resolved (declaration : Declaration) :
    declaration.resolved.externalKey = declaration.wireKey := by
  rcases declaration with ⟨name, kind, description, required, key, markers⟩
  cases key <;> rfl

/-- A resolved field is kept under the key that its declaration asks for. -/
theorem secretKey_resolved_eq_some_iff
    (declaration : Declaration)
    (key : String) :
    declaration.resolved.secretKey = some key ↔ declaration.KeptUnder key :=
  Marker.secretKey?_eq_some_iff declaration.2.markers key

/-- What a schema knows of a declared field. -/
structure Makes (declaration : Declaration) (field : ConfigField) : Prop where
  name : field.name = declaration.1
  kind : field.kind = declaration.2.kind
  required : field.required = declaration.2.required
  externalKey : field.externalKey = declaration.wireKey
  secretKey :
    ∀ key, field.secretKey = some key ↔ declaration.KeptUnder key
  keyed : field.secretKey ≠ none ↔ field.isSecret = true
  secret :
    field.isSecret = true ↔
      ∃ marker ∈ declaration.2.markers, marker.kind = Marker.secretKind
  description : field.description = declaration.2.description

theorem makes_resolved (declaration : Declaration) :
    declaration.Makes declaration.resolved where
  name := rfl
  kind := rfl
  required := rfl
  externalKey := declaration.externalKey_resolved
  secretKey := declaration.secretKey_resolved_eq_some_iff
  keyed := Option.isSome_iff_ne_none.symm
  secret := Marker.isSome_secretKey?_iff declaration.2.markers
  description := rfl

end Declaration

/-- The rules on the declarations of a shape. -/
structure Coherent (shape : Record FieldSpec) : Prop where
  choices : ∀ declaration ∈ shape, declaration.2.kind ≠ .choice []
  secretKeys : ∀ declaration ∈ shape, ¬Declaration.KeptUnder declaration ""
  wireKeys :
    shape.Pairwise fun first second =>
      Declaration.wireKey first ≠ Declaration.wireKey second
  distinctSecretKeys :
    shape.Pairwise fun first second =>
      ∀ key,
        Declaration.KeptUnder first key → ¬Declaration.KeptUnder second key

/-- The rules on a shape are those on the fields it is resolved to. -/
theorem coherent_iff_consistent (shape : Record FieldSpec) :
    Coherent shape ↔ Consistent (shape.map Declaration.resolved) := by
  have wireKeys :
      ((shape.map Declaration.resolved).map ConfigField.externalKey).Nodup ↔
        shape.Pairwise fun first second =>
          Declaration.wireKey first ≠ Declaration.wireKey second := by
    rw [List.map_map, List.Nodup, List.pairwise_map]
    simp only [Function.comp_apply, Declaration.externalKey_resolved]
  have secretKeys :
      ((shape.map Declaration.resolved).filterMap
          ConfigField.secretKey).Nodup ↔
        shape.Pairwise fun first second =>
          ∀ key,
            Declaration.KeptUnder first key →
            ¬Declaration.KeptUnder second key := by
    rw [List.filterMap_map, List.Nodup, List.pairwise_filterMap]
    simp only [Function.comp_apply, ne_eq,
      Declaration.secretKey_resolved_eq_some_iff]
    refine List.Pairwise.iff fun {first second} => ?_
    constructor
    · intro apart key kept keptToo
      exact apart key kept key keptToo rfl
    · rintro apart key kept _ keptToo rfl
      exact apart key kept keptToo
  constructor
  · intro coherent
    refine ⟨?_, ?_, wireKeys.2 coherent.wireKeys,
      secretKeys.2 coherent.distinctSecretKeys⟩
    · exact List.forall_mem_map.2 coherent.choices
    · refine List.forall_mem_map.2 fun declaration listed empty => ?_
      exact coherent.secretKeys declaration listed
        ((declaration.secretKey_resolved_eq_some_iff "").1 empty)
  · intro consistent
    refine ⟨?_, ?_, wireKeys.1 consistent.distinctKeys,
      secretKeys.1 consistent.distinctSecretKeys⟩
    · exact fun declaration listed =>
        consistent.choices _ (List.mem_map_of_mem listed)
    · intro declaration listed empty
      exact List.forall_mem_map.1 consistent.secretKeys declaration listed
        ((Declaration.secretKey_resolved_eq_some_iff declaration "").2 empty)

/--
What a refusal says of a declaration behind earlier ones: the first of the
four rules that it breaks, with its name or with the key that it repeats.
-/
inductive Breaks
    (earlier : Record FieldSpec)
    (declaration : Declaration) :
    SchemaProblem → Prop where
  | emptyChoice
      (empty : declaration.2.kind = .choice []) :
      Breaks earlier declaration (.emptyChoice declaration.1)
  | emptySecretKey
      (choice : declaration.2.kind ≠ .choice [])
      (empty : declaration.KeptUnder "") :
      Breaks earlier declaration (.emptySecretKey declaration.1)
  | duplicateKey
      (choice : declaration.2.kind ≠ .choice [])
      (secretKey : ¬declaration.KeptUnder "")
      (other : Declaration)
      (listed : other ∈ earlier)
      (same : other.wireKey = declaration.wireKey) :
      Breaks earlier declaration (.duplicateKey declaration.wireKey)
  | duplicateSecretKey
      (choice : declaration.2.kind ≠ .choice [])
      (secretKey : ¬declaration.KeptUnder "")
      (wireKey :
        ∀ other ∈ earlier,
          Declaration.wireKey other ≠ declaration.wireKey)
      (key : String)
      (kept : declaration.KeptUnder key)
      (other : Declaration)
      (listed : other ∈ earlier)
      (keptToo : other.KeptUnder key) :
      Breaks earlier declaration (.duplicateSecretKey key)

/-- The external keys in use are the wire keys of the declarations so far. -/
theorem mem_externalKeys_iff
    (earlier : Record FieldSpec)
    (key : String) :
    key ∈ (earlier.map Declaration.resolved).map ConfigField.externalKey ↔
      ∃ other ∈ earlier, Declaration.wireKey other = key := by
  simp only [List.map_map, List.mem_map, Function.comp_apply,
    Declaration.externalKey_resolved]

/-- The secret keys in use are those of the declarations so far. -/
theorem mem_secretKeys_iff
    (earlier : Record FieldSpec)
    (key : String) :
    key ∈ (earlier.map Declaration.resolved).filterMap
        ConfigField.secretKey ↔
      ∃ other ∈ earlier, Declaration.KeptUnder other key := by
  simp only [List.filterMap_map, List.mem_filterMap, Function.comp_apply,
    Declaration.secretKey_resolved_eq_some_iff]

/-- A problem found in a field is a rule its declaration breaks. -/
theorem breaks_of_problemAfter
    {earlier : Record FieldSpec}
    {declaration : Declaration}
    {problem : SchemaProblem}
    (found :
      declaration.resolved.problemAfter (earlier.map Declaration.resolved) =
        some problem) :
    Breaks earlier declaration problem := by
  have kept_iff := declaration.secretKey_resolved_eq_some_iff
  have used_iff := mem_externalKeys_iff earlier declaration.wireKey
  unfold ConfigField.problemAfter at found
  rw [declaration.externalKey_resolved] at found
  split at found
  · rename_i empty
    cases found
    exact .emptyChoice empty
  · rename_i choice
    split at found
    · rename_i empty
      cases found
      exact .emptySecretKey choice ((kept_iff "").1 empty)
    · rename_i secretKey
      have named : ¬declaration.KeptUnder "" := secretKey ∘ (kept_iff "").2
      split at found
      · rename_i used
        obtain ⟨other, listed, same⟩ := used_iff.1 used
        cases found
        exact .duplicateKey choice named other listed same
      · rename_i unused
        have fresh :
            ∀ other ∈ earlier,
              Declaration.wireKey other ≠ declaration.wireKey :=
          fun other listed same => unused (used_iff.2 ⟨other, listed, same⟩)
        split at found
        · cases found
        · rename_i key kept
          split at found
          · rename_i keptBefore
            cases found
            obtain ⟨other, listed, keptToo⟩ :=
              (mem_secretKeys_iff earlier key).1 keptBefore
            exact .duplicateSecretKey choice named fresh key
              ((kept_iff key).1 kept) other listed keptToo
          · cases found

/-- The search passes fields without a problem up to the one it reports. -/
theorem firstProblem_eq_some
    {earlier later : List ConfigField}
    {problem : SchemaProblem}
    (found : firstProblem earlier later = some problem) :
    ∃ passed field rest,
      later = passed ++ field :: rest ∧
        firstProblem earlier passed = none ∧
        field.problemAfter (earlier ++ passed) = some problem := by
  induction later generalizing earlier with
  | nil => cases found
  | cons first others inductionHypothesis =>
      unfold firstProblem at found
      split at found
      · rename_i breaks
        cases found
        exact ⟨[], first, others, rfl, rfl, by simpa using breaks⟩
      · rename_i sound
        obtain ⟨passed, field, rest, rfl, none, breaks⟩ :=
          inductionHypothesis found
        refine ⟨first :: passed, field, rest, rfl, ?_, by simpa using breaks⟩
        unfold firstProblem
        rw [sound]
        exact none

/--
A refusal is about the first declaration that does not fit those before it,
and says which rule it breaks.
-/
structure Refuses
    (name : String)
    (shape : Record FieldSpec)
    (problem : SchemaProblem) : Prop where
  offender :
    ∃ earlier declaration later,
      shape = earlier ++ declaration :: later ∧
        Coherent earlier ∧
        ¬Coherent (earlier ++ [declaration]) ∧
        Breaks earlier declaration problem
  code : (problem.fault name).kind.code = "SCHEMA_DEFINITION_INVALID"
  message :
    (problem.fault name).message =
      "Invalid " ++ name ++ " schema definition: " ++ problem.text

/-- The message of a refused shape. -/
theorem SchemaProblem.message_fault
    (problem : SchemaProblem)
    (name : String) :
    (problem.fault name).message =
      "Invalid " ++ name ++ " schema definition: " ++ problem.text := by
  have template :
      FaultKind.schemaDefinition.template =
        "Invalid " ++ "%s" ++ " schema definition: " ++ "%s" := rfl
  unfold Fault.message fault
  rw [template, Text.fill_pair (by decide) (by decide)]

/-- The first problem is the one a refusal tells. -/
theorem refuses_of_firstProblem
    {shape : Record FieldSpec}
    {problem : SchemaProblem}
    (found :
      firstProblem [] (shape.map Declaration.resolved) = some problem)
    (name : String) :
    Refuses name shape problem := by
  refine ⟨?_, rfl, problem.message_fault name⟩
  obtain ⟨passed, field, rest, split, sound, breaks⟩ :=
    firstProblem_eq_some found
  obtain ⟨earlier, later, rfl, rfl, resolvedLater⟩ :=
    List.map_eq_append_iff.1 split
  obtain ⟨declaration, others, rfl, rfl, -⟩ :=
    List.map_eq_cons_iff.1 resolvedLater
  have coherent : Coherent earlier :=
    (coherent_iff_consistent earlier).2 ((firstProblem_eq_none_iff _).1 sound)
  rw [List.nil_append] at breaks
  refine ⟨earlier, declaration, others, rfl, coherent, ?_,
    breaks_of_problemAfter breaks⟩
  rw [coherent_iff_consistent, List.map_append, List.map_singleton,
    Consistent.append_singleton_iff, breaks]
  exact fun fits => Option.some_ne_none problem fits.2

namespace ConfigSchema

/-- A part of the fields picked by a property, in their order. -/
def Picks
    (schema : ConfigSchema)
    (part : List ConfigField)
    (wanted : ConfigField → Prop) : Prop :=
  part.Sublist schema.fields ∧
    ∀ field, field ∈ part ↔ field ∈ schema.fields ∧ wanted field

/-- What a schema makes of the declarations of a shape. -/
structure Displays
    (schema : ConfigSchema)
    (name : String)
    (shape : Record FieldSpec) : Prop where
  name : schema.name = name
  fields : List.Forall₂ Declaration.Makes shape schema.fields
  distinct : (schema.fields.map ConfigField.name).Nodup
  field? :
    ∀ wanted field,
      schema.field? wanted = some field ↔
        field ∈ schema.fields ∧ field.name = wanted
  secretFields :
    schema.Picks schema.secretFields fun field => field.isSecret = true
  requiredFields :
    schema.Picks schema.requiredFields fun field => field.required = true

theorem picks_filter
    (schema : ConfigSchema)
    (wanted : ConfigField → Bool) :
    schema.Picks (schema.fields.filter wanted) fun field =>
      wanted field = true :=
  ⟨List.filter_sublist, fun _ => List.mem_filter⟩

/-- A schema displays the declarations it was made of. -/
theorem displays_ofSound
    (name : String)
    (declarations : List Declaration)
    (sound : firstProblem [] (resolve declarations) = none) :
    (ofSound name declarations sound).Displays name
      (Record.ofList declarations) where
  name := rfl
  fields := by
    have fields :
        (ofSound name declarations sound).fields =
          (Record.ofList declarations).map Declaration.resolved := rfl
    rw [fields, List.forall₂_map_right_iff, List.forall₂_same]
    exact fun declaration _ => declaration.makes_resolved
  distinct := (ofSound name declarations sound).distinctNames
  field? := (ofSound name declarations sound).field?_eq_some_iff
  secretFields := picks_filter _ ConfigField.isSecret
  requiredFields := picks_filter _ ConfigField.required

/-- Sound declarations make one schema. -/
theorem ofDeclarations?_eq_ok_iff
    (name : String)
    (declarations : List Declaration)
    (schema : ConfigSchema) :
    ofDeclarations? name declarations = .ok schema ↔
      ∃ sound, ofSound name declarations sound = schema := by
  unfold ofDeclarations?
  split
  · rename_i problem search
    simp [search]
  · rename_i search
    simp [search]

theorem ofDeclarations?_eq_error_iff
    (name : String)
    (declarations : List Declaration)
    (problem : SchemaProblem) :
    ofDeclarations? name declarations = .error problem ↔
      firstProblem [] (resolve declarations) = some problem := by
  unfold ofDeclarations?
  split
  · rename_i found search
    simp [search]
  · rename_i search
    simp [search]

/-- What making a schema of declarations comes to. -/
structure ConstructionLaw
    (name : String)
    (declarations : List Declaration) : Prop where
  made_iff :
    (∃ schema, ofDeclarations? name declarations = .ok schema) ↔
      Coherent (Record.ofList declarations)
  refused :
    ∀ problem,
      ofDeclarations? name declarations = .error problem →
      Refuses name (Record.ofList declarations) problem
  made :
    ∀ schema,
      ofDeclarations? name declarations = .ok schema →
      schema.Displays name (Record.ofList declarations)

/--
Exactly the coherent shapes make a schema, and it lists their fields in order.

A refusal is about the first declaration, in the order of the shape, that does
not fit those before it. It tells the first of the four rules that the
declaration breaks: an empty choice and an empty secret key with the name of
the field, a repeated wire key and a repeated secret key with the key itself.
-/
theorem ofDeclarations?_constructionLaw
    (name : String)
    (declarations : List Declaration) :
    ConstructionLaw name declarations where
  made_iff := by
    rw [coherent_iff_consistent, ← firstProblem_eq_none_iff]
    constructor
    · rintro ⟨schema, made⟩
      obtain ⟨sound, -⟩ :=
        (ofDeclarations?_eq_ok_iff name declarations schema).1 made
      exact sound
    · intro sound
      exact ⟨_, (ofDeclarations?_eq_ok_iff name declarations _).2
        ⟨sound, rfl⟩⟩
  refused := by
    intro problem refused
    exact refuses_of_firstProblem
      ((ofDeclarations?_eq_error_iff name declarations problem).1 refused) name
  made := by
    intro schema made
    obtain ⟨sound, rfl⟩ :=
      (ofDeclarations?_eq_ok_iff name declarations schema).1 made
    exact displays_ofSound name declarations sound

/-- A shape whose last field repeats a wire key that is another one's name. -/
def tierDeclarations : List Declaration :=
  [("pool", .text "Pool" false none (some "tier")),
    ("tier", .text "Tier" false none (some "pool-tier")),
    ("level", .text "Level" false none (some "tier"))]

/-- The refusal of a repeated key is about a field that it does not name. -/
theorem tierDeclarations_refusal_unnamed :
    ∃ problem,
      ofDeclarations? "tierarray" tierDeclarations = .error problem ∧
        Record.ofList tierDeclarations =
          tierDeclarations.take 2 ++
            [("level", .text "Level" false none (some "tier"))] ∧
        Coherent (tierDeclarations.take 2) ∧
        ¬Coherent
          (tierDeclarations.take 2 ++
            [("level", .text "Level" false none (some "tier"))]) ∧
        (problem.fault "tierarray").message =
          "Invalid tierarray schema definition: duplicate key tier" ∧
        ¬"level".toList.IsInfix (problem.fault "tierarray").message.toList := by
  have message :
      ((SchemaProblem.duplicateKey "tier").fault "tierarray").message =
        "Invalid tierarray schema definition: duplicate key tier" := by
    decide +kernel
  refine ⟨.duplicateKey "tier", ?_, rfl, ?_, ?_, message, ?_⟩
  · rw [ofDeclarations?_eq_error_iff]
    decide +kernel
  · rw [coherent_iff_consistent, ← firstProblem_eq_none_iff]
    decide +kernel
  · rw [coherent_iff_consistent, ← firstProblem_eq_none_iff]
    decide +kernel
  · rw [message]
    decide +kernel

end ConfigSchema

end StorageBackends
