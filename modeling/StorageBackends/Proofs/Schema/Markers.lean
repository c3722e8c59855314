import StorageBackends.Proofs.Backend.Partition
import StorageBackends.Proofs.Schema.Construction

namespace StorageBackends

/-!
# Markers and validation

Two shapes that differ in their markers only make schemas whose fields differ
in their secret keys only. What is found at a field does not depend on its
secret key, so such schemas answer alike: secrecy decides how a value is shown
in an issue and in a display, and nothing else.
-/

/-- Lists that match entry by entry have the same image. -/
private theorem map_eq_of_forall₂
    {α β γ : Type}
    {f : α → γ}
    {g : β → γ}
    {items : List α}
    {others : List β}
    (same : List.Forall₂ (fun item other => f item = g other) items others) :
    items.map f = others.map g := by
  have mapped : List.Forall₂ (· = ·) (items.map f) (others.map g) :=
    List.forall₂_map_left_iff.2 (List.forall₂_map_right_iff.2 same)
  rwa [List.forall₂_eq_eq_eq] at mapped

namespace Declaration

/-- Declarations of one field that differ in their markers only. -/
structure SameButMarkers (declaration other : Declaration) : Prop where
  name : declaration.1 = other.1
  kind : declaration.2.kind = other.2.kind
  description : declaration.2.description = other.2.description
  required : declaration.2.required = other.2.required
  key : declaration.2.key = other.2.key

end Declaration

namespace ConfigField

/-- Fields that differ in their secret keys only. -/
structure SameButSecretKey (field other : ConfigField) : Prop where
  name : field.name = other.name
  kind : field.kind = other.kind
  required : field.required = other.required
  externalKey : field.externalKey = other.externalKey
  description : field.description = other.description

namespace SameButSecretKey

variable {field other : ConfigField} (same : field.SameButSecretKey other)
include same

/-- The marker of a field is not looked at when the field is examined. -/
theorem examine_eq (raw : RawConfig) :
    field.examine raw = other.examine raw := by
  unfold examine RawConfig.effective?
  rw [same.externalKey, same.name, same.required, same.kind]

/-- A field offends whatever its marker is. -/
theorem offends_eq (raw : RawConfig) :
    field.offends raw = other.offends raw := by
  unfold offends
  rw [same.examine_eq raw]

/-- A field has the same value whatever its marker is. -/
theorem value?_eq (raw : RawConfig) :
    field.value? raw = other.value? raw := by
  unfold value?
  rw [same.examine_eq raw]

theorem missingIssue_eq : field.missingIssue = other.missingIssue := by
  unfold missingIssue label
  rw [same.name, same.externalKey]

theorem invalidIssue_eq (shown : String) :
    field.invalidIssue shown = other.invalidIssue shown := by
  unfold invalidIssue label
  rw [same.name, same.externalKey, same.kind]

/-- Fields of the same secrecy report the same issue. -/
theorem issue?_eq
    (sameSecrecy : field.isSecret = other.isSecret)
    (raw : RawConfig) :
    field.issue? raw = other.issue? raw := by
  have sameInvalid : field.invalidIssue = other.invalidIssue :=
    funext same.invalidIssue_eq
  unfold issue? describe?
  rw [same.examine_eq raw, sameSecrecy, sameInvalid, same.missingIssue_eq]

end SameButSecretKey

/-- An issue tells that a field is missing, or how its value is shown. -/
theorem issue?_eq_some
    {field : ConfigField}
    {raw : RawConfig}
    {issue : ValidationIssue}
    (reported : field.issue? raw = some issue) :
    (∀ value, field.examine raw ≠ .rejected value) ∧
        issue = field.missingIssue ∨
      (∃ value, field.examine raw = .rejected value) ∧
        ∃ shown, issue = field.invalidIssue shown := by
  unfold issue? at reported
  split at reported
  · rename_i value found
    obtain ⟨shown, -, rfl⟩ := Option.map_eq_some_iff.1 reported
    exact .inr ⟨⟨value, found⟩, shown, rfl⟩
  · rename_i notRejected
    cases reported
    exact .inl ⟨notRejected, rfl⟩

end ConfigField

namespace ConfigSchema

/-- A field is secret in one schema, and its namesake is plain in the other. -/
def Reclassifies (schema other : ConfigSchema) (name : String) : Prop :=
  ∃ field ∈ schema.fields, ∃ namesake ∈ other.fields,
    field.name = name ∧
      namesake.name = name ∧
      field.isSecret ≠ namesake.isSecret

/--
Issues of one field that differ in their messages at most, and in these only
where the secrecy of the field differs and a value is shown.
-/
structure SameReport
    (schema other : ConfigSchema)
    (issue otherIssue : ValidationIssue) : Prop where
  code : issue.code = otherIssue.code
  field : issue.field = otherIssue.field
  key : issue.key = otherIssue.key
  missing :
    issue.code = .missingRequired → issue.message = otherIssue.message
  message :
    ¬schema.Reclassifies other issue.field →
      issue.message = otherIssue.message

/-- What is shown of a configuration differs under reclassified keys only. -/
structure SameDisplay
    (schema other : ConfigSchema)
    (config otherConfig : ValidatedConfig) : Prop where
  keys :
    Record.keys (schema.redact config) =
      Record.keys (other.redact otherConfig)
  values :
    ∀ key,
      (∀ field ∈ schema.fields,
        field.externalKey = key →
        ¬schema.Reclassifies other field.name) →
      Record.get? key (schema.redact config) =
        Record.get? key (other.redact otherConfig)

/-- What becomes of one raw configuration in schemas that differ in markers. -/
structure MarkersLaw
    (schema other : ConfigSchema)
    (raw : RawConfig) : Prop where
  accepted_iff :
    (∃ config, schema.validate raw = .accepted config) ↔
      ∃ config, other.validate raw = .accepted config
  rejected_iff :
    schema.validate raw ≠ .unprintable →
    other.validate raw ≠ .unprintable →
      ((∃ issues, schema.validate raw = .rejected issues) ↔
        ∃ issues, other.validate raw = .rejected issues)
  accepted :
    ∀ config otherConfig,
      schema.validate raw = .accepted config →
      other.validate raw = .accepted otherConfig →
      config.schemaName = otherConfig.schemaName ∧
        config.entries = otherConfig.entries ∧
        schema.SameDisplay other config otherConfig
  rejected :
    ∀ issues otherIssues,
      schema.validate raw = .rejected issues →
      other.validate raw = .rejected otherIssues →
      List.Forall₂ (schema.SameReport other) issues otherIssues

/-- The fields of two schemas in one place of their lists. -/
structure Counterparts
    (schema other : ConfigSchema)
    (field namesake : ConfigField) : Prop where
  same : field.SameButSecretKey namesake
  listed : field ∈ schema.fields
  otherListed : namesake ∈ other.fields

/--
Fields that differ in their secret keys are counterparts in their schemas.
-/
theorem forall₂_counterparts
    {schema other : ConfigSchema}
    (same :
      List.Forall₂ ConfigField.SameButSecretKey schema.fields other.fields) :
    List.Forall₂ (schema.Counterparts other) schema.fields other.fields := by
  obtain ⟨sameLength, paired⟩ := List.forall₂_iff_zip.1 same
  refine List.forall₂_iff_zip.2 ⟨sameLength, fun together => ?_⟩
  obtain ⟨listed, otherListed⟩ := List.of_mem_zip together
  exact ⟨paired together, listed, otherListed⟩

namespace Counterparts

variable {schema other : ConfigSchema} {field namesake : ConfigField}

/-- A field that is not reclassified is as secret as its counterpart. -/
theorem isSecret_eq
    (counterparts : schema.Counterparts other field namesake)
    (kept : ¬schema.Reclassifies other field.name) :
    field.isSecret = namesake.isSecret := by
  refine Classical.byContradiction fun different => kept ?_
  exact ⟨field, counterparts.listed, namesake, counterparts.otherListed, rfl,
    counterparts.same.name.symm, different⟩

/-- Counterparts report the same issue up to the value that secrecy hides. -/
theorem sameReport
    (counterparts : schema.Counterparts other field namesake)
    {raw : RawConfig}
    {issue otherIssue : ValidationIssue}
    (reported : field.issue? raw = some issue)
    (otherReported : namesake.issue? raw = some otherIssue) :
    schema.SameReport other issue otherIssue := by
  have same := counterparts.same
  have message :
      ¬schema.Reclassifies other field.name →
        issue.message = otherIssue.message := by
    intro kept
    rw [same.issue?_eq (counterparts.isSecret_eq kept) raw,
      otherReported] at reported
    rw [Option.some.inj reported]
  rcases ConfigField.issue?_eq_some reported with
    ⟨notRejected, rfl⟩ | ⟨⟨value, rejected⟩, shown, rfl⟩
  · rcases ConfigField.issue?_eq_some otherReported with
      ⟨-, rfl⟩ | ⟨⟨value, rejected⟩, -⟩
    · rw [← same.missingIssue_eq]
      exact ⟨rfl, rfl, rfl, fun _ => rfl, fun _ => rfl⟩
    · rw [← same.examine_eq raw] at rejected
      exact absurd rejected (notRejected value)
  · rcases ConfigField.issue?_eq_some otherReported with
      ⟨notRejected, -⟩ | ⟨-, otherShown, rfl⟩
    · rw [same.examine_eq raw] at rejected
      exact absurd rejected (notRejected value)
    · exact ⟨rfl, same.name, same.externalKey, nofun, message⟩

end Counterparts

section

variable {schema other : ConfigSchema}
  (paired :
    List.Forall₂ (schema.Counterparts other) schema.fields other.fields)
include paired

/-- The offenders of two schemas that differ in markers are counterparts. -/
theorem offenders_counterparts (raw : RawConfig) :
    List.Forall₂ (schema.Counterparts other) (schema.offenders raw)
      (other.offenders raw) := by
  refine List.rel_filter (fun field namesake counterparts => ?_) paired
  exact Bool.eq_iff_iff.1 (counterparts.same.offends_eq raw)

/-- Markers do not decide whether there is an offender. -/
theorem offenders_eq_nil_congr (raw : RawConfig) :
    schema.offenders raw = [] ↔ other.offenders raw = [] := by
  have sameLength := (offenders_counterparts paired raw).length_eq
  rw [← List.length_eq_zero_iff, sameLength, List.length_eq_zero_iff]

/-- Markers do not decide what a configuration holds. -/
theorem entries_configOf_eq (raw : RawConfig) :
    (schema.configOf raw).entries = (other.configOf raw).entries := by
  refine map_eq_of_forall₂ (paired.imp fun field namesake counterparts => ?_)
  rw [counterparts.same.name, counterparts.same.value?_eq raw]

/-- The assignments of two displays differ in reclassified values only. -/
theorem shown_counterparts (config : ValidatedConfig) :
    List.Forall₂
      (fun member otherMember =>
        member.1 = otherMember.1 ∧
          ((∀ field ∈ schema.fields,
              field.externalKey = member.1 →
              ¬schema.Reclassifies other field.name) →
            member.2 = otherMember.2))
      (schema.fields.filterMap fun field =>
        (config.get? field.name).map fun value =>
          (field.externalKey,
            if field.isSecret then .text redacted else value))
      (other.fields.filterMap fun field =>
        (config.get? field.name).map fun value =>
          (field.externalKey,
            if field.isSecret then .text redacted else value)) := by
  refine List.rel_filterMap (fun field namesake counterparts => ?_) paired
  rw [← counterparts.same.name]
  cases config.get? field.name with
  | none => exact .none
  | some value =>
      refine .some ⟨counterparts.same.externalKey, fun kept => ?_⟩
      have sameSecrecy :=
        counterparts.isSecret_eq (kept field counterparts.listed rfl)
      simp only [sameSecrecy]

/-- Configurations are shown alike but for the reclassified fields. -/
theorem sameDisplay (config : ValidatedConfig) :
    schema.SameDisplay other config config := by
  have shown := shown_counterparts paired config
  constructor
  case keys =>
    exact Record.keys_ofAssignments_congr
      (map_eq_of_forall₂ (shown.imp fun _ _ alike => alike.1))
  case values =>
    intro key kept
    unfold redact
    rw [Record.get?_ofAssignments, Record.get?_ofAssignments]
    split
    · rfl
    · refine Record.get?_congr (List.forall₂_reverse_iff.2 (shown.imp ?_))
      rintro member otherMember ⟨sameKey, sameValue⟩
      refine ⟨sameKey, fun atKey => sameValue ?_⟩
      rwa [atKey]

end

/-- The issues of counterparts, reported in their order. -/
theorem forall₂_sameReport
    {schema other : ConfigSchema}
    {raw : RawConfig}
    {fields namesakes : List ConfigField}
    {issues otherIssues : List ValidationIssue}
    (paired : List.Forall₂ (schema.Counterparts other) fields namesakes)
    (reported :
      List.Forall₂ (fun field issue => field.issue? raw = some issue)
        fields issues)
    (otherReported :
      List.Forall₂ (fun field issue => field.issue? raw = some issue)
        namesakes otherIssues) :
    List.Forall₂ (schema.SameReport other) issues otherIssues := by
  induction paired generalizing issues otherIssues with
  | nil =>
      cases reported
      cases otherReported
      exact .nil
  | cons counterparts _ inductionHypothesis =>
      cases reported with
      | cons first rest =>
          cases otherReported with
          | cons otherFirst otherRest =>
              exact .cons (counterparts.sameReport first otherFirst)
                (inductionHypothesis rest otherRest)

/-- Schemas with counterparts for fields obey the law on every mapping. -/
theorem markersLaw_of_counterparts
    {schema other : ConfigSchema}
    (sameName : schema.name = other.name)
    (paired :
      List.Forall₂ (schema.Counterparts other) schema.fields other.fields)
    (raw : RawConfig) :
    schema.MarkersLaw other raw where
  accepted_iff := by
    rw [exists_accepted_iff, exists_accepted_iff]
    exact offenders_eq_nil_congr paired raw
  rejected_iff := by
    intro answered otherAnswered
    rw [exists_rejected_iff answered, exists_rejected_iff otherAnswered]
    exact not_congr (offenders_eq_nil_congr paired raw)
  accepted := by
    intro config otherConfig accepted otherAccepted
    have entries := entries_configOf_eq paired raw
    have sameConfig : schema.configOf raw = other.configOf raw := by
      rw [ValidatedConfig.mk.injEq]
      exact ⟨sameName, entries⟩
    rw [eq_configOf_of_accepted accepted,
      eq_configOf_of_accepted otherAccepted, ← sameConfig]
    exact ⟨rfl, rfl, sameDisplay paired _⟩
  rejected := by
    intro issues otherIssues rejected otherRejected
    exact forall₂_sameReport (offenders_counterparts paired raw)
      (reported_of_rejected rejected) (reported_of_rejected otherRejected)

end ConfigSchema

/--
Declarations that differ in markers resolve to fields that differ in secret
keys.
-/
theorem Declaration.SameButMarkers.resolved
    {declaration other : Declaration}
    (same : declaration.SameButMarkers other) :
    declaration.resolved.SameButSecretKey other.resolved where
  name := same.name
  kind := same.kind
  required := same.required
  externalKey := by
    unfold Declaration.resolved ConfigField.ofSpec
    rw [same.name, same.key]
  description := same.description

/--
Schemas of shapes that differ in markers only answer alike.

One accepts a raw configuration if and only if the other does, with the same
configuration. Their issues agree in everything but how a value of a field is
shown that is secret in one of them only, and so do their displays.
-/
theorem ConfigSchema.ofDeclarations?_markersLaw
    {name : String}
    {declarations others : List Declaration}
    (same :
      List.Forall₂ Declaration.SameButMarkers
        (Record.ofList declarations) (Record.ofList others))
    {schema other : ConfigSchema}
    (made : ofDeclarations? name declarations = .ok schema)
    (otherMade : ofDeclarations? name others = .ok other)
    (raw : RawConfig) :
    schema.MarkersLaw other raw := by
  obtain ⟨sound, rfl⟩ :=
    (ofDeclarations?_eq_ok_iff name declarations schema).1 made
  obtain ⟨otherSound, rfl⟩ :=
    (ofDeclarations?_eq_ok_iff name others other).1 otherMade
  have sameName :
      (ofSound name declarations sound).name =
        (ofSound name others otherSound).name := rfl
  refine markersLaw_of_counterparts sameName (forall₂_counterparts ?_) raw
  refine List.forall₂_map_left_iff.2 (List.forall₂_map_right_iff.2 ?_)
  exact same.imp fun _ _ alike => alike.resolved

/-- An array whose address is secret. -/
def hiddenAddress : List Declaration :=
  [("san_ip",
      (FieldSpec.text "Address" true (some .host) none).markSecret "san-ip"),
    ("protocol", .choice ["fc", "iscsi"] "Protocol" true none)]

/-- The same array with a plain address and a secret protocol. -/
def hiddenProtocol : List Declaration :=
  [("san_ip", .text "Address" true (some .host) none),
    ("protocol",
      (FieldSpec.choice ["fc", "iscsi"] "Protocol" true none).markSecret
        "protocol")]

/-- A wrong address is shown by one array, and a missing protocol told by both. -/
theorem ConfigSchema.ofDeclarations?_markersLaw_address :
    ∃ schema other,
      ofDeclarations? "array" hiddenAddress = .ok schema ∧
        ofDeclarations? "array" hiddenProtocol = .ok other ∧
        List.Forall₂ (schema.SameReport other)
          [⟨.invalidValue, "san_ip", "san-ip",
              "Invalid value [redacted] for field san_ip (san-ip): " ++
                "expected an IP address or FQDN"⟩,
            ⟨.missingRequired, "protocol", "protocol",
              "Missing required field protocol (protocol)"⟩]
          [⟨.invalidValue, "san_ip", "san-ip",
              "Invalid value \"nowhere\" for field san_ip (san-ip): " ++
                "expected an IP address or FQDN"⟩,
            ⟨.missingRequired, "protocol", "protocol",
              "Missing required field protocol (protocol)"⟩] ∧
        ∃ config,
          schema.validate
              [("san-ip", .str "10.0.0.5"), ("protocol", .str "fc")] =
            .accepted config ∧
            schema.SameDisplay other config config ∧
            schema.redact config =
              [("san-ip", .text redacted), ("protocol", .text "fc")] ∧
            other.redact config =
              [("san-ip", .text "10.0.0.5"), ("protocol", .text redacted)] := by
  have same :
      List.Forall₂ Declaration.SameButMarkers
        (Record.ofList hiddenAddress) (Record.ofList hiddenProtocol) :=
    .cons ⟨rfl, rfl, rfl, rfl, rfl⟩
      (.cons ⟨rfl, rfl, rfl, rfl, rfl⟩ .nil)
  have made := (ofDeclarations?_eq_ok_iff "array" hiddenAddress _).2
    ⟨by decide +kernel, rfl⟩
  have otherMade := (ofDeclarations?_eq_ok_iff "array" hiddenProtocol _).2
    ⟨by decide +kernel, rfl⟩
  have failing :=
    ofDeclarations?_markersLaw same made otherMade [("san-ip", .str "nowhere")]
  have passing :=
    ofDeclarations?_markersLaw same made otherMade
      [("san-ip", .str "10.0.0.5"), ("protocol", .str "fc")]
  obtain ⟨-, -, sameDisplay⟩ := passing.accepted _ _ rfl rfl
  exact ⟨_, _, made, otherMade, failing.rejected _ _ rfl rfl, _, rfl,
    sameDisplay, rfl, rfl⟩

end StorageBackends
