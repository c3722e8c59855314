import StorageBackends.Proofs.Record
import StorageBackends.Service.Payload

namespace StorageBackends

open StorageBackends.Document

/-!
# What decoders read

A list of parts is valid if each part is, an object without ancestor key is a
raw configuration as it stands, and the parameters of a path are read from
the members that name them.
-/

namespace Document

theorem Checked.all_map_valid
    {α β : Type}
    {items : List β}
    {check : β → Checked α}
    {value : β → α}
    (valid : ∀ item ∈ items, check item = .valid (value item)) :
    Checked.all (items.map check) = .valid (items.map value) := by
  induction items with
  | nil => rfl
  | cons item rest inductionHypothesis =>
      obtain ⟨first, others⟩ := List.forall_mem_cons.1 valid
      simp only [List.map_cons, Checked.all, first,
        inductionHypothesis others, Checked.map, Checked.apply]

/-- A record of values that decode to themselves loses its ancestor only. -/
theorem Decoder.record_mapValues_eq
    {α : Type}
    {decoder : Decoder α}
    {encode : α → Json}
    (decodes : ∀ value, decoder (some (encode value)) = .valid value)
    (members : Record α) :
    Decoder.record decoder (some (.obj (Record.mapValues encode members))) =
      .valid (Record.erase Record.ancestorKey members) := by
  have read :
      ∀ kept : Record α,
        Checked.all
            ((Record.mapValues encode kept).map fun member =>
              ((decoder (some member.2)).map fun value =>
                (member.1, value)).under (.key member.1)) =
          .valid kept := by
    intro kept
    have whole :
        Checked.all
            (kept.map fun member =>
              ((decoder (some (encode member.2))).map fun value =>
                (member.1, value)).under (.key member.1)) =
          .valid (kept.map id) :=
      Checked.all_map_valid fun member _ => by
        rw [decodes]
        rfl
    rw [List.map_id] at whole
    rw [Record.mapValues, List.map_map]
    exact whole
  have erased := Record.mapValues_erase encode Record.ancestorKey members
  unfold Record.erase at erased
  simp only [Decoder.record, ← erased]
  exact read _

/-- A record without ancestor is read as it stands. -/
theorem Decoder.record_mapValues
    {α : Type}
    {decoder : Decoder α}
    {encode : α → Json}
    (decodes : ∀ value, decoder (some (encode value)) = .valid value)
    {members : Record α}
    (plain : Record.contains Record.ancestorKey members = false) :
    Decoder.record decoder (some (.obj (Record.mapValues encode members))) =
      .valid members := by
  rw [Decoder.record_mapValues_eq decodes members,
    (Record.erase_eq_self_iff _ _).2 plain]

end Document

namespace Payload

/-- An object that leaves its ancestor alone is a raw configuration. -/
theorem rawConfigDecoder_object
    {members : Record Json}
    (plain : Record.contains Record.ancestorKey members = false) :
    rawConfigDecoder (some (.obj members)) = .valid members := by
  have read :
      Decoder.record .anything (some (.obj (Record.mapValues id members))) =
        .valid members :=
    Decoder.record_mapValues (fun _ => rfl) plain
  have same : Record.mapValues id members = members := List.map_id members
  rwa [same] at read

/-- A member of the parameters that is read as a text is that text. -/
private theorem get?_of_member
    {key text : String}
    {params : Record String}
    (valid :
      Checked.member key .nonEmptyText (Record.mapValues Json.str params) =
        .valid text) :
    Record.get? key params = some text := by
  have read := (Checked.under_eq_valid_iff _ _ _).1 valid
  rw [Record.get?_mapValues] at read
  cases found : Record.get? key params with
  | none =>
      rw [found] at read
      cases read
  | some content =>
      rw [found] at read
      simp only [Option.map_some, Decoder.nonEmptyText] at read
      split at read
      · cases read
      · cases read
        rfl

private theorem member_of_get?
    {key text : String}
    {params : Record String}
    (named : Record.get? key params = some text)
    (notEmpty : text ≠ "") :
    Checked.member key .nonEmptyText (Record.mapValues Json.str params) =
      .valid text := by
  refine (Checked.under_eq_valid_iff _ _ _).2 ?_
  rw [Record.get?_mapValues, named]
  exact if_neg notEmpty

/-- The type that is read is the parameter of the path. -/
theorem BackendParams.decoder_valid
    {params : Record String}
    {read : BackendParams}
    (valid :
      BackendParams.decoder (some (Json.ofTextRecord params)) =
        .valid read) :
    Record.get? "backendType" params = some read.backendType := by
  obtain ⟨backendType, named, rfl⟩ := (Checked.map_eq_valid_iff _ _ _).1 valid
  exact get?_of_member named

/-- A parameter that is there and not empty is read. -/
theorem BackendParams.decoder_eq_valid
    {params : Record String}
    {backendType : String}
    (typed : Record.get? "backendType" params = some backendType)
    (notEmpty : backendType ≠ "") :
    BackendParams.decoder (some (Json.ofTextRecord params)) =
      .valid ⟨backendType⟩ :=
  (Checked.map_eq_valid_iff _ _ _).2
    ⟨backendType, member_of_get? typed notEmpty, rfl⟩

/-- The names that are read are the parameters of the path. -/
theorem InstanceParams.decoder_valid
    {params : Record String}
    {read : InstanceParams}
    (valid :
      InstanceParams.decoder (some (Json.ofTextRecord params)) =
        .valid read) :
    Record.get? "backendType" params = some read.backendType ∧
      Record.get? "instanceName" params = some read.instanceName := by
  obtain ⟨make, instanceName, made, named, rfl⟩ :=
    (Checked.apply_eq_valid_iff _ _ _).1 valid
  obtain ⟨backendType, typed, rfl⟩ := (Checked.map_eq_valid_iff _ _ _).1 made
  exact ⟨get?_of_member typed, get?_of_member named⟩

/-- Parameters that are not empty are read as they stand. -/
theorem InstanceParams.decoder_eq_valid
    {params : Record String}
    {backendType instanceName : String}
    (typed : Record.get? "backendType" params = some backendType)
    (typeNotEmpty : backendType ≠ "")
    (named : Record.get? "instanceName" params = some instanceName)
    (nameNotEmpty : instanceName ≠ "") :
    InstanceParams.decoder (some (Json.ofTextRecord params)) =
      .valid ⟨backendType, instanceName⟩ := by
  have typeRead := member_of_get? typed typeNotEmpty
  have nameRead := member_of_get? named nameNotEmpty
  refine (Checked.apply_eq_valid_iff _ _ _).2 ?_
  exact ⟨_, instanceName,
    (Checked.map_eq_valid_iff _ _ _).2 ⟨backendType, typeRead, rfl⟩,
    nameRead, rfl⟩

end Payload

end StorageBackends
