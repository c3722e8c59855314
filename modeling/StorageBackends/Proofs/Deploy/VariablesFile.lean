import StorageBackends.Deploy.DirectoryEngine
import StorageBackends.Proofs.Document.Decoder
import StorageBackends.Proofs.Json.RoundTrip
import StorageBackends.Proofs.RecordOrder

namespace StorageBackends

open StorageBackends.Document

/-!
# Variables in files

Variables that were written into a file are read back from it as they were.
Their records must be records of objects: members in the order of listing, and
none under the ancestor key, which decoding drops. All variables that backends
build are of this kind. The members of the ancestor key, if there are any, are
all that is lost.
-/

/-- Members as objects list them, and none under the ancestor key. -/
structure Record.Ordinary {α : Type} (record : Record α) : Prop where
  inOrder : InOrder record
  noAncestor : contains ancestorKey record = false

/--
A record that is assigned member by member is in order and has no key twice.
-/
theorem Record.ordinary_ofAssignments
    {α : Type}
    (members : List (String × α)) :
    Ordinary (ofAssignments members) where
  inOrder := inOrder_ofAssignments members
  noAncestor := by
    rw [contains_eq_isSome, get?_ofAssignments, if_pos rfl]
    rfl

/-- Variables whose records are those of objects. -/
structure DeploymentVariables.Storable
    (deployment : DeploymentVariables) : Prop where
  bindings : Record.Ordinary deployment.endpointBindings
  config : Record.Ordinary deployment.charmConfig

namespace DeploymentVariables

variable {deployment : DeploymentVariables}

/-- Variables whose records list their members as objects do. -/
structure InOrder (deployment : DeploymentVariables) : Prop where
  bindings : Record.InOrder deployment.endpointBindings
  config : Record.InOrder deployment.charmConfig

/-- Variables without the members under the ancestor key. -/
def withoutAncestors (deployment : DeploymentVariables) :
    DeploymentVariables :=
  { deployment with
    endpointBindings :=
      Record.erase Record.ancestorKey deployment.endpointBindings
    charmConfig := Record.erase Record.ancestorKey deployment.charmConfig }

theorem Storable.inOrder (storable : deployment.Storable) :
    deployment.InOrder :=
  ⟨storable.bindings.inOrder, storable.config.inOrder⟩

/--
Variables lose nothing exactly when no member stands under the ancestor key.
-/
theorem withoutAncestors_eq_self_iff :
    deployment.withoutAncestors = deployment ↔
      Record.contains Record.ancestorKey deployment.endpointBindings = false ∧
        Record.contains Record.ancestorKey deployment.charmConfig = false := by
  rw [← Record.erase_eq_self_iff, ← Record.erase_eq_self_iff]
  cases deployment
  simp [withoutAncestors]

end DeploymentVariables

/-- All variables of a backend can be stored. -/
theorem Backend.storable_variablesOf
    (backend : Backend)
    (config : ValidatedConfig)
    (instanceName : String)
    (secretRef : Option String)
    (spaces : NetworkSpaces) :
    (backend.variablesOf config instanceName secretRef spaces).Storable where
  bindings := by
    have ordered :
        ["", "storage"].Nodup ∧
          ["", "storage"].Pairwise
            fun key later => Record.precedes key later := by
      decide
    unfold variablesOf bindingsOf
    split
    · exact ⟨⟨List.nodup_singleton _, List.pairwise_singleton _ _⟩, by
        simp [Record.contains, Record.ancestorKey]⟩
    · exact ⟨⟨ordered.1, ordered.2⟩, by
        simp [Record.contains, Record.ancestorKey]⟩
  config := Record.ordinary_ofAssignments _

namespace Json

theorem isWritable_ofText? (text : Option String) :
    IsWritable (ofText? text) := by
  cases text <;> trivial

/-- An object of writable values is writable if its members are in order. -/
theorem isWritable_mapValues
    {α : Type}
    {encode : α → Json}
    (writable : ∀ value, IsWritable (encode value))
    {members : Record α}
    (inOrder : Record.InOrder members) :
    IsWritable (.obj (Record.mapValues encode members)) := by
  refine ⟨?_, ?_⟩
  · have commuted := Record.mapValues_ofList encode members
    rw [inOrder.ofList_eq] at commuted
    exact commuted.symm
  · clear inOrder
    induction members with
    | nil => trivial
    | cons member rest inductionHypothesis =>
        exact ⟨writable member.2, inductionHypothesis⟩

end Json

/-- A value of a configuration can be written to a file. -/
theorem ConfigValue.isWritable_toJson (value : ConfigValue) :
    Json.IsWritable value.toJson := by
  cases value <;> trivial

/-- A value of a configuration is read as it was written. -/
theorem ConfigValue.decoder_toJson (value : ConfigValue) :
    ConfigValue.decoder (some value.toJson) = .valid value := by
  cases value <;> rfl

/-- A text that may be missing is read as it was written. -/
theorem Document.Decoder.nullable_text_ofText? (text : Option String) :
    Decoder.nullable .text (some (Json.ofText? text)) = .valid text := by
  cases text <;> rfl

namespace DeploymentVariables

variable {deployment : DeploymentVariables}

/-- The keys of the object of variables. -/
def keys : List String :=
  ["charm_name", "charm_channel", "charm_revision", "charm_base",
    "endpoint_bindings", "charm_config", "secret_ref"]

private theorem ordered_keys :
    keys.Nodup ∧
      keys.Pairwise fun key later => Record.precedes key later := by
  decide

/-- Variables in order can be written to a file. -/
theorem InOrder.isWritable_toJson (inOrder : deployment.InOrder) :
    Json.IsWritable deployment.toJson := by
  refine ⟨Record.InOrder.ofList_eq ⟨ordered_keys.1, ordered_keys.2⟩,
    trivial, trivial, Json.isWritable_ofText? _, trivial, ?_, ?_,
    Json.isWritable_ofText? _, trivial⟩
  · have texts : ∀ text, Json.IsWritable (.str text) := fun _ => trivial
    exact Json.isWritable_mapValues texts inOrder.bindings
  · exact Json.isWritable_mapValues ConfigValue.isWritable_toJson
      inOrder.config

/-- The object of variables is decoded as these without ancestors. -/
theorem decoder_toJson (deployment : DeploymentVariables) :
    decoder (some deployment.toJson) = .valid deployment.withoutAncestors := by
  have bindings :
      Decoder.record .text
          (some (Json.ofTextRecord deployment.endpointBindings)) =
        .valid
          (Record.erase Record.ancestorKey deployment.endpointBindings) :=
    Decoder.record_mapValues_eq (fun _ => rfl) _
  have config :
      Decoder.record ConfigValue.decoder
          (some
            (.obj
              (Record.mapValues ConfigValue.toJson deployment.charmConfig))) =
        .valid (Record.erase Record.ancestorKey deployment.charmConfig) :=
    Decoder.record_mapValues_eq ConfigValue.decoder_toJson _
  simp [decoder, toJson, Decoder.object, Checked.member, Record.get?_cons,
    Decoder.text, Decoder.nullable_text_ofText?, bindings, config,
    Checked.under, Checked.map, Checked.apply, withoutAncestors]

end DeploymentVariables

namespace DirectoryEngine

variable {deployment : DeploymentVariables}

/-- The file of variables holds these variables without ancestors. -/
theorem variablesOfText_fileText_eq (inOrder : deployment.InOrder) :
    variablesOfText (Json.fileText deployment.toJson) =
      .ok deployment.withoutAncestors := by
  unfold variablesOfText
  rw [Json.parse?_fileText inOrder.isWritable_toJson]
  simp only [deployment.decoder_toJson]

/-- The file of variables that can be stored holds these variables. -/
theorem variablesOfText_fileText (storable : deployment.Storable) :
    variablesOfText (Json.fileText deployment.toJson) = .ok deployment := by
  rw [variablesOfText_fileText_eq storable.inOrder,
    DeploymentVariables.withoutAncestors_eq_self_iff.2
      ⟨storable.bindings.noAncestor, storable.config.noAncestor⟩]

end DirectoryEngine

end StorageBackends
