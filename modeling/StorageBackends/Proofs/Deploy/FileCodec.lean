import StorageBackends.Proofs.Deploy.Destruction
import StorageBackends.Proofs.Deploy.VariablesFile

namespace StorageBackends

open StorageBackends.Document

/-!
# The codec of variables

Variables become the text of a file and are read from it again. Writing loses
nothing, so different variables have different texts; reading drops the
members under the ancestor key and nothing else. Texts and flags stay apart,
whatever the texts say, and what an engine has written is what it reads.

The texts are all sequences of Unicode characters. Half of a surrogate pair is
no character, so a text with one in it is not among them.
-/

namespace Json

/-- Values that can be written are told apart by their texts. -/
theorem fileText_inj
    {value other : Json}
    (writable : IsWritable value)
    (otherWritable : IsWritable other) :
    fileText value = fileText other ↔ value = other := by
  constructor
  · intro same
    have read := parse?_fileText writable
    rw [same, parse?_fileText otherWritable] at read
    exact (Option.some.inj read).symm
  · exact congrArg fileText

theorem ofText?_injective : Function.Injective ofText? := by
  intro text other same
  cases text <;> cases other <;> cases same <;> rfl

end Json

theorem ConfigValue.toJson_injective : Function.Injective ConfigValue.toJson := by
  intro value other same
  cases value <;> cases other <;> cases same <;> rfl

namespace DeploymentVariables

/-- Every member of the variables stands in their object. -/
theorem toJson_injective : Function.Injective toJson := by
  intro deployment other same
  have texts : Function.Injective Json.str := fun _ _ => Json.str.inj
  cases deployment
  cases other
  simp only [toJson, Json.ofTextRecord, Json.obj.injEq, List.cons.injEq,
    Prod.mk.injEq, true_and, and_true, Json.str.injEq,
    Json.ofText?_injective.eq_iff, (Record.mapValues_injective texts).eq_iff,
    (Record.mapValues_injective ConfigValue.toJson_injective).eq_iff] at same
  simpa only [mk.injEq] using same

end DeploymentVariables

namespace DirectoryEngine

variable {engine : DirectoryEngine} {planName instanceName : String}

/-- An application succeeds by writing the file in the directory of its plan. -/
theorem apply_eq_ok
    {document : Json}
    (succeeds :
      (engine.apply planName instanceName document).1 = .ok ()) :
    ∃ opened written,
      engine.openInstance planName instanceName = (.ok (), opened) ∧
        opened.tree.write (variablesPath planName instanceName)
            (Json.fileText document) = .ok written ∧
          (engine.apply planName instanceName document).2 = ⟨written⟩ := by
  unfold apply at succeeds ⊢
  split at succeeds
  · cases succeeds
  · cases succeeds
  · rename_i planSafe instanceSafe
    split at succeeds
    · rename_i registered
      split at succeeds
      · cases succeeds
      · rename_i opened opens
        cases writes :
          opened.tree.write (variablesPath planName instanceName)
            (Json.fileText document) with
        | error error =>
            rw [writes] at succeeds
            cases succeeds
        | ok written =>
            refine ⟨opened, written, opens, writes, ?_⟩
            simp only [registered, if_true, settle]
    · cases succeeds

/-- What an application has written is what is read after it. -/
theorem read_apply
    {document : Json}
    (succeeds :
      (engine.apply planName instanceName document).1 = .ok ()) :
    ((engine.apply planName instanceName document).2.read
        planName instanceName).1 =
      (variablesOfText (Json.fileText document)).map some := by
  obtain ⟨opened, written, opens, writes, after⟩ := apply_eq_ok succeeds
  obtain ⟨openedStill, reads⟩ :=
    (hasDirectory_of_openInstance opens).read_written writes
  have reopens :
      openInstance ⟨written⟩ planName instanceName = (.ok (), ⟨written⟩) :=
    openInstance_again opens openedStill
  have found :
      written.read (variablesPath planName instanceName) =
        .ok (Json.fileText document) := reads
  rw [after]
  simp only [read, reopens, found]

end DirectoryEngine

namespace DeploymentVariables

/-- Two values of variables, and what writing and reading does to them. -/
structure FileCodec (deployment other : DeploymentVariables) : Prop where
  /-- A file is read as the variables, the members of ancestors aside. -/
  read :
    DirectoryEngine.variablesOfText (Json.fileText deployment.toJson) =
      .ok deployment.withoutAncestors
  /-- It is read as the variables themselves if they name no ancestor. -/
  unchanged :
    DirectoryEngine.variablesOfText (Json.fileText deployment.toJson) =
        .ok deployment ↔
      Record.contains Record.ancestorKey deployment.endpointBindings = false ∧
        Record.contains Record.ancestorKey deployment.charmConfig = false
  /-- Different variables have different files. -/
  apart :
    Json.fileText deployment.toJson = Json.fileText other.toJson ↔
      deployment = other
  /-- An engine that has applied the variables reads them from its file. -/
  applied :
    ∀ (engine : DirectoryEngine) (planName instanceName : String),
      (engine.apply planName instanceName deployment.toJson).1 = .ok () →
        ((engine.apply planName instanceName deployment.toJson).2.read
            planName instanceName).1 =
          .ok (some deployment.withoutAncestors)

/-- Variables in order are read back as they were, but for the ancestor key. -/
theorem fileCodec
    {deployment other : DeploymentVariables}
    (inOrder : deployment.InOrder)
    (otherInOrder : other.InOrder) :
    FileCodec deployment other where
  read := DirectoryEngine.variablesOfText_fileText_eq inOrder
  unchanged := by
    rw [DirectoryEngine.variablesOfText_fileText_eq inOrder, Except.ok.injEq,
      withoutAncestors_eq_self_iff]
  apart := by
    rw [Json.fileText_inj inOrder.isWritable_toJson
      otherInOrder.isWritable_toJson, toJson_injective.eq_iff]
  applied engine planName instanceName succeeds := by
    rw [DirectoryEngine.read_apply succeeds,
      DirectoryEngine.variablesOfText_fileText_eq inOrder]
    rfl

/-- Variables with empty parts and with characters that are escaped. -/
def escapedVariables (multipath : ConfigValue) : DeploymentVariables where
  charmName := ""
  charmChannel := "2025.1/\"edge\""
  charmRevision := none
  charmBase := "C:\\a\tb\n\u0001é"
  endpointBindings := []
  charmConfig :=
    [("10", .text ""), ("", .flag false), ("multi\"path", multipath)]
  secretRef := none

theorem inOrder_escapedVariables (multipath : ConfigValue) :
    (escapedVariables multipath).InOrder := by
  have ordered :
      ["10", "", "multi\"path"].Nodup ∧
        ["10", "", "multi\"path"].Pairwise
          fun key later => Record.precedes key later := by
    decide
  exact ⟨.nil, ⟨ordered.1, ordered.2⟩⟩

/-- The text of a flag is not taken for the flag. -/
theorem fileCodec_ofTextAndFlag :
    FileCodec (escapedVariables (.text "true"))
      (escapedVariables (.flag true)) :=
  fileCodec (inOrder_escapedVariables _) (inOrder_escapedVariables _)

end DeploymentVariables

end StorageBackends
