import Mathlib.Data.List.TakeWhile
import StorageBackends.Backend.Registry

namespace StorageBackends

/-!
# Sound descriptors

What a registry asks of a descriptor, stated without the tests that make the
checks. The main statement is `inspection`: it lists all that the checks can
come to, in the order in which they are made, so that the first failure is the
one that is told.
-/

namespace Text

/-- Nothing is left of a text exactly if all of it is white space. -/
theorem trim_eq_nil_iff (characters : List Char) :
    trim characters = [] ↔ ∀ c ∈ characters, isBlank c = true := by
  unfold trim
  rw [List.reverse_eq_nil_iff, List.dropWhile_eq_nil_iff]
  constructor
  · intro blank
    have kept : ∀ c ∈ characters.dropWhile isBlank, isBlank c = true :=
      fun c listed => blank c (List.mem_reverse.2 listed)
    -- The first character kept is not blank, so none is kept.
    cases left : characters.dropWhile isBlank with
    | nil => exact List.dropWhile_eq_nil_iff.1 left
    | cons first rest =>
        have notBlank := List.head?_dropWhile_not isBlank characters
        simp only [left, List.head?_cons] at notBlank
        rw [kept first (left ▸ List.mem_cons_self)] at notBlank
        cases notBlank
  · intro blank c listed
    exact blank c
      ((List.dropWhile_sublist isBlank).subset (List.mem_reverse.1 listed))

end Text

namespace Backend

/-- The type is a lower-case letter with lower-case letters and digits behind. -/
def Typed (backend : Backend) : Prop :=
  ∃ first rest,
    backend.backendType.toList = first :: rest ∧
      Text.isLower first = true ∧
      ∀ c ∈ rest, Text.isLowerOrDigit c = true

/-- The display name is not made of white space only. -/
def Displayed (backend : Backend) : Prop :=
  ∃ c ∈ backend.displayName.toList, Text.isBlank c = false

/-- The name of the unit starts as those of all charms do. -/
def Chartered (backend : Backend) : Prop :=
  ∃ suffix, backend.unit.name = charmPrefix ++ suffix

/-- The unit has a channel and a base. -/
def Pinned (backend : Backend) : Prop :=
  backend.unit.channel ≠ "" ∧ backend.unit.base ≠ ""

/-- A sound descriptor. -/
structure Describable (backend : Backend) : Prop where
  typed : backend.Typed
  displayed : backend.Displayed
  chartered : backend.Chartered
  suffixed : backend.unit.name ≠ charmPrefix
  pinned : backend.Pinned
  keyed :
    ∀ field ∈ backend.schema.fields,
      field.isSecret = true → field.externalKey ≠ ""

/-- All that the checks of a descriptor can come to; the first failure counts. -/
inductive Inspection (backend : Backend) : Option DescriptorProblem → Prop where
  | malformedType
      (untyped : ¬backend.Typed) :
      Inspection backend (some .malformedType)
  | emptyDisplayName
      (typed : backend.Typed)
      (undisplayed : ¬backend.Displayed) :
      Inspection backend (some .emptyDisplayName)
  | foreignUnitName
      (typed : backend.Typed)
      (displayed : backend.Displayed)
      (unchartered : ¬backend.Chartered) :
      Inspection backend (some .foreignUnitName)
  | bareUnitName
      (typed : backend.Typed)
      (displayed : backend.Displayed)
      (bare : backend.unit.name = charmPrefix) :
      Inspection backend (some .bareUnitName)
  | missingPins
      (typed : backend.Typed)
      (displayed : backend.Displayed)
      (chartered : backend.Chartered)
      (suffixed : backend.unit.name ≠ charmPrefix)
      (unpinned : ¬backend.Pinned) :
      Inspection backend (some .missingPins)
  | unkeyedSecret
      (field : ConfigField)
      (typed : backend.Typed)
      (displayed : backend.Displayed)
      (chartered : backend.Chartered)
      (suffixed : backend.unit.name ≠ charmPrefix)
      (pinned : backend.Pinned)
      (listed : field ∈ backend.schema.fields)
      (secret : field.isSecret = true)
      (unkeyed : field.externalKey = "") :
      Inspection backend (some (.unkeyedSecret field.name))
  | sound (describable : backend.Describable) : Inspection backend none

theorem isBackendType_iff (backend : Backend) :
    isBackendType backend.backendType = true ↔ backend.Typed := by
  unfold isBackendType Typed
  cases backend.backendType.toList with
  | nil => simp
  | cons first rest => simp [List.all_eq_true, and_assoc]

theorem trim_displayName_iff (backend : Backend) :
    (Text.trim backend.displayName.toList).isEmpty = true ↔
      ¬backend.Displayed := by
  rw [List.isEmpty_iff, Text.trim_eq_nil_iff]
  simp [Displayed]

theorem isPrefixOf_unitName_iff (backend : Backend) :
    charmPrefix.toList.isPrefixOf backend.unit.name.toList = true ↔
      backend.Chartered := by
  rw [List.isPrefixOf_iff_prefix]
  constructor
  · rintro ⟨suffix, spelled⟩
    refine ⟨String.ofList suffix, ?_⟩
    rw [← String.toList_inj, String.toList_append, String.toList_ofList]
    exact spelled.symm
  · rintro ⟨suffix, spelled⟩
    exact ⟨suffix.toList, by rw [spelled, String.toList_append]⟩

/-- The checks of a descriptor come to one of these ends. -/
theorem inspection (backend : Backend) :
    backend.Inspection backend.descriptorProblem := by
  unfold descriptorProblem
  split
  · rename_i unsound
    refine .malformedType fun typed => ?_
    rw [← isBackendType_iff] at typed
    simp [typed] at unsound
  · rename_i sound
    have typed : backend.Typed := by
      rw [← isBackendType_iff]
      simpa using sound
    split
    · rename_i blank
      exact .emptyDisplayName typed ((trim_displayName_iff backend).1 blank)
    · rename_i visible
      have displayed : backend.Displayed := by
        rw [trim_displayName_iff] at visible
        exact Classical.not_not.1 visible
      split
      · rename_i foreign
        refine .foreignUnitName typed displayed fun chartered => ?_
        rw [← isPrefixOf_unitName_iff] at chartered
        simp [chartered] at foreign
      · rename_i own
        have chartered : backend.Chartered := by
          rw [← isPrefixOf_unitName_iff]
          simpa using own
        split
        · rename_i bare
          exact .bareUnitName typed displayed bare
        · rename_i suffixed
          split
          · rename_i missing
            refine .missingPins typed displayed chartered suffixed ?_
            rintro ⟨channel, base⟩
            simp [channel, base] at missing
          · rename_i present
            have pinned : backend.Pinned := by
              simpa [Pinned] using present
            cases unkeyed :
                backend.schema.secretFields.find? fun field =>
                  field.externalKey == "" with
            | none =>
                refine .sound
                  ⟨typed, displayed, chartered, suffixed, pinned, ?_⟩
                intro field listed secret
                have keyed := List.find?_eq_none.1 unkeyed field
                  (List.mem_filter.2 ⟨listed, secret⟩)
                simpa using keyed
            | some field =>
                obtain ⟨listed, secret⟩ :=
                  List.mem_filter.1 (List.mem_of_find?_eq_some unkeyed)
                refine .unkeyedSecret field typed displayed chartered suffixed
                  pinned listed secret ?_
                simpa using List.find?_some unkeyed

/-- A descriptor that fails a check is not sound. -/
theorem Inspection.not_describable
    {backend : Backend}
    {problem : DescriptorProblem}
    (broken : backend.Inspection (some problem)) :
    ¬backend.Describable := by
  intro describable
  cases broken with
  | malformedType untyped => exact untyped describable.typed
  | emptyDisplayName _ undisplayed => exact undisplayed describable.displayed
  | foreignUnitName _ _ unchartered => exact unchartered describable.chartered
  | bareUnitName _ _ bare => exact describable.suffixed bare
  | missingPins _ _ _ _ unpinned => exact unpinned describable.pinned
  | unkeyedSecret field _ _ _ _ _ listed secret unkeyed =>
      exact describable.keyed field listed secret unkeyed

/-- The checks pass exactly the sound descriptors. -/
theorem descriptorProblem_eq_none_iff (backend : Backend) :
    backend.descriptorProblem = none ↔ backend.Describable := by
  have inspected := backend.inspection
  generalize backend.descriptorProblem = problem at inspected
  cases problem with
  | none =>
      cases inspected with
      | sound describable => exact ⟨fun _ => describable, fun _ => rfl⟩
  | some problem =>
      exact ⟨nofun, fun describable =>
        absurd describable inspected.not_describable⟩

end Backend

/-- Registered types are sound. -/
theorem Registry.isBackendType_of_listed
    (registry : Registry)
    {backend : Backend}
    (listed : backend ∈ registry.backends) :
    isBackendType backend.backendType = true :=
  backend.isBackendType_iff.2
    (backend.descriptorProblem_eq_none_iff.1
      (registry.sound backend listed)).typed

end StorageBackends
