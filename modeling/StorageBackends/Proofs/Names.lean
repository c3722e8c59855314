import StorageBackends.Backend.Registry
import StorageBackends.Deploy.MemoryEngine
import StorageBackends.Proofs.Text.Splitting

namespace StorageBackends

/-!
# Derived names

The name of a secret joins the type of a backend and the name of an instance
with a hyphen; the key of applied variables joins the name of a plan and the
name of an instance with a slash. Instance names may hold hyphens, so both
joints can be found again only because a sound type holds neither character.
-/

/-- A sound type is made of lower-case letters and digits. -/
theorem isLowerOrDigit_of_isBackendType
    {text : String}
    (sound : isBackendType text = true)
    {c : Char}
    (listed : c ∈ text.toList) :
    Text.isLowerOrDigit c = true := by
  unfold isBackendType at sound
  cases spelled : text.toList with
  | nil => simp [spelled] at sound
  | cons first rest =>
      simp only [spelled, Bool.and_eq_true, List.all_eq_true] at sound
      rw [spelled] at listed
      rcases List.mem_cons.1 listed with atHead | behind
      · rw [atHead]
        simp [Text.isLowerOrDigit, sound.1]
      · exact sound.2 c behind

theorem hyphen_not_mem_of_isBackendType
    {text : String}
    (sound : isBackendType text = true) :
    '-' ∉ text.toList := fun listed =>
  absurd (isLowerOrDigit_of_isBackendType sound listed) (by decide)

theorem slash_not_mem_of_isBackendType
    {text : String}
    (sound : isBackendType text = true) :
    '/' ∉ text.toList := fun listed =>
  absurd (isLowerOrDigit_of_isBackendType sound listed) (by decide)

namespace Backend

/-- Secret names tell instances of backends of sound types apart. -/
theorem secretName_inj
    {backend other : Backend}
    (sound : isBackendType backend.backendType = true)
    (otherSound : isBackendType other.backendType = true)
    {instanceName otherName : String} :
    backend.secretName instanceName = other.secretName otherName ↔
      backend.backendType = other.backendType ∧ instanceName = otherName := by
  have spelled : ∀ (backend : Backend) (name : String),
      (backend.secretName name).toList =
        backend.backendType.toList ++ '-' :: name.toList := by
    intro backend name
    have hyphen : "-".toList = ['-'] := rfl
    simp only [secretName, String.toList_append, hyphen, List.append_assoc,
      List.singleton_append]
  rw [← String.toList_inj, spelled, spelled,
    append_cons_inj_of_not_mem (hyphen_not_mem_of_isBackendType sound)
      (hyphen_not_mem_of_isBackendType otherSound),
    String.toList_inj, String.toList_inj]

/-- Joint keys tell instances of backends of sound types apart. -/
theorem jointKey_inj
    {backend other : Backend}
    (sound : isBackendType backend.backendType = true)
    (otherSound : isBackendType other.backendType = true)
    {instanceName otherName : String} :
    MemoryEngine.jointKey backend.planName instanceName =
        MemoryEngine.jointKey other.planName otherName ↔
      backend.backendType = other.backendType ∧ instanceName = otherName := by
  have spelled : ∀ lead type name : String,
      (lead ++ type ++ "/" ++ name).toList =
        lead.toList ++ (type.toList ++ '/' :: name.toList) := by
    intro lead type name
    have slash : "/".toList = ['/'] := rfl
    simp only [String.toList_append, slash, List.append_assoc,
      List.singleton_append]
  unfold MemoryEngine.jointKey planName
  -- The rewriting would spell the literal out, one character after another.
  generalize "storage-backend-" = lead
  rw [← String.toList_inj, spelled, spelled, List.append_right_inj,
    append_cons_inj_of_not_mem (slash_not_mem_of_isBackendType sound)
      (slash_not_mem_of_isBackendType otherSound),
    String.toList_inj, String.toList_inj]

end Backend

/-- A registered backend is found under its type. -/
theorem Registry.find?_backendType
    (registry : Registry)
    {backend : Backend}
    (listed : backend ∈ registry.backends) :
    registry.find? backend.backendType = some backend := by
  have distinct := registry.distinctTypes
  unfold find?
  generalize registry.backends = backends at listed distinct
  induction backends with
  | nil => cases listed
  | cons first rest inductionHypothesis =>
      obtain ⟨fresh, restDistinct⟩ := List.nodup_cons.1 distinct
      rcases List.mem_cons.1 listed with rfl | behind
      · simp
      · have unequal : first.backendType ≠ backend.backendType := by
          intro same
          exact fresh (List.mem_map.2 ⟨backend, behind, same.symm⟩)
        simp [unequal, inductionHypothesis behind restDistinct]

end StorageBackends
