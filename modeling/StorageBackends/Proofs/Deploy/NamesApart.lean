import StorageBackends.Proofs.Deploy.WrittenPath

namespace StorageBackends

/-!
# Names that tell pairs apart

From the type of a backend and the name of an instance four names are made: of
the secret, of the plan, of the entry in memory and of the file. For types and
instance names as they are accepted, none of them is made from another pair.

Instance names may hold hyphens anywhere inside, so a secret name can be cut
at its joint only because the type before the joint holds no hyphen. A type
with a hyphen would share the secrets of another type.
-/

namespace Backend

theorem isInstanceName_of_checkInstanceName
    {instanceName : String}
    (accepted : checkInstanceName instanceName = .ok ()) :
    isInstanceName instanceName = true := by
  unfold checkInstanceName at accepted
  split at accepted
  · assumption
  · cases accepted

/-- Plans have one name only if their types are the same. -/
theorem planName_inj {backend other : Backend} :
    backend.planName = other.planName ↔
      backend.backendType = other.backendType := by
  simp [planName, String.append_right_inj]

/-- A type with a hyphen has the secrets of the type in front of the hyphen. -/
theorem secretName_of_hyphen
    {backend other : Backend}
    {start : String}
    (longer : backend.backendType = other.backendType ++ "-" ++ start)
    (instanceName : String) :
    backend.secretName instanceName =
      other.secretName (start ++ "-" ++ instanceName) := by
  simp only [secretName, longer, String.append_assoc]

/-- Two pairs of a backend and an instance name that no derived name confuses. -/
structure NamesApart
    (backend other : Backend)
    (instanceName otherName : String) : Prop where
  /-- Secrets are named for one pair only. -/
  secrets :
    backend.secretName instanceName = other.secretName otherName ↔
      backend.backendType = other.backendType ∧ instanceName = otherName
  /-- Plans are named for one type only. -/
  plans :
    backend.planName = other.planName ↔
      backend.backendType = other.backendType
  /-- Entries in memory are kept under the key of one pair only. -/
  entries :
    MemoryEngine.jointKey backend.planName instanceName =
        MemoryEngine.jointKey other.planName otherName ↔
      backend.backendType = other.backendType ∧ instanceName = otherName
  /-- Files are written for one pair only, whatever the directory is. -/
  files :
    ∀ directory : String,
      directory ++
            (DirectoryEngine.variablesPath
              backend.planName instanceName).text =
          directory ++
            (DirectoryEngine.variablesPath other.planName otherName).text ↔
        backend.backendType = other.backendType ∧ instanceName = otherName

/-- Names made of sound types and accepted instance names determine both. -/
theorem namesApart
    {backend other : Backend}
    {instanceName otherName : String}
    (sound : isBackendType backend.backendType = true)
    (otherSound : isBackendType other.backendType = true)
    (accepted : checkInstanceName instanceName = .ok ())
    (otherAccepted : checkInstanceName otherName = .ok ()) :
    NamesApart backend other instanceName otherName where
  secrets := secretName_inj sound otherSound
  plans := planName_inj
  entries := jointKey_inj sound otherSound
  files directory := by
    have instanceSafe :=
      isSafeName_of_isInstanceName
        (isInstanceName_of_checkInstanceName accepted)
    have otherSafe :=
      isSafeName_of_isInstanceName
        (isInstanceName_of_checkInstanceName otherAccepted)
    rw [String.append_right_inj,
      Path.text_inj
        (DirectoryEngine.isSegment_of_mem_variablesPath
          (isSafeName_planName sound) instanceSafe)
        (DirectoryEngine.isSegment_of_mem_variablesPath
          (isSafeName_planName otherSound) otherSafe)
        (DirectoryEngine.variablesPath_ne_nil _ _)
        (DirectoryEngine.variablesPath_ne_nil _ _),
      DirectoryEngine.variablesPath_inj, planName_inj]

/-- Two products of one vendor with instances of one hyphenated name. -/
theorem namesApart_ofOneVendor :
    NamesApart Catalogue.dellStorageCenter Catalogue.dellPowerStore
      "rack-1-array" "rack-1-array" :=
  namesApart (by decide) (by decide) rfl rfl

end Backend

end StorageBackends
