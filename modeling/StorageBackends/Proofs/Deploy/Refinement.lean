import StorageBackends.Proofs.Deploy.Simulation

namespace StorageBackends

/-!
# The directory engine refines the recording engine

A directory engine that starts on an empty directory answers every call as a
recording engine does, unless a name is too long for the file system. What a
read and a listing then show is what the recording engine holds, however many
looks there were before.
-/

namespace EngineCall

/-- Whether a call only looks at what the engine holds. -/
def isLook : EngineCall → Bool
  | read _ _ => true
  | instances _ => true
  | _ => false

/-- The calls that do more than look. -/
def operations (calls : List EngineCall) : List EngineCall :=
  calls.filter fun call => !call.isLook

end EngineCall

/-- A recording engine after a list of calls. -/
def MemoryEngine.after (engine : MemoryEngine) (calls : List EngineCall) :
    MemoryEngine :=
  calls.foldl (fun engine call => (call.onMemory engine).2) engine

namespace DirectoryEngine

/-- A directory engine after a list of calls. -/
def after (engine : DirectoryEngine) (calls : List EngineCall) :
    DirectoryEngine :=
  calls.foldl (fun engine call => (call.onFiles engine).2) engine

/-- No call of a list reports an error of the file system. -/
def Unobstructed (engine : DirectoryEngine) : List EngineCall → Prop
  | [] => True
  | call :: rest =>
      (∀ error, (call.onFiles engine).1 ≠ .error (.storage error)) ∧
        Unobstructed (call.onFiles engine).2 rest

end DirectoryEngine

/-- What a directory engine shows is what a recording engine holds. -/
structure DirectoryEngine.Shows
    (files : DirectoryEngine)
    (memory : MemoryEngine) : Prop where
  read :
    ∀ planName instanceName,
      isSafeName planName = true →
      isSafeName instanceName = true →
      ∃ found : Option DeploymentVariables,
        memory.variables? planName instanceName =
            found.map DeploymentVariables.toJson ∧
          (files.read planName instanceName).1 =
            if Tree.endsTooLong [planName] then
              .error (.storage .nameTooLong)
            else
              .ok found
  instances :
    ∀ planName,
      isSafeName planName = true →
      ∃ names,
        Text.Ascending names ∧
          (∀ name,
            name ∈ names ↔
              (memory.variables? planName name).isSome = true) ∧
          (files.instances planName).1 =
            if Tree.endsTooLong [planName] then
              .error (.storage .nameTooLong)
            else
              .ok names

namespace Mirrors

variable
  {files : DirectoryEngine}
  {memory : MemoryEngine}

/-- A directory engine shows what the engine that it mirrors holds. -/
theorem shows (mirrors : Mirrors files memory) : files.Shows memory where
  read := by
    intro planName instanceName safePlan safeInstance
    obtain ⟨found, recorded, look⟩ := mirrors.read safePlan safeInstance
    exact ⟨found, recorded, look.answer⟩
  instances := by
    intro planName safe
    obtain ⟨names, ascending, listed, look⟩ := mirrors.instances safe
    exact ⟨names, ascending, listed, look.answer⟩

/-- As long as nothing obstructs it, a directory engine mirrors the other. -/
theorem after
    (mirrors : Mirrors files memory)
    {earlier later : List EngineCall}
    (sound : ∀ call ∈ earlier, call.Sound)
    (unobstructed : files.Unobstructed (earlier ++ later)) :
    Mirrors (files.after earlier) (memory.after earlier) ∧
      (files.after earlier).Unobstructed later := by
  induction earlier generalizing files memory with
  | nil => exact ⟨mirrors, unobstructed⟩
  | cons call rest inductionHypothesis =>
      obtain ⟨soundCall, soundRest⟩ := List.forall_mem_cons.1 sound
      obtain ⟨free, freeRest⟩ := unobstructed
      obtain ⟨-, next⟩ := (mirrors.step soundCall).of_unobstructed free
      exact inductionHypothesis next soundRest freeRest

/-- Only names that are too long obstruct an engine. -/
theorem unobstructed
    (mirrors : Mirrors files memory)
    {calls : List EngineCall}
    (sound : ∀ call ∈ calls, call.Sound)
    (fits : ∀ call ∈ calls, call.Fits) :
    files.Unobstructed calls := by
  induction calls generalizing files memory with
  | nil => trivial
  | cons call rest inductionHypothesis =>
      obtain ⟨soundCall, soundRest⟩ := List.forall_mem_cons.1 sound
      obtain ⟨fitsCall, fitsRest⟩ := List.forall_mem_cons.1 fits
      obtain ⟨free, next⟩ := (mirrors.step soundCall).of_fits fitsCall
      exact ⟨free, inductionHypothesis next soundRest fitsRest⟩

end Mirrors

/-- Looking does not change what a recording engine holds. -/
theorem MemoryEngine.after_operations
    (engine : MemoryEngine)
    (calls : List EngineCall) :
    engine.after (EngineCall.operations calls) = engine.after calls := by
  induction calls generalizing engine with
  | nil => rfl
  | cons call rest inductionHypothesis =>
      have next := inductionHypothesis (call.onMemory engine).2
      unfold EngineCall.operations at next ⊢
      cases call <;> exact next

/-- A tree whose root is absent or an empty directory. -/
def Tree.Fresh (tree : Tree) : Prop :=
  tree = [] ∨ tree = [([], .directory)]

/-- In a fresh tree there is nothing but the root. -/
private theorem Tree.Fresh.node?_cons
    {tree : Tree}
    (fresh : tree.Fresh)
    (name : String)
    (rest : Path) :
    tree.node? (name :: rest) = none := by
  rcases fresh with rfl | rfl <;> rfl

theorem Tree.Fresh.tidy {tree : Tree} (fresh : tree.Fresh) : tree.Tidy where
  distinct := by
    rcases fresh with rfl | rfl <;> simp [DistinctPaths]
  clear := by
    refine ⟨fun path there => ?_, fun name file isDirectory => ?_⟩
    · cases path with
      | nil => rfl
      | cons name rest => exact absurd (fresh.node?_cons name rest) there
    · rw [fresh.node?_cons] at isDirectory
      cases isDirectory
  placed := by
    intro path text isFile
    cases path with
    | nil => rcases fresh with rfl | rfl <;> cases isFile
    | cons name rest =>
        rw [fresh.node?_cons] at isFile
        cases isFile

/-- On a fresh tree there are no plans and no variables. -/
theorem mirrors_of_fresh {tree : Tree} (fresh : tree.Fresh) :
    Mirrors ⟨tree⟩ MemoryEngine.empty where
  tidy := fresh.tidy
  plans := by
    intro planName
    rw [Tree.file?, DirectoryEngine.planPath, fresh.node?_cons]
    rfl
  deployments := by
    intro planName instanceName
    rw [Tree.file?, DirectoryEngine.variablesPath, fresh.node?_cons]
    exact .absent

/--
A directory engine answers each of a list of calls as a recording engine that
takes only the operations among them, and after each of them shows what that
engine holds.
-/
structure DirectoryEngine.Refines
    (files : DirectoryEngine)
    (memory : MemoryEngine)
    (calls : List EngineCall) : Prop where
  answers :
    ∀ earlier call later,
      calls = earlier ++ call :: later →
      AnsweredAlike
        (call.onMemory (memory.after (EngineCall.operations earlier))).1
        (call.onFiles (files.after earlier)).1
  shows :
    ∀ earlier later,
      calls = earlier ++ later →
      (files.after earlier).Shows
        (memory.after (EngineCall.operations earlier))

/-- On a fresh tree, unobstructed calls end as they do for a recording engine. -/
theorem DirectoryEngine.refines_memory
    {tree : Tree}
    (fresh : tree.Fresh)
    {calls : List EngineCall}
    (sound : ∀ call ∈ calls, call.Sound)
    (unobstructed : (⟨tree⟩ : DirectoryEngine).Unobstructed calls) :
    (⟨tree⟩ : DirectoryEngine).Refines MemoryEngine.empty calls := by
  have reached :
      ∀ {earlier later},
        calls = earlier ++ later →
        Mirrors ((⟨tree⟩ : DirectoryEngine).after earlier)
            (MemoryEngine.empty.after (EngineCall.operations earlier)) ∧
          ((⟨tree⟩ : DirectoryEngine).after earlier).Unobstructed later := by
    rintro earlier later rfl
    rw [MemoryEngine.after_operations]
    exact (mirrors_of_fresh fresh).after
      (fun call listed => sound call (List.mem_append_left _ listed))
      unobstructed
  constructor
  · intro earlier call later split
    obtain ⟨mirrors, free, -⟩ := reached split
    have soundCall : call.Sound := sound call (by simp [split])
    exact ((mirrors.step soundCall).of_unobstructed free).1
  · intro earlier later split
    exact (reached split).1.shows

/-- A look, an apply that comes too early, and the same apply once more. -/
theorem DirectoryEngine.refines_memory_early_apply :
    let deployment : DeploymentVariables :=
      { charmName := "cinder-volume"
        charmChannel := "latest/edge"
        charmRevision := none
        charmBase := "ubuntu@24.04"
        endpointBindings := [("", "management")]
        charmConfig := [("volume-backend-name", .text "array"),
          ("use-multipath", .flag true)]
        secretRef := none }
    let calls : List EngineCall :=
      [.read "volumes" "array",
        .apply "volumes" "array" deployment,
        .registerPlan
          ⟨"volumes", "pure", ⟨"cinder-volume", "latest/edge", none,
            "ubuntu@24.04"⟩⟩,
        .apply "volumes" "array" deployment,
        .instances "volumes"]
    Tree.Fresh [] ∧
      (∀ call ∈ calls, call.Sound) ∧
      fresh.Unobstructed calls ∧
      fresh.Refines MemoryEngine.empty calls := by
  intro deployment calls
  have isFresh : Tree.Fresh [] := .inl rfl
  have storable : deployment.Storable :=
    ⟨⟨⟨by decide, by decide⟩, by decide⟩,
      ⟨⟨by decide, by decide⟩, by decide⟩⟩
  have sound : ∀ call ∈ calls, call.Sound := by
    have safe :
        isSafeName "volumes" = true ∧ isSafeName "array" = true := by
      decide
    simp only [calls, List.forall_mem_cons, EngineCall.Sound]
    exact ⟨safe, ⟨safe.1, safe.2, storable⟩, safe.1,
      ⟨safe.1, safe.2, storable⟩, safe.1, nofun⟩
  have fits : ∀ call ∈ calls, call.Fits := by
    have short :
        Tree.endsTooLong ["volumes"] = false ∧
          Tree.endsTooLong (variablesPath "volumes" "array") = false := by
      decide
    simp only [calls, List.forall_mem_cons, EngineCall.Fits]
    exact ⟨short.1, short.2, short.1, short.2, short.1, nofun⟩
  have unobstructed : fresh.Unobstructed calls :=
    (mirrors_of_fresh isFresh).unobstructed sound fits
  exact ⟨isFresh, sound, unobstructed,
    refines_memory isFresh sound unobstructed⟩

end StorageBackends
