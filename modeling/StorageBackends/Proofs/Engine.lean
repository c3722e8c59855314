import StorageBackends.Deploy.Engine
import StorageBackends.Proofs.Record

namespace StorageBackends

/-!
# What engines keep

The recording engine changes the variables of one joint key with each call,
and no call turns it into an engine of another kind. An engine that refuses to
apply an instance has not changed at all, whichever kind it is of.
-/

namespace MemoryEngine

/-- Applying changes the variables under the own joint key only. -/
theorem variables?_apply
    (engine : MemoryEngine)
    (planName instanceName : String)
    (deployment : Json)
    (otherPlan otherInstance : String) :
    (engine.apply planName instanceName deployment).2.variables?
        otherPlan otherInstance =
      if Record.contains planName engine.plans = true ∧
          jointKey otherPlan otherInstance =
            jointKey planName instanceName then
        some deployment
      else
        engine.variables? otherPlan otherInstance := by
  cases registered : Record.contains planName engine.plans with
  | false => simp [apply, registered]
  | true => simp [apply, registered, variables?, Record.get?_insert]

theorem variables?_destroy
    (engine : MemoryEngine)
    (planName instanceName otherPlan otherInstance : String) :
    (engine.destroy planName instanceName).variables?
        otherPlan otherInstance =
      if jointKey otherPlan otherInstance =
          jointKey planName instanceName then
        none
      else
        engine.variables? otherPlan otherInstance :=
  Record.get?_erase _ engine.applied _

end MemoryEngine

namespace Tree

/-- A directory on the way to a node that is there. -/
theorem node?_eq_directory_of_findFrom
    {tree : Tree}
    {done : Path}
    {name : String}
    {rest : Path}
    {node : Node}
    (found : tree.findFrom done (name :: rest) = .ok node) :
    tree.node? done = some .directory ∧
      tree.findFrom (done ++ [name]) rest = .ok node := by
  unfold findFrom at found
  split at found
  · rename_i here
    exact ⟨here, found⟩
  · cases found
  · cases found

/-- Making the directory of a file that is there changes nothing. -/
theorem makeDirectory_of_find
    {tree : Tree}
    {directory file : String}
    {node : Node}
    (found : tree.find [directory, file] = .ok node) :
    tree.makeDirectory [directory] = (.ok (), tree) := by
  obtain ⟨root, below⟩ := node?_eq_directory_of_findFrom found
  obtain ⟨inner, -⟩ := node?_eq_directory_of_findFrom below
  have made : ∀ {path : Path} (isTarget : Bool),
      tree.node? path = some .directory →
        tree.makeHere path isTarget = .ok tree := by
    intro path isTarget here
    simp [makeHere, here]
  simp only [makeDirectory, makeDirectories, made false root, made true inner]

end Tree

namespace DirectoryEngine

/-- Opening an instance of a plan that has a file changes nothing. -/
theorem openInstance_of_hasPlan
    {engine : DirectoryEngine}
    {planName instanceName : String}
    (plan : checkName .ofPlan planName = .ok ())
    (inst : checkName .ofInstance instanceName = .ok ())
    (registered : engine.hasPlan planName = true) :
    engine.openInstance planName instanceName = (.ok (), engine) := by
  have found : ∃ node, engine.tree.find (planPath planName) = .ok node := by
    unfold hasPlan at registered
    split at registered
    · rename_i node found
      exact ⟨node, found⟩
    · cases registered
  obtain ⟨node, found⟩ := found
  simp only [openInstance, inst, openPlan, plan,
    Tree.makeDirectory_of_find found]

/-- An application that fails has left the tree as it was. -/
theorem apply_eq_error
    {engine next : DirectoryEngine}
    {planName instanceName : String}
    {deployment : Json}
    {failure : Failure}
    (refused :
      engine.apply planName instanceName deployment =
        (.error failure, next)) :
    next = engine := by
  unfold apply at refused
  split at refused
  · exact (Prod.mk.inj refused).2.symm
  · exact (Prod.mk.inj refused).2.symm
  · rename_i plan inst
    split at refused
    · rename_i registered
      rw [openInstance_of_hasPlan plan inst registered] at refused
      simp only [settle] at refused
      split at refused
      · exact absurd (Prod.mk.inj refused).1 (by simp)
      · exact (Prod.mk.inj refused).2.symm
    · exact (Prod.mk.inj refused).2.symm

end DirectoryEngine

namespace Engine

/-- The variables that a recording engine holds for an instance. -/
def recorded? (planName instanceName : String) : Engine → Option Json
  | memory engine => engine.variables? planName instanceName
  | directory _ => none

/-- Whether an engine is a recording one. -/
def isMemory : Engine → Bool
  | memory _ => true
  | directory _ => false

@[simp] theorem isMemory_registerPlan
    (planName : String)
    (plan : Json)
    (engine : Engine) :
    (engine.registerPlan planName plan).2.isMemory = engine.isMemory := by
  cases engine <;> rfl

@[simp] theorem isMemory_apply
    (planName instanceName : String)
    (deployment : Json)
    (engine : Engine) :
    (engine.apply planName instanceName deployment).2.isMemory =
      engine.isMemory := by
  cases engine <;> rfl

@[simp] theorem isMemory_destroy
    (planName instanceName : String)
    (engine : Engine) :
    (engine.destroy planName instanceName).2.isMemory =
      engine.isMemory := by
  cases engine <;> rfl

theorem recorded?_registerPlan
    (plan : String)
    (value : Json)
    (engine : Engine)
    (planName instanceName : String) :
    (engine.registerPlan plan value).2.recorded? planName instanceName =
      engine.recorded? planName instanceName := by
  cases engine <;> rfl

theorem recorded?_apply_of_ne
    {planName instanceName otherPlan otherInstance : String}
    (apart :
      MemoryEngine.jointKey planName instanceName ≠
        MemoryEngine.jointKey otherPlan otherInstance)
    (deployment : Json)
    (engine : Engine) :
    (engine.apply planName instanceName deployment).2.recorded?
        otherPlan otherInstance =
      engine.recorded? otherPlan otherInstance := by
  cases engine with
  | memory engine =>
      simp [apply, recorded?, MemoryEngine.variables?_apply, Ne.symm apart]
  | directory engine => rfl

theorem recorded?_destroy_of_ne
    {planName instanceName otherPlan otherInstance : String}
    (apart :
      MemoryEngine.jointKey planName instanceName ≠
        MemoryEngine.jointKey otherPlan otherInstance)
    (engine : Engine) :
    (engine.destroy planName instanceName).2.recorded?
        otherPlan otherInstance =
      engine.recorded? otherPlan otherInstance := by
  cases engine with
  | memory engine =>
      simp [destroy, recorded?, MemoryEngine.variables?_destroy,
        Ne.symm apart]
  | directory engine => rfl

/-- What an application has left was there before or was applied by it. -/
theorem recorded?_apply_eq_some
    {planName instanceName otherPlan otherInstance : String}
    {deployment found : Json}
    {engine : Engine}
    (left :
      (engine.apply planName instanceName deployment).2.recorded?
        otherPlan otherInstance = some found) :
    engine.recorded? otherPlan otherInstance = some found ∨
      MemoryEngine.jointKey otherPlan otherInstance =
          MemoryEngine.jointKey planName instanceName ∧
        found = deployment := by
  cases engine with
  | directory engine => cases left
  | memory engine =>
      simp only [apply, recorded?, MemoryEngine.variables?_apply] at left ⊢
      split at left
      · rename_i own
        exact .inr ⟨own.2, (Option.some.inj left).symm⟩
      · exact .inl left

/-- What a destruction has left was there before. -/
theorem recorded?_destroy_eq_some
    {planName instanceName otherPlan otherInstance : String}
    {found : Json}
    {engine : Engine}
    (left :
      (engine.destroy planName instanceName).2.recorded?
        otherPlan otherInstance = some found) :
    engine.recorded? otherPlan otherInstance = some found := by
  cases engine with
  | directory engine => cases left
  | memory engine =>
      simp only [destroy, recorded?, MemoryEngine.variables?_destroy]
        at left ⊢
      split at left
      · cases left
      · exact left

/-- What a recording engine was made to apply is what it holds. -/
theorem recorded?_apply_of_ok
    {engine next : Engine}
    (memory : engine.isMemory = true)
    {planName instanceName : String}
    {deployment : Json}
    (applied :
      engine.apply planName instanceName deployment = (.ok (), next)) :
    next.recorded? planName instanceName = some deployment := by
  cases engine with
  | directory engine => cases memory
  | memory engine =>
      cases registered : Record.contains planName engine.plans with
      | false => simp [apply, MemoryEngine.apply, registered] at applied
      | true =>
          have same :
              ((Engine.memory engine).apply planName instanceName
                deployment).2 = next := by rw [applied]
          rw [← same]
          simp [apply, recorded?, MemoryEngine.variables?_apply, registered]

theorem recorded?_destroy_self
    (engine : Engine)
    (planName instanceName : String) :
    (engine.destroy planName instanceName).2.recorded?
        planName instanceName =
      none := by
  cases engine with
  | memory engine =>
      simp [destroy, recorded?, MemoryEngine.variables?_destroy]
  | directory engine => rfl

/-- An engine that refuses to apply an instance has not changed. -/
theorem apply_eq_error
    {engine next : Engine}
    {planName instanceName : String}
    {deployment : Json}
    {failure : Failure}
    (refused :
      engine.apply planName instanceName deployment =
        (.error failure, next)) :
    next = engine := by
  cases engine with
  | memory engine =>
      cases registered : Record.contains planName engine.plans with
      | false =>
          simp only [apply, MemoryEngine.apply, registered] at refused
          exact (Prod.mk.inj refused).2.symm
      | true => simp [apply, MemoryEngine.apply, registered] at refused
  | directory engine =>
      rcases written :
          engine.apply planName instanceName deployment with
        ⟨result, after⟩
      simp only [apply, written] at refused
      obtain ⟨rfl, rfl⟩ := Prod.mk.inj refused
      rw [DirectoryEngine.apply_eq_error written]

end Engine

end StorageBackends
