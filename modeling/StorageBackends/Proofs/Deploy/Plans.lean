import StorageBackends.Proofs.Deploy.Holdings
import StorageBackends.Proofs.Lifecycle.Run

namespace StorageBackends

/-!
# Registered plans

An engine that has registered a plan holds it from then on: operations leave
all nodes of a tree where they are but the one that they are about, whatever
else is in the tree and whether they succeed or not. So an engine that holds
the plan of an instance with sound names applies the instance, or fails for a
reason of the file store.
-/

namespace Tree

/-- The nodes of a tree at the paths of some class are there in another one. -/
def Retains (spared : Path → Prop) (tree after : Tree) : Prop :=
  ∀ path node,
    spared path →
    tree.node? path = some node →
    after.node? path = some node

namespace Retains

variable
  {spared : Path → Prop}
  {tree next after : Tree}

theorem refl (spared : Path → Prop) (tree : Tree) :
    Retains spared tree tree :=
  fun _ _ _ here => here

theorem trans
    (first : Retains spared tree next)
    (second : Retains spared next after) :
    Retains spared tree after := by
  intro path node isSpared here
  exact second path node isSpared (first path node isSpared here)

/-- A tree that retains everything retains what is spared. -/
theorem of_all
    (retains : Retains (fun _ => True) tree after)
    (spared : Path → Prop) :
    Retains spared tree after :=
  fun path node _ here => retains path node True.intro here

/-- A tree that differs from another one at a single path. -/
theorem of_nodes
    {changed : Path}
    (nodes : ∀ path, path ≠ changed → after.node? path = tree.node? path) :
    Retains (· ≠ changed) tree after :=
  fun path _ apart here => (nodes path apart).trans here

/-- A directory stays open as long as it and the root are spared. -/
theorem hasDirectory
    (retains : Retains spared tree after)
    {name : String}
    (root : spared [])
    (inner : spared [name])
    (opened : tree.HasDirectory name) :
    after.HasDirectory name where
  root := retains [] _ root opened.root
  inner := retains [name] _ inner opened.inner

end Retains

/-- Directories are made where nothing is. -/
theorem makeDirectories_retains
    (tree : Tree)
    (done path : Path) :
    Retains (fun _ => True) tree (tree.makeDirectories done path).2 := by
  intro other node _ here
  rcases tree.node?_makeDirectories done path other with
    same | ⟨-, absent, -⟩
  · exact same.trans here
  · rw [absent] at here
    cases here

/-- Writing a file touches its own path only. -/
theorem write_retains
    {tree written : Tree}
    {path : Path}
    {text : String}
    (succeeds : tree.write path text = .ok written) :
    Retains (· ≠ path) tree written := by
  rw [write_eq_ok succeeds]
  exact .of_nodes fun other apart => by rw [node?_set, if_neg apart]

/-- Removing a file touches its own path only. -/
theorem remove_retains
    {tree removed : Tree}
    {path : Path}
    (succeeds : tree.remove path = .ok removed) :
    Retains (· ≠ path) tree removed := by
  unfold remove at succeeds
  split at succeeds
  · cases succeeds
    exact .of_nodes fun other apart => by rw [node?_erase, if_neg apart]
  · cases succeeds
  · cases succeeds
    exact .refl _ _
  · cases succeeds

end Tree

namespace DirectoryEngine

variable
  (engine : DirectoryEngine)
  (planName instanceName : String)

/-- Opening the directory of a plan only adds directories. -/
theorem openPlan_retains :
    Tree.Retains (fun _ => True) engine.tree
      (engine.openPlan planName).2.tree := by
  have made := engine.tree.makeDirectories_retains [] [planName]
  unfold openPlan
  split
  · exact .refl _ _
  · unfold Tree.makeDirectory
    split
    · rename_i tree succeeds
      rwa [succeeds] at made
    · rename_i error tree fails
      rwa [fails] at made

/-- Opening the directory of an instance only adds directories. -/
theorem openInstance_retains :
    Tree.Retains (fun _ => True) engine.tree
      (engine.openInstance planName instanceName).2.tree := by
  unfold openInstance
  split
  · exact .refl _ _
  · exact engine.openPlan_retains planName

/-- Nodes that a successful operation retains are there if it fails too. -/
theorem settle_retains
    {engine : DirectoryEngine}
    {spared : Path → Prop}
    {written : Except StorageError Tree}
    (retains :
      ∀ tree, written = .ok tree → Tree.Retains spared engine.tree tree) :
    Tree.Retains spared engine.tree (engine.settle written).2.tree := by
  cases written with
  | ok tree => exact retains tree rfl
  | error error => exact .refl _ _

/-- What settling reports is a report of the file store. -/
theorem settle_eq_error
    {engine next : DirectoryEngine}
    {written : Except StorageError Tree}
    {failure : Failure}
    (failed : engine.settle written = (.error failure, next)) :
    ∃ error, failure = .storage error := by
  cases written with
  | ok tree => cases failed
  | error error =>
      cases failed
      exact ⟨error, rfl⟩

/-- A registration touches the file of its own plan only. -/
theorem registerPlan_retains (plan : Json) :
    Tree.Retains (· ≠ planPath planName) engine.tree
      (engine.registerPlan planName plan).2.tree := by
  have opens := (engine.openPlan_retains planName).of_all
    (· ≠ planPath planName)
  unfold registerPlan
  split
  · rename_i failure opened refused
    rwa [refused] at opens
  · rename_i opened opensPlan
    rw [opensPlan] at opens
    exact opens.trans (settle_retains fun _ => Tree.write_retains)

/-- An application touches the file of its own instance only. -/
theorem apply_retains (deployment : Json) :
    Tree.Retains (· ≠ variablesPath planName instanceName) engine.tree
      (engine.apply planName instanceName deployment).2.tree := by
  have opens := (engine.openInstance_retains planName instanceName).of_all
    (· ≠ variablesPath planName instanceName)
  unfold apply
  split
  · exact .refl _ _
  · exact .refl _ _
  · split
    · split
      · rename_i failure opened refused
        rwa [refused] at opens
      · rename_i opened opensInstance
        rw [opensInstance] at opens
        exact opens.trans (settle_retains fun _ => Tree.write_retains)
    · exact .refl _ _

/-- A destruction touches the file of its own instance only. -/
theorem destroy_retains :
    Tree.Retains (· ≠ variablesPath planName instanceName) engine.tree
      (engine.destroy planName instanceName).2.tree := by
  have opens := (engine.openInstance_retains planName instanceName).of_all
    (· ≠ variablesPath planName instanceName)
  unfold destroy
  split
  · rename_i failure opened refused
    rwa [refused] at opens
  · rename_i opened opensInstance
    rw [opensInstance] at opens
    exact opens.trans (settle_retains fun _ => Tree.remove_retains)

/-- A look at the health of an engine takes nothing from its tree. -/
theorem healthy_retains :
    Tree.Retains (fun _ => True) engine.tree engine.healthy.2.tree := by
  have made := engine.tree.makeDirectories_retains [] []
  unfold healthy Tree.makeDirectory
  split
  · rename_i tree succeeds
    rwa [succeeds] at made
  · rename_i error tree fails
    rwa [fails] at made

end DirectoryEngine

namespace Engine

/-- An engine holds a plan, and its directory if it keeps any. -/
def HoldsPlan (planName : String) (plan : Json) : Engine → Prop
  | memory engine => engine.plan? planName = some plan
  | directory engine =>
      engine.tree.HasDirectory planName ∧
        engine.tree.node? (DirectoryEngine.planPath planName) =
          some (.file (Json.fileText plan))

namespace HoldsPlan

variable
  {engine : Engine}
  {planName : String}
  {plan : Json}

/-- A plan is held as long as no other file has its path. -/
private theorem of_retains
    {tree after : Tree}
    {changed : Path}
    (held : (directory ⟨tree⟩).HoldsPlan planName plan)
    (retains : Tree.Retains (· ≠ changed) tree after)
    (deep : 1 < changed.length)
    (apart : DirectoryEngine.planPath planName ≠ changed) :
    (directory ⟨after⟩).HoldsPlan planName plan := by
  -- Directories lie above all files, so the changed path is none of theirs.
  have shallow : ∀ path : Path, path.length ≤ 1 → path ≠ changed := by
    rintro path short rfl
    omega
  refine ⟨?_, retains _ _ apart held.2⟩
  exact retains.hasDirectory (shallow [] (by simp))
    (shallow [planName] (by simp)) held.1

/-- The plan of one name is held through the registration of another. -/
theorem registerPlan
    (held : engine.HoldsPlan planName plan)
    {other : String}
    (apart : planName ≠ other)
    (value : Json) :
    (engine.registerPlan other value).2.HoldsPlan planName plan := by
  cases engine with
  | memory engine =>
      have found : engine.plan? planName = some plan := held
      simpa [Engine.registerPlan, HoldsPlan, MemoryEngine.registerPlan,
        MemoryEngine.plan?, Record.get?_insert, apart] using found
  | directory engine =>
      refine of_retains held (engine.registerPlan_retains other value)
        (by simp [DirectoryEngine.planPath]) ?_
      exact fun same => apart (DirectoryEngine.planPath_inj.1 same)

/-- A plan is held through every application: variables have other files. -/
theorem apply
    (held : engine.HoldsPlan planName plan)
    (otherPlan instanceName : String)
    (deployment : Json) :
    (engine.apply otherPlan instanceName deployment).2.HoldsPlan planName
      plan := by
  cases engine with
  | memory engine =>
      have found : engine.plan? planName = some plan := held
      cases registered : Record.contains otherPlan engine.plans <;>
        simpa [Engine.apply, MemoryEngine.apply, registered, HoldsPlan,
          MemoryEngine.plan?] using found
  | directory engine =>
      exact of_retains held
        (engine.apply_retains otherPlan instanceName deployment)
        (by simp [DirectoryEngine.variablesPath])
        (DirectoryEngine.planPath_ne_variablesPath _ _ _)

/-- A plan is held through every destruction: variables have other files. -/
theorem destroy
    (held : engine.HoldsPlan planName plan)
    (otherPlan instanceName : String) :
    (engine.destroy otherPlan instanceName).2.HoldsPlan planName plan := by
  cases engine with
  | memory engine => exact held
  | directory engine =>
      exact of_retains held (engine.destroy_retains otherPlan instanceName)
        (by simp [DirectoryEngine.variablesPath])
        (DirectoryEngine.planPath_ne_variablesPath _ _ _)

theorem healthy (held : engine.HoldsPlan planName plan) :
    engine.healthy.2.HoldsPlan planName plan := by
  cases engine with
  | memory engine => exact held
  | directory engine =>
      have retains := engine.healthy_retains
      refine ⟨?_, retains _ _ True.intro held.2⟩
      exact retains.hasDirectory True.intro True.intro held.1

end HoldsPlan

/-- A plan that was registered is held. -/
theorem holdsPlan_of_registerPlan
    {engine next : Engine}
    {planName : String}
    {plan : Json}
    (registered : engine.registerPlan planName plan = (.ok (), next)) :
    next.HoldsPlan planName plan := by
  cases engine with
  | memory engine =>
      cases registered
      simp [HoldsPlan, MemoryEngine.plan?, MemoryEngine.registerPlan,
        Record.get?_insert]
  | directory engine =>
      rcases written : engine.registerPlan planName plan with ⟨result, after⟩
      simp only [registerPlan, written] at registered
      obtain ⟨rfl, rfl⟩ := Prod.mk.inj registered
      unfold DirectoryEngine.registerPlan at written
      split at written
      · cases written
      · rename_i opened opens
        obtain ⟨-, made⟩ := DirectoryEngine.openPlan_eq_ok opens
        have directory := Tree.hasDirectory_of_makeDirectory made
        unfold DirectoryEngine.settle at written
        split at written
        · rename_i tree succeeds
          cases written
          have retains := Tree.write_retains succeeds
          refine ⟨retains.hasDirectory ?_ ?_ directory, ?_⟩
          · simp [DirectoryEngine.planPath]
          · simp [DirectoryEngine.planPath]
          · rw [Tree.write_eq_ok succeeds, Tree.node?_set, if_pos rfl]
        · cases written

/-- A plan that is held is served. -/
theorem HoldsPlan.serves
    {engine : Engine}
    {planName : String}
    {plan : Json}
    (held : engine.HoldsPlan planName plan) :
    engine.Serves planName := by
  cases engine with
  | memory engine =>
      have found : Record.get? planName engine.plans = some plan := held
      show Record.contains planName engine.plans = true
      rw [Record.contains_eq_isSome, found]
      rfl
  | directory engine =>
      refine ⟨held.1, ?_⟩
      rw [Tree.file?_eq_some_iff.2 held.2]
      rfl

/-- An engine that serves the plan of sound names fails in its store only. -/
theorem Serves.apply_eq_error
    {engine next : Engine}
    {planName instanceName : String}
    {deployment : Json}
    (serves : engine.Serves planName)
    (accepts : Accepts planName instanceName)
    {failure : Failure}
    (failed :
      engine.apply planName instanceName deployment =
        (.error failure, next)) :
    ∃ error, failure = .storage error := by
  cases engine with
  | memory engine =>
      have registered : Record.contains planName engine.plans = true := serves
      simp [Engine.apply, MemoryEngine.apply, registered] at failed
  | directory engine =>
      rcases written :
          engine.apply planName instanceName deployment with
        ⟨result, after⟩
      simp only [Engine.apply, written] at failed
      obtain ⟨rfl, rfl⟩ := Prod.mk.inj failed
      simp only [DirectoryEngine.apply, accepts.checkPlan,
        accepts.checkInstance, Serves.hasPlan serves, if_true,
        DirectoryEngine.openInstance_of_hasPlan accepts.checkPlan
          accepts.checkInstance (Serves.hasPlan serves)] at written
      exact DirectoryEngine.settle_eq_error written

/--
With names that an engine accepts, only its storage can fail a destruction.
-/
theorem Accepts.destroy_eq_error
    {engine next : Engine}
    {planName instanceName : String}
    (accepts : Accepts planName instanceName)
    {failure : Failure}
    (failed :
      engine.destroy planName instanceName = (.error failure, next)) :
    ∃ error, failure = .storage error := by
  cases engine with
  | memory engine => cases failed
  | directory engine =>
      rcases destroyed : engine.destroy planName instanceName with
        ⟨result, after⟩
      simp only [Engine.destroy, destroyed] at failed
      obtain ⟨rfl, rfl⟩ := Prod.mk.inj failed
      simp only [DirectoryEngine.destroy, DirectoryEngine.openInstance,
        accepts.checkInstance, DirectoryEngine.openPlan, accepts.checkPlan]
        at destroyed
      split at destroyed
      · rename_i other opened refused
        cases destroyed
        split at refused
        · cases refused
        · cases refused
          exact ⟨_, rfl⟩
      · exact DirectoryEngine.settle_eq_error destroyed

end Engine

end StorageBackends
