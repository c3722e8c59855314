import Mathlib.Data.List.Basic
import StorageBackends.Deploy.DirectoryEngine
import StorageBackends.Proofs.Deploy.Tree

namespace StorageBackends

/-!
# The part of a tree that a plan can reach

The part of a tree within a directory below the root is the root and all that
stands at the directory or under it; the rest is beyond it. An operation at a
path within the directory does the same to that part alone as to the whole
tree, and leaves the rest as it was. So what it reports and what it writes
depends on that part only.
-/

/-- Whether a path is the root, or leads to a directory below it or under it. -/
def Path.isWithin (name : String) : Path → Bool
  | [] => true
  | first :: _ => first == name

/-- The way to a path within a directory stays within it: the root is, too. -/
theorem Path.isWithin_of_prefix
    {name : String}
    {path front : Path}
    (inside : path.isWithin name = true)
    (ahead : front <+: path) :
    front.isWithin name = true := by
  obtain ⟨rest, rfl⟩ := ahead
  cases front with
  | nil => rfl
  | cons first others => exact inside

namespace Tree

/-- The root, and what stands at a directory below it and under it. -/
def within (tree : Tree) (name : String) : Tree :=
  tree.filter fun entry => Path.isWithin name entry.1

/-- What stands neither at the root nor at a directory below it or under it. -/
def beyond (tree : Tree) (name : String) : Tree :=
  tree.filter fun entry => !Path.isWithin name entry.1

section

variable
  (tree : Tree)
  {name : String}
  {path : Path}

/-- Below a directory the restricted tree has the same nodes. -/
theorem node?_within (inside : path.isWithin name = true) :
    (tree.within name).node? path = tree.node? path :=
  tree.lookup_filter (Path.isWithin name) inside

/--
Taking away a node commutes with the restriction to what is below a directory.
-/
theorem erase_within (name : String) (path : Path) :
    (tree.within name).erase path = (tree.erase path).within name := by
  simp only [erase, within, List.filter_filter, Bool.and_comm]

/-- Putting a node below a directory commutes with the restriction to it. -/
theorem set_within (inside : path.isWithin name = true) (node : Node) :
    (tree.within name).set path node = (tree.set path node).within name := by
  have kept := tree.erase_within name path
  simp only [erase] at kept
  simp only [set, kept]
  simp [within, inside]

/-- A node taken away below a directory is not missed outside. -/
theorem erase_beyond (inside : path.isWithin name = true) :
    (tree.erase path).beyond name = tree.beyond name := by
  simp only [erase, beyond, List.filter_filter]
  refine List.filter_congr fun entry _ => ?_
  by_cases here : entry.1 = path
  · simp [here, inside]
  · simp [here]

/-- A node put below a directory is not seen outside. -/
theorem set_beyond (inside : path.isWithin name = true) (node : Node) :
    (tree.set path node).beyond name = tree.beyond name := by
  rw [← tree.erase_beyond inside]
  simp [set, erase, beyond, inside]

/-- One step of making a directory needs no node from outside. -/
theorem makeHere_within
    (inside : path.isWithin name = true)
    (isTarget : Bool) :
    (tree.within name).makeHere path isTarget =
      (tree.makeHere path isTarget).map (·.within name) := by
  unfold makeHere
  rw [tree.node?_within inside, tree.set_within inside]
  split
  · rfl
  · rfl
  · split <;> rfl

variable {tree}

/-- One step of making a directory below another changes nothing outside. -/
theorem makeHere_beyond
    {made : Tree}
    {isTarget : Bool}
    (inside : path.isWithin name = true)
    (succeeds : tree.makeHere path isTarget = .ok made) :
    made.beyond name = tree.beyond name := by
  unfold makeHere at succeeds
  split at succeeds
  · cases succeeds
    rfl
  · cases succeeds
  · split at succeeds
    · cases succeeds
    · cases succeeds
      exact tree.set_beyond inside .directory

variable (tree)

/-- The way down to a directory is made alike in the restricted tree. -/
theorem makeDirectories_within
    (done : Path)
    (inside : Path.isWithin name (done ++ path) = true) :
    (tree.within name).makeDirectories done path =
      ((tree.makeDirectories done path).1,
        (tree.makeDirectories done path).2.within name) := by
  have doneInside : Path.isWithin name done = true :=
    Path.isWithin_of_prefix inside (List.prefix_append done path)
  induction path generalizing tree done with
  | nil =>
      unfold makeDirectories
      rw [tree.makeHere_within doneInside]
      cases tree.makeHere done true <;> rfl
  | cons next rest inductionHypothesis =>
      have further : done ++ next :: rest = done ++ [next] ++ rest := by simp
      rw [further] at inside
      unfold makeDirectories
      rw [tree.makeHere_within doneInside]
      cases tree.makeHere done false with
      | error error => rfl
      | ok made =>
          exact inductionHypothesis made (done ++ [next]) inside
            (Path.isWithin_of_prefix inside (List.prefix_append _ rest))

/-- The way down to a directory changes nothing outside, wherever it stops. -/
theorem makeDirectories_beyond
    (done : Path)
    (inside : Path.isWithin name (done ++ path) = true) :
    (tree.makeDirectories done path).2.beyond name = tree.beyond name := by
  have doneInside : Path.isWithin name done = true :=
    Path.isWithin_of_prefix inside (List.prefix_append done path)
  induction path generalizing tree done with
  | nil =>
      unfold makeDirectories
      cases makes : tree.makeHere done true with
      | error error => rfl
      | ok made => exact makeHere_beyond doneInside makes
  | cons next rest inductionHypothesis =>
      have further : done ++ next :: rest = done ++ [next] ++ rest := by simp
      rw [further] at inside
      unfold makeDirectories
      cases makes : tree.makeHere done false with
      | error error => rfl
      | ok made =>
          have later := inductionHypothesis made (done ++ [next]) inside
            (Path.isWithin_of_prefix inside (List.prefix_append _ rest))
          exact later.trans (makeHere_beyond doneInside makes)

/-- The way down to a node meets the same obstacle in the restricted tree. -/
theorem findFrom_within
    (done : Path)
    (inside : Path.isWithin name (done ++ path) = true) :
    (tree.within name).findFrom done path = tree.findFrom done path := by
  have doneInside : Path.isWithin name done = true :=
    Path.isWithin_of_prefix inside (List.prefix_append done path)
  induction path generalizing done with
  | nil =>
      unfold findFrom
      rw [tree.node?_within doneInside]
  | cons next rest inductionHypothesis =>
      have further : done ++ next :: rest = done ++ [next] ++ rest := by simp
      rw [further] at inside
      unfold findFrom
      rw [tree.node?_within doneInside,
        inductionHypothesis (done ++ [next]) inside
          (Path.isWithin_of_prefix inside (List.prefix_append _ rest))]

theorem find_within (inside : path.isWithin name = true) :
    (tree.within name).find path = tree.find path :=
  tree.findFrom_within [] inside

/-- A file is read alike in the restricted tree. -/
theorem read_within (inside : path.isWithin name = true) :
    (tree.within name).read path = tree.read path := by
  unfold read
  rw [tree.find_within inside]

/-- A file is written alike in the restricted tree. -/
theorem write_within (inside : path.isWithin name = true) (text : String) :
    (tree.within name).write path text =
      (tree.write path text).map (·.within name) := by
  unfold write
  have parentInside :=
    Path.isWithin_of_prefix inside (List.dropLast_prefix path)
  rw [tree.find_within inside, tree.find_within parentInside,
    tree.set_within inside]
  split
  · rfl
  · rfl
  · split <;> rfl
  · rfl

/-- A file is removed alike in the restricted tree. -/
theorem remove_within (inside : path.isWithin name = true) :
    (tree.within name).remove path =
      (tree.remove path).map (·.within name) := by
  unfold remove
  rw [tree.find_within inside, tree.erase_within]
  split <;> rfl

/-- All that a directory lists is within it. -/
theorem children_within (name : String) :
    (tree.within name).children [name] = tree.children [name] := by
  unfold children within
  rw [List.filterMap_filter]
  refine List.filterMap_congr fun entry _ => ?_
  cases inside : Path.isWithin name entry.1 with
  | true => rfl
  | false =>
      have elsewhere : entry.1.dropLast ≠ [name] := by
        intro here
        have ahead : [name] <+: entry.1 := here ▸ List.dropLast_prefix entry.1
        obtain ⟨rest, spelled⟩ := ahead
        simp [← spelled, Path.isWithin] at inside
      cases entry.1.getLast? with
      | none => rfl
      | some last => simp [elsewhere]

variable {tree}

/-- A file written below a directory leaves the outside as it was. -/
theorem write_beyond
    {written : Tree}
    {text : String}
    (inside : path.isWithin name = true)
    (succeeds : tree.write path text = .ok written) :
    written.beyond name = tree.beyond name := by
  rw [write_eq_ok succeeds]
  exact tree.set_beyond inside _

/-- A file removed below a directory leaves the outside as it was. -/
theorem remove_beyond
    {removed : Tree}
    (inside : path.isWithin name = true)
    (succeeds : tree.remove path = .ok removed) :
    removed.beyond name = tree.beyond name := by
  unfold remove at succeeds
  split at succeeds
  · cases succeeds
    exact tree.erase_beyond inside
  · cases succeeds
  · cases succeeds
    rfl
  · cases succeeds

end

end Tree

namespace DirectoryEngine

/-- The engine whose tree is the part within the directory of some name. -/
def within (engine : DirectoryEngine) (name : String) : DirectoryEngine where
  tree := engine.tree.within name

/--
An operation is confined to a directory if it does to the part of the tree
within it what it does to the whole, and leaves what is beyond as it was.
-/
structure Confined
    {α : Type}
    (name : String)
    (operation : DirectoryEngine → α × DirectoryEngine) :
    Prop where
  within :
    ∀ engine : DirectoryEngine,
      operation (engine.within name) =
        ((operation engine).1, (operation engine).2.within name)
  beyond :
    ∀ engine : DirectoryEngine,
      (operation engine).2.tree.beyond name = engine.tree.beyond name

/-- An operation that follows another one unless it fails. -/
def followedBy
    {α : Type}
    (first : DirectoryEngine → Except Failure Unit × DirectoryEngine)
    (next : DirectoryEngine → Except Failure α × DirectoryEngine)
    (engine : DirectoryEngine) :
    Except Failure α × DirectoryEngine :=
  match first engine with
  | (.error failure, opened) => (.error failure, opened)
  | (.ok (), opened) => next opened

namespace Confined

variable
  {α : Type}
  {name : String}

/-- An answer that looks at no tree is confined. -/
theorem answer (shown : α) :
    Confined name fun engine => (shown, engine) where
  within _ := rfl
  beyond _ := rfl

/-- An operation that depends on what a look at the part within shows. -/
theorem guarded
    {looks : DirectoryEngine → Bool}
    (sees : ∀ engine, looks (engine.within name) = looks engine)
    {operation otherwise : DirectoryEngine → α × DirectoryEngine}
    (confined : Confined name operation)
    (otherConfined : Confined name otherwise) :
    Confined name fun engine =>
      if looks engine then operation engine else otherwise engine where
  within engine := by
    rw [sees]
    split
    · exact confined.within engine
    · exact otherConfined.within engine
  beyond engine := by
    split
    · exact confined.beyond engine
    · exact otherConfined.beyond engine

/-- Operations confined to one directory are confined to it in sequence. -/
theorem followedBy
    {first : DirectoryEngine → Except Failure Unit × DirectoryEngine}
    {next : DirectoryEngine → Except Failure α × DirectoryEngine}
    (firstConfined : Confined name first)
    (nextConfined : Confined name next) :
    Confined name (DirectoryEngine.followedBy first next) where
  within engine := by
    unfold DirectoryEngine.followedBy
    rw [firstConfined.within]
    rcases first engine with ⟨failure | done, opened⟩
    · rfl
    · exact nextConfined.within opened
  beyond engine := by
    have opens := firstConfined.beyond engine
    unfold DirectoryEngine.followedBy
    rcases answers : first engine with ⟨failure | done, opened⟩ <;>
      rw [answers] at opens
    · exact opens
    · exact (nextConfined.beyond opened).trans opens

/-- An operation on the tree whose report and tree an engine takes over. -/
theorem settle
    {written : Tree → Except StorageError Tree}
    (commutes :
      ∀ tree,
        written (tree.within name) = (written tree).map (·.within name))
    (spares :
      ∀ {tree next},
        written tree = .ok next → next.beyond name = tree.beyond name) :
    Confined name fun engine => engine.settle (written engine.tree) where
  within engine := by
    have same := commutes engine.tree
    unfold DirectoryEngine.within
    rw [same]
    cases written engine.tree <;> rfl
  beyond engine := by
    cases writes : written engine.tree with
    | error error => rfl
    | ok next => exact spares writes

end Confined

variable (planName instanceName : String)

/-- Opening the directory of a plan is confined to it. -/
theorem openPlan_confined : Confined planName (·.openPlan planName) where
  within engine := by
    have inside : Path.isWithin planName ([] ++ [planName]) = true := by
      simp [Path.isWithin]
    unfold openPlan
    cases checkName .ofPlan planName with
    | error failure => rfl
    | ok done =>
        simp only [within, Tree.makeDirectory,
          engine.tree.makeDirectories_within [] inside]
        rcases engine.tree.makeDirectories [] [planName] with
          ⟨error | done, tree⟩ <;> rfl
  beyond engine := by
    have inside : Path.isWithin planName ([] ++ [planName]) = true := by
      simp [Path.isWithin]
    have spares := engine.tree.makeDirectories_beyond [] inside
    unfold openPlan
    cases checkName .ofPlan planName with
    | error failure => rfl
    | ok done =>
        simp only [Tree.makeDirectory]
        rcases made : engine.tree.makeDirectories [] [planName] with
          ⟨error | done, tree⟩ <;> simpa [made] using spares

/-- A refused instance name ends an operation before it touches the tree. -/
theorem openInstance_confined :
    Confined planName (·.openInstance planName instanceName) := by
  unfold openInstance
  cases checkName .ofInstance instanceName with
  | error failure => exact .answer (Except.error failure)
  | ok done => exact openPlan_confined planName

theorem isWithin_file (file : String) :
    Path.isWithin planName [planName, file] = true := by
  simp [Path.isWithin]

/-- Writing a file in the directory of a plan is confined to it. -/
theorem write_confined (file text : String) :
    Confined planName fun engine =>
      engine.settle (engine.tree.write [planName, file] text) :=
  .settle (fun tree => tree.write_within (isWithin_file planName file) text)
    (Tree.write_beyond (isWithin_file planName file))

/-- A registration is confined to the directory of its plan. -/
theorem registerPlan_confined (plan : Json) :
    Confined planName (·.registerPlan planName plan) :=
  (openPlan_confined planName).followedBy (write_confined planName planFile _)

/-- Whether a plan is registered is seen in its directory. -/
theorem hasPlan_within (engine : DirectoryEngine) :
    (engine.within planName).hasPlan planName = engine.hasPlan planName := by
  unfold hasPlan within
  rw [planPath, engine.tree.find_within (isWithin_file planName planFile)]

/-- An application is confined to the directory of its plan. -/
theorem apply_confined (deployment : Json) :
    Confined planName (·.apply planName instanceName deployment) := by
  unfold apply
  cases checkName .ofPlan planName with
  | error failure => exact .answer (Except.error failure)
  | ok done =>
      cases checkName .ofInstance instanceName with
      | error failure => exact .answer (Except.error failure)
      | ok done =>
          refine .guarded (hasPlan_within planName) ?_ (.answer _)
          exact (openInstance_confined planName instanceName).followedBy
            (write_confined planName (instanceName ++ variablesEnding) _)

/-- A destruction is confined to the directory of its plan. -/
theorem destroy_confined :
    Confined planName (·.destroy planName instanceName) := by
  have inside := isWithin_file planName (instanceName ++ variablesEnding)
  refine (openInstance_confined planName instanceName).followedBy ?_
  exact .settle (fun tree => tree.remove_within inside)
    (Tree.remove_beyond inside)

/-- Reading variables back is confined to the directory of the plan. -/
theorem read_confined :
    Confined planName (·.read planName instanceName) := by
  refine (openInstance_confined planName instanceName).followedBy ⟨?_, ?_⟩
  · intro opened
    have inside := isWithin_file planName (instanceName ++ variablesEnding)
    have same := opened.tree.read_within inside
    simp only [within, variablesPath, same]
    split <;> rfl
  · intro opened
    split <;> rfl

/-- A listing is confined to the directory of its plan. -/
theorem instances_confined :
    Confined planName (·.instances planName) := by
  refine (openPlan_confined planName).followedBy ⟨?_, fun _ => rfl⟩
  intro opened
  simp only [within, opened.tree.children_within]

end DirectoryEngine

end StorageBackends
