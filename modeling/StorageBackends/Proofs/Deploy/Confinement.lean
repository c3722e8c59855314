import StorageBackends.Proofs.Deploy.Destruction
import StorageBackends.Proofs.Deploy.Performing
import StorageBackends.Proofs.Deploy.WrittenPath

namespace StorageBackends

/-!
# Confinement of the directory engine

Every call of a directory engine stays within the directory of its plan. An
unsafe name is refused before anything is looked at; a call with safe names
makes that directory and changes the one file it is about, and neither what it
answers nor what it writes depends on anything else in the tree. The files of
different plans and instances are different ones, also when their paths are
written down and followed from the root again.
-/

namespace DirectoryEngine

theorem Confined.showing
    {α : Type}
    {name : String}
    {operation : DirectoryEngine → Except Failure α × DirectoryEngine}
    (confined : Confined name operation)
    (shown : α → Shown) :
    Confined name (DirectoryEngine.showing shown operation) where
  within engine := by
    simp only [DirectoryEngine.showing, confined.within]
  beyond engine := confined.beyond engine

/-- Every call is confined to the directory of its plan. -/
theorem perform_confined (call : EngineCall) :
    Confined call.planName (perform call) := by
  cases call with
  | registerPlan plan => exact (registerPlan_confined _ _).showing _
  | apply planName instanceName deployment =>
      exact (apply_confined _ _ _).showing _
  | destroy planName instanceName => exact (destroy_confined _ _).showing _
  | read planName instanceName => exact (read_confined _ _).showing _
  | instances planName => exact (instances_confined _).showing _

/-! ## What changes -/

/--
What a call may do to a node: the root and the directory of its plan are made
where nothing was, and the file that it is about takes its content.
-/
inductive Change (call : EngineCall) (tree after : Tree) (path : Path) :
    Prop
  | made
      (here : path = [] ∨ path = [call.planName])
      (absent : tree.node? path = none)
      (isNew : after.node? path = some .directory)
  | changed
      (target : call.target? = some path)
      (content : after.node? path = call.content?)

/-- Opening a plan makes the root and the directory of the plan at most. -/
theorem node?_openPlan
    (engine : DirectoryEngine)
    (planName : String)
    (path : Path) :
    (engine.openPlan planName).2.tree.node? path = engine.tree.node? path ∨
      (path = [] ∨ path = [planName]) ∧
        engine.tree.node? path = none ∧
        (engine.openPlan planName).2.tree.node? path = some .directory := by
  have made := engine.tree.node?_makeDirectories [] [planName] path
  have onTheWay :
      path <+: [] ++ [planName] → path = [] ∨ path = [planName] := by
    intro ahead
    rcases path with _ | ⟨first, rest⟩
    · exact .inl rfl
    · refine .inr ?_
      simpa using ahead
  unfold openPlan
  split
  · exact .inl rfl
  · unfold Tree.makeDirectory
    rcases makes : engine.tree.makeDirectories [] [planName] with
      ⟨error | done, tree⟩ <;>
    · rw [makes] at made
      exact made.imp_right (And.imp_left onTheWay)

/-- A file that was removed is gone, and all others are there. -/
theorem node?_settle_remove
    (opened : DirectoryEngine)
    (target path : Path) :
    (opened.settle (opened.tree.remove target)).2.tree.node? path =
        opened.tree.node? path ∨
      target = path ∧
        (opened.settle (opened.tree.remove target)).2.tree.node? path =
          none := by
  unfold Tree.remove
  split
  · by_cases here : path = target
    · exact .inr ⟨here.symm, (Tree.node?_erase _ _ _).trans (if_pos here)⟩
    · exact .inl ((Tree.node?_erase _ _ _).trans (if_neg here))
  · exact .inl rfl
  · exact .inl rfl
  · exact .inl rfl

/-- A file that was written has its text, and all others are there. -/
theorem node?_settle_write
    (opened : DirectoryEngine)
    (target : Path)
    (text : String)
    (path : Path) :
    (opened.settle (opened.tree.write target text)).2.tree.node? path =
        opened.tree.node? path ∨
      target = path ∧
        (opened.settle (opened.tree.write target text)).2.tree.node? path =
          some (.file text) := by
  cases writes : opened.tree.write target text with
  | error error => exact .inl rfl
  | ok written =>
      rw [Tree.write_eq_ok writes]
      by_cases here : path = target
      · exact .inr ⟨here.symm, (Tree.node?_set _ _ _ _).trans (if_pos here)⟩
      · exact .inl ((Tree.node?_set _ _ _ _).trans (if_neg here))

/-- The step of a call leaves all nodes but the one that it is about. -/
theorem node?_step
    (call : EngineCall)
    (opened : DirectoryEngine)
    (path : Path) :
    (step call opened).2.tree.node? path = opened.tree.node? path ∨
      call.target? = some path ∧
        (step call opened).2.tree.node? path = call.content? := by
  cases call with
  | registerPlan plan =>
      exact (node?_settle_write opened _ _ path).imp_right
        (And.imp_left (congrArg some))
  | apply planName instanceName deployment =>
      exact (node?_settle_write opened _ _ path).imp_right
        (And.imp_left (congrArg some))
  | destroy planName instanceName =>
      exact (node?_settle_remove opened _ path).imp_right
        (And.imp_left (congrArg some))
  | read planName instanceName =>
      refine .inl ?_
      simp only [step, showing]
      split <;> rfl
  | instances planName => exact .inl rfl

theorem settle_of_map_eq_ok
    {engine : DirectoryEngine}
    {written : Except StorageError Tree}
    {shown : Unit → Shown}
    {answer : Shown}
    (succeeds : (engine.settle written).1.map shown = .ok answer) :
    ∃ tree, written = .ok tree ∧ (engine.settle written).2.tree = tree := by
  cases written with
  | ok tree => exact ⟨tree, rfl, rfl⟩
  | error error => cases succeeds

/-- The step of a call that succeeds leaves the content of its file. -/
theorem step_writes
    {call : EngineCall}
    {opened : DirectoryEngine}
    (hasDirectory : opened.tree.HasDirectory call.planName)
    {shown : Shown}
    (succeeds : (step call opened).1 = .ok shown)
    {path : Path}
    (target : call.target? = some path) :
    (step call opened).2.tree.node? path = call.content? := by
  have ofWrite :
      ∀ {text : String} {written : Tree},
        opened.tree.write path text = .ok written →
        written.node? path = some (.file text) := by
    intro text written writes
    rw [Tree.write_eq_ok writes]
    exact (Tree.node?_set _ _ _ _).trans (if_pos rfl)
  cases call with
  | registerPlan plan =>
      obtain ⟨written, writes, after⟩ := settle_of_map_eq_ok succeeds
      cases target
      exact (congrArg (Tree.node? · _) after).trans (ofWrite writes)
  | apply planName instanceName deployment =>
      obtain ⟨written, writes, after⟩ := settle_of_map_eq_ok succeeds
      cases target
      exact (congrArg (Tree.node? · _) after).trans (ofWrite writes)
  | destroy planName instanceName =>
      obtain ⟨removed, removes, after⟩ := settle_of_map_eq_ok succeeds
      cases target
      have gone := hasDirectory.remove_eq_ok removes
        (variablesPath planName instanceName)
      exact (congrArg (Tree.node? · _) after).trans
        (gone.trans (if_pos rfl))
  | read planName instanceName => cases target
  | instances planName => cases target

/-- Every node is the one from before, or a call may do this to it. -/
theorem perform_changes
    (call : EngineCall)
    (tree : Tree)
    {path : Path}
    (differs :
      (perform call ⟨tree⟩).2.tree.node? path ≠ tree.node? path) :
    Change call tree (perform call ⟨tree⟩).2.tree path := by
  have run := perform_run call ⟨tree⟩
  generalize perform call ⟨tree⟩ = ended at run differs ⊢
  cases run with
  | refused found => exact absurd rfl differs
  | missed safe misses => exact absurd rfl differs
  | @obstructed error opened safe opens =>
      have nodes := node?_openPlan ⟨tree⟩ call.planName path
      rw [opens] at nodes
      obtain ⟨here, absent, isNew⟩ := nodes.resolve_left differs
      exact .made here absent isNew
  | @stepped opened safe finds opens =>
      have nodes := node?_openPlan ⟨tree⟩ call.planName path
      rw [opens] at nodes
      rcases node?_step call opened path with same | ⟨target, content⟩
      · rw [same] at differs
        obtain ⟨here, absent, isNew⟩ := nodes.resolve_left differs
        exact .made here absent (same.trans isNew)
      · exact .changed target content

/-- The file that a call is about has its content once the call succeeds. -/
theorem perform_writes
    {call : EngineCall}
    {tree : Tree}
    {shown : Shown}
    (succeeds : (perform call ⟨tree⟩).1 = .ok shown)
    {path : Path}
    (target : call.target? = some path) :
    (perform call ⟨tree⟩).2.tree.node? path = call.content? := by
  have run := perform_run call ⟨tree⟩
  generalize perform call ⟨tree⟩ = ended at run succeeds ⊢
  cases run with
  | refused found => cases succeeds
  | missed safe misses => cases succeeds
  | obstructed safe opens => cases succeeds
  | stepped safe finds opens =>
      have made := (openPlan_eq_ok opens).2
      exact step_writes (Tree.hasDirectory_of_makeDirectory made) succeeds
        target

/-! ## The law -/

/-- A plan without a file is missed. -/
theorem misses_of_absent
    {tree : Tree}
    {planName : String}
    (absent : tree.node? (planPath planName) = none)
    (instanceName : String)
    (deployment : DeploymentVariables) :
    misses ⟨tree⟩ (.apply planName instanceName deployment) = true := by
  cases found : tree.find (planPath planName) with
  | error error => simp [misses, hasPlan, found]
  | ok node =>
      rw [Tree.node?_of_find found] at absent
      cases absent

/-- Of an application with safe names nothing happens if its plan is missing. -/
theorem perform_of_absent
    {tree : Tree}
    {planName instanceName : String}
    (planSafe : isSafeName planName = true)
    (instanceSafe : isSafeName instanceName = true)
    (absent : tree.node? (planPath planName) = none)
    (deployment : DeploymentVariables) :
    perform (.apply planName instanceName deployment) ⟨tree⟩ =
      (.error (.fault ⟨.planNotRegistered, [planName]⟩), ⟨tree⟩) := by
  have safe :
      ∀ check ∈ (EngineCall.apply planName instanceName deployment).checks,
        isSafeName check.2 = true := by
    simp [EngineCall.checks, planSafe, instanceSafe]
  rw [perform_of_safe safe, if_pos (misses_of_absent absent _ _)]
  rfl

/--
What holds of every call of a directory engine, whatever its tree is. Unsafe
names, and they alone, are refused, and the first of them is reported; neither
that nor a missing plan changes the tree. Other calls change nothing but the
directory of the plan, which may appear, and the one file that they are about.
Within that directory a call does what it does if nothing else is there, and
what is beyond stays as it is.
-/
structure ConfinementLaw (call : EngineCall) (tree : Tree) : Prop where
  refused :
    Refuses (perform call ⟨tree⟩).1 ↔
      ∃ check ∈ call.checks, isSafeName check.2 = false
  untouched :
    Refuses (perform call ⟨tree⟩).1 →
    (perform call ⟨tree⟩).2.tree = tree
  reported :
    ∀ check,
      firstUnsafe? call.checks = some check →
      perform call ⟨tree⟩ = (.error (refusal check), ⟨tree⟩)
  missed :
    ∀ planName instanceName deployment,
      call = .apply planName instanceName deployment →
      isSafeName planName = true →
      isSafeName instanceName = true →
      tree.node? (planPath planName) = none →
      perform call ⟨tree⟩ =
        (.error (.fault ⟨.planNotRegistered, [planName]⟩), ⟨tree⟩)
  unregistered :
    ∀ arguments,
      (perform call ⟨tree⟩).1 =
        .error (.fault ⟨.planNotRegistered, arguments⟩) →
      (perform call ⟨tree⟩).2.tree = tree
  changes :
    ∀ path,
      (perform call ⟨tree⟩).2.tree.node? path ≠ tree.node? path →
      Change call tree (perform call ⟨tree⟩).2.tree path
  writes :
    ∀ shown path,
      (perform call ⟨tree⟩).1 = .ok shown →
      call.target? = some path →
      (perform call ⟨tree⟩).2.tree.node? path = call.content?
  plans :
    (∀ plan, call ≠ .registerPlan plan) →
    ∀ planName,
      (perform call ⟨tree⟩).2.tree.node? (planPath planName) =
        tree.node? (planPath planName)
  deployments :
    ∀ planName instanceName,
      (∀ deployment, call ≠ .apply planName instanceName deployment) →
      call ≠ .destroy planName instanceName →
      (perform call ⟨tree⟩).2.tree.node?
          (variablesPath planName instanceName) =
        tree.node? (variablesPath planName instanceName)
  within :
    perform call ⟨tree.within call.planName⟩ =
      ((perform call ⟨tree⟩).1,
        ⟨(perform call ⟨tree⟩).2.tree.within call.planName⟩)
  beyond :
    (perform call ⟨tree⟩).2.tree.beyond call.planName =
      tree.beyond call.planName

/-- A file that a call is not about is left as it is. -/
theorem node?_perform_file
    {call : EngineCall}
    (tree : Tree)
    {directory file : String}
    (apart : call.target? ≠ some [directory, file]) :
    (perform call ⟨tree⟩).2.tree.node? [directory, file] =
      tree.node? [directory, file] := by
  by_contra differs
  cases perform_changes call tree differs with
  | made here absent isNew => simp at here
  | changed target content => exact apart target

/-- Only a registration writes the file of a plan. -/
theorem target?_ne_planPath
    {call : EngineCall}
    (notRegistering : ∀ plan, call ≠ .registerPlan plan)
    (planName : String) :
    call.target? ≠ some (planPath planName) := by
  intro target
  cases call with
  | registerPlan plan => exact notRegistering plan rfl
  | apply otherPlan otherName deployment =>
      exact planPath_ne_variablesPath planName otherPlan otherName
        (Option.some.inj target).symm
  | destroy otherPlan otherName =>
      exact planPath_ne_variablesPath planName otherPlan otherName
        (Option.some.inj target).symm
  | read otherPlan otherName => cases target
  | instances otherPlan => cases target

/-- Only applying and destroying touch the file of an instance. -/
theorem target?_ne_variablesPath
    {call : EngineCall}
    {planName instanceName : String}
    (notApplying :
      ∀ deployment, call ≠ .apply planName instanceName deployment)
    (notDestroying : call ≠ .destroy planName instanceName) :
    call.target? ≠ some (variablesPath planName instanceName) := by
  intro target
  cases call with
  | registerPlan plan =>
      exact planPath_ne_variablesPath plan.name planName instanceName
        (Option.some.inj target)
  | apply otherPlan otherName deployment =>
      obtain ⟨rfl, rfl⟩ := variablesPath_inj.1 (Option.some.inj target)
      exact notApplying deployment rfl
  | destroy otherPlan otherName =>
      obtain ⟨rfl, rfl⟩ := variablesPath_inj.1 (Option.some.inj target)
      exact notDestroying rfl
  | read otherPlan otherName => cases target
  | instances otherPlan => cases target

/--
Every call of a directory engine keeps the law of confinement, and the files
that it may write are different ones for different plans and instances.
-/
theorem confinementLaw :
    FilesApart ∧ ∀ call tree, ConfinementLaw call tree := by
  refine ⟨filesApart, fun call tree => ?_⟩
  have unchanged := unchanged_or_faultless call ⟨tree⟩
  refine
    { refused := refuses_perform_iff call ⟨tree⟩
      untouched := ?untouched
      reported := fun check found => perform_of_found found ⟨tree⟩
      missed := ?missed
      unregistered := ?unregistered
      changes := fun path differs => perform_changes call tree differs
      writes := fun shown path succeeds target =>
        perform_writes succeeds target
      plans := fun notRegistering planName =>
        node?_perform_file tree (target?_ne_planPath notRegistering planName)
      deployments := fun planName instanceName notApplying notDestroying =>
        node?_perform_file tree
          (target?_ne_variablesPath notApplying notDestroying)
      within := (perform_confined call).within ⟨tree⟩
      beyond := (perform_confined call).beyond ⟨tree⟩ }
  case untouched =>
    intro refuses
    rw [unchanged.resolve_right refuses.not_faultless]
  case missed =>
    rintro planName instanceName deployment rfl planSafe instanceSafe absent
    exact perform_of_absent planSafe instanceSafe absent deployment
  case unregistered =>
    intro arguments answered
    rw [unchanged.resolve_right fun faultless => faultless _ answered]

end DirectoryEngine

end StorageBackends
