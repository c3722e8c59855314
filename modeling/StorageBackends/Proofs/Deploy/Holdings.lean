import StorageBackends.Proofs.Deploy.Tree
import StorageBackends.Proofs.Lifecycle.Invariant

namespace StorageBackends

/-!
# What engines hold

What an engine holds is told by target: a recording engine holds the value of
a plan or of variables, and a directory engine the text of its file. An engine
that serves a plan takes every instance of it whose name is sound; applying
the instance or destroying it then succeeds, and changes what is held at the
variables of that instance only.
-/

/-- A safe name is made of lower-case letters, digits and hyphens. -/
theorem isSafeName_iff (name : String) :
    isSafeName name = true ↔
      name.toList.head?.any Text.isLowerOrDigit = true ∧
        ∀ c ∈ name.toList, Text.isLowerOrDigit c = true ∨ c = '-' := by
  unfold isSafeName
  cases name.toList with
  | nil => simp
  | cons first rest =>
      simp only [Bool.and_eq_true, List.all_eq_true, Bool.or_eq_true,
        beq_iff_eq, List.head?_cons, Option.any_some, List.forall_mem_cons]
      constructor
      · rintro ⟨lead, others⟩
        exact ⟨lead, .inl lead, others⟩
      · rintro ⟨lead, -, others⟩
        exact ⟨lead, others⟩

/-- A safe name leads to no other directory. -/
theorem slash_not_mem_of_isSafeName
    {name : String}
    (safe : isSafeName name = true) :
    '/' ∉ name.toList := by
  intro listed
  rcases ((isSafeName_iff name).1 safe).2 '/' listed with inClass | hyphen
  · exact absurd inClass (by decide)
  · exact absurd hyphen (by decide)

/-- Instance names are safe. -/
theorem isSafeName_of_isInstanceName
    {name : String}
    (valid : isInstanceName name = true) :
    isSafeName name = true := by
  unfold isInstanceName at valid
  unfold isSafeName
  cases spelled : name.toList with
  | nil => simp [spelled] at valid
  | cons first rest =>
      simp only [spelled, Bool.and_eq_true] at valid ⊢
      exact ⟨by simp [Text.isLowerOrDigit, valid.1.1.1], valid.1.1.2⟩

/-- The plan names of sound types are safe. -/
theorem Backend.isSafeName_planName
    {backend : Backend}
    (sound : isBackendType backend.backendType = true) :
    isSafeName backend.planName = true := by
  have spelled :
      backend.planName = "storage-backend-" ++ backend.backendType := rfl
  refine (isSafeName_iff backend.planName).2 ⟨?_, ?_⟩
  · rw [spelled, String.toList_append]
    rfl
  · rw [spelled, String.toList_append]
    intro c listed
    rcases List.mem_append.1 listed with inLead | inType
    · have lead : isSafeName "storage-backend-" = true := by decide
      exact ((isSafeName_iff _).1 lead).2 c inLead
    · exact .inl (isLowerOrDigit_of_isBackendType sound inType)

/-- Characters of safe names take one byte each. -/
theorem utf8Size_of_isSafe
    {c : Char}
    (safe : Text.isLowerOrDigit c = true ∨ c = '-') :
    c.utf8Size = 1 := by
  rcases safe with inClass | rfl
  · simp only [Text.isLowerOrDigit, Text.isLower, Text.isDigit,
      Bool.or_eq_true, Bool.and_eq_true, decide_eq_true_eq] at inClass
    have ascii : c ≤ 'z' := by
      rcases inClass with ⟨-, upper⟩ | ⟨-, upper⟩
      · exact upper
      · exact Char.le_trans upper (by decide)
    rw [Char.utf8Size_eq_one_iff]
    exact UInt32.le_trans ascii (by decide)
  · rfl

/-- A safe name has as many bytes as characters. -/
theorem utf8ByteSize_ofList
    {characters : List Char}
    (safe :
      ∀ c ∈ characters, Text.isLowerOrDigit c = true ∨ c = '-') :
    (String.ofList characters).utf8ByteSize = characters.length := by
  induction characters with
  | nil => rfl
  | cons first rest inductionHypothesis =>
      obtain ⟨lead, others⟩ := List.forall_mem_cons.1 safe
      rw [← List.singleton_append, String.ofList_append,
        String.utf8ByteSize_append, inductionHypothesis others]
      have size : (String.ofList [first]).utf8ByteSize = first.utf8Size :=
        String.utf8ByteSize_singleton
      rw [size, utf8Size_of_isSafe lead]
      simp
      omega

/-- An instance name that the service accepts is short. -/
theorem length_le_of_isInstanceName
    {name : String}
    (valid : isInstanceName name = true) :
    name.toList.length ≤ maxInstanceName := by
  unfold isInstanceName at valid
  cases spelled : name.toList with
  | nil => simp
  | cons first rest =>
      simp only [spelled, Bool.and_eq_true, decide_eq_true_eq] at valid
      exact valid.1.2

/-- The file of a sound instance name has no overlong name. -/
theorem endsTooLong_variablesPath
    (planName : String)
    {instanceName : String}
    (valid : isInstanceName instanceName = true) :
    Tree.endsTooLong
      (DirectoryEngine.variablesPath planName instanceName) = false := by
  have safe :=
    ((isSafeName_iff instanceName).1 (isSafeName_of_isInstanceName valid)).2
  have size : instanceName.utf8ByteSize = instanceName.toList.length := by
    rw [← utf8ByteSize_ofList safe, String.ofList_toList]
  have length := length_le_of_isInstanceName valid
  have ending : DirectoryEngine.variablesEnding.utf8ByteSize = 12 := rfl
  have fits :
      ¬Tree.maxName <
        (instanceName ++ DirectoryEngine.variablesEnding).utf8ByteSize := by
    rw [String.utf8ByteSize_append, size, ending]
    unfold maxInstanceName at length
    unfold Tree.maxName
    omega
  exact decide_eq_false fits

namespace MemoryEngine

/-- The joint key of names without slashes is the key of no other names. -/
theorem jointKey_eq_iff
    {planName instanceName : String}
    (planSlashless : '/' ∉ planName.toList)
    (nameSlashless : '/' ∉ instanceName.toList)
    (otherPlan otherName : String) :
    jointKey otherPlan otherName = jointKey planName instanceName ↔
      otherPlan = planName ∧ otherName = instanceName := by
  have spelled : ∀ plan name : String,
      (jointKey plan name).toList = plan.toList ++ '/' :: name.toList := by
    intro plan name
    have slash : "/".toList = ['/'] := rfl
    simp only [jointKey, String.toList_append, slash, List.append_assoc,
      List.singleton_append]
  constructor
  · intro same
    have sameCharacters :
        otherPlan.toList ++ '/' :: otherName.toList =
          planName.toList ++ '/' :: instanceName.toList := by
      rw [← spelled, ← spelled, same]
    -- Both sides hold one slash, so the other plan name holds none.
    have slashes := congrArg (List.count '/') sameCharacters
    simp only [List.count_append, List.count_cons_self,
      List.count_eq_zero_of_not_mem planSlashless,
      List.count_eq_zero_of_not_mem nameSlashless] at slashes
    have otherSlashless : '/' ∉ otherPlan.toList :=
      List.count_eq_zero.1 (by omega)
    rw [append_cons_inj_of_not_mem otherSlashless planSlashless,
      String.toList_inj, String.toList_inj] at sameCharacters
    exact sameCharacters
  · rintro ⟨rfl, rfl⟩
    rfl

end MemoryEngine

namespace DirectoryEngine

/-- Two instances have one file only if they are the same. -/
theorem variablesPath_inj
    {planName instanceName otherPlan otherName : String} :
    variablesPath otherPlan otherName = variablesPath planName instanceName ↔
      otherPlan = planName ∧ otherName = instanceName := by
  simp [variablesPath, String.append_left_inj]

/-- Two plans have one file only if they are the same. -/
theorem planPath_inj {planName otherPlan : String} :
    planPath otherPlan = planPath planName ↔ otherPlan = planName := by
  simp [planPath]

/-- The file of a plan is no file of variables. -/
theorem planPath_ne_variablesPath
    (otherPlan planName instanceName : String) :
    planPath otherPlan ≠ variablesPath planName instanceName := by
  intro same
  have sameFile : planFile = instanceName ++ variablesEnding := by
    simpa using (List.cons.inj same).2
  have sizes := congrArg String.length sameFile
  rw [String.length_append] at sizes
  have planSize : planFile.length = 9 := rfl
  have endingSize : variablesEnding.length = 12 := rfl
  omega

/-- The file of a plan has a name that fits. -/
theorem endsTooLong_planPath (planName : String) :
    Tree.endsTooLong (planPath planName) = false := by
  have short : decide (Tree.maxName < planFile.utf8ByteSize) = false := by
    decide
  exact short

/-- What opening a plan does if it succeeds. -/
theorem openPlan_eq_ok
    {engine opened : DirectoryEngine}
    {planName : String}
    (succeeds : engine.openPlan planName = (.ok (), opened)) :
    isSafeName planName = true ∧
      engine.tree.makeDirectory [planName] = (.ok (), opened.tree) := by
  unfold openPlan checkName at succeeds
  cases safe : isSafeName planName with
  | false => simp [safe] at succeeds
  | true =>
      simp only [safe, if_true] at succeeds
      split at succeeds
      · rename_i tree made
        cases succeeds
        exact ⟨rfl, made⟩
      · cases succeeds

/-- A plan is registered by making its directory and writing its file. -/
theorem registerPlan_eq_ok
    {engine next : DirectoryEngine}
    {planName : String}
    {plan : Json}
    (clear : engine.tree.Clear)
    (registered : engine.registerPlan planName plan = (.ok (), next)) :
    ∃ made,
      engine.tree.makeDirectory [planName] = (.ok (), made) ∧
        next = ⟨made.set (planPath planName) (.file (Json.fileText plan))⟩ := by
  unfold registerPlan at registered
  split at registered
  · cases registered
  · rename_i opened opens
    obtain ⟨-, made⟩ := openPlan_eq_ok opens
    have written :=
      (Tree.hasDirectory_of_makeDirectory made).write
        (clear.makeDirectory made) (endsTooLong_planPath planName)
        (Json.fileText plan)
    unfold planPath at registered ⊢
    rw [written] at registered
    cases registered
    exact ⟨opened.tree, made, rfl⟩

end DirectoryEngine

/-- What is held at a target. -/
inductive Holding where
  | value (value : Json)
  | file (text : String)
  | secret (secret : StoredSecret)

namespace Engine

/-- What an engine holds at a target. -/
def held? : Engine → Target → Option Holding
  | memory engine, .plan planName => (engine.plan? planName).map .value
  | memory engine, .deployment planName instanceName =>
      (engine.variables? planName instanceName).map .value
  | directory engine, .plan planName =>
      (engine.tree.file? (DirectoryEngine.planPath planName)).map .file
  | directory engine, .deployment planName instanceName =>
      (engine.tree.file?
        (DirectoryEngine.variablesPath planName instanceName)).map .file
  | _, .secret _ => none

/-- Nothing stands in the way of the files of an engine. -/
def Clear : Engine → Prop
  | memory _ => True
  | directory engine => engine.tree.Clear

/-- An engine knows a plan, and has its directory and its file if it keeps any. -/
def Serves (planName : String) : Engine → Prop
  | memory engine => Record.contains planName engine.plans = true
  | directory engine =>
      engine.tree.HasDirectory planName ∧
        (engine.tree.file? (DirectoryEngine.planPath planName)).isSome

/-- The names of an instance are sound, and so is the name of its file. -/
structure Accepts (planName instanceName : String) : Prop where
  plan : isSafeName planName = true
  inst : isSafeName instanceName = true
  short :
    Tree.endsTooLong (DirectoryEngine.variablesPath planName instanceName) =
      false

/-- Engines take the sound instance names of backends of sound types. -/
theorem accepts_of_isInstanceName
    {backend : Backend}
    (sound : isBackendType backend.backendType = true)
    {instanceName : String}
    (valid : isInstanceName instanceName = true) :
    Accepts backend.planName instanceName where
  plan := backend.isSafeName_planName sound
  inst := isSafeName_of_isInstanceName valid
  short := endsTooLong_variablesPath backend.planName valid

namespace Accepts

variable {planName instanceName : String}

theorem checkPlan (accepts : Accepts planName instanceName) :
    DirectoryEngine.checkName .ofPlan planName = .ok () :=
  if_pos accepts.plan

theorem checkInstance (accepts : Accepts planName instanceName) :
    DirectoryEngine.checkName .ofInstance instanceName = .ok () :=
  if_pos accepts.inst

end Accepts

/-- A plan that is served is found by its file. -/
theorem Serves.hasPlan
    {engine : DirectoryEngine}
    {planName : String}
    (serves : (directory engine).Serves planName) :
    engine.hasPlan planName = true := by
  obtain ⟨opened, file⟩ := serves
  obtain ⟨text, read⟩ := Option.isSome_iff_exists.1 file
  have found :
      engine.tree.find (DirectoryEngine.planPath planName) =
        .ok (.file text) := by
    have here := Tree.file?_eq_some_iff.1 read
    unfold DirectoryEngine.planPath at here ⊢
    rw [opened.find (DirectoryEngine.endsTooLong_planPath planName), here]
  simp only [DirectoryEngine.hasPlan, found]

/--
An engine serves the plans of another one, and holds the same at the targets
of some class.
-/
structure Keeps
    (spared : Target → Prop)
    (engine next : Engine) : Prop where
  clear : engine.Clear → next.Clear
  serves : ∀ planName, engine.Serves planName → next.Serves planName
  held : ∀ target, spared target → next.held? target = engine.held? target

theorem Keeps.refl (spared : Target → Prop) (engine : Engine) :
    Keeps spared engine engine :=
  ⟨id, fun _ served => served, fun _ _ => rfl⟩

/-- What keeps more keeps less. -/
theorem Keeps.mono
    {spared fewer : Target → Prop}
    {engine next : Engine}
    (keeps : Keeps spared engine next)
    (included : ∀ target, fewer target → spared target) :
    Keeps fewer engine next :=
  ⟨keeps.clear, keeps.serves,
    fun target isSpared => keeps.held target (included target isSpared)⟩

/-- A tree that still has its directories, its plans and spared variables. -/
private theorem keeps_of_nodes
    {spared : Target → Prop}
    {tree after : Tree}
    (clear : tree.Clear → after.Clear)
    (directories :
      ∀ path,
        tree.node? path = some .directory →
        after.node? path = some .directory)
    (plans :
      ∀ planName,
        after.node? (DirectoryEngine.planPath planName) =
          tree.node? (DirectoryEngine.planPath planName))
    (applied :
      ∀ planName instanceName,
        spared (.deployment planName instanceName) →
        after.node? (DirectoryEngine.variablesPath planName instanceName) =
          tree.node?
            (DirectoryEngine.variablesPath planName instanceName)) :
    Keeps spared (directory ⟨tree⟩) (directory ⟨after⟩) where
  clear := clear
  serves := by
    rintro planName ⟨opened, file⟩
    refine ⟨⟨directories _ opened.root, directories _ opened.inner⟩, ?_⟩
    rw [Tree.file?_congr (plans planName)]
    exact file
  held := by
    intro target isSpared
    cases target with
    | secret name => rfl
    | plan planName =>
        simp only [held?, Tree.file?_congr (plans planName)]
    | deployment planName instanceName =>
        simp only [held?,
          Tree.file?_congr (applied planName instanceName isSpared)]

/-- A tree of which the variables of one instance were changed. -/
private theorem keeps_of_variables
    {tree after : Tree}
    (flat : tree.Clear)
    (clear : after.Clear)
    {planName instanceName : String}
    (nodes :
      ∀ path,
        path ≠ DirectoryEngine.variablesPath planName instanceName →
        after.node? path = tree.node? path) :
    Keeps (· ≠ .deployment planName instanceName)
      (directory ⟨tree⟩) (directory ⟨after⟩) := by
  refine keeps_of_nodes (fun _ => clear) ?_ ?_ ?_
  · intro path isDirectory
    refine (nodes path ?_).trans isDirectory
    rintro rfl
    exact flat.flat planName _ isDirectory
  · intro other
    exact nodes _
      (DirectoryEngine.planPath_ne_variablesPath other planName instanceName)
  · intro otherPlan otherName spared
    refine nodes _ fun same => ?_
    obtain ⟨rfl, rfl⟩ := DirectoryEngine.variablesPath_inj.1 same
    exact spared rfl

/-- A recording engine of which one joint key was rewritten. -/
theorem keeps_of_records
    {engine next : MemoryEngine}
    {planName instanceName : String}
    (accepts : Accepts planName instanceName)
    (plans : next.plans = engine.plans)
    (records :
      ∀ otherPlan otherName,
        MemoryEngine.jointKey otherPlan otherName ≠
            MemoryEngine.jointKey planName instanceName →
        next.variables? otherPlan otherName =
          engine.variables? otherPlan otherName) :
    Keeps (· ≠ .deployment planName instanceName)
      (memory engine) (memory next) where
  clear := id
  serves := by
    intro other served
    simpa only [Serves, plans] using served
  held := by
    intro target spared
    cases target with
    | secret name => rfl
    | plan other => simp only [held?, MemoryEngine.plan?, plans]
    | deployment otherPlan otherName =>
        have apart :
            MemoryEngine.jointKey otherPlan otherName ≠
              MemoryEngine.jointKey planName instanceName := by
          intro same
          obtain ⟨rfl, rfl⟩ :=
            (MemoryEngine.jointKey_eq_iff
              (slash_not_mem_of_isSafeName accepts.plan)
              (slash_not_mem_of_isSafeName accepts.inst) _ _).1 same
          exact spared rfl
        simp only [held?, records _ _ apart]

/-- Applying an instance of a served plan succeeds. -/
theorem apply_of_serves
    {engine : Engine}
    {planName instanceName : String}
    (accepts : Accepts planName instanceName)
    (clear : engine.Clear)
    (serves : engine.Serves planName)
    (deployment : Json) :
    ∃ next,
      engine.apply planName instanceName deployment = (.ok (), next) ∧
        engine.Keeps (· ≠ .deployment planName instanceName) next := by
  cases engine with
  | memory engine =>
      have registered : Record.contains planName engine.plans = true := serves
      refine ⟨memory (engine.apply planName instanceName deployment).2,
        ?_, ?_⟩
      · simp [apply, MemoryEngine.apply, registered]
      · refine keeps_of_records accepts ?_ ?_
        · simp [MemoryEngine.apply, registered]
        · intro otherPlan otherName apart
          simp [MemoryEngine.variables?_apply, apart]
  | directory engine =>
      have registered := Serves.hasPlan serves
      obtain ⟨opened, -⟩ := serves
      refine ⟨directory ⟨engine.tree.set
        (DirectoryEngine.variablesPath planName instanceName)
        (.file (Json.fileText deployment))⟩, ?_, ?_⟩
      · have written :=
          opened.write clear accepts.short (Json.fileText deployment)
        simp only [apply, DirectoryEngine.apply, accepts.checkPlan,
          accepts.checkInstance, registered, if_true,
          DirectoryEngine.openInstance_of_hasPlan accepts.checkPlan
            accepts.checkInstance registered, DirectoryEngine.variablesPath,
          written, DirectoryEngine.settle]
      · refine keeps_of_variables clear
          (Tree.Clear.set_file clear accepts.short _) ?_
        intro path apart
        rw [Tree.node?_set, if_neg apart]

/-- Destroying an instance of a served plan succeeds. -/
theorem destroy_of_serves
    {engine : Engine}
    {planName instanceName : String}
    (accepts : Accepts planName instanceName)
    (clear : engine.Clear)
    (serves : engine.Serves planName) :
    ∃ next,
      engine.destroy planName instanceName = (.ok (), next) ∧
        engine.Keeps (· ≠ .deployment planName instanceName) next ∧
        next.held? (.deployment planName instanceName) = none := by
  cases engine with
  | memory engine =>
      refine ⟨_, rfl, keeps_of_records accepts rfl ?_, ?_⟩
      · intro otherPlan otherName apart
        rw [MemoryEngine.variables?_destroy, if_neg apart]
      · simp only [held?, MemoryEngine.variables?_destroy, if_true,
          Option.map_none]
  | directory engine =>
      obtain ⟨opened, -⟩ := serves
      obtain ⟨removed, gone, shape, nodes⟩ :=
        opened.remove clear accepts.short
      refine ⟨directory ⟨removed⟩, ?_, ?_, ?_⟩
      · simp only [destroy, DirectoryEngine.destroy,
          DirectoryEngine.openInstance, accepts.checkInstance,
          DirectoryEngine.openPlan, accepts.checkPlan, opened.makeDirectory,
          DirectoryEngine.variablesPath, gone, DirectoryEngine.settle]
      · refine keeps_of_variables clear ?_ ?_
        · rcases shape with rfl | rfl
          · exact clear
          · exact Tree.Clear.erase clear _
        · intro path apart
          exact (nodes path).trans (if_neg apart)
      · have absent :
            removed.node?
                (DirectoryEngine.variablesPath planName instanceName) =
              none :=
          (nodes _).trans (if_pos rfl)
        simp only [held?, Tree.file?, absent, Option.map_none]

/-- A plan that was registered is served from then on, beside the others. -/
theorem registerPlan_eq_ok
    {engine next : Engine}
    {planName : String}
    {plan : Json}
    (clear : engine.Clear)
    (registered : engine.registerPlan planName plan = (.ok (), next)) :
    next.Clear ∧
      next.Serves planName ∧
      ∀ other, engine.Serves other → next.Serves other := by
  cases engine with
  | memory engine =>
      cases registered
      have found := Record.contains_insert_iff planName plan engine.plans
      exact ⟨clear, (found planName).2 (.inl rfl),
        fun other served => (found other).2 (.inr served)⟩
  | directory engine =>
      rcases written : engine.registerPlan planName plan with ⟨result, after⟩
      simp only [registerPlan, written] at registered
      obtain ⟨rfl, rfl⟩ := Prod.mk.inj registered
      obtain ⟨made, succeeds, after_eq⟩ :=
        DirectoryEngine.registerPlan_eq_ok clear written
      obtain ⟨-, nodes⟩ := Tree.makeDirectory_eq_ok succeeds
      have opened := Tree.hasDirectory_of_makeDirectory succeeds
      cases after_eq
      have short := DirectoryEngine.endsTooLong_planPath planName
      have kept :
          ∀ path,
            path ≠ DirectoryEngine.planPath planName →
            (made.set (DirectoryEngine.planPath planName)
                (.file (Json.fileText plan))).node? path =
              made.node? path := by
        intro path apart
        rw [Tree.node?_set, if_neg apart]
      refine ⟨(Tree.Clear.makeDirectory clear succeeds).set_file short _,
        ⟨⟨?_, ?_⟩, ?_⟩, ?_⟩
      · rw [kept [] (by simp [DirectoryEngine.planPath])]
        exact opened.root
      · rw [kept [planName] (by simp [DirectoryEngine.planPath])]
        exact opened.inner
      · simp [Tree.file?_set]
      · rintro other ⟨otherOpened, otherFile⟩
        refine ⟨⟨?_, ?_⟩, ?_⟩
        · rw [kept [] (by simp [DirectoryEngine.planPath])]
          exact opened.root
        · rw [kept [other] (by simp [DirectoryEngine.planPath]), nodes]
          split
          · rfl
          · exact otherOpened.inner
        · rw [Tree.file?_set]
          split
          · rfl
          · rw [Tree.file?_congr
              ((nodes _).trans (if_neg (by simp [DirectoryEngine.planPath])))]
            exact otherFile

/-- A check changes nothing but whether the root is there. -/
theorem healthy_keeps (engine : Engine) :
    engine.Keeps (fun _ => True) engine.healthy.2 := by
  cases engine with
  | memory engine => exact Keeps.refl _ _
  | directory engine =>
      cases checked : engine.tree.makeHere [] true with
      | error error =>
          have same : (directory engine).healthy.2 = directory engine := by
            simp only [healthy, DirectoryEngine.healthy, Tree.makeDirectory,
              Tree.makeDirectories, checked]
          rw [same]
          exact Keeps.refl _ _
      | ok made =>
          have next : (directory engine).healthy.2 = directory ⟨made⟩ := by
            simp only [healthy, DirectoryEngine.healthy, Tree.makeDirectory,
              Tree.makeDirectories, checked]
          rw [next]
          obtain ⟨-, nodes⟩ := Tree.makeHere_eq_ok checked
          have below :
              ∀ path, path ≠ [] → made.node? path = engine.tree.node? path :=
            fun path apart => (nodes path).trans (if_neg apart)
          refine keeps_of_nodes ?_ ?_ ?_ ?_
          · rintro ⟨short, flat⟩
            refine ⟨fun path there => ?_, fun name file => ?_⟩
            · by_cases root : path = []
              · rw [root]
                rfl
              · exact short path (by rwa [below path root] at there)
            · rw [below _ (by simp)]
              exact flat name file
          · intro path isDirectory
            rw [nodes]
            split
            · rfl
            · exact isDirectory
          · exact fun planName =>
              below _ (by simp [DirectoryEngine.planPath])
          · exact fun planName instanceName _ =>
              below _ (by simp [DirectoryEngine.variablesPath])

end Engine

end StorageBackends
