import StorageBackends.Proofs.Deploy.Tidy
import StorageBackends.Proofs.Deploy.VariablesFile

namespace StorageBackends

/-!
# Files that mirror records

The files of a directory engine mirror what a recording engine holds if a plan
is recorded exactly when its file is there, and variables are recorded exactly
as their file spells them. Each call that the file system takes keeps this, and
is answered by both engines alike: directories that appear as a side effect of
looking make no difference, and variables come out of their text as they were.
-/

/-- A call of a deployment engine. -/
inductive EngineCall where
  | registerPlan (plan : DeploymentPlan)
  | apply
      (planName instanceName : String)
      (deployment : DeploymentVariables)
  | destroy (planName instanceName : String)
  | read (planName instanceName : String)
  | instances (planName : String)

namespace EngineCall

/-- The names in a call are safe, and its variables can be stored. -/
def Sound : EngineCall → Prop
  | registerPlan plan => isSafeName plan.name = true
  | apply planName instanceName deployment =>
      isSafeName planName = true ∧
        isSafeName instanceName = true ∧ deployment.Storable
  | destroy planName instanceName =>
      isSafeName planName = true ∧ isSafeName instanceName = true
  | read planName instanceName =>
      isSafeName planName = true ∧ isSafeName instanceName = true
  | instances planName => isSafeName planName = true

/-- The file system takes the names that a call makes of its names. -/
def Fits : EngineCall → Prop
  | registerPlan plan => Tree.endsTooLong [plan.name] = false
  | apply planName instanceName _ =>
      Tree.endsTooLong (DirectoryEngine.variablesPath planName instanceName) =
        false
  | destroy planName instanceName =>
      Tree.endsTooLong [planName] = false ∧
        Tree.endsTooLong
          (DirectoryEngine.variablesPath planName instanceName) = false
  | read planName _ => Tree.endsTooLong [planName] = false
  | instances planName => Tree.endsTooLong [planName] = false

/-- The answer of a recording engine to a call; looking changes nothing. -/
def onMemory (engine : MemoryEngine) :
    EngineCall → Except Failure Unit × MemoryEngine
  | registerPlan plan =>
      (.ok (), engine.registerPlan plan.name plan.toJson)
  | apply planName instanceName deployment =>
      engine.apply planName instanceName deployment.toJson
  | destroy planName instanceName =>
      (.ok (), engine.destroy planName instanceName)
  | read _ _ => (.ok (), engine)
  | instances _ => (.ok (), engine)

/-- The answer of a directory engine to a call, without what it shows. -/
def onFiles (engine : DirectoryEngine) :
    EngineCall → Except Failure Unit × DirectoryEngine
  | registerPlan plan => engine.registerPlan plan.name plan.toJson
  | apply planName instanceName deployment =>
      engine.apply planName instanceName deployment.toJson
  | destroy planName instanceName => engine.destroy planName instanceName
  | read planName instanceName =>
      match engine.read planName instanceName with
      | (answer, next) => (answer.map fun _ => (), next)
  | instances planName =>
      match engine.instances planName with
      | (answer, next) => (answer.map fun _ => (), next)

end EngineCall

/-- Two answers that agree: both succeed, or both miss the same plan. -/
inductive AnsweredAlike :
    Except Failure Unit → Except Failure Unit → Prop
  | succeeded : AnsweredAlike (.ok ()) (.ok ())
  | notRegistered (planName : String) :
      AnsweredAlike
        (.error (.fault ⟨.planNotRegistered, [planName]⟩))
        (.error (.fault ⟨.planNotRegistered, [planName]⟩))

/-- Engines that answer alike meet no failure of storage. -/
theorem AnsweredAlike.unobstructed
    {recorded answer : Except Failure Unit}
    (alike : AnsweredAlike recorded answer) :
    ∀ error, answer ≠ .error (.storage error) := by
  cases alike <;> nofun

/-- What is recorded and what is written: nothing, or the same variables. -/
inductive WrittenAs : Option Json → Option String → Prop
  | absent : WrittenAs none none
  | applied
      {deployment : DeploymentVariables}
      (storable : deployment.Storable) :
      WrittenAs (some deployment.toJson)
        (some (Json.fileText deployment.toJson))

namespace WrittenAs

variable {recorded : Option Json}

/-- Without a file nothing is recorded. -/
theorem eq_none_of_none (written : WrittenAs recorded none) :
    recorded = none := by
  cases written
  rfl

/-- The text of a file is that of the recorded variables. -/
theorem exists_of_some
    {text : String}
    (written : WrittenAs recorded (some text)) :
    ∃ deployment : DeploymentVariables,
      deployment.Storable ∧
        recorded = some deployment.toJson ∧
        text = Json.fileText deployment.toJson := by
  generalize spelled : some text = content at written
  cases written with
  | absent => cases spelled
  | applied storable =>
      exact ⟨_, storable, rfl, Option.some.inj spelled⟩

theorem isSome_eq
    {content : Option String}
    (written : WrittenAs recorded content) :
    recorded.isSome = content.isSome := by
  cases written <;> rfl

end WrittenAs

/-- The files of an engine say what another engine has recorded. -/
structure Mirrors (files : DirectoryEngine) (memory : MemoryEngine) :
    Prop where
  tidy : files.tree.Tidy
  plans :
    ∀ planName,
      (files.tree.file? (DirectoryEngine.planPath planName)).isSome =
        Record.contains planName memory.plans
  deployments :
    ∀ planName instanceName,
      WrittenAs (memory.variables? planName instanceName)
        (files.tree.file?
          (DirectoryEngine.variablesPath planName instanceName))

/-- The ways in which a look at some plan ends. -/
inductive LookRun
    {α : Type}
    (memory : MemoryEngine)
    (planName : String)
    (shown : α) :
    Except Failure α × DirectoryEngine → Prop
  | tooLong
      (next : DirectoryEngine)
      (long : Tree.endsTooLong [planName] = true) :
      LookRun memory planName shown (.error (.storage .nameTooLong), next)
  | shown
      {next : DirectoryEngine}
      (fits : Tree.endsTooLong [planName] = false)
      (mirrors : Mirrors next memory) :
      LookRun memory planName shown (.ok shown, next)

theorem LookRun.answer
    {α : Type}
    {memory : MemoryEngine}
    {planName : String}
    {shown : α}
    {run : Except Failure α × DirectoryEngine}
    (look : LookRun memory planName shown run) :
    run.1 =
      if Tree.endsTooLong [planName] then
        .error (.storage .nameTooLong)
      else
        .ok shown := by
  cases look with
  | tooLong next long => rw [if_pos long]
  | shown fits mirrors => rw [fits, if_neg Bool.false_ne_true]

/-- The ways in which a call ends for both engines. -/
inductive CallRun
    (call : EngineCall)
    (recorded : Except Failure Unit × MemoryEngine) :
    Except Failure Unit × DirectoryEngine → Prop
  | tooLong
      (next : DirectoryEngine)
      (overlong : ¬call.Fits) :
      CallRun call recorded (.error (.storage .nameTooLong), next)
  | alike
      {answer : Except Failure Unit}
      {next : DirectoryEngine}
      (alike : AnsweredAlike recorded.1 answer)
      (mirrors : Mirrors next recorded.2) :
      CallRun call recorded (answer, next)

namespace CallRun

variable
  {call : EngineCall}
  {recorded : Except Failure Unit × MemoryEngine}
  {run : Except Failure Unit × DirectoryEngine}

/-- Without an error of the file system both engines answer alike. -/
theorem of_unobstructed
    (ends : CallRun call recorded run)
    (unobstructed : ∀ error, run.1 ≠ .error (.storage error)) :
    AnsweredAlike recorded.1 run.1 ∧ Mirrors run.2 recorded.2 := by
  cases ends with
  | tooLong next overlong => exact absurd rfl (unobstructed .nameTooLong)
  | alike alike mirrors => exact ⟨alike, mirrors⟩

/-- Nothing obstructs a call whose names fit. -/
theorem of_fits
    (ends : CallRun call recorded run)
    (fits : call.Fits) :
    (∀ error, run.1 ≠ .error (.storage error)) ∧ Mirrors run.2 recorded.2 := by
  cases ends with
  | tooLong next overlong => exact absurd fits overlong
  | alike alike mirrors => exact ⟨alike.unobstructed, mirrors⟩

end CallRun

/-- A look that succeeds changes nothing that matters. -/
theorem LookRun.call
    {α : Type}
    {memory : MemoryEngine}
    {planName : String}
    {shown : α}
    {run : Except Failure α × DirectoryEngine}
    (look : LookRun memory planName shown run)
    {call : EngineCall}
    (fits : call.Fits → Tree.endsTooLong [planName] = false) :
    CallRun call (.ok (), memory) (run.1.map fun _ => (), run.2) := by
  cases look with
  | tooLong next long =>
      refine .tooLong next fun called => ?_
      rw [fits called] at long
      cases long
  | shown fits mirrors => exact .alike .succeeded mirrors

namespace Mirrors

variable
  {files : DirectoryEngine}
  {memory : MemoryEngine}
  {planName instanceName : String}

/-- Directories that were made in passing make no difference. -/
theorem opened
    (mirrors : Mirrors files memory)
    {made : Tree}
    (tidy : made.Tidy)
    (same : ∀ path, made.file? path = files.tree.file? path) :
    Mirrors ⟨made⟩ memory where
  tidy := tidy
  plans := by
    intro planName
    rw [same]
    exact mirrors.plans planName
  deployments := by
    intro planName instanceName
    rw [same]
    exact mirrors.deployments planName instanceName

/-- What reading a file of variables says is what is recorded. -/
theorem read
    (mirrors : Mirrors files memory)
    (safePlan : isSafeName planName = true)
    (safeInstance : isSafeName instanceName = true) :
    ∃ found : Option DeploymentVariables,
      memory.variables? planName instanceName =
          found.map DeploymentVariables.toJson ∧
        LookRun memory planName found (files.read planName instanceName) := by
  have written := mirrors.deployments planName instanceName
  have opening :=
    DirectoryEngine.openInstance_run mirrors.tidy safePlan safeInstance
  unfold DirectoryEngine.read
  generalize files.openInstance planName instanceName = start at opening
  cases opening with
  | tooLong next long =>
      cases content :
          files.tree.file?
            (DirectoryEngine.variablesPath planName instanceName) with
      | none =>
          rw [content] at written
          exact ⟨none, written.eq_none_of_none, .tooLong next long⟩
      | some text =>
          rw [content] at written
          obtain ⟨deployment, -, recorded, -⟩ := written.exists_of_some
          exact ⟨some deployment, recorded, .tooLong next long⟩
  | @opened made fits tidy directory same =>
      have after := mirrors.opened tidy same
      have content :
          (made.read
              (DirectoryEngine.variablesPath planName instanceName)).toOption =
            made.file?
              (DirectoryEngine.variablesPath planName instanceName) :=
        tidy.read directory _
      rw [← same, ← content] at written
      dsimp only
      generalize made.read _ = outcome at written ⊢
      cases outcome with
      | error error =>
          exact ⟨none, written.eq_none_of_none, .shown fits after⟩
      | ok text =>
          obtain ⟨deployment, storable, recorded, rfl⟩ :=
            written.exists_of_some
          refine ⟨some deployment, recorded, ?_⟩
          simp only [DirectoryEngine.variablesOfText_fileText storable]
          exact .shown fits after

/-- What listing the instances of a plan says is what is recorded of them. -/
theorem instances
    (mirrors : Mirrors files memory)
    (safe : isSafeName planName = true) :
    ∃ names,
      Text.Ascending names ∧
        (∀ name,
          name ∈ names ↔
            (memory.variables? planName name).isSome = true) ∧
        LookRun memory planName names (files.instances planName) := by
  have recorded :
      ∀ name,
        (memory.variables? planName name).isSome =
          (files.tree.file?
            (DirectoryEngine.variablesPath planName name)).isSome :=
    fun name => (mirrors.deployments planName name).isSome_eq
  have opening := DirectoryEngine.openPlan_run mirrors.tidy safe
  unfold DirectoryEngine.instances
  generalize files.openPlan planName = start at opening
  cases opening with
  | tooLong next long =>
      refine ⟨DirectoryEngine.listed files.tree planName,
        DirectoryEngine.ascending_listed mirrors.tidy.distinct planName,
        fun name => ?_, .tooLong next long⟩
      rw [DirectoryEngine.mem_listed_iff, recorded]
      exact mirrors.tidy.node?_ne_none_iff _ _
  | @opened made fits tidy directory same =>
      refine ⟨DirectoryEngine.listed made planName,
        DirectoryEngine.ascending_listed tidy.distinct planName,
        fun name => ?_, .shown fits (mirrors.opened tidy same)⟩
      rw [DirectoryEngine.mem_listed_iff, recorded, ← same]
      exact tidy.node?_ne_none_iff _ _

/-- A registered plan is recorded and has its file. -/
theorem registerPlan
    (mirrors : Mirrors files memory)
    {plan : DeploymentPlan}
    (safe : isSafeName plan.name = true) :
    CallRun (.registerPlan plan)
      ((EngineCall.registerPlan plan).onMemory memory)
      (files.registerPlan plan.name plan.toJson) := by
  have opening := DirectoryEngine.openPlan_run mirrors.tidy safe
  unfold DirectoryEngine.registerPlan
  generalize files.openPlan plan.name = start at opening
  cases opening with
  | tooLong next long =>
      refine .tooLong next fun fits => ?_
      rw [EngineCall.Fits, long] at fits
      cases fits
  | @opened made fits tidy directory same =>
      have short := DirectoryEngine.endsTooLong_planPath plan.name
      have written :
          made.write (DirectoryEngine.planPath plan.name)
              (Json.fileText plan.toJson) =
            .ok
              (made.set (DirectoryEngine.planPath plan.name)
                (.file (Json.fileText plan.toJson))) :=
        directory.write tidy.clear short (Json.fileText plan.toJson)
      simp only [written, DirectoryEngine.settle]
      refine .alike .succeeded ⟨tidy.set_file directory short _, ?_, ?_⟩
      · intro other
        rw [Bool.eq_iff_iff, EngineCall.onMemory, MemoryEngine.registerPlan,
          Record.contains_insert_iff, ← mirrors.plans other, Tree.file?_set,
          same]
        by_cases isNew : other = plan.name <;>
          simp [isNew, DirectoryEngine.planPath_inj]
      · intro planName instanceName
        rw [Tree.file?_set, if_neg, same]
        · exact mirrors.deployments planName instanceName
        · exact (DirectoryEngine.planPath_ne_variablesPath plan.name
            planName instanceName).symm

/-- Engines that rewrite the variables of one instance stay alike. -/
private theorem rewritten
    (mirrors : Mirrors files memory)
    (safePlan : isSafeName planName = true)
    (safeInstance : isSafeName instanceName = true)
    {after : Tree}
    {next : MemoryEngine}
    (tidy : after.Tidy)
    (plans : next.plans = memory.plans)
    (untouched :
      ∀ path,
        path ≠ DirectoryEngine.variablesPath planName instanceName →
        after.file? path = files.tree.file? path)
    (unrecorded :
      ∀ otherPlan otherName,
        MemoryEngine.jointKey otherPlan otherName ≠
            MemoryEngine.jointKey planName instanceName →
        next.variables? otherPlan otherName =
          memory.variables? otherPlan otherName)
    (here :
      WrittenAs (next.variables? planName instanceName)
        (after.file?
          (DirectoryEngine.variablesPath planName instanceName))) :
    Mirrors ⟨after⟩ next where
  tidy := tidy
  plans := by
    intro other
    rw [untouched _ (DirectoryEngine.planPath_ne_variablesPath other _ _),
      plans]
    exact mirrors.plans other
  deployments := by
    intro otherPlan otherName
    by_cases same : otherPlan = planName ∧ otherName = instanceName
    · rw [same.1, same.2]
      exact here
    · have otherKey :
          MemoryEngine.jointKey otherPlan otherName ≠
            MemoryEngine.jointKey planName instanceName := by
        rwa [ne_eq,
          MemoryEngine.jointKey_eq_iff
            (slash_not_mem_of_isSafeName safePlan)
            (slash_not_mem_of_isSafeName safeInstance)]
      have otherPath :
          DirectoryEngine.variablesPath otherPlan otherName ≠
            DirectoryEngine.variablesPath planName instanceName := by
        rwa [ne_eq, DirectoryEngine.variablesPath_inj]
      rw [unrecorded _ _ otherKey, untouched _ otherPath]
      exact mirrors.deployments otherPlan otherName

/-- Applied variables are recorded and written, or miss the same plan. -/
theorem apply
    (mirrors : Mirrors files memory)
    (safePlan : isSafeName planName = true)
    (safeInstance : isSafeName instanceName = true)
    {deployment : DeploymentVariables}
    (storable : deployment.Storable) :
    CallRun (.apply planName instanceName deployment)
      (memory.apply planName instanceName deployment.toJson)
      (files.apply planName instanceName deployment.toJson) := by
  have plan : DirectoryEngine.checkName .ofPlan planName = .ok () :=
    if_pos safePlan
  have inst :
      DirectoryEngine.checkName .ofInstance instanceName = .ok () :=
    if_pos safeInstance
  have known :
      files.hasPlan planName = Record.contains planName memory.plans :=
    (DirectoryEngine.hasPlan_eq mirrors.tidy planName).trans
      (mirrors.plans planName)
  cases registered : Record.contains planName memory.plans with
  | false =>
      rw [registered] at known
      simp only [DirectoryEngine.apply, plan, inst, known,
        MemoryEngine.apply, registered, Bool.false_eq_true, if_false]
      exact .alike (.notRegistered planName) mirrors
  | true =>
      rw [registered] at known
      have directory : files.tree.HasDirectory planName := by
        have there := mirrors.plans planName
        rw [registered] at there
        obtain ⟨text, here⟩ := Option.isSome_iff_exists.1 there
        obtain ⟨name, file, split, opened⟩ :=
          mirrors.tidy.placed _ _ (Tree.file?_eq_some_iff.1 here)
        cases split
        exact opened
      simp only [DirectoryEngine.apply, plan, inst, known, if_true,
        DirectoryEngine.openInstance_of_hasPlan plan inst known]
      cases long :
          Tree.endsTooLong
            (DirectoryEngine.variablesPath planName instanceName) with
      | true =>
          have refused :
              files.tree.write
                  (DirectoryEngine.variablesPath planName instanceName)
                  (Json.fileText deployment.toJson) =
                .error .nameTooLong :=
            directory.write_of_tooLong long _
          simp only [refused, DirectoryEngine.settle]
          refine .tooLong files fun fits => ?_
          rw [EngineCall.Fits, long] at fits
          cases fits
      | false =>
          have written :
              files.tree.write
                  (DirectoryEngine.variablesPath planName instanceName)
                  (Json.fileText deployment.toJson) =
                .ok
                  (files.tree.set
                    (DirectoryEngine.variablesPath planName instanceName)
                    (.file (Json.fileText deployment.toJson))) :=
            directory.write mirrors.tidy.clear long _
          simp only [written, DirectoryEngine.settle]
          refine .alike ?_ (mirrors.rewritten safePlan safeInstance
            (mirrors.tidy.set_file directory long _) ?_ ?_ ?_ ?_)
          · simp only [MemoryEngine.apply, registered, if_true]
            exact .succeeded
          · simp only [MemoryEngine.apply, registered, if_true]
          · intro path apart
            rw [Tree.file?_set, if_neg apart]
          · intro otherPlan otherName apart
            rw [MemoryEngine.variables?_apply, if_neg fun both =>
              apart both.2]
          · rw [MemoryEngine.variables?_apply, if_pos ⟨registered, rfl⟩,
              Tree.file?_set, if_pos rfl]
            exact .applied storable

/-- Destroyed variables are neither recorded nor written any more. -/
theorem destroy
    (mirrors : Mirrors files memory)
    (safePlan : isSafeName planName = true)
    (safeInstance : isSafeName instanceName = true) :
    CallRun (.destroy planName instanceName)
      (.ok (), memory.destroy planName instanceName)
      (files.destroy planName instanceName) := by
  have opening :=
    DirectoryEngine.openInstance_run mirrors.tidy safePlan safeInstance
  unfold DirectoryEngine.destroy
  generalize files.openInstance planName instanceName = start at opening
  cases opening with
  | tooLong next long =>
      refine .tooLong next fun fits => ?_
      rw [EngineCall.Fits, long] at fits
      cases fits.1
  | @opened made fits tidy directory same =>
      dsimp only
      cases long :
          Tree.endsTooLong
            (DirectoryEngine.variablesPath planName instanceName) with
      | true =>
          have refused :
              made.remove
                  (DirectoryEngine.variablesPath planName instanceName) =
                .error .nameTooLong :=
            directory.remove_of_tooLong long
          simp only [refused, DirectoryEngine.settle]
          refine .tooLong _ fun fits => ?_
          rw [EngineCall.Fits, long] at fits
          cases fits.2
      | false =>
          obtain ⟨removed, gone, shape, nodes⟩ :=
            directory.remove tidy.clear long
          have tidyRemoved : removed.Tidy := by
            rcases shape with rfl | rfl
            · exact tidy
            · exact tidy.erase planName _
          have removes :
              made.remove
                  (DirectoryEngine.variablesPath planName instanceName) =
                .ok removed := gone
          simp only [removes, DirectoryEngine.settle]
          refine .alike .succeeded (mirrors.rewritten safePlan safeInstance
            tidyRemoved rfl ?_ ?_ ?_)
          · intro path apart
            rw [← same]
            exact Tree.file?_congr ((nodes path).trans (if_neg apart))
          · intro otherPlan otherName apart
            rw [MemoryEngine.variables?_destroy, if_neg apart]
          · have absent :
                removed.node?
                    (DirectoryEngine.variablesPath planName instanceName) =
                  none :=
              (nodes _).trans (if_pos rfl)
            rw [MemoryEngine.variables?_destroy, if_pos rfl, Tree.file?,
              absent]
            exact .absent

/-- Each call ends alike for both engines and leaves them alike. -/
theorem step
    (mirrors : Mirrors files memory)
    {call : EngineCall}
    (sound : call.Sound) :
    CallRun call (call.onMemory memory) (call.onFiles files) := by
  cases call with
  | registerPlan plan => exact mirrors.registerPlan sound
  | apply planName instanceName deployment =>
      obtain ⟨safePlan, safeInstance, storable⟩ := sound
      exact mirrors.apply safePlan safeInstance storable
  | destroy planName instanceName =>
      exact mirrors.destroy sound.1 sound.2
  | read planName instanceName =>
      obtain ⟨found, -, look⟩ := mirrors.read sound.1 sound.2
      exact look.call id
  | instances planName =>
      obtain ⟨names, -, -, look⟩ := mirrors.instances sound
      exact look.call id

end Mirrors

end StorageBackends
