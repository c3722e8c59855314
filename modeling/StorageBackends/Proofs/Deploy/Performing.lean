import StorageBackends.Proofs.Deploy.Restriction
import StorageBackends.Proofs.Deploy.Simulation

namespace StorageBackends

/-!
# How a call of the directory engine ends

A call is refused for its first unsafe name, or misses its plan, or meets an
obstacle on the way to the directory of its plan, or does its step there. Only
in the first case does its failure have the code of an unsafe name, and only
an application misses its plan.
-/

/-- What a call of an engine shows. -/
inductive Shown where
  | nothing
  | deployment (found : Option DeploymentVariables)
  | names (listed : List String)

namespace EngineCall

/-- The names in a call, each with its use, in the order of their checks. -/
def checks : EngineCall → List (NameUse × String)
  | registerPlan plan => [(.ofPlan, plan.name)]
  | apply planName instanceName _ =>
      [(.ofPlan, planName), (.ofInstance, instanceName)]
  | destroy planName instanceName =>
      [(.ofInstance, instanceName), (.ofPlan, planName)]
  | read planName instanceName =>
      [(.ofInstance, instanceName), (.ofPlan, planName)]
  | instances planName => [(.ofPlan, planName)]

/-- The plan that a call is about. -/
def planName : EngineCall → String
  | registerPlan plan => plan.name
  | apply planName _ _ => planName
  | destroy planName _ => planName
  | read planName _ => planName
  | instances planName => planName

/-- The file that a call writes or removes. -/
def target? : EngineCall → Option Path
  | registerPlan plan => some (DirectoryEngine.planPath plan.name)
  | apply planName instanceName _ =>
      some (DirectoryEngine.variablesPath planName instanceName)
  | destroy planName instanceName =>
      some (DirectoryEngine.variablesPath planName instanceName)
  | read _ _ => none
  | instances _ => none

/-- The file that a call writes, if it writes one. -/
def content? : EngineCall → Option Node
  | registerPlan plan => some (.file (Json.fileText plan.toJson))
  | apply _ _ deployment => some (.file (Json.fileText deployment.toJson))
  | destroy _ _ => none
  | read _ _ => none
  | instances _ => none

end EngineCall

namespace DirectoryEngine

/-- An operation with what it shows made known. -/
def showing
    {α : Type}
    (shown : α → Shown)
    (operation : DirectoryEngine → Except Failure α × DirectoryEngine)
    (engine : DirectoryEngine) :
    Except Failure Shown × DirectoryEngine :=
  ((operation engine).1.map shown, (operation engine).2)

/-- What a call does to a directory engine, and what it shows. -/
def perform :
    EngineCall → DirectoryEngine → Except Failure Shown × DirectoryEngine
  | .registerPlan plan =>
      showing (fun _ => .nothing) (·.registerPlan plan.name plan.toJson)
  | .apply planName instanceName deployment =>
      showing (fun _ => .nothing)
        (·.apply planName instanceName deployment.toJson)
  | .destroy planName instanceName =>
      showing (fun _ => .nothing) (·.destroy planName instanceName)
  | .read planName instanceName =>
      showing .deployment (·.read planName instanceName)
  | .instances planName => showing .names (·.instances planName)

/-! ## Refused names -/

/-- The first of some names that is unsafe. -/
def firstUnsafe? (checks : List (NameUse × String)) :
    Option (NameUse × String) :=
  checks.find? fun check => !isSafeName check.2

/-- The failure of the check of a name. -/
def refusal (check : NameUse × String) : Failure :=
  .fault ⟨.unsafeName, [check.1.text, check.2]⟩

/-- An answer with the code of an unsafe name. -/
def Refuses {α : Type} (answer : Except Failure α) : Prop :=
  ∃ failure,
    answer = .error failure ∧ failure.code? = some FaultKind.unsafeName.code

section

variable (engine : DirectoryEngine)

/-- A name that is not safe is refused in the words of its use. -/
theorem checkName_of_unsafeName
    (usage : NameUse)
    {name : String}
    (refused : isSafeName name = false) :
    checkName usage name = .error (refusal (usage, name)) := by
  simp [checkName, refused, refusal]

theorem checkName_of_safe
    (usage : NameUse)
    {name : String}
    (safe : isSafeName name = true) :
    checkName usage name = .ok () := by
  simp [checkName, safe]

/-- A safe instance name leaves the plan as the only thing to open. -/
theorem openInstance_of_safe
    (planName : String)
    {instanceName : String}
    (safe : isSafeName instanceName = true) :
    engine.openInstance planName instanceName = engine.openPlan planName := by
  rw [openInstance, checkName_of_safe .ofInstance safe]

/-- The name of a plan is reported if it is unsafe. -/
theorem openPlan_of_found
    {planName : String}
    {check : NameUse × String}
    (found : firstUnsafe? [(.ofPlan, planName)] = some check) :
    engine.openPlan planName = (.error (refusal check), engine) := by
  cases safe : isSafeName planName with
  | true => simp [firstUnsafe?, safe] at found
  | false =>
      obtain rfl : (NameUse.ofPlan, planName) = check := by
        simpa [firstUnsafe?, safe] using found
      rw [openPlan, checkName_of_unsafeName .ofPlan safe]

/-- The first of the two names of an instance that is unsafe is reported. -/
theorem openInstance_of_found
    {planName instanceName : String}
    {check : NameUse × String}
    (found :
      firstUnsafe? [(.ofInstance, instanceName), (.ofPlan, planName)] =
        some check) :
    engine.openInstance planName instanceName =
      (.error (refusal check), engine) := by
  cases safe : isSafeName instanceName with
  | false =>
      obtain rfl : (NameUse.ofInstance, instanceName) = check := by
        simpa [firstUnsafe?, safe] using found
      rw [openInstance, checkName_of_unsafeName .ofInstance safe]
  | true =>
      rw [engine.openInstance_of_safe planName safe]
      exact engine.openPlan_of_found (by simpa [firstUnsafe?, safe] using found)

end

/-- The first unsafe name of a call is reported, and nothing else happens. -/
theorem perform_of_found
    {call : EngineCall}
    {check : NameUse × String}
    (found : firstUnsafe? call.checks = some check)
    (engine : DirectoryEngine) :
    perform call engine = (.error (refusal check), engine) := by
  cases call with
  | registerPlan plan =>
      simp only [perform, showing, registerPlan,
        engine.openPlan_of_found found]
      rfl
  | apply planName instanceName deployment =>
      cases planSafe : isSafeName planName with
      | false =>
          obtain rfl : (NameUse.ofPlan, planName) = check := by
            simpa [EngineCall.checks, firstUnsafe?, planSafe] using found
          simp only [perform, showing, apply,
            checkName_of_unsafeName .ofPlan planSafe]
          rfl
      | true =>
          cases instanceSafe : isSafeName instanceName with
          | false =>
              obtain rfl : (NameUse.ofInstance, instanceName) = check := by
                simpa [EngineCall.checks, firstUnsafe?, planSafe, instanceSafe]
                  using found
              simp only [perform, showing, apply,
                checkName_of_safe .ofPlan planSafe,
                checkName_of_unsafeName .ofInstance instanceSafe]
              rfl
          | true =>
              simp [EngineCall.checks, firstUnsafe?, planSafe, instanceSafe]
                at found
  | destroy planName instanceName =>
      simp only [perform, showing, destroy, engine.openInstance_of_found found]
      rfl
  | read planName instanceName =>
      simp only [perform, showing, read, engine.openInstance_of_found found]
      rfl
  | instances planName =>
      simp only [perform, showing, instances, engine.openPlan_of_found found]
      rfl

/-! ## Calls with safe names -/

/-- What a call does once the directory of its plan is there. -/
def step :
    EngineCall → DirectoryEngine → Except Failure Shown × DirectoryEngine
  | .registerPlan plan =>
      showing (fun _ => .nothing) fun opened =>
        opened.settle
          (opened.tree.write (planPath plan.name) (Json.fileText plan.toJson))
  | .apply planName instanceName deployment =>
      showing (fun _ => .nothing) fun opened =>
        opened.settle
          (opened.tree.write (variablesPath planName instanceName)
            (Json.fileText deployment.toJson))
  | .destroy planName instanceName =>
      showing (fun _ => .nothing) fun opened =>
        opened.settle
          (opened.tree.remove (variablesPath planName instanceName))
  | .read planName instanceName =>
      showing .deployment fun opened =>
        match opened.tree.read (variablesPath planName instanceName) with
        | .error _ => (.ok none, opened)
        | .ok text => ((variablesOfText text).map some, opened)
  | .instances planName =>
      showing .names fun opened => (.ok (listed opened.tree planName), opened)

/-- Whether a call needs the file of its plan and does not find it. -/
def misses (engine : DirectoryEngine) : EngineCall → Bool
  | .apply planName _ _ => !engine.hasPlan planName
  | _ => false

/-- What an operation shows is the end of its sequence, turned into a text. -/
theorem showing_followedBy
    {α : Type}
    (shown : α → Shown)
    (first : DirectoryEngine → Except Failure Unit × DirectoryEngine)
    (next : DirectoryEngine → Except Failure α × DirectoryEngine)
    (engine : DirectoryEngine) :
    showing shown (followedBy first next) engine =
      followedBy first (showing shown next) engine := by
  unfold showing followedBy
  rcases first engine with ⟨failure | done, opened⟩ <;> rfl

/--
With safe names, a call opens its plan and does its step there, unless it
misses the file of the plan.
-/
theorem perform_of_safe
    {call : EngineCall}
    (safe : ∀ check ∈ call.checks, isSafeName check.2 = true)
    (engine : DirectoryEngine) :
    perform call engine =
      if engine.misses call then
        (.error (.fault ⟨.planNotRegistered, [call.planName]⟩), engine)
      else
        followedBy (·.openPlan call.planName) (step call) engine := by
  cases call with
  | registerPlan plan =>
      exact (showing_followedBy _ (·.openPlan plan.name) _ engine).trans
        (if_neg Bool.false_ne_true).symm
  | apply planName instanceName deployment =>
      have planSafe := safe (.ofPlan, planName) (by simp [EngineCall.checks])
      have instanceSafe :=
        safe (.ofInstance, instanceName) (by simp [EngineCall.checks])
      have opens := engine.openInstance_of_safe planName instanceSafe
      cases planned : engine.hasPlan planName with
      | false =>
          simp only [perform, showing, apply, misses, planned,
            checkName_of_safe .ofPlan planSafe,
            checkName_of_safe .ofInstance instanceSafe]
          rfl
      | true =>
          have found :
              engine.misses (.apply planName instanceName deployment) =
                false := by
            simp [misses, planned]
          rw [found, if_neg Bool.false_ne_true]
          simp only [perform, showing, apply, planned, if_true, opens,
            checkName_of_safe .ofPlan planSafe,
            checkName_of_safe .ofInstance instanceSafe]
          exact showing_followedBy _ (·.openPlan planName) _ engine
  | destroy planName instanceName =>
      have instanceSafe :=
        safe (.ofInstance, instanceName) (by simp [EngineCall.checks])
      have opens := engine.openInstance_of_safe planName instanceSafe
      simp only [perform, showing, destroy, opens]
      exact (showing_followedBy _ (·.openPlan planName) _ engine).trans
        (if_neg Bool.false_ne_true).symm
  | read planName instanceName =>
      have instanceSafe :=
        safe (.ofInstance, instanceName) (by simp [EngineCall.checks])
      have opens := engine.openInstance_of_safe planName instanceSafe
      simp only [perform, showing, read, opens]
      exact (showing_followedBy _ (·.openPlan planName) _ engine).trans
        (if_neg Bool.false_ne_true).symm
  | instances planName =>
      exact (showing_followedBy _ (·.openPlan planName) _ engine).trans
        (if_neg Bool.false_ne_true).symm

/-- An answer that is no fault of the catalogue. -/
def Faultless {α : Type} (answer : Except Failure α) : Prop :=
  ∀ fault, answer ≠ .error (.fault fault)

/-- An answer that is shown in another way stays without fault. -/
theorem faultless_map
    {α β : Type}
    {answer : Except Failure α}
    (faultless : Faultless answer)
    (shown : α → β) :
    Faultless (answer.map shown) := by
  cases answer with
  | error failure =>
      rintro fault ⟨⟩
      exact faultless fault rfl
  | ok value => nofun

/-- A failure of storage is not in the catalogue of faults. -/
theorem faultless_storage {α : Type} (error : StorageError) :
    Faultless (.error (.storage error) : Except Failure α) := by
  rintro fault ⟨⟩

/-- Settling a tree fails only as storage does. -/
theorem faultless_settle
    (engine : DirectoryEngine)
    (written : Except StorageError Tree) :
    Faultless (engine.settle written).1 := by
  cases written with
  | error error => exact faultless_storage error
  | ok tree => nofun

/-- A file that does not hold variables is not in the catalogue of faults either. -/
theorem faultless_variablesOfText (text : String) :
    Faultless (variablesOfText text) := by
  unfold variablesOfText
  split
  · nofun
  · split <;> nofun

/-- Once the plan is open, only the file store and the files can fail a call. -/
theorem faultless_step (call : EngineCall) (opened : DirectoryEngine) :
    Faultless (step call opened).1 := by
  cases call with
  | registerPlan plan => exact faultless_map (faultless_settle opened _) _
  | apply planName instanceName deployment =>
      exact faultless_map (faultless_settle opened _) _
  | destroy planName instanceName =>
      exact faultless_map (faultless_settle opened _) _
  | read planName instanceName =>
      refine faultless_map ?_ _
      dsimp only
      split
      · nofun
      · exact faultless_map (faultless_variablesOfText _) _
  | instances planName => nofun

/-- No report of another kind has the code of an unsafe name. -/
theorem Refuses.not_faultless
    {α : Type}
    {answer : Except Failure α}
    (refuses : Refuses answer) :
    ¬Faultless answer := by
  obtain ⟨failure, rfl, coded⟩ := refuses
  intro faultless
  cases failure with
  | fault fault => exact faultless fault rfl
  | rejected schemaName issues =>
      exact absurd coded (by simp [Failure.code?, FaultKind.code])
  | storage error => cases error <;> exact absurd coded (by decide)
  | unprintable => cases coded
  | collaborator message => cases coded
  | unreadable => cases coded
  | malformed issues => cases coded

/-- With a safe name, opening a plan fails for a reason of the file store. -/
theorem openPlan_eq_error
    {planName : String}
    (safe : isSafeName planName = true)
    {engine opened : DirectoryEngine}
    {failure : Failure}
    (fails : engine.openPlan planName = (.error failure, opened)) :
    ∃ error, failure = .storage error := by
  rw [openPlan, checkName_of_safe .ofPlan safe] at fails
  dsimp only at fails
  split at fails
  · cases fails
  · cases fails
    exact ⟨_, rfl⟩

/-- The ways in which a call ends. -/
inductive PerformRun (call : EngineCall) (engine : DirectoryEngine) :
    Except Failure Shown × DirectoryEngine → Prop
  | refused
      {check : NameUse × String}
      (found : firstUnsafe? call.checks = some check) :
      PerformRun call engine (.error (refusal check), engine)
  | missed
      (safe : ∀ check ∈ call.checks, isSafeName check.2 = true)
      (misses : engine.misses call = true) :
      PerformRun call engine
        (.error (.fault ⟨.planNotRegistered, [call.planName]⟩), engine)
  | obstructed
      {error : StorageError}
      {opened : DirectoryEngine}
      (safe : ∀ check ∈ call.checks, isSafeName check.2 = true)
      (opens :
        engine.openPlan call.planName = (.error (.storage error), opened)) :
      PerformRun call engine (.error (.storage error), opened)
  | stepped
      {opened : DirectoryEngine}
      (safe : ∀ check ∈ call.checks, isSafeName check.2 = true)
      (finds : engine.misses call = false)
      (opens : engine.openPlan call.planName = (.ok (), opened)) :
      PerformRun call engine (step call opened)

/-- Every call of the engine is performed in one of these ways. -/
theorem perform_run (call : EngineCall) (engine : DirectoryEngine) :
    PerformRun call engine (perform call engine) := by
  cases found : firstUnsafe? call.checks with
  | some check =>
      rw [perform_of_found found]
      exact .refused found
  | none =>
      have safe : ∀ check ∈ call.checks, isSafeName check.2 = true := by
        simpa [firstUnsafe?] using found
      have planSafe : isSafeName call.planName = true := by
        cases call <;> exact safe (.ofPlan, _) (by simp [EngineCall.checks])
      rw [perform_of_safe safe]
      split
      · exact .missed safe ‹_›
      · rename_i finds
        rcases opens : engine.openPlan call.planName with
          ⟨failure | done, opened⟩
        · obtain ⟨error, rfl⟩ := openPlan_eq_error planSafe opens
          simp only [followedBy, opens]
          exact .obstructed safe opens
        · simp only [followedBy, opens]
          exact .stepped safe (by simpa using finds) opens

/-- A call changes nothing, or only the file store and the files can fail it. -/
theorem unchanged_or_faultless (call : EngineCall) (engine : DirectoryEngine) :
    (perform call engine).2 = engine ∨ Faultless (perform call engine).1 := by
  have run := perform_run call engine
  generalize perform call engine = ended at run
  cases run with
  | refused found => exact .inl rfl
  | missed safe misses => exact .inl rfl
  | obstructed safe opens => exact .inr (faultless_storage _)
  | stepped safe finds opens => exact .inr (faultless_step call _)

/-- Unsafe names, and they alone, are refused. -/
theorem refuses_perform_iff (call : EngineCall) (engine : DirectoryEngine) :
    Refuses (perform call engine).1 ↔
      ∃ check ∈ call.checks, isSafeName check.2 = false := by
  have noneUnsafe :
      (∀ check ∈ call.checks, isSafeName check.2 = true) →
      ¬∃ check ∈ call.checks, isSafeName check.2 = false := by
    rintro safe ⟨check, listed, refused⟩
    rw [safe check listed] at refused
    cases refused
  have run := perform_run call engine
  generalize perform call engine = ended at run
  cases run with
  | @refused check found =>
      have isUnsafe := List.find?_some found
      refine iff_of_true ⟨refusal check, rfl, rfl⟩ ⟨check, ?_, ?_⟩
      · exact List.mem_of_find?_eq_some found
      · simpa using isUnsafe
  | missed safe misses =>
      refine iff_of_false ?_ (noneUnsafe safe)
      rintro ⟨failure, ⟨⟩, coded⟩
      exact absurd coded (by simp [Failure.code?, FaultKind.code])
  | obstructed safe opens =>
      exact iff_of_false
        (fun refuses => refuses.not_faultless (faultless_storage _))
        (noneUnsafe safe)
  | @stepped opened safe finds opens =>
      exact iff_of_false
        (fun refuses => refuses.not_faultless (faultless_step call opened))
        (noneUnsafe safe)

end DirectoryEngine

end StorageBackends
