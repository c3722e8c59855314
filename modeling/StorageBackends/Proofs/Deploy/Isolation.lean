import StorageBackends.Proofs.Deploy.Refinement
import StorageBackends.Proofs.History

namespace StorageBackends

/-!
# Pairs of names in a recording engine

A recording engine keeps the variables of an instance under one joint key, in
which a slash stands between the names of the plan and of the instance. What
is held for a pair of names is therefore what the last call about any pair of
the same key has left. Names without slashes share their key with no other
pair, so the last call about the pair itself decides; every pair with a slash
in one of its names shares its key, and some run of calls shows it.
-/

/-- Some pairs of the names of a plan and of an instance. -/
abbrev Pairs :=
  String → String → Prop

namespace EngineCall

/-- A call applies or destroys an instance of one of some pairs. -/
def Concerns (pairs : Pairs) : EngineCall → Prop
  | apply planName instanceName _ => pairs planName instanceName
  | destroy planName instanceName => pairs planName instanceName
  | _ => False

/-- A call registers a plan of some name. -/
def Registers (planName : String) : EngineCall → Prop
  | registerPlan plan => plan.name = planName
  | _ => False

end EngineCall

/-- A call and the answer that it got. -/
structure AnsweredCall where
  call : EngineCall
  answer : Except Failure Unit

namespace AnsweredCall

variable (pairs : Pairs)

/-- A call has applied variables to one of some pairs. -/
def Applied
    (deployment : DeploymentVariables)
    (answered : AnsweredCall) :
    Prop :=
  answered.answer = .ok () ∧
    ∃ planName instanceName,
      answered.call = .apply planName instanceName deployment ∧
        pairs planName instanceName

/-- A call has applied or destroyed one of some pairs. -/
def Touched (answered : AnsweredCall) : Prop :=
  answered.answer = .ok () ∧ answered.call.Concerns pairs

variable {pairs}

theorem Applied.touched
    {deployment : DeploymentVariables}
    {answered : AnsweredCall}
    (applied : answered.Applied pairs deployment) :
    answered.Touched pairs := by
  obtain ⟨succeeded, planName, instanceName, isApply, listed⟩ := applied
  refine ⟨succeeded, ?_⟩
  rw [isApply]
  exact listed

end AnsweredCall

/--
The variables of the last application to some pairs that a history tells of,
unless one of the pairs was destroyed after it.
-/
def LastApplied
    (pairs : Pairs)
    (history : List AnsweredCall)
    (deployment : DeploymentVariables) : Prop :=
  Since (fun answered => ¬answered.Touched pairs)
    (fun answered => answered.Applied pairs deployment) history

namespace MemoryEngine

/-- A list of calls with the answers of an engine that takes them in turn. -/
def history (engine : MemoryEngine) : List EngineCall → List AnsweredCall
  | [] => []
  | call :: rest =>
      ⟨call, (call.onMemory engine).1⟩ ::
        history (call.onMemory engine).2 rest

theorem after_append_singleton
    (engine : MemoryEngine)
    (calls : List EngineCall)
    (call : EngineCall) :
    engine.after (calls ++ [call]) =
      (call.onMemory (engine.after calls)).2 := by
  simp only [after, List.foldl_append, List.foldl_cons, List.foldl_nil]

theorem history_append_singleton
    (engine : MemoryEngine)
    (calls : List EngineCall)
    (call : EngineCall) :
    engine.history (calls ++ [call]) =
      engine.history calls ++
        [⟨call, (call.onMemory (engine.after calls)).1⟩] := by
  induction calls generalizing engine with
  | nil => rfl
  | cons first rest inductionHypothesis =>
      exact congrArg _ (inductionHypothesis (first.onMemory engine).2)

/-- The pair of two names itself. -/
def OwnPair (planName instanceName : String) : Pairs :=
  fun otherPlan otherName =>
    otherPlan = planName ∧ otherName = instanceName

/-- The pairs that have the same joint key as a pair of names. -/
def SharingPairs (planName instanceName : String) : Pairs :=
  fun otherPlan otherName =>
    jointKey otherPlan otherName = jointKey planName instanceName

variable
  {planName instanceName : String}

/-- Pairs of names without slashes have their keys for themselves. -/
theorem sharingPairs_eq_ownPair
    (planSlashless : '/' ∉ planName.toList)
    (nameSlashless : '/' ∉ instanceName.toList) :
    SharingPairs planName instanceName = OwnPair planName instanceName := by
  funext otherPlan otherName
  exact propext
    (jointKey_eq_iff planSlashless nameSlashless otherPlan otherName)

/-- A text with a slash is two texts with a slash between them. -/
private theorem exists_eq_append_slash
    {text : String}
    (slash : '/' ∈ text.toList) :
    ∃ front behind : String, text = front ++ "/" ++ behind := by
  obtain ⟨front, behind, split⟩ := List.append_of_mem slash
  refine ⟨String.ofList front, String.ofList behind, ?_⟩
  have joint : "/".toList = ['/'] := rfl
  rw [← String.toList_inj, split]
  simp [String.toList_append, joint]

/-- A pair with a slash in one of its names shares its key with another one. -/
theorem exists_sharing
    (slash : '/' ∈ planName.toList ∨ '/' ∈ instanceName.toList) :
    ∃ otherPlan otherName,
      SharingPairs planName instanceName otherPlan otherName ∧
        ¬OwnPair planName instanceName otherPlan otherName := by
  rcases slash with inPlan | inName
  · obtain ⟨front, behind, rfl⟩ := exists_eq_append_slash inPlan
    refine ⟨front, behind ++ "/" ++ instanceName, ?_, ?_⟩
    · simp only [SharingPairs, jointKey, String.append_assoc]
    · rintro ⟨-, sameName⟩
      have lengths := congrArg String.length sameName
      have slashLength : "/".length = 1 := rfl
      rw [String.length_append, String.length_append, slashLength] at lengths
      omega
  · obtain ⟨front, behind, rfl⟩ := exists_eq_append_slash inName
    refine ⟨planName ++ "/" ++ front, behind, ?_, ?_⟩
    · simp only [SharingPairs, jointKey, String.append_assoc]
    · rintro ⟨samePlan, -⟩
      have lengths := congrArg String.length samePlan
      have slashLength : "/".length = 1 := rfl
      rw [String.length_append, String.length_append, slashLength] at lengths
      omega

/-- What a call makes of the variables that are held for some pairs. -/
inductive EntryRun
    (pairs : Pairs)
    (answered : AnsweredCall)
    (before : Option Json) :
    Option Json → Prop where
  | applied
      (deployment : DeploymentVariables)
      (applied : answered.Applied pairs deployment) :
      EntryRun pairs answered before (some deployment.toJson)
  | destroyed
      (touched : answered.Touched pairs)
      (notApplied : ∀ deployment, ¬answered.Applied pairs deployment) :
      EntryRun pairs answered before none
  | spared
      (untouched : ¬answered.Touched pairs) :
      EntryRun pairs answered before before

namespace EntryRun

variable
  {pairs : Pairs}
  {answered : AnsweredCall}
  {before after : Option Json}

/-- A call about other pairs leaves the entry alone. -/
theorem of_not_concerns
    (apart : ¬answered.call.Concerns pairs)
    (run : EntryRun pairs answered before after) :
    after = before := by
  cases run with
  | applied deployment applied => exact absurd applied.touched.2 apart
  | destroyed touched notApplied => exact absurd touched.2 apart
  | spared untouched => rfl

end EntryRun

/-- The recording engine applies whatever has a registered plan. -/
theorem apply_fst_eq_ok_iff
    (engine : MemoryEngine)
    (planName instanceName : String)
    (deployment : Json) :
    (engine.apply planName instanceName deployment).1 = .ok () ↔
      Record.contains planName engine.plans = true := by
  cases registered : Record.contains planName engine.plans <;>
    simp [apply, registered]

/-- Each call does to the entry of a pair what it does to the pairs of its key. -/
theorem onMemory_entryRun
    (engine : MemoryEngine)
    (call : EngineCall)
    (planName instanceName : String) :
    EntryRun (SharingPairs planName instanceName)
      ⟨call, (call.onMemory engine).1⟩
      (engine.variables? planName instanceName)
      ((call.onMemory engine).2.variables? planName instanceName) := by
  cases call with
  | registerPlan plan => exact .spared fun touched => touched.2
  | read otherPlan otherName => exact .spared fun touched => touched.2
  | instances otherPlan => exact .spared fun touched => touched.2
  | apply otherPlan otherName deployment =>
      rw [EngineCall.onMemory, variables?_apply]
      split
      · rename_i ways
        obtain ⟨registered, shares⟩ := ways
        exact .applied deployment
          ⟨(apply_fst_eq_ok_iff engine _ _ _).2 registered, _, _, rfl,
            shares.symm⟩
      · rename_i apart
        refine .spared fun touched => apart ⟨?_, touched.2.symm⟩
        exact (apply_fst_eq_ok_iff engine _ _ _).1 touched.1
  | destroy otherPlan otherName =>
      rw [EngineCall.onMemory, variables?_destroy]
      split
      · rename_i shares
        refine .destroyed ⟨rfl, shares.symm⟩ ?_
        rintro deployment ⟨-, _, _, isApply, -⟩
        cases isApply
      · rename_i apart
        exact .spared fun touched => apart touched.2.symm

/-- What is held for a pair was last applied to a pair of the same key. -/
theorem variables?_after_eq_some_iff
    (planName instanceName : String)
    (calls : List EngineCall)
    (value : Json) :
    (empty.after calls).variables? planName instanceName = some value ↔
      ∃ deployment,
        LastApplied (SharingPairs planName instanceName)
            (empty.history calls) deployment ∧
          value = deployment.toJson := by
  induction calls using List.reverseRecOn with
  | nil =>
      constructor
      · nofun
      · rintro ⟨deployment, last, -⟩
        exact absurd last not_since_nil
  | append_singleton calls call inductionHypothesis =>
      rw [after_append_singleton, history_append_singleton]
      simp only [LastApplied, since_append_singleton_iff]
      have run :=
        onMemory_entryRun (empty.after calls) call planName instanceName
      revert run
      generalize
        (call.onMemory (empty.after calls)).2.variables? planName
          instanceName = held
      intro run
      cases run with
      | applied deployment applied =>
          constructor
          · rintro ⟨⟩
            exact ⟨deployment, .inl applied, rfl⟩
          · rintro ⟨other, otherApplied | ⟨untouched, -⟩, rfl⟩
            · obtain ⟨-, _, _, isApply, -⟩ := applied
              obtain ⟨-, _, _, isOther, -⟩ := otherApplied
              rw [isApply] at isOther
              cases isOther
              rfl
            · exact absurd applied.touched untouched
      | destroyed touched notApplied =>
          constructor
          · nofun
          · rintro ⟨other, applied | ⟨untouched, -⟩, -⟩
            · exact absurd applied (notApplied other)
            · exact absurd touched untouched
      | spared untouched =>
          rw [inductionHypothesis]
          refine exists_congr fun deployment => and_congr_left fun _ => ?_
          constructor
          · exact fun last => .inr ⟨untouched, last⟩
          · rintro (applied | ⟨-, last⟩)
            · exact absurd applied.touched untouched
            · exact last

/-- The plans of an engine are those that were registered. -/
theorem contains_plans_after_iff
    (calls : List EngineCall)
    (planName : String) :
    Record.contains planName (empty.after calls).plans = true ↔
      ∃ call ∈ calls, call.Registers planName := by
  induction calls using List.reverseRecOn with
  | nil => simp [after, empty, Record.contains]
  | append_singleton calls call inductionHypothesis =>
      rw [after_append_singleton]
      have kept :
          ∀ {next : MemoryEngine},
            next.plans = (empty.after calls).plans →
            ¬call.Registers planName →
            (Record.contains planName next.plans = true ↔
              ∃ other ∈ calls ++ [call], other.Registers planName) := by
        intro next same other
        rw [same, inductionHypothesis]
        simp [other, or_and_right, exists_or]
      cases call with
      | registerPlan plan =>
          rw [EngineCall.onMemory, registerPlan, Record.contains_insert_iff,
            inductionHypothesis]
          simp [or_and_right, exists_or, EngineCall.Registers, or_comm,
            eq_comm]
      | read otherPlan otherName => exact kept rfl id
      | instances otherPlan => exact kept rfl id
      | destroy otherPlan otherName => exact kept rfl id
      | apply otherPlan otherName deployment =>
          refine kept ?_ id
          rw [EngineCall.onMemory, apply]
          split <;> rfl

/-- What is held for a pair goes back to a plan of a pair of the same key. -/
theorem exists_registers_of_variables?
    {planName instanceName : String}
    {calls : List EngineCall}
    (held :
      (empty.after calls).variables? planName instanceName ≠ none) :
    ∃ otherPlan otherName,
      SharingPairs planName instanceName otherPlan otherName ∧
        ∃ call ∈ calls, call.Registers otherPlan := by
  induction calls using List.reverseRecOn with
  | nil => exact absurd rfl held
  | append_singleton calls call inductionHypothesis =>
      rw [after_append_singleton] at held
      have run :=
        onMemory_entryRun (empty.after calls) call planName instanceName
      revert held run
      generalize
        (call.onMemory (empty.after calls)).2.variables? planName
          instanceName = left
      intro held run
      cases run with
      | applied deployment applied =>
          obtain ⟨succeeded, otherPlan, otherName, rfl, shares⟩ := applied
          obtain ⟨earlier, listed, registers⟩ :=
            (contains_plans_after_iff calls otherPlan).1
              ((apply_fst_eq_ok_iff _ _ _ _).1 succeeded)
          exact ⟨otherPlan, otherName, shares, earlier, by simp [listed],
            registers⟩
      | destroyed touched notApplied => exact absurd rfl held
      | spared untouched =>
          obtain ⟨otherPlan, otherName, shares, earlier, listed, registers⟩ :=
            inductionHypothesis held
          exact ⟨otherPlan, otherName, shares, earlier, by simp [listed],
            registers⟩

/--
After some calls, the variables held for a pair of names are those of some
pairs: they were last applied to one of them, no call about another pair
changes them, and there are none unless a plan of one of them was registered.
-/
structure EntryLaw
    (pairs : Pairs)
    (planName instanceName : String)
    (calls : List EngineCall) : Prop where
  lastApplied :
    ∀ value,
      (empty.after calls).variables? planName instanceName = some value ↔
        ∃ deployment,
          LastApplied pairs (empty.history calls) deployment ∧
            value = deployment.toJson
  undisturbed :
    ∀ call : EngineCall,
      ¬call.Concerns pairs →
      (call.onMemory (empty.after calls)).2.variables? planName
          instanceName =
        (empty.after calls).variables? planName instanceName
  unregistered :
    (∀ otherPlan otherName,
        pairs otherPlan otherName →
        ∀ call ∈ calls, ¬call.Registers otherPlan) →
    (empty.after calls).variables? planName instanceName = none

theorem entryLaw_sharingPairs
    (planName instanceName : String)
    (calls : List EngineCall) :
    EntryLaw (SharingPairs planName instanceName) planName instanceName
      calls where
  lastApplied := variables?_after_eq_some_iff planName instanceName calls
  undisturbed := by
    intro call apart
    exact
      (onMemory_entryRun (empty.after calls) call planName
        instanceName).of_not_concerns apart
  unregistered := by
    intro unregistered
    refine Decidable.byContradiction fun held => ?_
    obtain ⟨otherPlan, otherName, shares, call, listed, registers⟩ :=
      exists_registers_of_variables? held
    exact unregistered otherPlan otherName shares call listed registers

/-- The plan of an array under some name. -/
def arrayPlan (planName : String) : DeploymentPlan where
  name := planName
  backendType := "array"
  unit := ⟨"cinder-volume", "latest/edge", none, "ubuntu@24.04"⟩

/-- The variables of an array without options. -/
def arrayVariables : DeploymentVariables where
  charmName := "cinder-volume"
  charmChannel := "latest/edge"
  charmRevision := none
  charmBase := "ubuntu@24.04"
  endpointBindings := [("", "management")]
  charmConfig := [("volume-backend-name", .text "c")]
  secretRef := none

/-- A plan is registered and one of its instances applied. -/
def singleApplication
    (plan : DeploymentPlan)
    (instanceName : String)
    (deployment : DeploymentVariables) :
    List EngineCall :=
  [.registerPlan plan, .apply plan.name instanceName deployment]

/-- What is applied to a pair is held for all other pairs of its key as well. -/
theorem not_entryLaw_of_sharing
    {plan : DeploymentPlan}
    {otherName : String}
    (shares : SharingPairs planName instanceName plan.name otherName)
    (apart : ¬OwnPair planName instanceName plan.name otherName)
    (deployment : DeploymentVariables) :
    ¬EntryLaw (OwnPair planName instanceName) planName instanceName
      (singleApplication plan otherName deployment) := by
  intro law
  have registered :
      Record.contains plan.name
        (empty.registerPlan plan.name plan.toJson).plans = true :=
    (Record.contains_insert_iff plan.name plan.toJson [] plan.name).2
      (.inl rfl)
  have held :
      (empty.after
          (singleApplication plan otherName deployment)).variables?
          planName instanceName =
        some deployment.toJson :=
    (variables?_apply _ _ _ _ _ _).trans (if_pos ⟨registered, shares.symm⟩)
  obtain ⟨found, ⟨earlier, application, later, split, applied, -⟩, -⟩ :=
    (law.lastApplied _).1 held
  obtain ⟨-, appliedPlan, appliedName, isApply, own⟩ := applied
  have listed :
      application ∈
        empty.history (singleApplication plan otherName deployment) := by
    simp [split]
  simp only [singleApplication, history, List.mem_cons, List.not_mem_nil,
    or_false] at listed
  rcases listed with rfl | rfl
  · cases isApply
  · cases isApply
    exact apart own

/--
The variables held for a pair of names are those of the pairs of its joint key,
whatever the calls; they are those of the pair itself, whatever the calls,
exactly if neither name holds a slash.
-/
theorem after_isolationLaw (planName instanceName : String) :
    (∀ calls,
        EntryLaw (SharingPairs planName instanceName) planName instanceName
          calls) ∧
      ((∀ calls,
          EntryLaw (OwnPair planName instanceName) planName instanceName
            calls) ↔
        '/' ∉ planName.toList ∧ '/' ∉ instanceName.toList) := by
  refine ⟨entryLaw_sharingPairs planName instanceName, ?_, ?_⟩
  · intro isolated
    rw [← not_or]
    intro slash
    obtain ⟨otherPlan, otherName, shares, apart⟩ := exists_sharing slash
    have crossed :=
      isolated
        (singleApplication (arrayPlan otherPlan) otherName arrayVariables)
    exact not_entryLaw_of_sharing shares apart arrayVariables crossed
  · rintro ⟨planSlashless, nameSlashless⟩ calls
    rw [← sharingPairs_eq_ownPair planSlashless nameSlashless]
    exact entryLaw_sharingPairs planName instanceName calls

/-- The instance `b/c` of the plan `a` is found as the instance `c` of `a/b`. -/
theorem crossedNames_share_variables :
    ¬EntryLaw (OwnPair "a/b" "c") "a/b" "c"
      (singleApplication (arrayPlan "a") "b/c" arrayVariables) :=
  not_entryLaw_of_sharing (by unfold SharingPairs jointKey; rfl)
    (by unfold OwnPair; decide) arrayVariables

end MemoryEngine

end StorageBackends
