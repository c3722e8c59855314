import StorageBackends.Proofs.Engine
import StorageBackends.Proofs.Lifecycle.Call
import StorageBackends.Proofs.Names

namespace StorageBackends

/-!
# What programs keep

A property of the collaborators that every operation keeps is kept by every
program, whether it is run at once or step by step. A program also has a
reach: the plans, variables and secrets that its calls may change. The program
of an instance reaches the variables and the secret of that instance only, so
under sound backend types it leaves those of every other instance alone.
-/

/-- What a call of a program may change. -/
inductive Target where
  | plan (name : String)
  | deployment (planName instanceName : String)
  | secret (name : String)

namespace Program

variable {α : Type}

/-- Every call of a program changes a target of some class. -/
def Within (reach : Target → Prop) : Program α → Prop
  | finished _ _ => True
  | failed _ => True
  | registerPlan plan next => reach (.plan plan.name) ∧ next.Within reach
  | apply planName instanceName _ next =>
      reach (.deployment planName instanceName) ∧ next.Within reach
  | destroy planName instanceName next =>
      reach (.deployment planName instanceName) ∧ next.Within reach
  | putSecret name _ next =>
      reach (.secret name) ∧ ∀ reference, (next reference).Within reach
  | removeSecret name next => reach (.secret name) ∧ next.Within reach

/-- Every program stays within the class of all targets. -/
theorem within_true (program : Program α) : program.Within fun _ => True := by
  induction program with
  | finished value line => exact True.intro
  | failed failure => exact True.intro
  | registerPlan plan next inductionHypothesis =>
      exact ⟨True.intro, inductionHypothesis⟩
  | apply planName instanceName deployment next inductionHypothesis =>
      exact ⟨True.intro, inductionHypothesis⟩
  | destroy planName instanceName next inductionHypothesis =>
      exact ⟨True.intro, inductionHypothesis⟩
  | putSecret name content next inductionHypothesis =>
      exact ⟨True.intro, inductionHypothesis⟩
  | removeSecret name next inductionHypothesis =>
      exact ⟨True.intro, inductionHypothesis⟩

/-- Applying a function to the result keeps the reach of a program. -/
theorem Within.map
    {β : Type}
    {reach : Target → Prop}
    {program : Program α}
    (within : program.Within reach)
    (f : α → β) :
    (program.map f).Within reach := by
  induction program with
  | finished value line => exact True.intro
  | failed failure => exact True.intro
  | registerPlan plan next inductionHypothesis =>
      exact ⟨within.1, inductionHypothesis within.2⟩
  | apply planName instanceName deployment next inductionHypothesis =>
      exact ⟨within.1, inductionHypothesis within.2⟩
  | destroy planName instanceName next inductionHypothesis =>
      exact ⟨within.1, inductionHypothesis within.2⟩
  | putSecret name content next inductionHypothesis =>
      exact ⟨within.1,
        fun reference => inductionHypothesis reference (within.2 reference)⟩
  | removeSecret name next inductionHypothesis =>
      exact ⟨within.1, inductionHypothesis within.2⟩

end Program

namespace Collaborators

/-- A call of the engine keeps what the engine it leaves behind keeps. -/
theorem callEngine_keeps
    (holds : Collaborators → Prop)
    {before : Collaborators}
    {operation : Operation}
    {call : Engine → Except Failure Unit × Engine}
    (start : holds before)
    (called : holds { before with engine := (call before.engine).2 }) :
    holds (before.callEngine operation call).2 := by
  unfold callEngine
  split
  · exact start
  · exact called

theorem putSecret_keeps
    (holds : Collaborators → Prop)
    {before : Collaborators}
    {name : String}
    {content : Record String}
    (start : holds before)
    (stored :
      holds { before with secrets := (before.secrets.put name content).2 }) :
    holds (before.putSecret name content).2 := by
  unfold putSecret
  split
  · exact start
  · exact stored

theorem removeSecret_keeps
    (holds : Collaborators → Prop)
    {before : Collaborators}
    {name : String}
    (start : holds before)
    (removed : holds { before with secrets := before.secrets.remove name }) :
    holds (before.removeSecret name).2 := by
  unfold removeSecret
  split
  · exact start
  · exact removed

/-- A property that every operation on targets of some class keeps. -/
structure Invariant
    (reach : Target → Prop)
    (holds : Collaborators → Prop) : Prop where
  registerPlan :
    ∀ {before planName},
      reach (.plan planName) →
      ∀ plan,
        holds before →
        holds (before.registerPlan planName plan).2
  apply :
    ∀ {before planName instanceName},
      reach (.deployment planName instanceName) →
      ∀ deployment,
        holds before →
        holds (before.apply planName instanceName deployment).2
  destroy :
    ∀ {before planName instanceName},
      reach (.deployment planName instanceName) →
      holds before →
      holds (before.destroy planName instanceName).2
  putSecret :
    ∀ {before name},
      reach (.secret name) →
      ∀ content,
        holds before →
        holds (before.putSecret name content).2
  removeSecret :
    ∀ {before name},
      reach (.secret name) →
      holds before →
      holds (before.removeSecret name).2

namespace Invariant

/-- What writes and removals of a store keep is kept by every operation. -/
theorem ofSecrets
    {holds : SecretStore → Prop}
    (put :
      ∀ {store},
        holds store →
        ∀ name content, holds (store.put name content).2)
    (remove : ∀ {store}, holds store → ∀ name, holds (store.remove name)) :
    Invariant (fun _ => True) fun before => holds before.secrets where
  registerPlan := fun _ _ start =>
    callEngine_keeps (fun before => holds before.secrets) start start
  apply := fun _ _ start =>
    callEngine_keeps (fun before => holds before.secrets) start start
  destroy := fun _ start =>
    callEngine_keeps (fun before => holds before.secrets) start start
  putSecret := fun _ content start =>
    putSecret_keeps (fun before => holds before.secrets) start
      (put start _ content)
  removeSecret := fun _ start =>
    removeSecret_keeps (fun before => holds before.secrets) start
      (remove start _)

theorem sound : Invariant (fun _ => True) fun before => before.secrets.Sound :=
  ofSecrets SecretStore.Sound.put SecretStore.Sound.remove

theorem isMemory :
    Invariant (fun _ => True) fun before => before.engine.isMemory = true where
  registerPlan := fun _ _ start =>
    callEngine_keeps (fun before => before.engine.isMemory = true) start
      ((Engine.isMemory_registerPlan _ _ _).trans start)
  apply := fun _ _ start =>
    callEngine_keeps (fun before => before.engine.isMemory = true) start
      ((Engine.isMemory_apply _ _ _ _).trans start)
  destroy := fun _ start =>
    callEngine_keeps (fun before => before.engine.isMemory = true) start
      ((Engine.isMemory_destroy _ _ _).trans start)
  putSecret := fun _ _ start =>
    putSecret_keeps (fun before => before.engine.isMemory = true) start start
  removeSecret := fun _ start =>
    removeSecret_keeps (fun before => before.engine.isMemory = true) start
      start

theorem outages (outages : List (Operation × String)) :
    Invariant (fun _ => True) fun before => before.outages = outages where
  registerPlan := fun _ _ start =>
    callEngine_keeps (fun before => before.outages = outages) start start
  apply := fun _ _ start =>
    callEngine_keeps (fun before => before.outages = outages) start start
  destroy := fun _ start =>
    callEngine_keeps (fun before => before.outages = outages) start start
  putSecret := fun _ _ start =>
    putSecret_keeps (fun before => before.outages = outages) start start
  removeSecret := fun _ start =>
    removeSecret_keeps (fun before => before.outages = outages) start start

end Invariant

end Collaborators

namespace Program

variable
  {α : Type}
  {reach : Target → Prop}
  {holds : Collaborators → Prop}

/-- What follows a call keeps a property if the call has kept it. -/
private theorem outcomeAfter_invariant
    {β : Type}
    {next : β → Collaborators → Outcome α}
    (kept :
      ∀ value {after},
        holds after →
        holds (next value after).collaborators)
    {called : Except Failure β × Collaborators}
    (start : holds called.2) :
    holds (outcomeAfter next called).collaborators := by
  rcases called with ⟨failure | value, after⟩
  · exact start
  · exact kept value start

/-- A run keeps every property that its operations keep. -/
theorem run_invariant
    (invariant : Collaborators.Invariant reach holds)
    {program : Program α}
    (within : program.Within reach)
    {before : Collaborators}
    (start : holds before) :
    holds (program.run before).collaborators := by
  induction program generalizing before with
  | finished value line => exact start
  | failed failure => exact start
  | registerPlan plan next inductionHypothesis =>
      exact outcomeAfter_invariant
        (fun _ _ held => inductionHypothesis within.2 held)
        (invariant.registerPlan within.1 _ start)
  | apply planName instanceName deployment next inductionHypothesis =>
      exact outcomeAfter_invariant
        (fun _ _ held => inductionHypothesis within.2 held)
        (invariant.apply within.1 _ start)
  | destroy planName instanceName next inductionHypothesis =>
      exact outcomeAfter_invariant
        (fun _ _ held => inductionHypothesis within.2 held)
        (invariant.destroy within.1 start)
  | putSecret name content next inductionHypothesis =>
      exact outcomeAfter_invariant
        (fun reference _ held =>
          inductionHypothesis reference (within.2 reference) held)
        (invariant.putSecret within.1 _ start)
  | removeSecret name next inductionHypothesis =>
      exact outcomeAfter_invariant
        (fun _ _ held => inductionHypothesis within.2 held)
        (invariant.removeSecret within.1 start)

/-- What failures and all continuations keep is kept after a call. -/
theorem continueWith_keeps
    {β : Type}
    (keeps : Program α → Prop)
    (failed : ∀ failure, keeps (.failed failure))
    {next : β → Program α}
    (kept : ∀ value, keeps (next value))
    (called : Except Failure β × Collaborators) :
    keeps (continueWith next called).1 := by
  rcases called with ⟨failure | value, after⟩
  · exact failed failure
  · exact kept value

/-- A call decides what its program leaves behind in this step. -/
theorem continueWith_snd
    {β : Type}
    (next : β → Program α)
    (called : Except Failure β × Collaborators) :
    (continueWith next called).2 = called.2 := by
  rcases called with ⟨failure | value, after⟩ <;> rfl

private theorem continueWith_invariant
    {β : Type}
    {next : β → Program α}
    (within : ∀ value, (next value).Within reach)
    {called : Except Failure β × Collaborators}
    (start : holds called.2) :
    (continueWith next called).1.Within reach ∧
      holds (continueWith next called).2 := by
  rw [continueWith_snd]
  exact ⟨continueWith_keeps (fun program => program.Within reach)
    (fun _ => True.intro) within called, start⟩

/-- A single step keeps the reach and what operations keep. -/
theorem step_invariant
    (invariant : Collaborators.Invariant reach holds)
    {program : Program α}
    (within : program.Within reach)
    {before : Collaborators}
    (start : holds before) :
    (program.step before).1.Within reach ∧
      holds (program.step before).2 := by
  cases program with
  | finished value line => exact ⟨True.intro, start⟩
  | failed failure => exact ⟨True.intro, start⟩
  | registerPlan plan next =>
      exact continueWith_invariant (fun _ => within.2)
        (invariant.registerPlan within.1 _ start)
  | apply planName instanceName deployment next =>
      exact continueWith_invariant (fun _ => within.2)
        (invariant.apply within.1 _ start)
  | destroy planName instanceName next =>
      exact continueWith_invariant (fun _ => within.2)
        (invariant.destroy within.1 start)
  | putSecret name content next =>
      exact continueWith_invariant within.2
        (invariant.putSecret within.1 _ start)
  | removeSecret name next =>
      exact continueWith_invariant (fun _ => within.2)
        (invariant.removeSecret within.1 start)

end Program

end StorageBackends
