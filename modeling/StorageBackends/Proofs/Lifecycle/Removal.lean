import StorageBackends.Proofs.Deploy.Destruction
import StorageBackends.Proofs.Lifecycle.Footprint
import StorageBackends.Proofs.Lifecycle.Run

namespace StorageBackends

/-!
# Removing an instance, again and again

An attempt to remove an instance may stop before the instance is destroyed or
before its secret is dropped. It can be repeated from wherever it has stopped:
whatever the state it starts from, the attempts touch nothing of any other
instance, no secret goes before its variables are gone, and once an attempt
succeeds nothing is left and further ones change nothing.
-/

namespace Attempt

/-- An attempt to remove an instance, with some operations out of order. -/
def removal
    (backend : Backend)
    (instanceName : String)
    (outages : List (Operation × String)) :
    Attempt where
  call := .remove backend instanceName
  outages := outages

theorem run_removal
    (backend : Backend)
    (instanceName : String)
    (outages : List (Operation × String))
    (before : Collaborators) :
    (removal backend instanceName outages).run before =
      ((backend.removeInstance instanceName).run
        { before with outages := outages }).map fun _ => none :=
  run_remove rfl before

end Attempt

namespace Collaborators

/-- Try to remove an instance while some operations are out of order. -/
def tryRemoval
    (before : Collaborators)
    (backend : Backend)
    (instanceName : String)
    (outages : List (Operation × String)) :
    Program.Outcome (Option DeploymentVariables) :=
  (Attempt.removal backend instanceName outages).run before

/-- The collaborators after attempts to remove an instance. -/
def afterRemovals
    (before : Collaborators)
    (backend : Backend)
    (instanceName : String)
    (tries : List (List (Operation × String))) :
    Collaborators :=
  before.after (tries.map (Attempt.removal backend instanceName))

/-- Try to remove an instance behind other attempts to do so. -/
def retryRemoval
    (before : Collaborators)
    (backend : Backend)
    (instanceName : String)
    (tries : List (List (Operation × String)))
    (outages : List (Operation × String)) :
    Program.Outcome (Option DeploymentVariables) :=
  (before.afterRemovals backend instanceName tries).tryRemoval backend
    instanceName outages

/-- All that an attempt to remove an instance answers and leaves behind. -/
inductive Removes
    (backend : Backend)
    (instanceName : String)
    (outages : List (Operation × String))
    (before : Collaborators) :
    Except Failure (Option DeploymentVariables) → Collaborators → Prop where
  /-- The name is unsound. -/
  | refused
      (invalid : isInstanceName instanceName = false) :
      Removes backend instanceName outages before
        (.error (.fault ⟨.instanceNameInvalid, [instanceName]⟩))
        { before with outages := outages }
  /-- The instance is not destroyed. -/
  | undestroyed
      (valid : isInstanceName instanceName = true)
      (failure : Failure)
      (engine : Engine)
      (held : ∀ target, engine.held? target = before.engine.held? target) :
      Removes backend instanceName outages before (.error failure)
        { before with engine := engine, outages := outages }
  /-- The instance is destroyed, but its secret cannot be removed. -/
  | kept
      (valid : isInstanceName instanceName = true)
      (failure : Failure)
      (engine : Engine)
      (destroyed :
        before.engine.Destroyed backend.planName instanceName engine) :
      Removes backend instanceName outages before (.error failure)
        { before with engine := engine, outages := outages }
  /-- The instance is destroyed and its secret removed. -/
  | removed
      (valid : isInstanceName instanceName = true)
      (engine : Engine)
      (destroyed :
        before.engine.Destroyed backend.planName instanceName engine) :
      Removes backend instanceName outages before (.ok none)
        { before with
          engine := engine
          outages := outages
          secrets :=
            before.secrets.remove (backend.secretName instanceName) }

section

variable
  {backend : Backend}
  {instanceName : String}
  {outages : List (Operation × String)}
  {before next after : Collaborators}

/-- An attempt at a removal does one of the things it may do. -/
theorem tryRemoval_removes
    (sound : isBackendType backend.backendType = true)
    (instanceName : String)
    (outages : List (Operation × String))
    (before : Collaborators) :
    Removes backend instanceName outages before
      (before.tryRemoval backend instanceName outages).result
      (before.tryRemoval backend instanceName outages).collaborators := by
  rw [tryRemoval, Attempt.run_removal]
  cases valid : isInstanceName instanceName with
  | false =>
      rw [Backend.removeInstance_eq_refused valid]
      exact .refused valid
  | true =>
      have destroys :=
        Engine.destroy_run (Engine.accepts_of_isInstanceName sound valid)
          before.engine
      have run :=
        backend.removeInstance_run instanceName
          { before with outages := outages }
      generalize (backend.removeInstance instanceName).run _ = outcome
        at run ⊢
      cases run with
      | refused failure invalid =>
          rw [valid] at invalid
          cases invalid
      | undestroyed failure after _ called =>
          rcases callEngine_eq_error called with
            ⟨-, rfl⟩ | ⟨failed, replaced⟩
          · exact .undestroyed valid failure before.engine fun _ => rfl
          · rw [failed] at destroys
            cases destroys with
            | failed _ _ held =>
                rw [replaced]
                exact .undestroyed valid failure after.engine held
      | kept failure after _ called outage =>
          obtain ⟨succeeded, replaced⟩ := callEngine_eq_ok called
          rw [succeeded] at destroys
          cases destroys with
          | destroyed _ destroyed =>
              rw [replaced]
              exact .kept valid failure after.engine destroyed
      | removed after _ called available =>
          obtain ⟨succeeded, replaced⟩ := callEngine_eq_ok called
          rw [succeeded] at destroys
          cases destroys with
          | destroyed _ destroyed =>
              rw [replaced]
              exact .removed valid after.engine destroyed

/-- Nothing but the variables and the secret of an instance has changed. -/
structure Spares
    (backend : Backend)
    (instanceName : String)
    (before after : Collaborators) : Prop where
  engine :
    ∀ target,
      target ≠ .deployment backend.planName instanceName →
      after.engine.held? target = before.engine.held? target
  secrets :
    ∀ name,
      name ≠ backend.secretName instanceName →
      after.secrets.secret? name = before.secrets.secret? name

namespace Spares

theorem refl
    (backend : Backend)
    (instanceName : String)
    (before : Collaborators) :
    Spares backend instanceName before before :=
  ⟨fun _ _ => rfl, fun _ _ => rfl⟩

theorem trans
    (first : Spares backend instanceName before next)
    (second : Spares backend instanceName next after) :
    Spares backend instanceName before after where
  engine := fun target apart =>
    (second.engine target apart).trans (first.engine target apart)
  secrets := fun name apart =>
    (second.secrets name apart).trans (first.secrets name apart)

/-- What is held at a target of no other kind is as it was. -/
theorem held?
    (spares : Spares backend instanceName before after)
    {target : Target}
    (apart : ¬backend.Owns instanceName target) :
    after.held? target = before.held? target := by
  cases target with
  | plan planName => exact spares.engine _ fun same => apart (.inl same)
  | deployment planName otherName =>
      exact spares.engine _ fun same => apart (.inl same)
  | secret name =>
      have otherSecret : name ≠ backend.secretName instanceName :=
        fun same => apart (.inr (congrArg Target.secret same))
      simp only [Collaborators.held?, spares.secrets name otherSecret]

/-- A reference to a secret of another name leads where it led. -/
theorem resolve?
    (spares : Spares backend instanceName before after)
    (sound : before.secrets.Sound)
    (afterSound : after.secrets.Sound)
    {reference : String}
    {content : Record String}
    (resolved : before.secrets.resolve? reference = some content)
    (foreign :
      before.secrets.reference? (backend.secretName instanceName) ≠
        some reference) :
    after.secrets.resolve? reference = some content := by
  obtain ⟨name, stored⟩ := sound.resolve?_eq_some_iff.1 resolved
  refine afterSound.resolve?_eq_some_iff.2 ⟨name, ?_⟩
  rw [spares.secrets name ?_, stored]
  rintro rfl
  exact foreign (by rw [SecretStore.reference?, stored]; rfl)

end Spares

/-- An attempt to remove an instance spares everything else. -/
theorem Removes.spares
    {result : Except Failure (Option DeploymentVariables)}
    (removes : Removes backend instanceName outages before result after) :
    Spares backend instanceName before after := by
  cases removes with
  | refused invalid => exact ⟨fun _ _ => rfl, fun _ _ => rfl⟩
  | undestroyed valid failure engine held =>
      exact ⟨fun target _ => held target, fun _ _ => rfl⟩
  | kept valid failure engine destroyed =>
      exact ⟨destroyed.others, fun _ _ => rfl⟩
  | removed valid engine destroyed =>
      refine ⟨destroyed.others, fun name apart => ?_⟩
      exact (SecretStore.secret?_remove _ _ _).trans (if_neg apart)

/-- Any number of attempts to remove an instance spares everything else. -/
theorem afterRemovals_spares
    (sound : isBackendType backend.backendType = true)
    (instanceName : String)
    (before : Collaborators)
    (tries : List (List (Operation × String))) :
    Spares backend instanceName before
      (before.afterRemovals backend instanceName tries) := by
  induction tries generalizing before with
  | nil => exact .refl backend instanceName before
  | cons outages rest inductionHypothesis =>
      exact (tryRemoval_removes sound instanceName outages before).spares.trans
        (inductionHypothesis _)

/-- Where nothing is out of order, a removal succeeds if the engine does. -/
theorem tryRemoval_of_destroys
    (valid : isInstanceName instanceName = true)
    (available :
      ∀ outage ∈ outages,
        outage.1 ≠ .destroy ∧ outage.1 ≠ .removeSecret)
    {engine : Engine}
    (destroys :
      before.engine.destroy backend.planName instanceName =
        (.ok (), engine)) :
    (before.tryRemoval backend instanceName outages).result = .ok none ∧
      (before.tryRemoval backend instanceName outages).collaborators =
        { before with
          engine := engine
          outages := outages
          secrets :=
            before.secrets.remove (backend.secretName instanceName) } := by
  have inOrder :
      ∀ {operation},
        (∀ outage ∈ outages, outage.1 ≠ operation) →
        outages.lookup operation = none := by
    intro operation others
    rw [List.lookup_eq_none_iff]
    intro outage listed
    simpa using (others outage listed).symm
  have destroyInOrder :=
    inOrder fun outage listed => (available outage listed).1
  have removeInOrder :=
    inOrder fun outage listed => (available outage listed).2
  rw [tryRemoval, Attempt.run_removal, Backend.removeInstance_eq valid]
  simp only [Program.run, Collaborators.destroy, callEngine, outage?,
    destroyInOrder, removeInOrder, Option.map_none, destroys,
    Program.outcomeAfter, removeSecret]
  exact ⟨rfl, rfl⟩

/-- A removal that succeeds has destroyed the instance and dropped its secret. -/
theorem Removes.of_ok
    {value : Option DeploymentVariables}
    (removes : Removes backend instanceName outages before (.ok value) after) :
    isInstanceName instanceName = true ∧
      before.engine.Destroyed backend.planName instanceName after.engine ∧
      after.secrets =
        before.secrets.remove (backend.secretName instanceName) := by
  cases removes with
  | removed valid engine destroyed => exact ⟨valid, destroyed, rfl⟩

/-- A removal that fails leaves all the secrets, and the variables or not. -/
theorem Removes.of_error
    {failure : Failure}
    (removes :
      Removes backend instanceName outages before (.error failure) after) :
    after.secrets = before.secrets ∧
      ∀ target,
        after.held? target = before.held? target ∨
          target = .deployment backend.planName instanceName ∧
            after.held? target = none := by
  cases removes with
  | refused invalid => exact ⟨rfl, fun _ => .inl rfl⟩
  | undestroyed valid failure engine held =>
      refine ⟨rfl, fun target => .inl ?_⟩
      cases target with
      | secret name => rfl
      | plan planName => exact held _
      | deployment planName otherName => exact held _
  | kept valid failure engine destroyed =>
      refine ⟨rfl, fun target => ?_⟩
      by_cases isOwn : target = .deployment backend.planName instanceName
      · rw [isOwn]
        exact .inr ⟨rfl, destroyed.gone⟩
      · refine .inl ?_
        cases target with
        | secret name => rfl
        | plan planName => exact destroyed.others _ isOwn
        | deployment planName otherName => exact destroyed.others _ isOwn

/-- Behind a removal that succeeded, another one succeeds without effect. -/
theorem Removes.again
    {value : Option DeploymentVariables}
    (removes : Removes backend instanceName outages before (.ok value) after)
    {further : List (Operation × String)}
    (available :
      ∀ outage ∈ further,
        outage.1 ≠ .destroy ∧ outage.1 ≠ .removeSecret) :
    (after.tryRemoval backend instanceName further).result = .ok none ∧
      (after.tryRemoval backend instanceName further).collaborators =
        { after with outages := further } := by
  obtain ⟨valid, destroyed, dropped⟩ := removes.of_ok
  obtain ⟨succeeds, leaves⟩ :=
    tryRemoval_of_destroys valid available destroyed.again
  refine ⟨succeeds, leaves.trans ?_⟩
  rw [dropped, SecretStore.remove_remove, ← dropped]

/-- A recording engine destroys whatever it is told to. -/
theorem tryRemoval_of_isMemory
    (valid : isInstanceName instanceName = true)
    (available :
      ∀ outage ∈ outages,
        outage.1 ≠ .destroy ∧ outage.1 ≠ .removeSecret)
    (memory : before.engine.isMemory = true) :
    (before.tryRemoval backend instanceName outages).result = .ok none := by
  cases engine : before.engine with
  | directory _ =>
      rw [engine] at memory
      cases memory
  | memory recording =>
      have destroys :
          before.engine.destroy backend.planName instanceName =
            (.ok (),
              .memory (recording.destroy backend.planName instanceName)) := by
        rw [engine]
        rfl
      exact (tryRemoval_of_destroys valid available destroys).1

end

end Collaborators

/-- An instance is gone, and everything else is as it was. -/
structure Removed
    (backend : Backend)
    (instanceName : String)
    (before after : Collaborators) : Prop where
  own :
    ∀ target,
      backend.Owns instanceName target →
      after.held? target = none
  others :
    ∀ (other : Backend) (otherName : String),
      isBackendType other.backendType = true →
      ¬(other.backendType = backend.backendType ∧
        otherName = instanceName) →
      ∀ target,
        other.Owns otherName target →
        after.held? target = before.held? target
  plans :
    ∀ planName,
      after.held? (.plan planName) = before.held? (.plan planName)
  references :
    ∀ reference content,
      before.secrets.resolve? reference = some content →
      before.secrets.reference? (backend.secretName instanceName) ≠
        some reference →
      after.secrets.resolve? reference = some content

/-- What the attempts to remove an instance come to from some state on. -/
structure RemovalLaw
    (backend : Backend)
    (instanceName : String)
    (before : Collaborators) : Prop where
  /-- An unsound name is refused, and nothing changes. -/
  refused :
    isInstanceName instanceName = false →
    ∀ outages,
      (before.tryRemoval backend instanceName outages).result =
          .error (.fault ⟨.instanceNameInvalid, [instanceName]⟩) ∧
        (before.tryRemoval backend instanceName outages).collaborators =
          { before with outages := outages }
  /-- A failed attempt breaks no reference and takes no more than its own. -/
  failed :
    ∀ outages failure,
      (before.tryRemoval backend instanceName outages).result =
        .error failure →
      (∀ reference content,
          before.secrets.resolve? reference = some content →
          (before.tryRemoval backend instanceName
            outages).collaborators.secrets.resolve? reference =
              some content) ∧
        ∀ target,
          (before.tryRemoval backend instanceName
              outages).collaborators.held? target = before.held? target ∨
            target = .deployment backend.planName instanceName ∧
              (before.tryRemoval backend instanceName
                outages).collaborators.held? target = none
  /-- Where an attempt breaks a reference, the variables are gone. -/
  ordered :
    ∀ outages reference content,
      before.secrets.resolve? reference = some content →
      (before.tryRemoval backend instanceName
          outages).collaborators.secrets.resolve? reference ≠ some content →
      (before.tryRemoval backend instanceName
          outages).collaborators.held?
            (.deployment backend.planName instanceName) = none
  /-- After any attempts, one that succeeds leaves nothing of the instance. -/
  repaired :
    ∀ tries outages value,
      (before.retryRemoval backend instanceName tries outages).result =
        .ok value →
      Removed backend instanceName before
        (before.retryRemoval backend instanceName tries outages).collaborators
  /-- Behind one that has succeeded, a further one succeeds without effect. -/
  settled :
    ∀ tries outages value,
      (before.retryRemoval backend instanceName tries outages).result =
        .ok value →
      ∀ further : List (Operation × String),
        (∀ outage ∈ further,
          outage.1 ≠ .destroy ∧ outage.1 ≠ .removeSecret) →
        ((before.retryRemoval backend instanceName tries
            outages).collaborators.tryRemoval backend instanceName
              further).result = .ok none ∧
          ((before.retryRemoval backend instanceName tries
              outages).collaborators.tryRemoval backend instanceName
                further).collaborators =
            { (before.retryRemoval backend instanceName tries
                outages).collaborators with outages := further }
  /-- With a recording engine in order, an attempt succeeds in the end. -/
  retried :
    isInstanceName instanceName = true →
    before.engine.isMemory = true →
    ∀ tries (outages : List (Operation × String)),
      (∀ outage ∈ outages,
        outage.1 ≠ .destroy ∧ outage.1 ≠ .removeSecret) →
      (before.retryRemoval backend instanceName tries outages).result =
        .ok none

/--
A removal that succeeds after others that did not has removed everything.
-/
theorem removed_of_tryRemoval
    {backend : Backend}
    (sound : isBackendType backend.backendType = true)
    {instanceName : String}
    {start before : Collaborators}
    (startSound : start.secrets.Sound)
    (beforeSound : before.secrets.Sound)
    (spared : Collaborators.Spares backend instanceName start before)
    {outages : List (Operation × String)}
    {value : Option DeploymentVariables}
    (succeeded :
      (before.tryRemoval backend instanceName outages).result = .ok value) :
    Removed backend instanceName start
      (before.tryRemoval backend instanceName outages).collaborators := by
  have removes :=
    Collaborators.tryRemoval_removes sound instanceName outages before
  have spares := spared.trans removes.spares
  rw [succeeded] at removes
  obtain ⟨valid, destroyed, dropped⟩ := removes.of_ok
  constructor
  case own =>
    rintro target (rfl | rfl)
    · exact destroyed.gone
    · simp only [Collaborators.held?, dropped, SecretStore.secret?_remove,
        if_true, Option.map_none]
  case others =>
    intro other otherName otherSound apart target owned
    exact spares.held?
      (Backend.not_owns_of_other sound otherSound apart owned)
  case plans =>
    intro planName
    refine spares.held? ?_
    rintro (same | same) <;> cases same
  case references =>
    intro reference content resolved foreign
    refine spares.resolve? startSound ?_ resolved foreign
    rw [dropped]
    exact beforeSound.remove _

/-- With a sound store of secrets the law of removal holds. -/
theorem removalLaw_of_sound
    {backend : Backend}
    (sound : isBackendType backend.backendType = true)
    (instanceName : String)
    {before : Collaborators}
    (secretsSound : before.secrets.Sound) :
    RemovalLaw backend instanceName before := by
  have removes := fun outages =>
    Collaborators.tryRemoval_removes sound instanceName outages before
  constructor
  case refused =>
    intro invalid outages
    rw [Collaborators.tryRemoval, Attempt.run_removal,
      Backend.removeInstance_eq_refused invalid]
    exact ⟨rfl, rfl⟩
  case failed =>
    intro outages failure fails
    have run := removes outages
    rw [fails] at run
    obtain ⟨sameSecrets, held⟩ := run.of_error
    rw [sameSecrets]
    exact ⟨fun _ _ resolved => resolved, held⟩
  case ordered =>
    intro outages reference content resolved broken
    have run := removes outages
    cases result : (before.tryRemoval backend instanceName outages).result with
    | error failure =>
        rw [result] at run
        rw [run.of_error.1] at broken
        exact absurd resolved broken
    | ok value =>
        rw [result] at run
        exact run.of_ok.2.1.gone
  case repaired =>
    intro tries outages value succeeded
    exact removed_of_tryRemoval sound secretsSound
      (Collaborators.sound_after secretsSound _)
      (Collaborators.afterRemovals_spares sound instanceName before tries)
      succeeded
  case settled =>
    intro tries outages value succeeded further available
    have run :=
      Collaborators.tryRemoval_removes sound instanceName outages
        (before.afterRemovals backend instanceName tries)
    unfold Collaborators.retryRemoval at succeeded ⊢
    rw [succeeded] at run
    exact run.again available
  case retried =>
    intro valid memory tries outages available
    exact Collaborators.tryRemoval_of_isMemory valid available
      (Collaborators.isMemory_after memory _)

/--
Removing an instance can be repeated until it succeeds.

From the state after any history on, with any engine and whatever fails before
it does anything: an unsound name changes nothing, a failed attempt breaks no
reference, no reference breaks before the variables are gone, and the attempt
that succeeds leaves nothing of the instance and everything else as it was.
Further attempts succeed and change nothing.
-/
theorem after_removalLaw
    {backend : Backend}
    (sound : isBackendType backend.backendType = true)
    (instanceName : String)
    (supply : ReferenceSupply)
    (engine : Engine)
    (history : List Attempt) :
    RemovalLaw backend instanceName
      ((Collaborators.ofEngine supply engine).after history) := by
  have start : (Collaborators.ofEngine supply engine).secrets.Sound :=
    SecretStore.sound_empty supply
  exact removalLaw_of_sound sound instanceName
    (Collaborators.sound_after start history)

/-- A run in which an update of one of two instances loses its secret. -/
def halfUpdatedRun : List Attempt :=
  let backend := Catalogue.dellPowerStore
  [⟨.register backend, []⟩,
    ⟨.add backend .default "ps" (powerStoreConfig "old"), []⟩,
    ⟨.add backend .default "ps-other" (powerStoreConfig "other"), []⟩,
    ⟨.add backend .default "ps" (powerStoreConfig "new"),
      [(.apply, "engine unreachable")]⟩]

/-- A removal that fails twice is repaired by a third attempt. -/
theorem after_removalLaw_halfUpdatedRun :
    let backend := Catalogue.dellPowerStore
    let before :=
      (Collaborators.ofEngine .numbered (.memory MemoryEngine.empty)).after
        halfUpdatedRun
    let tries :=
      [[(Operation.destroy, "engine unreachable")],
        [(Operation.removeSecret, "store sealed")]]
    let last := before.retryRemoval backend "ps" tries []
    (before.afterRemovals backend "ps" tries).held?
          (.deployment backend.planName "ps") = none ∧
      (before.afterRemovals backend "ps" tries).secrets.has
          (backend.secretName "ps") = true ∧
      last.result = .ok none ∧
      last.collaborators.held? (.deployment backend.planName "ps") = none ∧
      last.collaborators.held? (.secret (backend.secretName "ps")) = none ∧
      last.collaborators.held? (.secret (backend.secretName "ps-other")) =
        before.held? (.secret (backend.secretName "ps-other")) ∧
      (before.held? (.secret (backend.secretName "ps-other"))).isSome ∧
      (last.collaborators.tryRemoval backend "ps" []).collaborators =
        last.collaborators := by
  have sound :
      isBackendType Catalogue.dellPowerStore.backendType = true := by
    decide +kernel
  have law :=
    after_removalLaw sound "ps" .numbered (.memory MemoryEngine.empty)
      halfUpdatedRun
  have succeeded :=
    law.retried (by decide +kernel) rfl
      [[(Operation.destroy, "engine unreachable")],
        [(Operation.removeSecret, "store sealed")]] [] nofun
  have removed := law.repaired _ _ _ succeeded
  have otherApart :
      ¬(Catalogue.dellPowerStore.backendType =
          Catalogue.dellPowerStore.backendType ∧ "ps-other" = "ps") := by
    decide
  refine ⟨rfl, rfl, succeeded, removed.own _ (.inl rfl),
    removed.own _ (.inr rfl), ?_, rfl, ?_⟩
  · exact removed.others Catalogue.dellPowerStore "ps-other" sound otherApart _
      (.inr rfl)
  · exact (law.settled _ _ _ succeeded [] nofun).2

end StorageBackends
