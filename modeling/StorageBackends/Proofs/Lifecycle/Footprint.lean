import StorageBackends.Proofs.Deploy.Holdings
import StorageBackends.Proofs.Lifecycle.Invariant

namespace StorageBackends

/-!
# The footprint of an instance

Collaborators that are in order and serve the plan of a backend cannot fail an
addition or a removal that passes its argument checks: what the engine checks
once more behind the write of the secret has been settled before. Such a call
changes what is held at the variables and at the secret of its own instance,
and nothing else.
-/

namespace Collaborators

/-- What the collaborators hold at a target. -/
def held? (collaborators : Collaborators) : Target → Option Holding
  | .secret name => (collaborators.secrets.secret? name).map .secret
  | target => collaborators.engine.held? target

/-- Nothing is out of order, and nothing stands in the way of a file. -/
structure InOrder (collaborators : Collaborators) : Prop where
  noOutages : collaborators.outages = []
  clear : collaborators.engine.Clear

theorem InOrder.outage?
    {collaborators : Collaborators}
    (inOrder : collaborators.InOrder)
    (operation : Operation) :
    collaborators.outage? operation = none := by
  rw [Collaborators.outage?, inOrder.noOutages]
  rfl

/--
Collaborators are as much in order as others, serve the same plans, and hold
the same at the targets of some class.
-/
structure Keeps
    (spared : Target → Prop)
    (before after : Collaborators) : Prop where
  outages : after.outages = before.outages
  engine : before.engine.Keeps spared after.engine
  secrets :
    ∀ name,
      spared (.secret name) →
      after.secrets.secret? name = before.secrets.secret? name

namespace Keeps

variable
  {spared : Target → Prop}
  {before after : Collaborators}

theorem refl (spared : Target → Prop) (before : Collaborators) :
    before.Keeps spared before :=
  ⟨rfl, .refl spared before.engine, fun _ _ => rfl⟩

theorem held?
    (keeps : before.Keeps spared after)
    {target : Target}
    (isSpared : spared target) :
    after.held? target = before.held? target := by
  cases target with
  | plan planName => exact keeps.engine.held _ isSpared
  | deployment planName instanceName => exact keeps.engine.held _ isSpared
  | secret name =>
      simp only [Collaborators.held?, keeps.secrets name isSpared]

theorem inOrder
    (keeps : before.Keeps spared after)
    (inOrder : before.InOrder) :
    after.InOrder :=
  ⟨keeps.outages.trans inOrder.noOutages, keeps.engine.clear inOrder.clear⟩

end Keeps

/-- A check of the engine changes nothing that is held. -/
theorem healthy_keeps (before : Collaborators) :
    before.healthy.2.secrets = before.secrets ∧
      before.Keeps (fun _ => True) before.healthy.2 := by
  unfold healthy
  split
  · exact ⟨rfl, .refl _ before⟩
  · split
    · exact ⟨rfl, .refl _ before⟩
    · exact ⟨rfl, rfl, before.engine.healthy_keeps, fun _ _ => rfl⟩

end Collaborators

namespace Backend

/-- The targets of an instance: its variables and its secret. -/
def Owns
    (backend : Backend)
    (instanceName : String)
    (target : Target) : Prop :=
  target = .deployment backend.planName instanceName ∨
    target = .secret (backend.secretName instanceName)

/-- The targets of two instances with sound types are apart. -/
theorem not_owns_of_other
    {backend other : Backend}
    (sound : isBackendType backend.backendType = true)
    (otherSound : isBackendType other.backendType = true)
    {instanceName otherName : String}
    (apart :
      ¬(other.backendType = backend.backendType ∧ otherName = instanceName))
    {target : Target}
    (owned : other.Owns otherName target) :
    ¬backend.Owns instanceName target := by
  rintro ownedToo
  rcases owned with rfl | rfl
  · rcases ownedToo with same | same
    · obtain ⟨samePlan, sameName⟩ := Target.deployment.inj same
      refine apart ((jointKey_inj otherSound sound).1 ?_)
      rw [samePlan, sameName]
    · cases same
  · rcases ownedToo with same | same
    · cases same
    · exact apart
        ((secretName_inj otherSound sound).1 (Target.secret.inj same))

variable
  {backend : Backend}
  {instanceName : String}
  {before : Collaborators}

/-- A secret is stored at the target of its instance. -/
private theorem secret?_storeSecret
    (config : ValidatedConfig)
    {name : String}
    (apart : name ≠ backend.secretName instanceName) :
    (backend.storeSecret config instanceName before.secrets).2.secret? name =
      before.secrets.secret? name := by
  unfold storeSecret
  split
  · rfl
  · exact (SecretStore.secret?_put _ _ _ _).trans (if_neg apart)

/-- An own configuration is applied by collaborators that serve its plan. -/
theorem addInstance_of_serves
    (sound : isBackendType backend.backendType = true)
    (valid : isInstanceName instanceName = true)
    {handed : HandedConfig}
    {config : ValidatedConfig}
    (own : backend.ownConfig handed = .ok config)
    (inOrder : before.InOrder)
    (serves : before.engine.Serves backend.planName)
    (spaces : NetworkSpaces) :
    ∃ deployment,
      ((backend.addInstance spaces instanceName handed).run before).result =
          .ok deployment ∧
        before.Keeps (¬backend.Owns instanceName ·)
          ((backend.addInstance spaces instanceName handed).run
            before).collaborators := by
  have run := backend.addInstance_run spaces instanceName handed before
  generalize (backend.addInstance spaces instanceName handed).run before =
    outcome at run
  cases run with
  | refused failure unchecked =>
      rcases unchecked with invalid | ⟨error, foreign⟩
      · rw [valid] at invalid
        cases invalid
      · rw [own] at foreign
        cases foreign
  | unstored _ failure _ _ _ outage =>
      rw [inOrder.outage?] at outage
      cases outage
  | stored stored _ _ available =>
      obtain ⟨next, applied, keeps⟩ :=
        Engine.apply_of_serves
          (Engine.accepts_of_isInstanceName sound valid) inOrder.clear serves
          (backend.variablesOf stored instanceName
            (backend.storeSecret stored instanceName before.secrets).1
            spaces).toJson
      have noOutage :
          { before with
            secrets :=
              (backend.storeSecret stored instanceName
                before.secrets).2 }.outage? .apply = none :=
        inOrder.outage? .apply
      simp only [applyConfig, Program.run, Collaborators.apply,
        Collaborators.callEngine, noOutage, applied, Program.outcomeAfter]
      refine ⟨_, rfl, rfl, ?_, ?_⟩
      · exact keeps.mono fun target apart same => apart (.inl same)
      · intro name apart
        exact secret?_storeSecret stored
          fun same => apart (.inr (congrArg Target.secret same))

/-- An instance is removed by collaborators that serve its plan. -/
theorem removeInstance_of_serves
    (sound : isBackendType backend.backendType = true)
    (valid : isInstanceName instanceName = true)
    (inOrder : before.InOrder)
    (serves : before.engine.Serves backend.planName) :
    ((backend.removeInstance instanceName).run before).result = .ok () ∧
      before.Keeps (¬backend.Owns instanceName ·)
        ((backend.removeInstance instanceName).run before).collaborators ∧
      ∀ target,
        backend.Owns instanceName target →
        ((backend.removeInstance instanceName).run
          before).collaborators.held? target = none := by
  obtain ⟨next, destroyed, keeps, gone⟩ :=
    Engine.destroy_of_serves
      (Engine.accepts_of_isInstanceName sound valid) inOrder.clear serves
  have called :
      before.destroy backend.planName instanceName =
        (.ok (), { before with engine := next }) := by
    simp only [Collaborators.destroy, Collaborators.callEngine,
      inOrder.outage?, destroyed]
  have run := backend.removeInstance_run instanceName before
  generalize (backend.removeInstance instanceName).run before = outcome
    at run
  cases run with
  | refused failure invalid =>
      rw [valid] at invalid
      cases invalid
  | undestroyed failure after _ refused =>
      rw [called] at refused
      cases refused
  | kept failure after _ succeeds outage =>
      rw [called] at succeeds
      cases succeeds
      have noOutage :
          { before with engine := next }.outage? .removeSecret = none :=
        inOrder.outage? .removeSecret
      rw [noOutage] at outage
      cases outage
  | removed after _ succeeds available =>
      rw [called] at succeeds
      cases succeeds
      refine ⟨rfl, ⟨rfl, ?_, ?_⟩, ?_⟩
      · exact keeps.mono fun target apart same => apart (.inl same)
      · intro name apart
        refine (SecretStore.secret?_remove _ _ _).trans (if_neg ?_)
        exact fun same => apart (.inr (congrArg Target.secret same))
      · rintro target (rfl | rfl)
        · exact gone
        · simp only [Collaborators.held?, SecretStore.secret?_remove, if_true,
            Option.map_none]

/-- A registered plan is served from then on, beside the others. -/
theorem registerPlan_run_ok
    (inOrder : before.InOrder)
    (registered : (backend.registerPlan.run before).result = .ok ()) :
    (backend.registerPlan.run before).collaborators.InOrder ∧
      (backend.registerPlan.run before).collaborators.engine.Serves
        backend.planName ∧
      ∀ other,
        before.engine.Serves other →
        (backend.registerPlan.run before).collaborators.engine.Serves
          other := by
  rcases called :
      before.engine.registerPlan backend.plan.name backend.plan.toJson with
    ⟨failure | done, next⟩
  · simp [registerPlan, Program.run, Collaborators.registerPlan,
      Collaborators.callEngine, inOrder.outage?, called,
      Program.outcomeAfter] at registered
  · obtain ⟨clear, serves, others⟩ :=
      Engine.registerPlan_eq_ok inOrder.clear called
    simp only [registerPlan, Program.run, Collaborators.registerPlan,
      Collaborators.callEngine, inOrder.outage?, called,
      Program.outcomeAfter]
    exact ⟨⟨inOrder.noOutages, clear⟩, serves, others⟩

end Backend

end StorageBackends
