import StorageBackends.Proofs.Backend.Description
import StorageBackends.Proofs.Deploy.Plans
import StorageBackends.Proofs.Http.Calls

namespace StorageBackends

/-!
# Faults of deployment engines

A server has registered the plans of all its backends when it starts, and no
request takes one of them away. The names of registered types and of instances
are sound for every engine, so the calls that requests make fail for an outage,
for the file store or for the name of an instance, and no request ends with a
fault of a deployment engine.
-/

/-- The faults of deployment engines. -/
def FaultKind.ofEngines : List FaultKind :=
  [.unsafeName, .planNotRegistered]

/-- The failures that calls may end with whose plan is held. -/
inductive Failure.Foreseen : Failure → Prop where
  | outage (message : String) : Foreseen (.collaborator message)
  | store (error : StorageError) : Foreseen (.storage error)
  | name (instanceName : String) :
      Foreseen (.fault ⟨.instanceNameInvalid, [instanceName]⟩)

namespace Collaborators

/-- An outage fails with the message that was arranged for it. -/
theorem outage?_eq_some
    {collaborators : Collaborators}
    {operation : Operation}
    {failure : Failure}
    (outage : collaborators.outage? operation = some failure) :
    ∃ message,
      collaborators.outages.lookup operation = some message ∧
        failure = .collaborator message := by
  obtain ⟨message, found, rfl⟩ := Option.map_eq_some_iff.1 outage
  exact ⟨message, found, rfl⟩

/-- A call of the engine that fails in its store only fails as foreseen. -/
private theorem foreseen_of_callEngine
    {before after : Collaborators}
    {operation : Operation}
    {call : Engine → Except Failure Unit × Engine}
    {failure : Failure}
    (stored :
      call before.engine = (.error failure, after.engine) →
        ∃ error, failure = .storage error)
    (called :
      before.callEngine operation call = (.error failure, after)) :
    failure.Foreseen := by
  rcases callEngine_eq_error called with ⟨outage, -⟩ | ⟨failed, -⟩
  · obtain ⟨message, -, rfl⟩ := outage?_eq_some outage
    exact .outage message
  · obtain ⟨error, rfl⟩ := stored failed
    exact .store error

/-- An operation on instances changes no plan. -/
def OnInstances : Target → Prop
  | .plan _ => False
  | _ => True

/-- The plans of some backends are held. -/
def HoldsPlans (backends : List Backend) (collaborators : Collaborators) :
    Prop :=
  ∀ backend ∈ backends,
    collaborators.engine.HoldsPlan backend.planName backend.plan.toJson

/-- Operations on instances let the engine hold its plans. -/
theorem HoldsPlans.invariant (backends : List Backend) :
    Invariant OnInstances (HoldsPlans backends) where
  registerPlan := fun onPlan => onPlan.elim
  apply := fun _ deployment start =>
    callEngine_keeps (HoldsPlans backends) start fun backend listed =>
      (start backend listed).apply _ _ deployment
  destroy := fun _ start =>
    callEngine_keeps (HoldsPlans backends) start fun backend listed =>
      (start backend listed).destroy _ _
  putSecret := fun _ _ start =>
    putSecret_keeps (HoldsPlans backends) start start
  removeSecret := fun _ start =>
    removeSecret_keeps (HoldsPlans backends) start start

/-- A look at the health lets the engine hold its plans. -/
theorem HoldsPlans.healthy
    {backends : List Backend}
    {collaborators : Collaborators}
    (held : HoldsPlans backends collaborators) :
    HoldsPlans backends collaborators.healthy.2 := by
  unfold Collaborators.healthy
  split
  · exact held
  · split
    · exact held
    · exact fun backend listed => (held backend listed).healthy

end Collaborators

namespace Program.Outcome

/-- An outcome with a foreseen failure, if any, and without a code in its lines. -/
structure Foreseen {α : Type} (outcome : Outcome α) : Prop where
  failed : ∀ failure, outcome.result = .error failure → failure.Foreseen
  lines : ∀ line ∈ outcome.lines, "code" ∉ Record.keys line.members

namespace Foreseen

/-- A failure that was foreseen makes a foreseen outcome. -/
theorem error
    {α : Type}
    {failure : Failure}
    (foreseen : failure.Foreseen)
    (collaborators : Collaborators) :
    Foreseen (⟨.error failure, [], collaborators⟩ : Outcome α) where
  failed := fun _ failed => Except.error.inj failed ▸ foreseen
  lines := nofun

/-- A success whose line has no code is foreseen. -/
theorem ok
    {α : Type}
    (value : α)
    {line : LogLine}
    (codeless : "code" ∉ Record.keys line.members)
    (collaborators : Collaborators) :
    Foreseen ⟨.ok value, [line], collaborators⟩ where
  failed := nofun
  lines := fun _ listed => List.mem_singleton.1 listed ▸ codeless

theorem map
    {α β : Type}
    {outcome : Outcome α}
    (foreseen : outcome.Foreseen)
    (f : α → β) :
    (outcome.map f).Foreseen where
  failed := fun failure failed =>
    foreseen.failed failure (map_result_eq_error failed)
  lines := foreseen.lines

end Foreseen

end Program.Outcome

namespace Backend

variable
  {backend : Backend}
  {instanceName : String}
  {before : Collaborators}

/-- An instance is applied, or its application fails as foreseen. -/
private theorem applyConfig_run_foreseen
    (held :
      before.engine.HoldsPlan backend.planName backend.plan.toJson)
    (accepts : Engine.Accepts backend.planName instanceName)
    (config : ValidatedConfig)
    (secretRef : Option String)
    (spaces : NetworkSpaces) :
    ((backend.applyConfig config instanceName secretRef spaces).run
      before).Foreseen := by
  simp only [applyConfig, Program.run]
  rcases called :
      before.apply backend.planName instanceName
        (backend.variablesOf config instanceName secretRef spaces).toJson with
    ⟨failure | done, after⟩
  · refine .error (Collaborators.foreseen_of_callEngine ?_ called) after
    exact fun failed => held.serves.apply_eq_error accepts failed
  · exact .ok _ (by simp [appliedLine, Record.keys]) after

/-- With the plan held, an addition fails in foreseen ways only. -/
theorem addInstance_run_foreseen
    (sound : isBackendType backend.backendType = true)
    (held :
      before.engine.HoldsPlan backend.planName backend.plan.toJson)
    {handed : HandedConfig}
    {config : ValidatedConfig}
    (own : backend.ownConfig handed = .ok config)
    (spaces : NetworkSpaces)
    (instanceName : String) :
    ((backend.addInstance spaces instanceName handed).run
      before).Foreseen := by
  cases valid : isInstanceName instanceName with
  | false =>
      rw [addInstance_eq_refused valid]
      exact .error (.name instanceName) before
  | true =>
      have accepts := Engine.accepts_of_isInstanceName sound valid
      have ways := backend.addInstance_run spaces instanceName handed before
      generalize
        (backend.addInstance spaces instanceName handed).run before = outcome
        at ways ⊢
      cases ways with
      | refused failure unchecked =>
          exfalso
          rcases unchecked with invalid | ⟨error, foreign⟩
          · rw [valid] at invalid
            cases invalid
          · rw [own] at foreign
            cases foreign
      | unstored config failure valid own secret outage =>
          obtain ⟨message, -, rfl⟩ := Collaborators.outage?_eq_some outage
          exact .error (.outage message) before
      | stored config valid own available =>
          -- Storing a secret has not touched the engine.
          have sameEngine :
              ({ before with
                secrets :=
                  (backend.storeSecret config instanceName
                    before.secrets).2 } : Collaborators).engine.HoldsPlan
                backend.planName backend.plan.toJson :=
            held
          exact applyConfig_run_foreseen sameEngine accepts config _ spaces

/-- A removal by a sound backend fails in foreseen ways only. -/
theorem removeInstance_run_foreseen
    (sound : isBackendType backend.backendType = true)
    (instanceName : String)
    (before : Collaborators) :
    ((backend.removeInstance instanceName).run before).Foreseen := by
  cases valid : isInstanceName instanceName with
  | false =>
      rw [removeInstance_eq_refused valid]
      exact .error (.name instanceName) before
  | true =>
      have accepts := Engine.accepts_of_isInstanceName sound valid
      have ways := backend.removeInstance_run instanceName before
      generalize (backend.removeInstance instanceName).run before = outcome
        at ways ⊢
      cases ways with
      | refused failure invalid =>
          rw [valid] at invalid
          cases invalid
      | undestroyed failure after valid called =>
          refine .error (Collaborators.foreseen_of_callEngine ?_ called) after
          exact fun failed => accepts.destroy_eq_error failed
      | kept failure after valid called outage =>
          obtain ⟨message, -, rfl⟩ := Collaborators.outage?_eq_some outage
          exact .error (.outage message) after
      | removed after valid called available =>
          exact .ok () (by simp [removedLine, Record.keys]) _

/-- A plan whose registration succeeds is held, and so are all other plans. -/
theorem registerPlan_run_holds
    {result : Unit}
    (registered : (backend.registerPlan.run before).result = .ok result) :
    let after := (backend.registerPlan.run before).collaborators
    after.engine.HoldsPlan backend.planName backend.plan.toJson ∧
      ∀ other plan,
        other ≠ backend.planName →
        before.engine.HoldsPlan other plan →
        after.engine.HoldsPlan other plan := by
  simp only [registerPlan, Program.run] at registered ⊢
  rcases called :
      before.registerPlan backend.plan.name backend.plan.toJson with
    ⟨failure | done, after⟩
  · rw [called] at registered
    cases registered
  · obtain ⟨succeeds, -⟩ := Collaborators.callEngine_eq_ok called
    refine ⟨Engine.holdsPlan_of_registerPlan succeeds, ?_⟩
    intro other plan apart held
    have kept := held.registerPlan apart backend.plan.toJson
    rwa [show before.engine.registerPlan backend.planName
        backend.plan.toJson = (.ok (), after.engine) from succeeds] at kept

end Backend

namespace Http

/-- No foreseen failure has a code of deployment. -/
theorem not_isDeploymentCode_of_foreseen
    {failure : Failure}
    (foreseen : failure.Foreseen) :
    ¬IsDeploymentCode (ErrorReport.ofFailure failure).shownCode := by
  cases foreseen with
  | outage message =>
      show ¬IsDeploymentCode ErrorReport.internalCode
      decide
  | store error =>
      show ¬IsDeploymentCode error.code
      cases error <;> decide
  | name instanceName =>
      show ¬IsDeploymentCode FaultKind.instanceNameInvalid.code
      decide

namespace Server

/-- The plan of every registered backend is held. -/
def Planned (server : Server) : Prop :=
  server.collaborators.HoldsPlans server.registry.backends

/-- The calls that requests make are about instances. -/
theorem Decides.onInstances
    {server : Server}
    {params : Record String}
    {body : Option Json}
    {route : Route}
    {call : Call}
    (decides : server.Decides params body route call) :
    call.program.Within Collaborators.OnInstances := by
  cases decides with
  | put names named raw given backend found config accepted =>
      exact (Backend.addInstance_within True.intro True.intro _ _).map some
  | delete names named backend found =>
      exact (Backend.removeInstance_within True.intro True.intro).map _

/-- The call of a request ends as foreseen if its plan is held. -/
theorem Decides.run_foreseen
    {server : Server}
    {params : Record String}
    {body : Option Json}
    {route : Route}
    {call : Call}
    (decides : server.Decides params body route call)
    (planned : server.Planned) :
    (call.program.run server.collaborators).Foreseen := by
  have sound := server.registry.isBackendType_of_listed decides.listed
  have held := planned call.backend decides.listed
  cases decides with
  | put names named raw given backend found config accepted =>
      simp only [Call.program, Program.run_map]
      exact (Backend.addInstance_run_foreseen sound held
        (Backend.ownConfig_of_accepted accepted) _ _).map some
  | delete names named backend found =>
      simp only [Call.program, Program.run_map]
      exact (Backend.removeInstance_run_foreseen sound _ _).map _

/-- The answer to a call that succeeds tells no code. -/
private theorem not_tells_answer
    (call : Call)
    (deployment : Option DeploymentVariables)
    (code : String) :
    ¬(call.answer deployment).content.Tells code := by
  have added : ∀ params (deployment : DeploymentVariables),
      ¬(Content.json (Payload.InstanceResponse.mk params
        deployment).toJson).Tells code :=
    fun params deployment =>
      Content.not_tells_obj (by simp [Record.keys]) (by simp [Record.keys])
        code
  cases call with
  | add backend spaces instanceName handed =>
      cases deployment with
      | some deployment => exact added _ deployment
      | none => exact Content.not_tells_empty code
  | _ => exact Content.not_tells_empty code

/-- A call that ends as foreseen has no code of a deployment engine to tell. -/
private theorem discreet_handleCall
    {server : Server}
    {call : Call}
    (foreseen : (call.program.run server.collaborators).Foreseen) :
    (server.handleCall call).Discreet := by
  constructor
  · intro report failed
    simp only [handleCall, runProgram] at failed
    split at failed
    · cases failed
    · rename_i failure ended
      cases failed
      exact not_isDeploymentCode_of_foreseen (foreseen.failed failure ended)
  · intro answer answered code
    simp only [handleCall, runProgram] at answered
    split at answered
    · cases answered
      exact not_tells_answer call _ code
    · cases answered
  · intro line listed
    exact LogLine.not_tells (foreseen.lines line listed)

/-- The report of health tells no code of deployment. -/
private theorem discreet_health (server : Server) (moment : Moment) :
    (server.health moment).Discreet := by
  refine ⟨nofun, ?_, nofun⟩
  intro answer answered code
  cases answered
  exact Content.not_tells_obj (by simp [Record.keys])
    (by simp [Record.keys]) code

/-- What a request does where all plans are held. -/
structure DeploymentLaw (server : Server) (visit : Visit) : Prop where
  /-- The plan of every backend that a route can reach is held as its own. -/
  plans :
    ∀ backendType backend,
      server.registry.find? backendType = some backend →
      server.collaborators.engine.HoldsPlan backend.planName
        backend.plan.toJson
  /-- Engines take the names of the plans, and all names of instances. -/
  names :
    ∀ backendType backend,
      server.registry.find? backendType = some backend →
      isSafeName backend.planName = true ∧
        ∀ instanceName,
          isInstanceName instanceName = true →
          Engine.Accepts backend.planName instanceName
  /-- The request does not fail with a fault of a deployment engine. -/
  replies :
    ∀ kind ∈ FaultKind.ofEngines,
      ¬(server.serve visit).1.Tells kind.code

namespace Planned

variable {server : Server}

/-- A request that is served leaves all plans as they are. -/
theorem serve
    (planned : server.Planned)
    (visit : Visit) :
    (server.serve visit).2.Planned := by
  have keepsRegistry := server.registry_serve visit
  unfold Planned
  rw [keepsRegistry]
  cases server.course visit with
  | aside exchange tallies discreet serves =>
      rw [show server.serve visit = _ from serves server.collaborators]
      exact planned
  | checks params arrives headers serves =>
      rw [show server.serve visit = _ from serves server.collaborators]
      exact Collaborators.HoldsPlans.healthy planned
  | calls call makes destination headers serves =>
      rw [show server.serve visit = _ from serves server.collaborators]
      obtain ⟨route, params, body, -, decides⟩ := makes
      exact Program.run_invariant (Collaborators.HoldsPlans.invariant _)
        decides.onInstances planned

/-- A server stays planned through every run. -/
theorem serveAll
    (planned : server.Planned)
    (visits : List Visit) :
    (server.serveAll visits).2.Planned := by
  induction visits generalizing server with
  | nil => exact planned
  | cons visit rest inductionHypothesis =>
      exact inductionHypothesis (planned.serve visit)

/-- A planned server tells no code of deployment, whatever it is asked. -/
theorem not_tells
    (planned : server.Planned)
    (visit : Visit)
    {code : String}
    (told : (server.serve visit).1.Tells code) :
    ¬IsDeploymentCode code := by
  have concluded :
      ∀ {destination headers handling},
        handling.Discreet →
        (server.conclude visit destination headers handling).1.Tells code →
        ¬IsDeploymentCode code := by
    intro destination headers handling discreet told
    refine discreet.not_tells (tells_exchange ?_ told)
    intro line listed
    rw [List.mem_singleton.1 listed]
    exact not_tells_incomingLine visit code
  cases server.course visit with
  | aside exchange tallies discreet serves =>
      rw [show server.serve visit = _ from serves server.collaborators]
        at told
      exact discreet code told
  | checks params arrives headers serves =>
      rw [show server.serve visit = _ from serves server.collaborators]
        at told
      exact concluded (server.discreet_health visit.moment) told
  | calls call makes destination headers serves =>
      rw [show server.serve visit = _ from serves server.collaborators]
        at told
      obtain ⟨route, params, body, -, decides⟩ := makes
      exact concluded (discreet_handleCall (decides.run_foreseen planned))
        told

/-- A planned server obeys the law at the next visit. -/
theorem deploymentLaw
    (planned : server.Planned)
    (visit : Visit) :
    server.DeploymentLaw visit where
  plans := fun backendType backend found =>
    planned backend (List.mem_of_find?_eq_some found)
  names := by
    intro backendType backend found
    have sound :=
      server.registry.isBackendType_of_listed (List.mem_of_find?_eq_some found)
    exact ⟨backend.isSafeName_planName sound,
      fun instanceName valid => Engine.accepts_of_isInstanceName sound valid⟩
  replies := by
    intro kind listed told
    have coded : ∀ kind ∈ FaultKind.ofEngines, IsDeploymentCode kind.code := by
      decide
    exact planned.not_tells visit told (coded kind listed)

end Planned

/-- Plans of distinct names that were registered in turn are all held. -/
private theorem registerPlans_holds
    {collaborators ready : Collaborators}
    {backends : List Backend}
    (distinct : (backends.map Backend.planName).Nodup)
    (registered : registerPlans collaborators backends = .ok ready) :
    ready.HoldsPlans backends ∧
      ∀ planName plan,
        planName ∉ backends.map Backend.planName →
        collaborators.engine.HoldsPlan planName plan →
        ready.engine.HoldsPlan planName plan := by
  induction backends generalizing collaborators with
  | nil =>
      cases registered
      exact ⟨nofun, fun _ _ _ held => held⟩
  | cons backend rest inductionHypothesis =>
      obtain ⟨fresh, others⟩ := List.nodup_cons.1 distinct
      simp only [registerPlans] at registered
      split at registered
      · rename_i succeeds
        obtain ⟨held, kept⟩ := Backend.registerPlan_run_holds succeeds
        obtain ⟨restHeld, restKept⟩ := inductionHypothesis others registered
        refine ⟨List.forall_mem_cons.2 ⟨?_, restHeld⟩, ?_⟩
        · -- The registrations behind this one are of other names.
          exact restKept _ _ fresh held
        · intro planName plan absent before
          rw [List.map_cons, List.mem_cons, not_or] at absent
          obtain ⟨notFirst, notRest⟩ := absent
          exact restKept _ _ notRest (kept _ _ notFirst before)
      · cases registered

/-- A server that has started holds the plans of all its backends. -/
theorem planned_of_start
    {config : Service.Config}
    {registry : Registry}
    {collaborators : Collaborators}
    {server : Server}
    (started : start config registry collaborators = .ok server) :
    server.Planned := by
  have distinct : (registry.backends.map Backend.planName).Nodup := by
    have lead : registry.backends.map Backend.planName =
        (registry.backends.map Backend.backendType).map
          ("storage-backend-" ++ ·) := by
      rw [List.map_map]
      rfl
    rw [lead]
    refine registry.distinctTypes.map fun first second same => ?_
    exact (String.append_right_inj "storage-backend-").1 same
  unfold start at started
  split at started
  · cases started
  · rename_i ready registered
    cases started
    exact (registerPlans_holds distinct registered).1

/--
A server that has started, over whatever registry and collaborators, never
fails a request with a fault of a deployment engine: at any point of a run the
plans are held and engines take all names.
-/
theorem serveAll_deploymentLaw
    {config : Service.Config}
    {registry : Registry}
    {collaborators : Collaborators}
    {server : Server}
    (started : start config registry collaborators = .ok server)
    (earlier : List Visit)
    (visit : Visit) :
    (server.serveAll earlier).2.DeploymentLaw visit :=
  ((planned_of_start started).serveAll earlier).deploymentLaw visit

/-- The removal of an instance that was applied into files is such a request. -/
theorem serveAll_deploymentLaw_removal :
    ∃ server,
      fileServer = .ok server ∧
        (server.serveAll [passwordVisit "old"]).2.DeploymentLaw
          removalVisit := by
  have starts : fileServer.isOk = true := by decide +kernel
  cases started : fileServer with
  | error failure =>
      rw [started] at starts
      cases starts
  | ok server =>
      exact ⟨server, rfl,
        serveAll_deploymentLaw started [passwordVisit "old"] removalVisit⟩

end Server

end Http

end StorageBackends
