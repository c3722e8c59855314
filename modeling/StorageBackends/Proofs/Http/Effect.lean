import StorageBackends.Proofs.Backend.Description
import StorageBackends.Proofs.Backend.Partition
import StorageBackends.Proofs.Document.Decoder
import StorageBackends.Proofs.Http.Secrecy
import StorageBackends.Proofs.Http.Status
import StorageBackends.Proofs.Lifecycle.Footprint

namespace StorageBackends.Http

open StorageBackends.Document

/-!
# What requests change

A request is answered without being handled, or it is handled in the way of
its route. Of all routes only those of instances run a program, and a program
is run only behind all checks, so a server whose collaborators are in order
changes nothing unless it applies an instance or removes one; it then answers
with the status of that, and changes the targets of that instance only.
-/

/-- A request leads to a route. -/
def Visit.Reaches (visit : Visit) (route : Route) : Prop :=
  ∃ params,
    Destination.ofTarget visit.verb visit.request.target =
      .ok ⟨some route, params⟩

namespace Server

/-- The ways in which a request can be served, with status and collaborators. -/
inductive ServeRun (server : Server) (visit : Visit) :
    Nat → Collaborators → Prop where
  /-- The request has no route that handles it, or is refused before that. -/
  | aside
      (status : Nat)
      (refused :
        ∀ route, route ≠ .options → visit.Reaches route → 400 ≤ status) :
      ServeRun server visit status server.collaborators
  /-- The request is handled in the way of its route. -/
  | handled
      (route : Route)
      (params : Record String)
      (arrives :
        Destination.ofTarget visit.verb visit.request.target =
          .ok ⟨some route, params⟩)
      (body : Option Json)
      (handling : Handling)
      (handles :
        server.handleRoute visit.moment params body route = some handling) :
      ServeRun server visit handling.status handling.collaborators

/-- Requests whose bodies cannot be read are refused. -/
private theorem sentStatus_problem (problem : Body.Problem) :
    400 ≤ problem.report.sentStatus := by
  cases problem <;> decide +kernel

/--
A known route is reached with its body, or nothing happens to the
collaborators.
-/
private theorem handleBody_run
    {server : Server}
    {visit : Visit}
    {route : Route}
    {params : Record String}
    (arrives :
      Destination.ofTarget visit.verb visit.request.target =
        .ok ⟨some route, params⟩)
    (headers : List (String × String)) :
    ServeRun server visit
      (server.handleBody visit ⟨some route, params⟩ headers).1.status
      (server.handleBody visit ⟨some route, params⟩
        headers).2.collaborators := by
  have isRoute :
      ∀ {status : Nat},
        (route ≠ .options → 400 ≤ status) →
        ∀ other, other ≠ .options → visit.Reaches other → 400 ≤ status := by
    rintro status refused other known ⟨otherParams, reached⟩
    rw [arrives] at reached
    cases reached
    exact refused known
  unfold handleBody
  cases read : Body.ofRequest (some route).isSome visit.request with
  | error problem =>
      refine .aside _ (isRoute fun known => ?_)
      dsimp only [endEarly]
      rw [if_neg (by simpa using known), status_endWithError]
      exact sentStatus_problem problem
  | ok body =>
      cases handles : server.handleRoute visit.moment params body route with
      | none =>
          simp only [Option.bind_some, handles]
          have unhandled : route = .options := by
            cases route <;> first | rfl | cases handles
          exact .aside _ (isRoute fun known => absurd unhandled known)
      | some handling =>
          simp only [Option.bind_some, handles, status_endHandled]
          exact .handled route params arrives body handling handles

/-- Serving is the same once the visit is counted. -/
private theorem ServeRun.of_counting
    {server : Server}
    {visit : Visit}
    {status : Nat}
    {after : Collaborators}
    (run : ServeRun (server.counting visit) visit status after) :
    ServeRun server visit status after := by
  cases run with
  | aside status refused => exact .aside status refused
  | handled route params arrives body handling handles =>
      rw [handleRoute_counting] at handles
      exact .handled route params arrives body handling handles

/-- A request that leads nowhere changes nothing. -/
private theorem handleBody_unknown
    (server : Server)
    (visit : Visit)
    (params : Record String)
    (headers : List (String × String)) :
    (server.handleBody visit ⟨none, params⟩ headers).2 = server := by
  unfold handleBody
  cases Body.ofRequest (none : Option Route).isSome visit.request <;> rfl

/-- Every request is served in one of these ways. -/
theorem serve_run (server : Server) (visit : Visit) :
    ServeRun server visit (server.serve visit).1.reply.status
      (server.serve visit).2.collaborators := by
  unfold serve
  cases arrives : Destination.ofTarget visit.verb visit.request.target with
  | error problem =>
      refine .aside _ ?_
      rintro route known ⟨params, reached⟩
      rw [arrives] at reached
      cases reached
  | ok destination =>
      cases preflight : server.isPreflight visit.request with
      | true =>
          refine .aside _ ?_
          rintro route known ⟨params, reached⟩
          have options : visit.verb = "OPTIONS" := by
            simp only [isPreflight, Bool.and_eq_true, beq_iff_eq] at preflight
            exact preflight.2
          exact absurd options (Destination.verb_ne_options reached
            (by simpa using known))
      | false =>
          simp only [Bool.false_eq_true, if_false, exchange]
          rcases destination with ⟨_ | route, params⟩
          · have unchanged := handleBody_unknown server visit params []
            rw [show (server.handleCounted visit ⟨none, params⟩).2 = server
              from unchanged]
            refine .aside _ ?_
            rintro route known ⟨otherParams, reached⟩
            rw [arrives] at reached
            cases reached
          · cases beyond : server.isBeyondLimit visit with
            | true =>
                rw [handleCounted_beyond beyond]
                refine .aside _ ?_
                rintro other known ⟨otherParams, reached⟩
                rw [arrives] at reached
                cases reached
                dsimp only [endEarly]
                rw [if_neg (by simpa using known), status_endWithError]
                exact Nat.le_of_ble_eq_true rfl
            | false =>
                rw [handleCounted_within beyond]
                exact (handleBody_run arrives _).of_counting

/-- The collaborators are in order and serve the plan of every backend. -/
structure Ready (server : Server) : Prop where
  inOrder : server.collaborators.InOrder
  serves :
    ∀ backend ∈ server.registry.backends,
      server.collaborators.engine.Serves backend.planName

/--
The ways in which an instance can be handled: it is refused and nothing
changes, or its backend is found and nothing but its own targets changes.
-/
inductive InstanceRun
    (server : Server)
    (params : Payload.InstanceParams)
    (success : Nat)
    (left : Backend → Collaborators → Prop) :
    Handling → Prop where
  | refused
      (handling : Handling)
      (status : 400 ≤ handling.status)
      (same : handling.collaborators = server.collaborators) :
      InstanceRun server params success left handling
  | succeeded
      (handling : Handling)
      (status : handling.status = success)
      (backend : Backend)
      (found : server.registry.find? params.backendType = some backend)
      (keeps :
        server.collaborators.Keeps (¬backend.Owns params.instanceName ·)
          handling.collaborators)
      (leaves : left backend handling.collaborators) :
      InstanceRun server params success left handling

/-- Every failure is answered as an error. -/
private theorem sentStatus_failure (failure : Failure) :
    400 ≤ (ErrorReport.ofFailure failure).sentStatus := by
  rw [ErrorReport.sentStatus_ofFailure]
  cases failure with
  | fault fault =>
      rcases fault with ⟨kind, arguments⟩
      cases kind <;> exact Nat.le_of_ble_eq_true rfl
  | _ => exact Nat.le_of_ble_eq_true rfl

namespace InstanceRun

variable
  {server : Server}
  {params : Payload.InstanceParams}
  {success : Nat}
  {left : Backend → Collaborators → Prop}

/-- A refusal is a run that touches nothing. -/
theorem refuse (failure : Failure) :
    InstanceRun server params success left
      (server.refuse (.ofFailure failure)) :=
  .refused _ (sentStatus_failure failure) rfl

/-- A run with a backend follows from the runs of all that may be found. -/
theorem withBackend
    {handle : Backend → Handling}
    (handled :
      ∀ backend,
        server.registry.find? params.backendType = some backend →
        InstanceRun server params success left (handle backend)) :
    InstanceRun server params success left
      (server.withBackend params.backendType handle) := by
  unfold Server.withBackend Registry.get
  cases found : server.registry.find? params.backendType with
  | none => exact refuse _
  | some backend => exact handled backend found

end InstanceRun

/-- The plan of a backend that is found is served. -/
theorem Ready.serves_of_find?
    {server : Server}
    (ready : server.Ready)
    {backendType : String}
    {backend : Backend}
    (found : server.registry.find? backendType = some backend) :
    isBackendType backend.backendType = true ∧
      server.collaborators.engine.Serves backend.planName := by
  have listed := List.mem_of_find?_eq_some found
  exact ⟨server.registry.isBackendType_of_listed listed,
    ready.serves backend listed⟩

/-- A ready server answers 201 to the puts that take effect. -/
theorem Ready.putInstance
    {server : Server}
    (ready : server.Ready)
    (params : Payload.InstanceParams)
    (raw : RawConfig) :
    InstanceRun server params 201 (fun _ _ => True)
      (server.putInstance params raw) := by
  refine .withBackend fun backend found => ?_
  obtain ⟨sound, serves⟩ := ready.serves_of_find? found
  dsimp only [ConfigSchema.accept]
  cases accepted : backend.schema.validate raw with
  | rejected issues => exact .refuse _
  | unprintable => exact .refuse _
  | accepted config =>
      have own := Backend.ownConfig_of_accepted accepted
      dsimp only
      cases valid : isInstanceName params.instanceName with
      | false =>
          obtain ⟨failure, refusal⟩ :=
            Backend.addInstance_eq_failed (.inl valid) server.config.spaces
          rw [refusal]
          exact .refused _ (sentStatus_failure failure) rfl
      | true =>
          obtain ⟨deployment, applied, keeps⟩ :=
            Backend.addInstance_of_serves sound valid own ready.inOrder serves
              server.config.spaces
          refine .succeeded _ ?_ backend found keeps True.intro
          simp only [Handling.status, runProgram, applied, Answer.json]

/-- A ready server answers 204 to the deletions after which nothing is held. -/
theorem Ready.deleteInstance
    {server : Server}
    (ready : server.Ready)
    (params : Payload.InstanceParams) :
    InstanceRun server params 204
      (fun backend after =>
        ∀ target,
          backend.Owns params.instanceName target →
          after.held? target = none)
      (server.deleteInstance params) := by
  refine .withBackend fun backend found => ?_
  obtain ⟨sound, serves⟩ := ready.serves_of_find? found
  cases valid : isInstanceName params.instanceName with
  | false =>
      obtain ⟨failure, refusal⟩ :=
        Backend.removeInstance_eq_failed backend valid
      rw [refusal]
      exact .refused _ (sentStatus_failure failure) rfl
  | true =>
      obtain ⟨removed, keeps, gone⟩ :=
        Backend.removeInstance_of_serves sound valid ready.inOrder serves
      refine .succeeded _ ?_ backend found keeps gone
      simp only [Handling.status, runProgram, removed, Answer.empty]

/-- The parameters of a request name an instance of a backend. -/
structure Names
    (server : Server)
    (params : Record String)
    (backend : Backend)
    (instanceName : String) : Prop where
  found : server.registry.find? backend.backendType = some backend
  typed : Record.get? Route.backendParam params = some backend.backendType
  named : Record.get? Route.instanceParam params = some instanceName

/-- The ways in which a server serves whose collaborators are in order. -/
inductive ReadyRun (server : Server) (visit : Visit) :
    Nat → Collaborators → Prop where
  /-- Nothing changes, and an instance is not handled. -/
  | unchanged
      (status : Nat)
      (after : Collaborators)
      (refused :
        visit.Reaches .putInstance ∨ visit.Reaches .deleteInstance →
        400 ≤ status)
      (secrets : after.secrets = server.collaborators.secrets)
      (keeps : server.collaborators.Keeps (fun _ => True) after) :
      ReadyRun server visit status after
  /-- An instance is applied. -/
  | applied
      (after : Collaborators)
      (params : Record String)
      (arrives :
        Destination.ofTarget visit.verb visit.request.target =
          .ok ⟨some .putInstance, params⟩)
      (backend : Backend)
      (instanceName : String)
      (names : server.Names params backend instanceName)
      (keeps :
        server.collaborators.Keeps (¬backend.Owns instanceName ·) after) :
      ReadyRun server visit 201 after
  /-- An instance is removed. -/
  | removed
      (after : Collaborators)
      (params : Record String)
      (arrives :
        Destination.ofTarget visit.verb visit.request.target =
          .ok ⟨some .deleteInstance, params⟩)
      (backend : Backend)
      (instanceName : String)
      (names : server.Names params backend instanceName)
      (keeps :
        server.collaborators.Keeps (¬backend.Owns instanceName ·) after)
      (gone :
        ∀ target, backend.Owns instanceName target → after.held? target = none) :
      ReadyRun server visit 204 after

namespace ReadyRun

variable
  {server : Server}
  {visit : Visit}
  {status : Nat}

/-- Collaborators that are left as they are. -/
private theorem same
    (refused :
      visit.Reaches .putInstance ∨ visit.Reaches .deleteInstance →
      400 ≤ status) :
    ReadyRun server visit status server.collaborators :=
  .unchanged status _ refused rfl (.refl _ _)

/-- A route that handles no instance is the only one of its request. -/
private theorem elsewhere
    {route : Route}
    {params : Record String}
    (arrives :
      Destination.ofTarget visit.verb visit.request.target =
        .ok ⟨some route, params⟩)
    (notPut : route ≠ .putInstance)
    (notDelete : route ≠ .deleteInstance) :
    visit.Reaches .putInstance ∨ visit.Reaches .deleteInstance →
      400 ≤ status := by
  rintro (⟨other, reached⟩ | ⟨other, reached⟩)
  · rw [arrives] at reached
    cases reached
    exact absurd rfl notPut
  · rw [arrives] at reached
    cases reached
    exact absurd rfl notDelete

/-- A ready server is ready after every run. -/
theorem ready
    {after : Collaborators}
    (run : ReadyRun server visit status after)
    (ready : server.Ready) :
    after.InOrder ∧
      ∀ backend ∈ server.registry.backends,
        after.engine.Serves backend.planName := by
  have kept :
      ∀ {spared : StorageBackends.Target → Prop},
        server.collaborators.Keeps spared after →
        after.InOrder ∧
          ∀ backend ∈ server.registry.backends,
            after.engine.Serves backend.planName := fun keeps =>
    ⟨keeps.inOrder ready.inOrder, fun backend listed =>
      keeps.engine.serves _ (ready.serves backend listed)⟩
  cases run with
  | unchanged _ _ _ _ keeps => exact kept keeps
  | applied _ _ _ _ _ _ keeps => exact kept keeps
  | removed _ _ _ _ _ _ keeps => exact kept keeps

end ReadyRun

/-- The instance that sound parameters name is one of the registry. -/
private theorem names_of_decoder
    {server : Server}
    {params : Record String}
    {read : Payload.InstanceParams}
    (decoded :
      Payload.InstanceParams.decoder (some (Json.ofTextRecord params)) =
        .valid read)
    {backend : Backend}
    (found : server.registry.find? read.backendType = some backend) :
    server.Names params backend read.instanceName := by
  obtain ⟨typed, named⟩ := Payload.InstanceParams.decoder_valid decoded
  have sameType : backend.backendType = read.backendType := by
    simpa using List.find?_some found
  exact ⟨sameType ▸ found, sameType ▸ typed, named⟩

/-- Parameters or a body that fail their check leave everything as it is. -/
private theorem refuse_issues
    (server : Server)
    (issueText : Issue → String)
    (issues : List Issue) :
    400 ≤ (server.refuse (validationReport issueText issues)).status ∧
      (server.refuse (validationReport issueText issues)).collaborators =
        server.collaborators :=
  ⟨(ErrorReport.sentStatus_ofCode _ _ (by decide) (by decide)).ge, rfl⟩

/-- What refusals and all handlings have, the handling with parameters has. -/
private theorem withParams_keeps
    {α : Type}
    {motive : Handling → Prop}
    {server : Server}
    (refused :
      ∀ handling,
        400 ≤ handling.status →
        handling.collaborators = server.collaborators →
        motive handling)
    {decoder : Decoder α}
    {params : Record String}
    {handle : α → Handling}
    (handled :
      ∀ value,
        decoder (some (Json.ofTextRecord params)) = .valid value →
        motive (handle value)) :
    motive (server.withParams decoder params handle) := by
  unfold withParams
  cases decoded : decoder (some (Json.ofTextRecord params)) with
  | valid value => exact handled value decoded
  | invalid issues =>
      obtain ⟨status, same⟩ := server.refuse_issues paramIssueText issues
      exact refused _ status same

/-- What refusals and all handlings have, the handling with a mapping has. -/
private theorem withConfig_keeps
    {motive : Handling → Prop}
    {server : Server}
    (refused :
      ∀ handling,
        400 ≤ handling.status →
        handling.collaborators = server.collaborators →
        motive handling)
    (body : Option Json)
    {handle : RawConfig → Handling}
    (handled : ∀ raw, motive (handle raw)) :
    motive (server.withConfig body handle) := by
  unfold withConfig
  cases Payload.rawConfigDecoder (some (body.getD .null)) with
  | valid raw => exact handled raw
  | invalid issues =>
      obtain ⟨status, same⟩ := server.refuse_issues bodyIssueText issues
      exact refused _ status same

/-- Showing a backend changes nothing. -/
private theorem collaborators_showBackend
    (server : Server)
    (backendType : String) :
    (server.showBackend backendType).collaborators = server.collaborators := by
  unfold showBackend withBackend
  cases server.registry.get backendType <;> rfl

/-- Trying a configuration changes nothing. -/
private theorem collaborators_validate
    (server : Server)
    (backendType : String)
    (raw : RawConfig) :
    (server.validate backendType raw).collaborators =
      server.collaborators := by
  unfold validate withBackend
  cases server.registry.get backendType with
  | error fault => rfl
  | ok backend =>
      dsimp only
      cases backend.schema.validate raw <;> rfl

/-- What a server changes whose collaborators are in order. -/
theorem Ready.serve_run
    {server : Server}
    (ready : server.Ready)
    (visit : Visit) :
    ReadyRun server visit (server.serve visit).1.reply.status
      (server.serve visit).2.collaborators := by
  have run := server.serve_run visit
  generalize (server.serve visit).1.reply.status = status at run ⊢
  generalize (server.serve visit).2.collaborators = after at run ⊢
  cases run with
  | aside status refused =>
      refine .same ?_
      rintro (reaches | reaches)
      · exact refused .putInstance nofun reaches
      · exact refused .deleteInstance nofun reaches
  | handled route params arrives body handling handles =>
      have refused :
          ∀ handling : Handling,
            400 ≤ handling.status →
            handling.collaborators = server.collaborators →
            ReadyRun server visit handling.status handling.collaborators := by
        intro handling status same
        rw [same]
        exact .same fun _ => status
      cases route with
      | health =>
          cases handles
          obtain ⟨secrets, keeps⟩ := server.collaborators.healthy_keeps
          exact .unchanged _ _ (ReadyRun.elsewhere arrives nofun nofun)
            secrets keeps
      | backendList =>
          cases handles
          exact .same (ReadyRun.elsewhere arrives nofun nofun)
      | backendDetail =>
          cases handles
          have same :=
            withParams_keeps (fun _ _ same => same)
              fun (read : Payload.BackendParams)
                  (_ : Payload.BackendParams.decoder
                    (some (Json.ofTextRecord params)) = .valid read) =>
                server.collaborators_showBackend read.backendType
          rw [same]
          exact .same (ReadyRun.elsewhere arrives nofun nofun)
      | validate =>
          cases handles
          have same :=
            withParams_keeps (fun _ _ same => same)
              fun (read : Payload.BackendParams)
                  (_ : Payload.BackendParams.decoder
                    (some (Json.ofTextRecord params)) = .valid read) =>
                withConfig_keeps (fun _ _ same => same) body
                  (server.collaborators_validate read.backendType)
          rw [same]
          exact .same (ReadyRun.elsewhere arrives nofun nofun)
      | putInstance =>
          cases handles
          refine withParams_keeps refused fun read decoded => ?_
          refine withConfig_keeps refused body fun raw => ?_
          have run := ready.putInstance read raw
          generalize server.putInstance read raw = handling at run ⊢
          cases run with
          | refused status same => exact refused handling status same
          | succeeded status backend found keeps =>
              rw [status]
              exact .applied _ params arrives backend read.instanceName
                (names_of_decoder decoded found) keeps
      | deleteInstance =>
          cases handles
          refine withParams_keeps refused fun read decoded => ?_
          have run := ready.deleteInstance read
          generalize server.deleteInstance read = handling at run ⊢
          cases run with
          | refused status same => exact refused handling status same
          | succeeded status backend found keeps gone =>
              rw [status]
              exact .removed _ params arrives backend read.instanceName
                (names_of_decoder decoded found) keeps gone
      | options => cases handles

/-- What serving a visit may change. -/
structure EffectLaw (server : Server) (visit : Visit) : Prop where
  /-- Nothing changes unless an instance is applied or removed. -/
  otherwise :
    ¬(visit.Reaches .putInstance ∧
        (server.serve visit).1.reply.status = 201) →
    ¬(visit.Reaches .deleteInstance ∧
        (server.serve visit).1.reply.status = 204) →
    (server.serve visit).2.collaborators.secrets =
        server.collaborators.secrets ∧
      ∀ target,
        (server.serve visit).2.collaborators.held? target =
          server.collaborators.held? target
  /-- An instance that is applied changes its own targets only. -/
  applied :
    ∀ params,
      Destination.ofTarget visit.verb visit.request.target =
        .ok ⟨some .putInstance, params⟩ →
      (server.serve visit).1.reply.status = 201 →
      ∃ backend instanceName,
        server.Names params backend instanceName ∧
          ∀ target,
            ¬backend.Owns instanceName target →
            (server.serve visit).2.collaborators.held? target =
              server.collaborators.held? target
  /-- An instance that is removed takes its own targets along, and no other. -/
  removed :
    ∀ params,
      Destination.ofTarget visit.verb visit.request.target =
        .ok ⟨some .deleteInstance, params⟩ →
      (server.serve visit).1.reply.status = 204 →
      ∃ backend instanceName,
        server.Names params backend instanceName ∧
          ∀ target,
            (backend.Owns instanceName target →
              (server.serve visit).2.collaborators.held? target = none) ∧
            (¬backend.Owns instanceName target →
              (server.serve visit).2.collaborators.held? target =
                server.collaborators.held? target)

/-- A ready server obeys the law at the next visit. -/
theorem Ready.effectLaw
    {server : Server}
    (ready : server.Ready)
    (visit : Visit) :
    server.EffectLaw visit := by
  have run := ready.serve_run visit
  constructor
  all_goals
    generalize (server.serve visit).1.reply.status = status at run ⊢
    generalize (server.serve visit).2.collaborators = after at run ⊢
  · intro notApplied notRemoved
    cases run with
    | unchanged _ _ _ secrets keeps =>
        exact ⟨secrets, fun target => keeps.held? True.intro⟩
    | applied _ params arrives => exact absurd ⟨⟨params, arrives⟩, rfl⟩ notApplied
    | removed _ params arrives => exact absurd ⟨⟨params, arrives⟩, rfl⟩ notRemoved
  · rintro params arrives rfl
    cases run with
    | unchanged _ _ refused =>
        exact absurd (refused (.inl ⟨params, arrives⟩)) (by decide)
    | applied _ others reached backend instanceName names keeps =>
        rw [arrives] at reached
        cases reached
        exact ⟨backend, instanceName, names, fun target => keeps.held?⟩
  · rintro params arrives rfl
    cases run with
    | unchanged _ _ refused =>
        exact absurd (refused (.inr ⟨params, arrives⟩)) (by decide)
    | removed _ others reached backend instanceName names keeps gone =>
        rw [arrives] at reached
        cases reached
        exact ⟨backend, instanceName, names,
          fun target => ⟨gone target, keeps.held?⟩⟩

/-- Serving keeps the collaborators in order and the plans served. -/
theorem Ready.serve
    {server : Server}
    (ready : server.Ready)
    (visit : Visit) :
    (server.serve visit).2.Ready := by
  obtain ⟨inOrder, serves⟩ := (ready.serve_run visit).ready ready
  refine ⟨inOrder, ?_⟩
  rw [server.registry_serve visit]
  exact serves

/-- A server stays ready through every run. -/
theorem Ready.serveAll
    {server : Server}
    (ready : server.Ready)
    (visits : List Visit) :
    (server.serveAll visits).2.Ready := by
  induction visits generalizing server with
  | nil => exact ready
  | cons visit rest inductionHypothesis =>
      exact inductionHypothesis (ready.serve visit)

/-- The plans that were registered one after the other are all served. -/
private theorem registerPlans_eq_ok
    {collaborators ready : Collaborators}
    (inOrder : collaborators.InOrder)
    {backends : List Backend}
    (registered : registerPlans collaborators backends = .ok ready) :
    ready.InOrder ∧
      (∀ backend ∈ backends, ready.engine.Serves backend.planName) ∧
      ∀ planName,
        collaborators.engine.Serves planName →
        ready.engine.Serves planName := by
  induction backends generalizing collaborators with
  | nil =>
      cases registered
      exact ⟨inOrder, by simp, fun _ served => served⟩
  | cons backend rest inductionHypothesis =>
      simp only [registerPlans] at registered
      split at registered
      · rename_i succeeds
        obtain ⟨next, serves, others⟩ :=
          Backend.registerPlan_run_ok inOrder succeeds
        obtain ⟨last, restServed, kept⟩ :=
          inductionHypothesis next registered
        refine ⟨last, List.forall_mem_cons.2 ⟨kept _ serves, restServed⟩, ?_⟩
        exact fun planName served => kept _ (others _ served)
      · cases registered

/-- A server that has started is ready. -/
theorem ready_of_start
    {config : Service.Config}
    {registry : Registry}
    {collaborators : Collaborators}
    (inOrder : collaborators.InOrder)
    {server : Server}
    (started : start config registry collaborators = .ok server) :
    server.Ready := by
  unfold start at started
  split at started
  · cases started
  · rename_i ready registered
    cases started
    obtain ⟨inOrder, serves, -⟩ := registerPlans_eq_ok inOrder registered
    exact ⟨inOrder, serves⟩

/--
A server that has started with collaborators in order changes nothing that
they hold, at any point of a run, unless it applies an instance or removes one;
then it changes the variables and the secret of that instance only.
-/
theorem serveAll_effectLaw
    {config : Service.Config}
    {registry : Registry}
    {collaborators : Collaborators}
    (inOrder : collaborators.InOrder)
    {server : Server}
    (started : start config registry collaborators = .ok server)
    (earlier : List Visit)
    (visit : Visit) :
    (server.serveAll earlier).2.EffectLaw visit :=
  ((ready_of_start inOrder started).serveAll earlier).effectLaw visit

end Server

/-- A request that removes the instance of a password. -/
def removalVisit : Visit :=
  { passwordVisit "" with
    request :=
      { method := "DELETE"
        target := (passwordVisit "").request.target
        headers := []
        body := none } }

/-- The start of a server of the built-in backends that deploys into files. -/
def fileServer : Except Failure Server :=
  Server.start idleServer.config .builtin
    (.ofEngine .numbered (.directory .fresh))

/-- Statuses of the replies to an addition and to a removal after it. -/
def removalStatuses (server : Server) : Nat × Nat :=
  ((server.serve (passwordVisit "old")).1.reply.status,
    ((server.serveAll [passwordVisit "old"]).2.serve
      removalVisit).1.reply.status)

/-- The first removal of an instance that was added leaves all others alone. -/
theorem serveAll_effectLaw_removal :
    ∃ server,
      fileServer = .ok server ∧
        removalStatuses server = (201, 204) ∧
        ∃ backend instanceName,
          (server.serveAll [passwordVisit "old"]).2.Names
              [("backendType", "dellpowerstore"), ("instanceName", "ps")]
              backend instanceName ∧
            ∀ target,
              (backend.Owns instanceName target →
                ((server.serveAll [passwordVisit "old"]).2.serve
                  removalVisit).2.collaborators.held? target = none) ∧
              (¬backend.Owns instanceName target →
                ((server.serveAll [passwordVisit "old"]).2.serve
                    removalVisit).2.collaborators.held? target =
                  (server.serveAll
                    [passwordVisit "old"]).2.collaborators.held? target) := by
  have statuses :
      fileServer.toOption.map removalStatuses = some (201, 204) := by
    decide +kernel
  obtain ⟨server, served, replied⟩ := Option.map_eq_some_iff.1 statuses
  have started : fileServer = .ok server := by
    cases ran : fileServer with
    | error failure =>
        rw [ran] at served
        cases served
    | ok first =>
        rw [ran] at served
        cases served
        rfl
  have inOrder :
      (Collaborators.ofEngine .numbered (.directory .fresh)).InOrder :=
    ⟨rfl, ⟨fun path there => absurd rfl there, nofun⟩⟩
  have law :=
    Server.serveAll_effectLaw inOrder started [passwordVisit "old"]
      removalVisit
  exact ⟨server, started, replied,
    law.removed _ (by decide +kernel) (congrArg Prod.snd replied)⟩

end StorageBackends.Http
