import StorageBackends.Proofs.Backend.Partition
import StorageBackends.Proofs.Http.Secrecy
import StorageBackends.Proofs.Http.Status
import StorageBackends.Proofs.Schema.Unprintable

namespace StorageBackends

/-!
# Configurations that end in an internal error

A configuration that stalls its validation is answered with an internal error,
both when it is tried and when it is applied. With a sound instance name and
collaborators in order there is no other way to an internal error, whatever
the configuration holds.
-/

/-- The collaborators take a secret and an instance of some plan. -/
structure Collaborators.Takes
    (collaborators : Collaborators)
    (planName instanceName : String) : Prop where
  putSecret : collaborators.outage? .putSecret = none
  apply :
    ∀ deployment,
      (collaborators.apply planName instanceName deployment).1 = .ok ()

/-- A recording engine takes the instances of the plans that it knows. -/
theorem Collaborators.takes_of_registered
    {collaborators : Collaborators}
    (noOutages : collaborators.outages = [])
    {engine : MemoryEngine}
    (recording : collaborators.engine = .memory engine)
    {planName : String}
    (registered : Record.contains planName engine.plans = true)
    (instanceName : String) :
    collaborators.Takes planName instanceName := by
  have inOrder : ∀ operation, collaborators.outage? operation = none := by
    intro operation
    rw [outage?, noOutages]
    rfl
  refine ⟨inOrder .putSecret, fun deployment => ?_⟩
  simp only [apply, callEngine, inOrder, recording, Engine.apply,
    MemoryEngine.apply, registered, if_true]

/-- An application does not look at the secret store. -/
theorem Collaborators.apply_fst_secrets
    (collaborators : Collaborators)
    (secrets : SecretStore)
    (planName instanceName : String)
    (deployment : Json) :
    ({ collaborators with secrets := secrets }.apply planName instanceName
        deployment).1 =
      (collaborators.apply planName instanceName deployment).1 := by
  have sameOutage :
      { collaborators with secrets := secrets }.outage? .apply =
        collaborators.outage? .apply := rfl
  unfold apply callEngine
  rw [sameOutage]
  cases collaborators.outage? .apply <;> rfl

namespace Backend

/-- An own configuration is applied if the collaborators take it. -/
theorem addInstance_run_of_takes
    {backend : Backend}
    {instanceName : String}
    {handed : HandedConfig}
    {config : ValidatedConfig}
    (valid : isInstanceName instanceName = true)
    (own : backend.ownConfig handed = .ok config)
    {collaborators : Collaborators}
    (takes : collaborators.Takes backend.planName instanceName)
    (spaces : NetworkSpaces) :
    ∃ deployment,
      ((backend.addInstance spaces instanceName handed).run
        collaborators).result = .ok deployment := by
  have run :=
    backend.addInstance_run spaces instanceName handed collaborators
  generalize (backend.addInstance spaces instanceName handed).run
    collaborators = outcome at run
  cases run with
  | refused failure unchecked =>
      rcases unchecked with invalid | ⟨error, foreign⟩
      · rw [valid] at invalid
        cases invalid
      · rw [own] at foreign
        cases foreign
  | unstored _ failure _ _ _ outage =>
      rw [takes.putSecret] at outage
      cases outage
  | stored stored _ _ available =>
      have called :=
        collaborators.apply_fst_secrets
          (backend.storeSecret stored instanceName collaborators.secrets).2
          backend.planName instanceName
          (backend.variablesOf stored instanceName
            (backend.storeSecret stored instanceName collaborators.secrets).1
            spaces).toJson
      rw [takes.apply] at called
      simp only [applyConfig, Program.run]
      generalize Collaborators.apply _ _ _ _ = applied at called ⊢
      obtain ⟨result, after⟩ := applied
      cases called
      exact ⟨_, rfl⟩

end Backend

namespace Registry

/-- A registered type is not empty. -/
theorem ne_empty_of_find?
    {registry : Registry}
    {backendType : String}
    {backend : Backend}
    (found : registry.find? backendType = some backend) :
    backendType ≠ "" := by
  rintro rfl
  have sound := registry.sound backend (List.mem_of_find?_eq_some found)
  have typed : backend.backendType = "" := by
    simpa using List.find?_some found
  simp [Backend.descriptorProblem, isBackendType, typed] at sound

/-- The status that a configuration for a backend type comes to. -/
def configStatus
    (registry : Registry)
    (success : Nat)
    (backendType : String)
    (raw : RawConfig) :
    Nat :=
  match registry.find? backendType with
  | none => 404
  | some backend =>
      match backend.schema.validate raw with
      | .accepted _ => success
      | .rejected _ => 422
      | .unprintable => 500

/--
A mapping has the status of an internal error exactly when its schema stalls.
-/
theorem configStatus_eq_internal_iff
    (registry : Registry)
    {success : Nat}
    (sound : success ≠ 500)
    (backendType : String)
    (raw : RawConfig) :
    registry.configStatus success backendType raw = 500 ↔
      ∃ backend,
        registry.find? backendType = some backend ∧
          backend.schema.Stalls raw := by
  unfold configStatus
  cases registry.find? backendType with
  | none => simp
  | some backend =>
      simp only [Option.some.injEq, exists_eq_left']
      rw [← backend.schema.validate_eq_unprintable_iff raw]
      cases backend.schema.validate raw <;> simp [sound]

/-- The backend that parameters name stalls on a configuration. -/
def StallsOn
    (registry : Registry)
    (params : Record String)
    (raw : RawConfig) : Prop :=
  ∃ backendType backend,
    Record.get? Http.Route.backendParam params = some backendType ∧
      registry.find? backendType = some backend ∧
      backend.schema.Stalls raw

end Registry

namespace Http

/-- A request to a route brings an object. -/
structure Visit.Brings
    (visit : Visit)
    (route : Route)
    (params : Record String)
    (members : Record Json) : Prop where
  arrives :
    Destination.ofTarget visit.verb visit.request.target =
      .ok ⟨some route, params⟩
  read : Body.ofRequest true visit.request = .ok (some (.obj members))

namespace Server

/-- A body that is an object is the mapping to be handled. -/
theorem withConfig_object
    {server : Server}
    {visit : Visit}
    {route : Route}
    {params : Record String}
    {members : Record Json}
    (brings : visit.Brings route params members)
    (handle : RawConfig → Handling) :
    server.withConfig (some (.obj members)) handle = handle members := by
  have plain := Body.ofRequest_object brings.read
  simp only [withConfig, Option.getD_some,
    Payload.rawConfigDecoder_object plain]

/-- Without the backend the status is 404, with it that of the handling. -/
theorem status_withBackend
    (server : Server)
    (backendType : String)
    (handle : Backend → Handling) :
    (server.withBackend backendType handle).status =
      match server.registry.find? backendType with
      | none => 404
      | some backend => (handle backend).status := by
  unfold withBackend Registry.get
  cases server.registry.find? backendType with
  | none => exact ErrorReport.sentStatus_ofFailure _
  | some backend => rfl

/-- The status of a validation goes by the mapping alone. -/
theorem status_validate
    (server : Server)
    (backendType : String)
    (raw : RawConfig) :
    (server.validate backendType raw).status =
      server.registry.configStatus 200 backendType raw := by
  unfold validate Registry.configStatus
  rw [status_withBackend]
  cases server.registry.find? backendType with
  | none => rfl
  | some backend =>
      dsimp only
      cases backend.schema.validate raw <;> rfl

/--
The status of a put goes by the mapping alone as long as the collaborators
take it.
-/
theorem status_putInstance
    {server : Server}
    {params : Payload.InstanceParams}
    (valid : isInstanceName params.instanceName = true)
    (takes :
      ∀ backend,
        server.registry.find? params.backendType = some backend →
        server.collaborators.Takes backend.planName params.instanceName)
    (raw : RawConfig) :
    (server.putInstance params raw).status =
      server.registry.configStatus 201 params.backendType raw := by
  unfold putInstance Registry.configStatus
  rw [status_withBackend]
  cases found : server.registry.find? params.backendType with
  | none => rfl
  | some backend =>
      dsimp only [ConfigSchema.accept]
      cases validated : backend.schema.validate raw with
      | rejected issues => exact ErrorReport.sentStatus_ofFailure _
      | unprintable => exact ErrorReport.sentStatus_ofFailure _
      | accepted config =>
          have own := Backend.ownConfig_of_accepted validated
          obtain ⟨deployment, applied⟩ :=
            Backend.addInstance_run_of_takes valid own (takes backend found)
              server.config.spaces
          simp only [runProgram, Handling.status, applied]
          rfl

/-- Trying a configuration fails internally exactly if it stalls. -/
theorem status_validate_route
    {server : Server}
    {visit : Visit}
    {params : Record String}
    {members : Record Json}
    (brings : visit.Brings .validate params members)
    {handling : Handling}
    (handled :
      server.handleRoute visit.moment params (some (.obj members))
        .validate = some handling) :
    handling.status = 500 ↔ server.registry.StallsOn params members := by
  cases handled
  rw [status_withParams_eq_internal_iff]
  simp only [withConfig_object brings, status_validate]
  constructor
  · rintro ⟨named, read, failed⟩
    obtain ⟨backend, found, stalls⟩ :=
      (server.registry.configStatus_eq_internal_iff (by decide) _ _).1 failed
    exact ⟨named.backendType, backend,
      Payload.BackendParams.decoder_valid read, found, stalls⟩
  · rintro ⟨backendType, backend, typed, found, stalls⟩
    have notEmpty := Registry.ne_empty_of_find? found
    refine ⟨_, Payload.BackendParams.decoder_eq_valid typed notEmpty, ?_⟩
    exact (server.registry.configStatus_eq_internal_iff (by decide) _ _).2
      ⟨backend, found, stalls⟩

/-- Applying a configuration fails internally exactly if it stalls. -/
theorem status_putInstance_route
    {server : Server}
    {visit : Visit}
    {params : Record String}
    {members : Record Json}
    (brings : visit.Brings .putInstance params members)
    {instanceName : String}
    (named : Record.get? Route.instanceParam params = some instanceName)
    (valid : isInstanceName instanceName = true)
    (takes :
      ∀ backendType backend,
        Record.get? Route.backendParam params = some backendType →
        server.registry.find? backendType = some backend →
        server.collaborators.Takes backend.planName instanceName)
    {handling : Handling}
    (handled :
      server.handleRoute visit.moment params (some (.obj members))
        .putInstance = some handling) :
    handling.status = 500 ↔ server.registry.StallsOn params members := by
  cases handled
  rw [status_withParams_eq_internal_iff]
  simp only [withConfig_object brings]
  have status :
      ∀ read : Payload.InstanceParams,
        Record.get? Route.backendParam params = some read.backendType →
        Record.get? Route.instanceParam params = some read.instanceName →
        (server.putInstance read members).status =
          server.registry.configStatus 201 read.backendType members := by
    intro read typed namedRead
    rw [named] at namedRead
    cases namedRead
    exact status_putInstance valid (takes read.backendType · typed) members
  constructor
  · rintro ⟨read, decoded, failed⟩
    obtain ⟨typed, namedRead⟩ := Payload.InstanceParams.decoder_valid decoded
    rw [status read typed namedRead] at failed
    obtain ⟨backend, found, stalls⟩ :=
      (server.registry.configStatus_eq_internal_iff (by decide) _ _).1 failed
    exact ⟨read.backendType, backend, typed, found, stalls⟩
  · rintro ⟨backendType, backend, typed, found, stalls⟩
    have typeNotEmpty := Registry.ne_empty_of_find? found
    have nameNotEmpty : instanceName ≠ "" := by
      rintro rfl
      cases valid
    refine ⟨⟨backendType, instanceName⟩,
      Payload.InstanceParams.decoder_eq_valid typed typeNotEmpty named
        nameNotEmpty, ?_⟩
    rw [status ⟨backendType, instanceName⟩ typed named]
    exact (server.registry.configStatus_eq_internal_iff (by decide) _ _).2
      ⟨backend, found, stalls⟩

/--
A validation answers unless a plain field is given an object that redefines
its conversion to text, or a list that reaches one.

An object that is tried or applied as a configuration for a backend is then
answered with an internal error. Within the rate limit, and for an instance
name that is sound and collaborators that are in order, no other object is.
-/
theorem serve_internal_iff
    (schema : ConfigSchema)
    (raw : RawConfig)
    (server : Server)
    (visit : Visit)
    (params : Record String)
    (members : Record Json) :
    (((∃ config, schema.validate raw = .accepted config) ∨
          ∃ issues, schema.validate raw = .rejected issues) ↔
        ¬schema.Stalls raw) ∧
      (visit.Brings .validate params members →
        ((server.serve visit).1.reply.status = 500 ↔
          server.isBeyondLimit visit = false ∧
            server.registry.StallsOn params members)) ∧
      ∀ instanceName,
        visit.Brings .putInstance params members →
        Record.get? Route.instanceParam params = some instanceName →
        isInstanceName instanceName = true →
        (∀ backendType backend,
          Record.get? Route.backendParam params = some backendType →
          server.registry.find? backendType = some backend →
          server.collaborators.Takes backend.planName instanceName) →
        ((server.serve visit).1.reply.status = 500 ↔
          server.isBeyondLimit visit = false ∧
            server.registry.StallsOn params members) := by
  have unlessExceeded : ∀ {status : Nat} {stalls : Prop},
      (status = 500 ↔ stalls) →
      ((if server.isBeyondLimit visit then 429 else status) = 500 ↔
        server.isBeyondLimit visit = false ∧ stalls) := by
    intro status stalls handled
    cases server.isBeyondLimit visit <;> simp [handled]
  refine ⟨?_, ?_, ?_⟩
  · rw [← schema.validate_eq_unprintable_iff raw]
    cases schema.validate raw <;> simp
  · intro brings
    rw [status_serve brings.arrives nofun brings.read rfl]
    exact unlessExceeded (status_validate_route brings rfl)
  · intro instanceName brings named valid takes
    rw [status_serve brings.arrives nofun brings.read rfl]
    exact unlessExceeded
      (status_putInstance_route brings named valid takes rfl)

end Server

/-- A request that brings a configuration to a path. -/
def configVisit (method path body : String) : Visit where
  request :=
    { method := method
      target := { path := path.toList, query := none }
      headers := [("content-type", "application/json")]
      body := some body }
  arrival := (passwordVisit "").arrival
  moment := (passwordVisit "").moment

/-- A PowerStore configuration whose protocol redefines its conversion. -/
def convertingBody : String :=
  "\x7b\"protocol\":\x7b\"toString\":true\x7d\x7d"

/-- A request to try the converting configuration. -/
def tryVisit : Visit :=
  configVisit "POST" "/backends/dellpowerstore/validate" convertingBody

/-- A request to apply the converting configuration. -/
def applyVisit : Visit :=
  configVisit "PUT" "/backends/dellpowerstore/instances/ps" convertingBody

/-- A configuration that the schema of its backend cannot answer. -/
theorem converting_unprintable :
    Catalogue.dellPowerStore.schema.validate
          [("protocol", .obj [("toString", .bool true)])] = .unprintable ∧
      (readyServer.serve tryVisit).1.reply.status = 500 ∧
      (readyServer.serve applyVisit).1.reply.status = 500 :=
  ⟨rfl, by decide +kernel, by decide +kernel⟩

/-- Whether some field of the PowerStore stalls on the body of a request. -/
def stallsPowerStore (visit : Visit) : Option Bool :=
  (Body.object? (Body.ofRequest true visit.request)).map fun members =>
    Catalogue.dellPowerStore.schema.fields.any fun field =>
      (field.issue? members).isNone

private theorem find?_dellPowerStore :
    Registry.builtin.find? "dellpowerstore" =
      some Catalogue.dellPowerStore := by
  have listed : Catalogue.dellPowerStore ∈ Registry.builtin.backends := by
    simp [Registry.builtin, Catalogue.all]
  exact Registry.builtin.find?_backendType listed

/--
A visit that stalls the schema brings a mapping on which a backend stalls.
-/
private theorem stallsOn_of_stallsPowerStore
    {visit : Visit}
    (stalls : stallsPowerStore visit = some true)
    {params : Record String}
    (named :
      Record.get? Route.backendParam params = some "dellpowerstore") :
    ∃ members,
      Body.ofRequest true visit.request = .ok (some (.obj members)) ∧
        Registry.builtin.StallsOn params members := by
  obtain ⟨members, read, stalled⟩ := Option.map_eq_some_iff.1 stalls
  obtain ⟨field, listed, unreported⟩ := List.any_eq_true.1 stalled
  have stalls : field.Stalls members :=
    (field.issue?_eq_none_iff members).1
      (Option.isNone_iff_eq_none.1 unreported)
  exact ⟨members, eq_of_object? read, "dellpowerstore",
    Catalogue.dellPowerStore, named, find?_dellPowerStore,
    ⟨field, listed, stalls⟩⟩

private theorem readyServer_takes :
    readyServer.collaborators.Takes Catalogue.dellPowerStore.planName "ps" :=
  Collaborators.takes_of_registered rfl rfl (by decide +kernel) "ps"

/-- The parameters of a request to try a PowerStore configuration. -/
def tryParams : Record String :=
  [("backendType", "dellpowerstore")]

/-- The parameters of a request to apply a PowerStore configuration. -/
def applyParams : Record String :=
  [("backendType", "dellpowerstore"), ("instanceName", "ps")]

/-- The converting configuration fails both requests. -/
theorem serve_internal_iff_converting :
    (∃ members,
        tryVisit.Brings .validate tryParams members ∧
          readyServer.registry.StallsOn tryParams members ∧
          (readyServer.serve tryVisit).1.reply.status = 500) ∧
      ∃ members,
        applyVisit.Brings .putInstance applyParams members ∧
          readyServer.registry.StallsOn applyParams members ∧
          (readyServer.serve applyVisit).1.reply.status = 500 := by
  have within : ∀ visit, readyServer.isBeyondLimit visit = false :=
    fun _ => rfl
  constructor
  · have named :
        Record.get? Route.backendParam tryParams = some "dellpowerstore" := by
      decide +kernel
    have stalling : stallsPowerStore tryVisit = some true := by
      decide +kernel
    obtain ⟨members, read, stalls⟩ :=
      stallsOn_of_stallsPowerStore stalling named
    have brings : tryVisit.Brings .validate tryParams members :=
      ⟨by decide +kernel, read⟩
    refine ⟨members, brings, stalls, ?_⟩
    have tried :=
      (Server.serve_internal_iff Catalogue.dellPowerStore.schema members
        readyServer tryVisit tryParams members).2.1 brings
    exact tried.2 ⟨within tryVisit, stalls⟩
  · have named :
        Record.get? Route.backendParam applyParams =
          some "dellpowerstore" := by
      decide +kernel
    have stalling : stallsPowerStore applyVisit = some true := by
      decide +kernel
    obtain ⟨members, read, stalls⟩ :=
      stallsOn_of_stallsPowerStore stalling named
    have brings : applyVisit.Brings .putInstance applyParams members :=
      ⟨by decide +kernel, read⟩
    have takes : ∀ backendType backend,
        Record.get? Route.backendParam applyParams = some backendType →
        readyServer.registry.find? backendType = some backend →
        readyServer.collaborators.Takes backend.planName "ps" := by
      intro backendType backend given found
      rw [named] at given
      cases given
      have isPowerStore :
          readyServer.registry.find? "dellpowerstore" =
            some Catalogue.dellPowerStore := find?_dellPowerStore
      rw [isPowerStore] at found
      cases found
      exact readyServer_takes
    refine ⟨members, brings, stalls, ?_⟩
    have applied :=
      (Server.serve_internal_iff Catalogue.dellPowerStore.schema members
        readyServer applyVisit applyParams members).2.2 "ps" brings
        (by decide +kernel) (by decide +kernel) takes
    exact applied.2 ⟨within applyVisit, stalls⟩

end Http

end StorageBackends
