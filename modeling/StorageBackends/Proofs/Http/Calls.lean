import StorageBackends.Proofs.Http.Content
import StorageBackends.Proofs.Http.Effect
import StorageBackends.Proofs.Lifecycle.Run

namespace StorageBackends

open StorageBackends.Document

/-!
# The calls that requests make

Which call of the lifecycle a request makes, if any, is settled before the
collaborators are asked for anything: it depends on the request, the
configuration, the registry and the tallies of counted requests. So a request
takes the same course over all collaborators. It ends without looking at them,
it checks the health of the engine, or it makes one call and is answered with
what that call comes to.
-/

namespace Call

/-- The answer to a request whose call succeeds. -/
def answer : Call → Option DeploymentVariables → Http.Answer
  | add backend _ instanceName _, some deployment =>
      .json 201
        (Payload.InstanceResponse.mk ⟨backend.backendType, instanceName⟩
          deployment).toJson
  | _, _ => .empty 204

end Call

namespace Http.Server

/-- The server that faces other collaborators. -/
def facing (server : Server) (collaborators : Collaborators) : Server :=
  { server with collaborators := collaborators }

/-- The limit does not depend on the collaborators. -/
theorem isBeyondLimit_facing
    (server : Server)
    (collaborators : Collaborators)
    (visit : Visit) :
    (server.facing collaborators).isBeyondLimit visit =
      server.isBeyondLimit visit := rfl

/-- The handling of a request that makes a call. -/
def handleCall (server : Server) (call : Call) : Handling :=
  server.runProgram call.program call.answer

/-- A request passes all checks in front of its handler. -/
structure Passes
    (server : Server)
    (visit : Visit)
    (route : Route)
    (params : Record String)
    (body : Option Json) : Prop where
  arrives :
    Destination.ofTarget visit.verb visit.request.target =
      .ok ⟨some route, params⟩
  within : server.isBeyondLimit visit = false
  read : Body.ofRequest true visit.request = .ok body

/-- The calls that handlers make of parameters and bodies. -/
inductive Decides
    (server : Server)
    (params : Record String)
    (body : Option Json) :
    Route → Call → Prop where
  /-- A sound configuration of a known backend is applied. -/
  | put
      (names : Payload.InstanceParams)
      (named :
        Payload.InstanceParams.decoder (some (Json.ofTextRecord params)) =
          .valid names)
      (raw : RawConfig)
      (given : Payload.rawConfigDecoder (some (body.getD .null)) = .valid raw)
      (backend : Backend)
      (found : server.registry.find? names.backendType = some backend)
      (config : ValidatedConfig)
      (accepted : backend.schema.validate raw = .accepted config) :
      Decides server params body .putInstance
        (.add backend server.config.spaces names.instanceName
          (.issued config))
  /-- An instance of a known backend is removed. -/
  | delete
      (names : Payload.InstanceParams)
      (named :
        Payload.InstanceParams.decoder (some (Json.ofTextRecord params)) =
          .valid names)
      (backend : Backend)
      (found : server.registry.find? names.backendType = some backend) :
      Decides server params body .deleteInstance
        (.remove backend names.instanceName)

/-- A request makes a call. -/
def Makes (server : Server) (visit : Visit) (call : Call) : Prop :=
  ∃ route params body,
    server.Passes visit route params body ∧
      server.Decides params body route call

/-- The backend of a call that is made is registered. -/
theorem Decides.listed
    {server : Server}
    {params : Record String}
    {body : Option Json}
    {route : Route}
    {call : Call}
    (decides : server.Decides params body route call) :
    call.backend ∈ server.registry.backends := by
  cases decides with
  | put names named raw given backend found config accepted =>
      exact List.mem_of_find?_eq_some found
  | delete names named backend found =>
      exact List.mem_of_find?_eq_some found

/-- Mapping the result of a program is undone by what answers it. -/
private theorem runProgram_map
    {α β : Type}
    (server : Server)
    (program : Program α)
    (f : α → β)
    (toAnswer : β → Answer) :
    server.runProgram (program.map f) toAnswer =
      server.runProgram program fun value => toAnswer (f value) := by
  unfold runProgram
  rw [Program.run_map]
  generalize program.run server.collaborators = outcome
  rcases outcome with ⟨failure | value, lines, collaborators⟩ <;> rfl

/-- An accepted configuration makes the put an addition by its backend. -/
theorem putInstance_eq_handleCall
    (server : Server)
    {names : Payload.InstanceParams}
    {backend : Backend}
    (found : server.registry.find? names.backendType = some backend)
    {raw : RawConfig}
    {config : ValidatedConfig}
    (accepted : backend.schema.validate raw = .accepted config) :
    server.putInstance names raw =
      server.handleCall
        (.add backend server.config.spaces names.instanceName
          (.issued config)) := by
  have typed : backend.backendType = names.backendType := by
    simpa using List.find?_some found
  have asked : names = ⟨backend.backendType, names.instanceName⟩ := by
    rw [typed]
  rw [handleCall]
  simp only [Call.program, Call.answer, runProgram_map]
  simp only [putInstance, withBackend, Registry.get, found,
    ConfigSchema.accept, accepted]
  rw [← asked]

/-- The deletion at a known backend is a removal by it. -/
theorem deleteInstance_eq_handleCall
    (server : Server)
    {names : Payload.InstanceParams}
    {backend : Backend}
    (found : server.registry.find? names.backendType = some backend) :
    server.deleteInstance names =
      server.handleCall (.remove backend names.instanceName) := by
  rw [handleCall]
  simp only [Call.program, Call.answer, runProgram_map]
  simp only [deleteInstance, withBackend, Registry.get, found]

/--
The courses that a handling can take over any collaborators: it is settled
without them, or it makes a call of some class.
-/
inductive HandlingCourse
    (server : Server)
    (decides : Call → Prop)
    (handle : Collaborators → Handling) : Prop where
  | settled
      (handling : Handling)
      (discreet : handling.Discreet)
      (same :
        ∀ collaborators,
          handle collaborators =
            { handling with collaborators := collaborators })
  | calls
      (call : Call)
      (decided : decides call)
      (same :
        ∀ collaborators,
          handle collaborators = (server.facing collaborators).handleCall call)

namespace HandlingCourse

variable
  {server : Server}
  {decides : Call → Prop}

/-- A refusal is settled. -/
theorem refuse
    {report : ErrorReport}
    (own : ¬IsDeploymentCode report.shownCode) :
    HandlingCourse server decides fun collaborators =>
      (server.facing collaborators).refuse report := by
  refine .settled (server.refuse report) ⟨?_, ?_, ?_⟩ fun _ => rfl
  · intro other failed
    rw [← Except.error.inj failed]
    exact own
  · intro answer answered
    cases answered
  · intro line listed
    cases listed

/-- An answer that is given without a call is settled. -/
theorem answer
    {status : Nat}
    {members : List (String × Json)}
    (noError : "error" ∉ Record.keys members)
    (noCode : "code" ∉ Record.keys members)
    {lines : List LogLine}
    (untold : ∀ line ∈ lines, ∀ code, ¬line.Tells code) :
    HandlingCourse server decides fun collaborators =>
      (server.facing collaborators).answer (.json status (.obj members))
        lines := by
  refine .settled (server.answer (.json status (.obj members)) lines)
    ⟨?_, ?_, untold⟩ fun _ => rfl
  · intro report failed
    cases failed
  · intro given answered
    rw [← Except.ok.inj answered]
    exact Content.not_tells_obj noError noCode

/-- Handling by a backend takes a course if every backend it may find does. -/
theorem withBackend
    {backendType : String}
    {handle : Collaborators → Backend → Handling}
    (handled :
      ∀ backend,
        server.registry.find? backendType = some backend →
        HandlingCourse server decides fun collaborators =>
          handle collaborators backend) :
    HandlingCourse server decides fun collaborators =>
      (server.facing collaborators).withBackend backendType
        (handle collaborators) := by
  cases found : server.registry.find? backendType with
  | none =>
      have refused :
          (fun collaborators =>
            (server.facing collaborators).withBackend backendType
              (handle collaborators)) =
            fun collaborators =>
              (server.facing collaborators).refuse
                (.ofFailure (.fault ⟨.unknownBackend, [backendType]⟩)) := by
        funext collaborators
        simp only [Server.withBackend, facing, Registry.get, found]
      have own : ¬IsDeploymentCode FaultKind.unknownBackend.code := by decide
      rw [refused]
      exact refuse own
  | some backend =>
      have passed :
          (fun collaborators =>
            (server.facing collaborators).withBackend backendType
              (handle collaborators)) =
            fun collaborators => handle collaborators backend := by
        funext collaborators
        simp only [Server.withBackend, facing, Registry.get, found]
      rw [passed]
      exact handled backend found

private theorem not_isDeploymentCode_validation
    {issueText : Issue → String}
    {issues : List Issue} :
    ¬IsDeploymentCode (validationReport issueText issues).shownCode := by
  show ¬IsDeploymentCode "FST_ERR_VALIDATION"
  decide

/-- Handling with parameters takes a course if all valid parameters do. -/
theorem withParams
    {α : Type}
    {decoder : Decoder α}
    {params : Record String}
    {handle : Collaborators → α → Handling}
    (handled :
      ∀ value,
        decoder (some (Json.ofTextRecord params)) = .valid value →
        HandlingCourse server decides fun collaborators =>
          handle collaborators value) :
    HandlingCourse server decides fun collaborators =>
      (server.facing collaborators).withParams decoder params
        (handle collaborators) := by
  unfold Server.withParams
  cases decoded : decoder (some (Json.ofTextRecord params)) with
  | valid value => exact handled value decoded
  | invalid issues => exact refuse not_isDeploymentCode_validation

/-- Handling with a mapping takes a course if every mapping does. -/
theorem withConfig
    {body : Option Json}
    {handle : Collaborators → RawConfig → Handling}
    (handled :
      ∀ raw,
        Payload.rawConfigDecoder (some (body.getD .null)) = .valid raw →
        HandlingCourse server decides fun collaborators =>
          handle collaborators raw) :
    HandlingCourse server decides fun collaborators =>
      (server.facing collaborators).withConfig body (handle collaborators) := by
  unfold Server.withConfig
  cases given : Payload.rawConfigDecoder (some (body.getD .null)) with
  | valid raw => exact handled raw given
  | invalid issues => exact refuse not_isDeploymentCode_validation

/-- A validation makes no call. -/
theorem validate
    (backendType : String)
    (raw : RawConfig) :
    HandlingCourse server decides fun collaborators =>
      (server.facing collaborators).validate backendType raw := by
  refine withBackend fun backend found => ?_
  cases backend.schema.validate raw with
  | accepted config =>
      exact answer (by simp [Record.keys]) (by simp [Record.keys]) (by simp)
  | rejected issues =>
      refine answer (by simp [Record.keys]) (by simp [Record.keys]) ?_
      intro line listed
      rw [List.mem_singleton.1 listed]
      exact LogLine.not_tells (by simp [rejectionLine, Record.keys])
  | unprintable =>
      have own : ¬IsDeploymentCode ErrorReport.internalCode := by decide
      exact refuse own

/--
A put makes the addition that its names and its mapping ask for, or no call.
-/
theorem putInstance
    {params : Record String}
    {body : Option Json}
    {names : Payload.InstanceParams}
    (named :
      Payload.InstanceParams.decoder (some (Json.ofTextRecord params)) =
        .valid names)
    {raw : RawConfig}
    (given : Payload.rawConfigDecoder (some (body.getD .null)) = .valid raw) :
    HandlingCourse server (server.Decides params body .putInstance)
      fun collaborators =>
        (server.facing collaborators).putInstance names raw := by
  cases found : server.registry.find? names.backendType with
  | none =>
      refine withBackend fun backend other => ?_
      rw [found] at other
      cases other
  | some backend =>
      cases accepted : backend.schema.validate raw with
      | accepted config =>
          refine .calls _
            (.put names named raw given backend found config accepted) ?_
          intro collaborators
          exact (server.facing collaborators).putInstance_eq_handleCall found
            accepted
      | rejected issues =>
          have own : ¬IsDeploymentCode FaultKind.configRejected.code := by
            decide
          refine withBackend fun other otherFound => ?_
          rw [found] at otherFound
          cases otherFound
          simp only [ConfigSchema.accept, accepted]
          exact refuse own
      | unprintable =>
          have own : ¬IsDeploymentCode ErrorReport.internalCode := by decide
          refine withBackend fun other otherFound => ?_
          rw [found] at otherFound
          cases otherFound
          simp only [ConfigSchema.accept, accepted]
          exact refuse own

/-- A deletion makes the removal that its names ask for, or no call. -/
theorem deleteInstance
    {params : Record String}
    {body : Option Json}
    {names : Payload.InstanceParams}
    (named :
      Payload.InstanceParams.decoder (some (Json.ofTextRecord params)) =
        .valid names) :
    HandlingCourse server (server.Decides params body .deleteInstance)
      fun collaborators =>
        (server.facing collaborators).deleteInstance names := by
  cases found : server.registry.find? names.backendType with
  | none =>
      refine withBackend fun backend other => ?_
      rw [found] at other
      cases other
  | some backend =>
      refine .calls _ (.delete names named backend found) ?_
      intro collaborators
      exact (server.facing collaborators).deleteInstance_eq_handleCall found

end HandlingCourse

/-- Every route but that of the health of the engine takes such a course. -/
theorem handleRoute_course
    (server : Server)
    (moment : Moment)
    (params : Record String)
    (body : Option Json)
    {route : Route}
    (known : route ≠ .options)
    (elsewhere : route ≠ .health) :
    ∃ handle,
      HandlingCourse server (server.Decides params body route) handle ∧
        ∀ collaborators,
          (server.facing collaborators).handleRoute moment params body route =
            some (handle collaborators) := by
  cases route with
  | health => exact absurd rfl elsewhere
  | options => exact absurd rfl known
  | backendList =>
      let listed : Record Json :=
        [("backends", .arr (server.registry.backends.map fun backend =>
          backend.summary.toJson))]
      refine ⟨fun collaborators =>
        (server.facing collaborators).answer (.json 200 (.obj listed)) [],
        ?_, fun _ => rfl⟩
      refine .answer ?_ ?_ ?_
      · simp [listed, Record.keys]
      · simp [listed, Record.keys]
      · simp
  | backendDetail =>
      refine ⟨_, ?_, fun _ => rfl⟩
      refine .withParams fun read _ => .withBackend fun backend _ => ?_
      refine .answer ?_ ?_ (by simp)
      · simp [Payload.BackendSummary.members, Record.keys]
      · simp [Payload.BackendSummary.members, Record.keys]
  | validate =>
      refine ⟨_, ?_, fun _ => rfl⟩
      exact .withParams fun read _ => .withConfig fun raw _ =>
        .validate read.backendType raw
  | putInstance =>
      refine ⟨_, ?_, fun _ => rfl⟩
      exact .withParams fun read named => .withConfig fun raw given =>
        .putInstance named given
  | deleteInstance =>
      refine ⟨_, ?_, fun _ => rfl⟩
      exact .withParams fun read named => .deleteInstance named

/-- The exchange and the server after a request that was handled. -/
def conclude
    (server : Server)
    (visit : Visit)
    (destination : Destination)
    (headers : List (String × String))
    (handling : Handling) :
    Exchange × Server :=
  (server.exchange visit [incomingLine visit]
      (server.endHandled visit destination headers handling),
    { server.counting visit with collaborators := handling.collaborators })

/--
Whether a request comes through to its handler is decided without the
collaborators.
-/
theorem Passes.facing
    {server : Server}
    {visit : Visit}
    {route : Route}
    {params : Record String}
    {body : Option Json}
    (passes : server.Passes visit route params body)
    (collaborators : Collaborators) :
    (server.facing collaborators).Passes visit route params body :=
  ⟨passes.arrives, passes.within, passes.read⟩

/-- A request that passes all checks ends as its handling does. -/
theorem serve_of_passes
    {server : Server}
    {visit : Visit}
    {route : Route}
    {params : Record String}
    {body : Option Json}
    (passes : server.Passes visit route params body)
    (known : route ≠ .options)
    {handling : Handling}
    (handles :
      server.handleRoute visit.moment params body route = some handling) :
    server.serve visit =
      server.conclude visit ⟨some route, params⟩
        (server.limitHeaders visit) handling := by
  have notPreflight := server.isPreflight_eq_false passes.arrives known
  rw [← server.handleRoute_counting visit] at handles
  simp only [serve, passes.arrives, notPreflight, Bool.false_eq_true, if_false,
    handleCounted_within passes.within, handleBody, Option.isSome_some,
    passes.read, Option.bind_some, handles]
  rfl

/-- A request that makes a call is answered with what the call comes to. -/
theorem serve_of_makes
    {server : Server}
    {visit : Visit}
    {call : Call}
    (makes : server.Makes visit call) :
    ∃ destination headers, ∀ collaborators,
      (server.facing collaborators).serve visit =
        server.conclude visit destination headers
          ((server.facing collaborators).handleCall call) := by
  obtain ⟨route, params, body, passes, decides⟩ := makes
  refine ⟨⟨some route, params⟩,
    server.limitHeaders visit, fun collaborators => ?_⟩
  refine serve_of_passes (passes.facing collaborators) ?_ ?_
  · cases decides <;> decide
  · cases decides with
    | put names named raw given backend found config accepted =>
        simp only [handleRoute, withParams, named, withConfig, given]
        exact congrArg some
          ((server.facing collaborators).putInstance_eq_handleCall found
            accepted)
    | delete names named backend found =>
        simp only [handleRoute, withParams, named]
        exact congrArg some
          ((server.facing collaborators).deleteInstance_eq_handleCall found)

/-- The courses that a request can take over any collaborators. -/
inductive Course (server : Server) (visit : Visit) : Prop where
  /-- It ends without looking at them. -/
  | aside
      (exchange : Exchange)
      (tallies : List RateLimit.Tally)
      (discreet : ∀ code, exchange.Tells code → ¬IsDeploymentCode code)
      (serves :
        ∀ collaborators,
          (server.facing collaborators).serve visit =
            (exchange,
              { server with
                collaborators := collaborators
                tallies := tallies }))
  /-- It checks the health of the engine. -/
  | checks
      (params : Record String)
      (arrives :
        Destination.ofTarget visit.verb visit.request.target =
          .ok ⟨some .health, params⟩)
      (headers : List (String × String))
      (serves :
        ∀ collaborators,
          (server.facing collaborators).serve visit =
            server.conclude visit ⟨some .health, params⟩ headers
              ((server.facing collaborators).health visit.moment))
  /-- It makes a call. -/
  | calls
      (call : Call)
      (makes : server.Makes visit call)
      (destination : Destination)
      (headers : List (String × String))
      (serves :
        ∀ collaborators,
          (server.facing collaborators).serve visit =
            server.conclude visit destination headers
              ((server.facing collaborators).handleCall call))

/-- A request that comes to one and the same end over all collaborators. -/
private theorem Course.ofEnding
    {server : Server}
    {visit : Visit}
    {firstLines : List LogLine}
    (first : firstLines = [] ∨ firstLines = [incomingLine visit])
    (ending : Ending)
    (tallies : List RateLimit.Tally)
    (discreet : ∀ code, ending.Tells code → ¬IsDeploymentCode code)
    (serves :
      ∀ collaborators,
        (server.facing collaborators).serve visit =
          (server.exchange visit firstLines ending,
            { server with
              collaborators := collaborators
              tallies := tallies })) :
    Course server visit := by
  refine .aside _ tallies (fun code told => ?_) serves
  refine discreet code (tells_exchange (fun line listed => ?_) told)
  rcases first with rfl | rfl
  · cases listed
  · rw [List.mem_singleton.1 listed]
    exact not_tells_incomingLine visit code

/-- A request to a known route that is within the limit is handled. -/
private theorem course_of_passes
    {server : Server}
    {visit : Visit}
    {route : Route}
    {params : Record String}
    {body : Option Json}
    (passes : server.Passes visit route params body)
    (known : route ≠ .options) :
    Course server visit := by
  let headers := server.limitHeaders visit
  have serves :
      ∀ collaborators handling,
        (server.facing collaborators).handleRoute visit.moment params body
            route =
          some handling →
        (server.facing collaborators).serve visit =
          server.conclude visit ⟨some route, params⟩ headers handling :=
    fun collaborators _ handles =>
      serve_of_passes (passes.facing collaborators) known handles
  by_cases health : route = .health
  · subst health
    exact .checks params passes.arrives headers
      fun collaborators => serves collaborators _ rfl
  · obtain ⟨handle, course, handles⟩ :=
      server.handleRoute_course visit.moment params body known health
    cases course with
    | settled handling discreet same =>
        refine .ofEnding (.inr rfl)
          (server.endHandled visit ⟨some route, params⟩ headers handling)
          (server.counting visit).tallies (fun code told => discreet.not_tells told)
          fun collaborators => ?_
        rw [serves collaborators _ (handles collaborators), same]
        rfl
    | calls call decided same =>
        refine .calls call ⟨route, params, body, passes, decided⟩
          ⟨some route, params⟩ headers ?_
        intro collaborators
        rw [serves collaborators _ (handles collaborators), same]

/-- A target that cannot be read is told without a code of deployment. -/
private theorem discreet_target
    {visit : Visit}
    {problem : TargetProblem}
    {code : String}
    (told : (problem.exchange visit).Tells code) :
    ¬IsDeploymentCode code := by
  rcases told with told | ⟨line, listed, told⟩
  · rcases told.of_sent with told | told
    · simp [Content.at?_json_cons, TargetProblem.body, Json.member?,
        Record.get?_cons] at told
    · have own : problem.code = code := by
        simpa [Content.at?_json_cons, Content.at?_json_nil,
          TargetProblem.body, Json.member?, Record.get?_cons] using told
      rw [← own]
      cases problem with
      | malformed => decide
      | overlongParam path =>
          show ¬IsDeploymentCode "FST_ERR_MAX_PARAM_LENGTH"
          decide
  · cases listed

/-- Cross-origin rules tell no code of deployment. -/
private theorem discreet_preflight
    {request : Request}
    {destination : Destination}
    {code : String}
    (told : (endPreflight request destination).Tells code) :
    ¬IsDeploymentCode code := by
  rcases told with told | ⟨line, listed, told⟩
  · dsimp only [endPreflight] at told
    split at told
    · exact absurd told (Content.not_tells_empty code)
    · exact absurd told (Content.not_tells_text _ code)
  · cases listed

/-- A request that leads nowhere is told no code of deployment. -/
private theorem discreet_unknown
    {visit : Visit}
    {params : Record String}
    {headers : List (String × String)}
    {code : String}
    (told : (endUnknown visit params headers).Tells code) :
    ¬IsDeploymentCode code := by
  rcases told with (told | told) | ⟨line, listed, told⟩
  · have own : "NOT_FOUND" = code := by
      simpa [Content.at?_json_cons, Content.at?_json_nil, endUnknown,
        unknownBody, Json.member?, Record.get?_cons] using told
    rw [← own]
    decide
  · have codeless : (unknownBody visit).member? "code" = none :=
      (Record.get?_eq_none_iff _ _).2 (by simp [Record.keys])
    simp [endUnknown, Content.at?_json_cons, codeless] at told
  · rw [List.mem_singleton.1 listed] at told
    exact absurd told (not_tells_unknownLine visit code)

/-- An early end tells no code but its own. -/
private theorem discreet_early
    {server : Server}
    {visit : Visit}
    {destination : Destination}
    {headers : List (String × String)}
    {report : ErrorReport}
    (own : ¬IsDeploymentCode report.shownCode)
    {code : String}
    (told : (server.endEarly visit destination headers report).Tells code) :
    ¬IsDeploymentCode code := by
  rcases tells_endEarly told with rfl | rfl
  · exact own
  · decide

/-- The problems of bodies have codes of their own. -/
private theorem not_isDeploymentCode_problem (problem : Body.Problem) :
    ¬IsDeploymentCode problem.report.shownCode := by
  cases problem <;> decide

/-- A request to a path without a route is not counted. -/
private theorem course_of_unknown
    {server : Server}
    {visit : Visit}
    (params : Record String)
    (serves :
      ∀ collaborators,
        (server.facing collaborators).serve visit =
          let served :=
            (server.facing collaborators).handleBody visit ⟨none, params⟩ []
          (server.exchange visit [incomingLine visit] served.1, served.2)) :
    Course server visit := by
  cases read : Body.ofRequest false visit.request with
  | error problem =>
      let headers := if problem.endsConnection then [lastOnConnection] else []
      have own := not_isDeploymentCode_problem problem
      refine .ofEnding (.inr rfl)
        (server.endEarly visit ⟨none, params⟩ headers problem.report)
        server.tallies (fun code => discreet_early own) fun collaborators => ?_
      rw [serves]
      simp only [handleBody, Option.isSome_none, read]
      rfl
  | ok body =>
      refine .ofEnding (.inr rfl) (endUnknown visit params [])
        server.tallies (fun code => discreet_unknown) fun collaborators => ?_
      rw [serves]
      simp only [handleBody, Option.isSome_none, read]
      rfl

/-- A request to a route is counted, and handled if it is within the limit. -/
private theorem course_of_route
    {server : Server}
    {visit : Visit}
    {route : Route}
    {params : Record String}
    (arrives :
      Destination.ofTarget visit.verb visit.request.target =
        .ok ⟨some route, params⟩)
    (serves :
      ∀ collaborators,
        (server.facing collaborators).serve visit =
          let served :=
            (server.facing collaborators).handleCounted visit
              ⟨some route, params⟩
          (server.exchange visit [incomingLine visit] served.1, served.2)) :
    Course server visit := by
  let headers := server.limitHeaders visit
  cases within : server.isBeyondLimit visit with
  | true =>
      have own :
          ¬IsDeploymentCode (server.limitReport visit).shownCode := by
        show ¬IsDeploymentCode ErrorReport.internalCode
        decide
      refine .ofEnding (.inr rfl)
        (server.endEarly visit ⟨some route, params⟩ headers
          (server.limitReport visit))
        (server.counting visit).tallies (fun code => discreet_early own)
        fun collaborators => ?_
      rw [serves]
      dsimp only
      rw [handleCounted_beyond
        ((server.isBeyondLimit_facing collaborators visit).trans within)]
      rfl
  | false =>
      cases read : Body.ofRequest true visit.request with
      | error problem =>
          let allHeaders :=
            if problem.endsConnection then lastOnConnection :: headers
            else headers
          have own := not_isDeploymentCode_problem problem
          refine .ofEnding (.inr rfl)
            (server.endEarly visit ⟨some route, params⟩ allHeaders
              problem.report)
            (server.counting visit).tallies (fun code => discreet_early own)
            fun collaborators => ?_
          rw [serves]
          simp only [handleCounted_within
            ((server.isBeyondLimit_facing collaborators visit).trans within),
            handleBody, Option.isSome_some, read]
          rfl
      | ok body =>
          by_cases options : route = .options
          · subst options
            refine .ofEnding (.inr rfl) (endUnknown visit params headers)
              (server.counting visit).tallies (fun code => discreet_unknown)
              fun collaborators => ?_
            rw [serves]
            simp only [handleCounted_within
              ((server.isBeyondLimit_facing collaborators visit).trans within),
              handleBody, Option.isSome_some, read]
            rfl
          · exact course_of_passes ⟨arrives, within, read⟩ options

/-- Every request takes one of these courses. -/
theorem course (server : Server) (visit : Visit) : Course server visit := by
  cases arrives : Destination.ofTarget visit.verb visit.request.target with
  | error problem =>
      refine .aside (problem.exchange visit) server.tallies
        (fun code => discreet_target) fun collaborators => ?_
      simp only [serve, arrives]
      rfl
  | ok destination =>
      cases preflight : server.isPreflight visit.request with
      | true =>
          refine .ofEnding (.inl rfl)
            (endPreflight visit.request destination) server.tallies
            (fun code => discreet_preflight) fun collaborators => ?_
          have preflightFacing :
              (server.facing collaborators).isPreflight visit.request = true :=
            preflight
          simp only [serve, arrives, preflightFacing, if_true]
          rfl
      | false =>
          have preflightFacing : ∀ collaborators,
              (server.facing collaborators).isPreflight visit.request = false :=
            fun _ => preflight
          rcases destination with ⟨route, params⟩
          cases route with
          | none =>
              refine course_of_unknown params fun collaborators => ?_
              simp only [serve, arrives, preflightFacing, Bool.false_eq_true,
                if_false]
              rfl
          | some route =>
              refine course_of_route arrives fun collaborators => ?_
              simp only [serve, arrives, preflightFacing, Bool.false_eq_true,
                if_false]
              rfl

end Http.Server

end StorageBackends
