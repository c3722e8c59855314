import StorageBackends.Proofs.Backend.Description
import StorageBackends.Proofs.Deploy.Holdings
import StorageBackends.Proofs.Http.Content
import StorageBackends.Proofs.Http.Path
import StorageBackends.Proofs.Http.Unprintable

namespace StorageBackends

open StorageBackends.Document

/-!
# Trying and applying a configuration

A configuration that is tried for a backend is answered as it would be if it
were applied as an instance: both requests pass or both are refused, a refusal
names the same issues in both replies, and the fields that the trial shows are
the ones that the variables of the instance carry.
-/

namespace Backend

/-- What an addition applies if the collaborators take it. -/
theorem addInstance_run_variables
    {backend : Backend}
    {instanceName : String}
    {handed : HandedConfig}
    {config : ValidatedConfig}
    (valid : isInstanceName instanceName = true)
    (own : backend.ownConfig handed = .ok config)
    {collaborators : Collaborators}
    (takes : collaborators.Takes backend.planName instanceName)
    (spaces : NetworkSpaces) :
    ∃ reference,
      ((backend.addInstance spaces instanceName handed).run
          collaborators).result =
        .ok (backend.variablesOf config instanceName reference spaces) ∧
      (reference = none → (backend.secretsOf config).isEmpty = true) := by
  obtain ⟨deployment, added⟩ :=
    addInstance_run_of_takes valid own takes spaces
  have run :=
    backend.addInstance_run spaces instanceName handed collaborators
  generalize (backend.addInstance spaces instanceName handed).run
    collaborators = outcome at run added ⊢
  cases run with
  | refused failure unchecked => cases added
  | unstored _ failure _ _ _ outage => cases added
  | stored stored _ ownStored available =>
      rw [own] at ownStored
      cases ownStored
      obtain ⟨built, -⟩ := applyConfig_run_ok added
      refine ⟨_, built ▸ added, fun noReference => ?_⟩
      by_contra secret
      simp [storeSecret, secret] at noReference

end Backend

namespace Http

/-- The content of the reply to a request that was handled. -/
def Handling.content
    (isDevelopment : Bool)
    (visit : Visit)
    (handling : Handling) :
    Content :=
  match handling.result with
  | .ok answer => answer.content
  | .error report => (report.reply isDevelopment visit).2

namespace Server

/-- The reply to a request within the limit carries what its handling gives. -/
theorem content_serve
    {server : Server}
    {visit : Visit}
    {route : Route}
    {params : Record String}
    (arrives :
      Destination.ofTarget visit.verb visit.request.target =
        .ok ⟨some route, params⟩)
    (known : route ≠ .options)
    (within : server.isBeyondLimit visit = false)
    {body : Option Json}
    (read : Body.ofRequest true visit.request = .ok body)
    {handling : Handling}
    (handled :
      server.handleRoute visit.moment params body route = some handling) :
    (server.serve visit).1.reply.content =
      sentContent visit.request
        (handling.content server.config.isDevelopment visit) := by
  have notPreflight := server.isPreflight_eq_false arrives known
  simp only [serve, arrives, notPreflight, Bool.false_eq_true, if_false,
    handleCounted_within within, exchange, handleBody, Option.isSome_some,
    read, Option.bind_some, handleRoute_counting, handled]
  congr 1
  unfold endHandled Handling.content
  cases handling.result <;> rfl

/-- A request whose body cannot be read is answered with that problem. -/
theorem status_serve_of_problem
    {server : Server}
    {visit : Visit}
    {route : Route}
    {params : Record String}
    (arrives :
      Destination.ofTarget visit.verb visit.request.target =
        .ok ⟨some route, params⟩)
    (known : route ≠ .options)
    (within : server.isBeyondLimit visit = false)
    {problem : Body.Problem}
    (unread : Body.ofRequest true visit.request = .error problem) :
    (server.serve visit).1.reply.status = problem.report.sentStatus := by
  have otherRoute : some route ≠ some .options := by simpa using known
  have notPreflight := server.isPreflight_eq_false arrives known
  simp only [serve, arrives, notPreflight, Bool.false_eq_true, if_false,
    handleCounted_within within, exchange, handleBody, Option.isSome_some,
    unread, endEarly, if_neg otherRoute, status_endWithError]

end Server

/-- A configuration that is shown as it is applied. -/
structure ShownAsApplied
    (backend : Backend)
    (instanceName : String)
    (config : ValidatedConfig)
    (shown applied : Content) : Prop where
  /-- A plain field is shown with the value that it is applied with. -/
  plain :
    ∀ field ∈ backend.schema.fields,
      field.isSecret = false →
      ∀ value,
        shown.at? ["config", field.externalKey] = some value ↔
          (config.get? field.name).isSome ∧
            applied.at? ["variables", "charm_config", field.externalKey] =
              some value
  /-- Nothing else is applied but the name that a backend has by default. -/
  others :
    ∀ key value,
      applied.at? ["variables", "charm_config", key] = some value →
      (∃ field ∈ backend.schema.fields,
          field.isSecret = false ∧
            field.externalKey = key ∧ (config.get? field.name).isSome) ∨
        key = Backend.backendNameKey ∧
          value = .str instanceName ∧
          ∀ field ∈ backend.schema.fields,
            field.isSecret = false →
            field.externalKey = key →
            config.get? field.name = none
  /-- There is a reference to a secret if a secret field is shown. -/
  reference :
    ∃ reference,
      applied.at? ["variables", "secret_ref"] =
          some (Json.ofText? reference) ∧
        (reference ≠ none ↔
          ∃ field ∈ backend.schema.fields,
            field.isSecret = true ∧
              (shown.at? ["config", field.externalKey]).isSome)

/-- The replies to a trial and to an application of one configuration agree. -/
structure Agree
    (backend : Backend)
    (instanceName : String)
    (request : Request)
    (tried applied : Reply) : Prop where
  passed : tried.status = 200 ↔ applied.status = 201
  refused : tried.status = 422 ↔ applied.status = 422
  issues :
    tried.status = 422 →
    ∃ issues,
      tried.content.at? ["issues"] = some (.arr issues) ∧
        applied.content.at? ["error", "issues"] = some (.arr issues)
  shown :
    tried.status = 200 →
    ∃ body raw config,
      Body.ofRequest true request = .ok body ∧
        Payload.rawConfigDecoder (some (body.getD .null)) = .valid raw ∧
        backend.schema.validate raw = .accepted config ∧
        ShownAsApplied backend instanceName config tried.content
          applied.content

/-- Replies of other statuses agree on everything. -/
private theorem Agree.of_status
    {backend : Backend}
    {instanceName : String}
    {request : Request}
    {tried applied : Reply}
    (trial : tried.status ≠ 200 ∧ tried.status ≠ 422)
    (application : applied.status ≠ 201 ∧ applied.status ≠ 422) :
    Agree backend instanceName request tried applied where
  passed := iff_of_false trial.1 application.1
  refused := iff_of_false trial.2 application.2
  issues := fun refused => absurd refused trial.2
  shown := fun passed => absurd passed trial.1

/-- What a trial shows under the key of a field. -/
private theorem at?_config
    (config : Record ConfigValue)
    (key : String) :
    Content.at? (.json (Payload.ValidateResponse.passed config).toJson)
        ["config", key] =
      (Record.get? key config).map ConfigValue.toJson := by
  rw [← Record.get?_mapValues]
  simp [Content.at?_json_cons, Content.at?_json_nil, Json.member?,
    Payload.ValidateResponse.toJson, Record.get?_cons]

/-- What an application carries under the key of an option. -/
private theorem at?_charmConfig
    (params : Payload.InstanceParams)
    (deployment : DeploymentVariables)
    (key : String) :
    Content.at?
        (.json (Payload.InstanceResponse.mk params deployment).toJson)
        ["variables", "charm_config", key] =
      (Record.get? key deployment.charmConfig).map ConfigValue.toJson := by
  rw [← Record.get?_mapValues]
  simp [Content.at?_json_cons, Content.at?_json_nil, Json.member?,
    Payload.InstanceResponse.toJson, DeploymentVariables.toJson,
    Record.get?_cons]

private theorem at?_secretRef
    (params : Payload.InstanceParams)
    (deployment : DeploymentVariables) :
    Content.at?
        (.json (Payload.InstanceResponse.mk params deployment).toJson)
        ["variables", "secret_ref"] =
      some (Json.ofText? deployment.secretRef) := by
  simp [Content.at?_json_cons, Content.at?_json_nil, Json.member?,
    Payload.InstanceResponse.toJson, DeploymentVariables.toJson,
    Record.get?_cons]

/-- A secret is set exactly if a secret field is shown. -/
private theorem setsSecret_iff_shown
    {schema : ConfigSchema}
    (assignsAll : schema.AssignsAll)
    (config : ValidatedConfig) :
    schema.SetsSecret config ↔
      ∃ field ∈ schema.fields,
        field.isSecret = true ∧
          (Content.at?
            (.json (Payload.ValidateResponse.passed
              (schema.redact config)).toJson)
            ["config", field.externalKey]).isSome := by
  have isShown :
      ∀ field ∈ schema.fields,
        (Content.at?
            (.json (Payload.ValidateResponse.passed
              (schema.redact config)).toJson)
            ["config", field.externalKey]).isSome =
          (config.get? field.name).isSome := by
    intro field listed
    rw [at?_config, ConfigSchema.get?_redact _ listed,
      if_neg (assignsAll.keys field listed)]
    simp
  constructor
  · rintro ⟨field, value, ⟨listed, set⟩, secret⟩
    refine ⟨field, listed, secret, ?_⟩
    rw [isShown field listed, set]
    rfl
  · rintro ⟨field, listed, secret, shown⟩
    rw [isShown field listed] at shown
    obtain ⟨value, set⟩ := Option.isSome_iff_exists.1 shown
    exact ⟨field, value, ⟨listed, set⟩, secret⟩

/-- What is shown of an accepted configuration is what is applied of it. -/
theorem shownAsApplied
    {backend : Backend}
    (assignsAll : backend.schema.AssignsAll)
    (config : ValidatedConfig)
    (params : Payload.InstanceParams)
    {reference : Option String}
    (referenced :
      reference = none → (backend.secretsOf config).isEmpty = true)
    (spaces : NetworkSpaces) :
    ShownAsApplied backend params.instanceName config
      (.json (Payload.ValidateResponse.passed
        (backend.schema.redact config)).toJson)
      (.json (Payload.InstanceResponse.mk params
        (backend.variablesOf config params.instanceName reference
          spaces)).toJson) := by
  have splits :=
    backend.variablesOf_splits assignsAll config params.instanceName
      reference spaces
  have applies := splits.options.get?_eq_some_iff
  constructor
  · intro field listed plain value
    have shown :
        Record.get? field.externalKey (backend.schema.redact config) =
          config.get? field.name := by
      rw [ConfigSchema.get?_redact _ listed,
        if_neg (assignsAll.keys field listed)]
      simp [plain]
    rw [at?_config, at?_charmConfig, shown]
    simp only [Option.map_eq_some_iff, applies,
      Backend.hasOption_externalKey_iff listed plain]
    constructor
    · rintro ⟨set, found, rfl⟩
      exact ⟨by simp [found], set, .inl found, rfl⟩
    · rintro ⟨isSet, set, found | ⟨_, unset, _⟩, rfl⟩
      · exact ⟨set, found, rfl⟩
      · simp [unset] at isSet
  · intro key value found
    rw [at?_charmConfig, Option.map_eq_some_iff] at found
    obtain ⟨set, found, rfl⟩ := found
    cases (applies key set).1 found with
    | field field _ sets plain =>
        exact .inl ⟨field, sets.listed, plain, rfl, by simp [sets.set]⟩
    | ownName unset =>
        refine .inr ⟨rfl, rfl, fun field listed plain isName => ?_⟩
        refine Option.eq_none_iff_forall_ne_some.2 fun other set => ?_
        exact unset field other ⟨listed, set⟩ plain isName
  · refine ⟨_, at?_secretRef _ _, ?_⟩
    rw [← setsSecret_iff_shown assignsAll]
    by_cases sets : backend.schema.SetsSecret config
    · rw [splits.referenced sets]
      refine ⟨fun _ => sets, fun _ noReference => ?_⟩
      exact (Backend.isEmpty_secretsOf_iff assignsAll config).1
        (referenced noReference) sets
    · rw [splits.unreferenced sets]
      simp [sets]

namespace Server

/-- The issues of a refusal stand in the reply, in whatever environment. -/
private theorem issues_content
    (isDevelopment : Bool)
    (visit : Visit)
    (schemaName : String)
    (issues : List ValidationIssue) :
    ((ErrorReport.ofFailure (.rejected schemaName issues)).reply
        isDevelopment visit).2.at? ["error", "issues"] =
      some (.arr (issues.map ValidationIssue.toJson)) := by
  have content :
      ((ErrorReport.ofFailure (.rejected schemaName issues)).reply
          isDevelopment visit).2 =
        .json ((ErrorReport.ofFailure
          (.rejected schemaName issues)).body isDevelopment visit) := rfl
  rw [content]
  cases isDevelopment <;>
    simp [Content.at?_json_cons, Content.at?_json_nil, Json.member?,
      ErrorReport.body, ErrorReport.ofFailure, Failure.issues?,
      Record.get?_cons]

/-- A request for the path of a route, made in the way of that route. -/
structure Asks
    (visit : Visit)
    (verb : String)
    (route : Route)
    (values : String → String) : Prop where
  verbed : visit.verb = verb
  written : visit.request.target.path = route.pathWith values

/-- The values of the parameters that name an instance of a backend type. -/
def valuesOf (backendType instanceName param : String) : String :=
  if param = Route.instanceParam then instanceName else backendType

/--
A trial of a body for a backend and an application of the same body as an
instance of that backend, to servers of one registry.
-/
structure Rehearsal
    (server other : Server)
    (trial application : Visit)
    (backend : Backend)
    (instanceName : String) : Prop where
  sameRegistry : other.registry = server.registry
  registered : backend ∈ server.registry.backends
  assignsAll : backend.schema.AssignsAll
  valid : isInstanceName instanceName = true
  tries :
    Asks trial "POST" .validate (valuesOf backend.backendType instanceName)
  applies :
    Asks application "PUT" .putInstance
      (valuesOf backend.backendType instanceName)
  sameBody :
    Body.ofRequest true application.request =
      Body.ofRequest true trial.request
  trialWithin : server.isBeyondLimit trial = false
  applicationWithin : other.isBeyondLimit application = false
  takes : other.collaborators.Takes backend.planName instanceName

/-- Names of lower-case letters, digits and hyphens are plain. -/
private theorem isPlain_of_safe
    {text : String}
    (safe : ∀ c ∈ text.toList, Text.isLowerOrDigit c = true ∨ c = '-') :
    IsPlain text := by
  have absent :
      ∀ c,
        Text.isLowerOrDigit c = false →
        c ≠ '-' →
        c ∉ text.toList := by
    intro c unsafeClass notHyphen listed
    rcases safe c listed with inClass | hyphen
    · rw [unsafeClass] at inClass
      cases inClass
    · exact notHyphen hyphen
  exact ⟨absent '%' (by decide) (by decide), absent '/' (by decide) (by decide),
    absent '?' (by decide) (by decide)⟩

/-- An instance name is never too long for a parameter. -/
private theorem unitLength_le_maxParam
    {instanceName : String}
    (valid : isInstanceName instanceName = true) :
    Text.unitLength instanceName ≤ Route.maxParam := by
  have safe :=
    ((isSafeName_iff instanceName).1 (isSafeName_of_isInstanceName valid)).2
  have units :
      ∀ characters : List Char,
        (∀ c ∈ characters, Text.isLowerOrDigit c = true ∨ c = '-') →
        (characters.flatMap Text.charUnits).length = characters.length := by
    intro characters safe
    induction characters with
    | nil => rfl
    | cons first rest inductionHypothesis =>
        obtain ⟨lead, others⟩ := List.forall_mem_cons.1 safe
        have single : (Text.charUnits first).length = 1 := by
          have ascii : first.val ≤ 127 :=
            Char.utf8Size_eq_one_iff.1 (utf8Size_of_isSafe lead)
          have small : first.toNat < 0x10000 :=
            Nat.lt_of_le_of_lt (UInt32.le_iff_toNat_le.1 ascii) (by decide)
          simp [Text.charUnits, small]
        simp [single, inductionHypothesis others]
        omega
  have length := length_le_of_isInstanceName valid
  unfold Text.unitLength Text.units
  rw [units _ safe]
  exact Nat.le_trans length (by decide)

/-- Where the two requests of a rehearsal arrive. -/
private theorem Rehearsal.arrives
    {server other : Server}
    {trial application : Visit}
    {backend : Backend}
    {instanceName : String}
    (rehearsal :
      Rehearsal server other trial application backend instanceName) :
    (∃ path,
        Destination.ofTarget trial.verb trial.request.target =
            .error (.overlongParam path) ∧
          ∃ otherPath,
            Destination.ofTarget application.verb application.request.target =
              .error (.overlongParam otherPath)) ∨
      Destination.ofTarget trial.verb trial.request.target =
          .ok ⟨some .validate, [("backendType", backend.backendType)]⟩ ∧
        Destination.ofTarget application.verb application.request.target =
          .ok ⟨some .putInstance,
            [("backendType", backend.backendType),
              ("instanceName", instanceName)]⟩ := by
  have typed := server.registry.isBackendType_of_listed rehearsal.registered
  have plain :
      ∀ param,
        IsPlain (valuesOf backend.backendType instanceName param) := by
    intro param
    unfold valuesOf
    split
    · exact isPlain_of_safe ((isSafeName_iff instanceName).1
        (isSafeName_of_isInstanceName rehearsal.valid)).2
    · exact isPlain_of_safe fun c listed =>
        .inl (isLowerOrDigit_of_isBackendType typed listed)
  have posts : Route.ofVerb "POST" = [.validate] := rfl
  have puts : Route.ofVerb "PUT" = [.putInstance] := rfl
  have trialTarget :=
    Route.ofTarget_pathWith posts (by decide) nofun plain
      rehearsal.tries.written
  have applicationTarget :=
    Route.ofTarget_pathWith puts (by decide) nofun plain
      rehearsal.applies.written
  rw [rehearsal.tries.verbed, rehearsal.applies.verbed, trialTarget,
    applicationTarget]
  have trialParams :
      PatternSegment.paramsOf (valuesOf backend.backendType instanceName)
          Route.validate.pattern =
        [("backendType", backend.backendType)] := rfl
  have applicationParams :
      PatternSegment.paramsOf (valuesOf backend.backendType instanceName)
          Route.putInstance.pattern =
        [("backendType", backend.backendType),
          ("instanceName", instanceName)] := rfl
  rw [trialParams, applicationParams]
  have short := unitLength_le_maxParam rehearsal.valid
  by_cases long : Route.maxParam < Text.unitLength backend.backendType
  · left
    simp [Route.isOverlong, long]
  · right
    simp [Route.isOverlong, long, Nat.not_lt.2 short]

/-- A configuration that is tried and applied is answered alike. -/
private theorem agree_of_validation
    {server other : Server}
    {backend : Backend}
    (found :
      server.registry.find? backend.backendType = some backend)
    (otherFound :
      other.registry.find? backend.backendType = some backend)
    (assignsAll : backend.schema.AssignsAll)
    {instanceName : String}
    (valid : isInstanceName instanceName = true)
    (takes : other.collaborators.Takes backend.planName instanceName)
    {request : Request}
    {body : Option Json}
    (read : Body.ofRequest true request = .ok body)
    {raw : RawConfig}
    (decoded :
      Payload.rawConfigDecoder (some (body.getD .null)) = .valid raw)
    {trial application : Visit}
    {tried applied : Reply}
    (triedStatus :
      tried.status = (server.validate backend.backendType raw).status)
    (triedContent :
      tried.content =
        (server.validate backend.backendType raw).content
          server.config.isDevelopment trial)
    (appliedStatus :
      applied.status =
        (other.putInstance ⟨backend.backendType, instanceName⟩ raw).status)
    (appliedContent :
      applied.content =
        (other.putInstance ⟨backend.backendType, instanceName⟩ raw).content
          other.config.isDevelopment application) :
    Agree backend instanceName request tried applied := by
  simp only [validate, withBackend, Registry.get, found]
    at triedStatus triedContent
  simp only [putInstance, withBackend, Registry.get, otherFound,
    ConfigSchema.accept] at appliedStatus appliedContent
  cases validated : backend.schema.validate raw with
  | unprintable =>
      simp only [validated] at triedStatus appliedStatus
      have failed : tried.status = 500 :=
        triedStatus.trans (ErrorReport.sentStatus_ofFailure _)
      have otherFailed : applied.status = 500 :=
        appliedStatus.trans (ErrorReport.sentStatus_ofFailure _)
      exact .of_status (by simp [failed]) (by simp [otherFailed])
  | rejected issues =>
      simp only [validated] at triedStatus triedContent
      simp only [validated] at appliedStatus appliedContent
      have refused : applied.status = 422 :=
        appliedStatus.trans (ErrorReport.sentStatus_ofFailure _)
      have triedRefused : tried.status = 422 := triedStatus
      constructor
      · simp [refused, triedRefused]
      · simp [refused, triedRefused]
      · intro _
        refine ⟨issues.map ValidationIssue.toJson, ?_, ?_⟩
        · rw [triedContent]
          rfl
        · rw [appliedContent]
          exact issues_content other.config.isDevelopment application
            backend.schema.name issues
      · intro passed
        rw [triedRefused] at passed
        cases passed
  | accepted config =>
      simp only [validated] at triedStatus triedContent
      simp only [validated] at appliedStatus appliedContent
      have own := Backend.ownConfig_of_accepted validated
      obtain ⟨reference, added, referenced⟩ :=
        Backend.addInstance_run_variables valid own takes other.config.spaces
      simp only [runProgram, Handling.status, Handling.content, added]
        at appliedStatus appliedContent
      have passed : applied.status = 201 := appliedStatus
      have triedPassed : tried.status = 200 := triedStatus
      constructor
      · simp [passed, triedPassed]
      · simp [passed, triedPassed]
      · intro refused
        rw [triedPassed] at refused
        cases refused
      · intro _
        refine ⟨body, raw, config, read, decoded, validated, ?_⟩
        rw [triedContent, appliedContent]
        exact shownAsApplied assignsAll config
          ⟨backend.backendType, instanceName⟩ referenced other.config.spaces

/-- A body is tried for the backend that the path names. -/
private theorem handleRoute_validate
    (server : Server)
    (moment : Moment)
    (body : Option Json)
    {backendType : String}
    (notEmpty : backendType ≠ "") :
    server.handleRoute moment [("backendType", backendType)] body .validate =
      some (server.withConfig body fun raw =>
        server.validate backendType raw) := by
  have typed :
      Record.get? "backendType" [("backendType", backendType)] =
        some backendType := by simp [Record.get?_cons]
  simp only [handleRoute, withParams,
    Payload.BackendParams.decoder_eq_valid typed notEmpty]

/-- A body is applied as the instance that the path names. -/
private theorem handleRoute_putInstance
    (server : Server)
    (moment : Moment)
    (body : Option Json)
    {backendType instanceName : String}
    (typeNotEmpty : backendType ≠ "")
    (nameNotEmpty : instanceName ≠ "") :
    server.handleRoute moment
        [("backendType", backendType), ("instanceName", instanceName)] body
        .putInstance =
      some (server.withConfig body fun raw =>
        server.putInstance ⟨backendType, instanceName⟩ raw) := by
  have typed :
      Record.get? "backendType"
          [("backendType", backendType), ("instanceName", instanceName)] =
        some backendType := by simp [Record.get?_cons]
  have named :
      Record.get? "instanceName"
          [("backendType", backendType), ("instanceName", instanceName)] =
        some instanceName := by simp [Record.get?_cons]
  simp only [handleRoute, withParams,
    Payload.InstanceParams.decoder_eq_valid typed typeNotEmpty named
      nameNotEmpty]

/-- A path with an overlong parameter is answered as that. -/
private theorem status_serve_of_overlong
    {server : Server}
    {visit : Visit}
    {path : List Char}
    (tooLong :
      Destination.ofTarget visit.verb visit.request.target =
        .error (.overlongParam path)) :
    (server.serve visit).1.reply.status = 414 := by
  simp only [serve, tooLong]
  rfl

/-- The problems of a body are none that a validation reports. -/
private theorem sentStatus_problem_apart (problem : Body.Problem) :
    problem.report.sentStatus ≠ 200 ∧
      problem.report.sentStatus ≠ 201 ∧
      problem.report.sentStatus ≠ 422 := by
  cases problem <;> decide +kernel

/-- The reply to a request within the limit is what its handling gives. -/
private theorem reply_of_handled
    {server : Server}
    {visit : Visit}
    {route : Route}
    {params : Record String}
    (arrives :
      Destination.ofTarget visit.verb visit.request.target =
        .ok ⟨some route, params⟩)
    (known : route ≠ .options)
    (within : server.isBeyondLimit visit = false)
    (sent : visit.verb ≠ "HEAD")
    {body : Option Json}
    (read : Body.ofRequest true visit.request = .ok body)
    {handling : Handling}
    (handled :
      server.handleRoute visit.moment params body route = some handling) :
    (server.serve visit).1.reply.status = handling.status ∧
      (server.serve visit).1.reply.content =
        handling.content server.config.isDevelopment visit := by
  have status := status_serve arrives known read handled
  have content := content_serve arrives known within read handled
  have notHead : visit.request.verb ≠ "HEAD" := sent
  rw [within, if_neg Bool.false_ne_true] at status
  rw [sentContent, if_neg notHead] at content
  exact ⟨status, content⟩

/-- A body that is tried and applied is answered alike. -/
private theorem agree_of_body
    {server other : Server}
    {backend : Backend}
    (found :
      server.registry.find? backend.backendType = some backend)
    (otherFound :
      other.registry.find? backend.backendType = some backend)
    (assignsAll : backend.schema.AssignsAll)
    {instanceName : String}
    (valid : isInstanceName instanceName = true)
    (takes : other.collaborators.Takes backend.planName instanceName)
    {request : Request}
    {body : Option Json}
    (read : Body.ofRequest true request = .ok body)
    {trial application : Visit}
    {tried applied : Reply}
    (trialReply :
      tried.status =
          (server.withConfig body fun raw =>
            server.validate backend.backendType raw).status ∧
        tried.content =
          (server.withConfig body fun raw =>
            server.validate backend.backendType raw).content
              server.config.isDevelopment trial)
    (applicationReply :
      applied.status =
          (other.withConfig body fun raw =>
            other.putInstance ⟨backend.backendType, instanceName⟩
              raw).status ∧
        applied.content =
          (other.withConfig body fun raw =>
            other.putInstance ⟨backend.backendType, instanceName⟩
              raw).content other.config.isDevelopment application) :
    Agree backend instanceName request tried applied := by
  obtain ⟨triedStatus, triedContent⟩ := trialReply
  obtain ⟨appliedStatus, appliedContent⟩ := applicationReply
  cases decoded : Payload.rawConfigDecoder (some (body.getD .null)) with
  | invalid issues =>
      have refused :
          ∀ server : Server,
            (server.refuse
              (validationReport bodyIssueText issues)).status = 400 :=
        fun _ => ErrorReport.sentStatus_ofCode _ _ (by decide) (by decide)
      simp only [withConfig, decoded, refused] at triedStatus appliedStatus
      exact .of_status (by simp [triedStatus]) (by simp [appliedStatus])
  | valid raw =>
      simp only [withConfig, decoded] at triedStatus triedContent
      simp only [withConfig, decoded] at appliedStatus appliedContent
      exact agree_of_validation found otherFound assignsAll valid takes read
        decoded triedStatus triedContent appliedStatus appliedContent

/--
A configuration passes a trial exactly if it can be applied, and is refused in
both ways or in neither, with the same issues. What a trial that passes shows
is what the application carries.
-/
theorem Rehearsal.replies_agree
    {server other : Server}
    {trial application : Visit}
    {backend : Backend}
    {instanceName : String}
    (rehearsal :
      Rehearsal server other trial application backend instanceName) :
    Agree backend instanceName trial.request
      (server.serve trial).1.reply (other.serve application).1.reply := by
  rcases rehearsal.arrives with
    ⟨path, tooLong, otherPath, otherTooLong⟩ | ⟨arrives, otherArrives⟩
  · have status := server.status_serve_of_overlong tooLong
    have otherStatus := other.status_serve_of_overlong otherTooLong
    exact .of_status (by simp [status]) (by simp [otherStatus])
  · have tries : Route.validate ≠ .options := by decide
    have applies : Route.putInstance ≠ .options := by decide
    cases read : Body.ofRequest true trial.request with
    | error problem =>
        have otherRead := rehearsal.sameBody.trans read
        obtain ⟨notPassed, notCreated, notRefused⟩ :=
          sentStatus_problem_apart problem
        refine .of_status ?_ ?_
        · rw [status_serve_of_problem arrives tries rehearsal.trialWithin
            read]
          exact ⟨notPassed, notRefused⟩
        · rw [status_serve_of_problem otherArrives applies
            rehearsal.applicationWithin otherRead]
          exact ⟨notCreated, notRefused⟩
    | ok body =>
        have otherRead := rehearsal.sameBody.trans read
        have found :=
          server.registry.find?_backendType rehearsal.registered
        have otherFound :
            other.registry.find? backend.backendType = some backend := by
          rw [rehearsal.sameRegistry]
          exact found
        have notEmpty := Registry.ne_empty_of_find? found
        have named : instanceName ≠ "" := by
          rintro rfl
          cases rehearsal.valid
        have sent : trial.verb ≠ "HEAD" := by
          rw [rehearsal.tries.verbed]
          decide
        have otherSent : application.verb ≠ "HEAD" := by
          rw [rehearsal.applies.verbed]
          decide
        exact agree_of_body found otherFound rehearsal.assignsAll
          rehearsal.valid rehearsal.takes read
          (reply_of_handled arrives tries rehearsal.trialWithin sent read
            (server.handleRoute_validate trial.moment body notEmpty))
          (reply_of_handled otherArrives applies rehearsal.applicationWithin
            otherSent otherRead
            (other.handleRoute_putInstance application.moment body notEmpty
              named))

end Server

/-- A PowerStore configuration of addresses and credentials. -/
def credentialsBody : String :=
  "\x7b\"san-ip\":\"192.0.2.1\",\"san-username\":\"admin\"," ++
    "\"san-password\":\"secret\",\"protocol\":\"iscsi\"\x7d"

/-- A request to try the credentials. -/
def trialVisit : Visit :=
  configVisit "POST" "/backends/dellpowerstore/validate" credentialsBody

/-- A request to apply the credentials. -/
def applicationVisit : Visit :=
  configVisit "PUT" "/backends/dellpowerstore/instances/ps" credentialsBody

/-- Credentials that pass a trial are applied. -/
theorem replies_agree_credentials :
    (readyServer.serve trialVisit).1.reply.status = 200 ∧
      (readyServer.serve applicationVisit).1.reply.status = 201 ∧
      Agree Catalogue.dellPowerStore "ps" trialVisit.request
        (readyServer.serve trialVisit).1.reply
        (readyServer.serve applicationVisit).1.reply := by
  have rehearsal :
      Server.Rehearsal readyServer readyServer trialVisit applicationVisit
        Catalogue.dellPowerStore "ps" :=
    { sameRegistry := rfl
      registered := by
        simp [readyServer, idleServer, Registry.builtin, Catalogue.all]
      assignsAll := ⟨by decide +kernel, by decide +kernel⟩
      valid := by decide +kernel
      tries := ⟨by decide +kernel, by decide +kernel⟩
      applies := ⟨by decide +kernel, by decide +kernel⟩
      sameBody := rfl
      trialWithin := by decide +kernel
      applicationWithin := by decide +kernel
      takes :=
        Collaborators.takes_of_registered rfl rfl (by decide +kernel) "ps" }
  have agree := rehearsal.replies_agree
  have tried : (readyServer.serve trialVisit).1.reply.status = 200 := by
    decide +kernel
  exact ⟨tried, agree.passed.1 tried, agree⟩

end Http

end StorageBackends
