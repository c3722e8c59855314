import StorageBackends.Proofs.Document.Decoder
import StorageBackends.Proofs.Http.Status
import StorageBackends.Proofs.Lifecycle.Secrecy

namespace StorageBackends.Http

open StorageBackends.Document

/-!
# Secrecy of the service

Two clients send the same requests, but the configurations in them differ in
the values of secret fields. As long as no secret field is absent, rejected or
accepted in one run only, the two runs of the server cannot be told apart: all
replies, all lines of the log and all errors reported to error tracking are
the same, and so is the engine with everything that was applied.
-/

namespace Body

/-- An object read from a text never has the ancestor key. -/
private theorem readJson_object
    {text : String}
    {members : Record Json}
    (read : readJson text = .ok (.obj members)) :
    Record.contains Record.ancestorKey members = false := by
  unfold readJson at read
  split at read
  · cases read
  · split at read
    · cases read
    · split at read
      · cases read
      · rename_i value parsed sound
        cases read
        simp only [Json.anyObject, redefinesAncestor, Bool.or_eq_true,
          not_or, Bool.not_eq_true] at sound
        exact sound.1.1

/--
Whichever reader a media type has, its objects are without the ancestor key.
-/
private theorem reader?_object
    {mediaType : MediaType}
    {read : String → Except Problem Json}
    (found : reader? mediaType = some read)
    {text : String}
    {members : Record Json}
    (given : read text = .ok (.obj members)) :
    Record.contains Record.ancestorKey members = false := by
  unfold reader? at found
  split at found
  · cases found
    exact readJson_object given
  · split at found
    · cases found
      cases given
    · cases found

/-- The object in a body is without the ancestor key. -/
private theorem ofMediaType_object
    {isKnown : Bool}
    {request : Request}
    {header : String}
    {members : Record Json}
    (read :
      ofMediaType isKnown request header = .ok (some (.obj members))) :
    Record.contains Record.ancestorKey members = false := by
  unfold ofMediaType at read
  split at read
  · cases read
  · split at read
    · split at read <;> cases read
    · rename_i reader found
      simp only [bind, Except.bind] at read
      split at read
      · cases read
      · split at read
        · cases read
        · rename_i value given
          cases read
          exact reader?_object found given

/-- An object that was read as a body does not redefine its ancestor. -/
theorem ofRequest_object
    {isKnown : Bool}
    {request : Request}
    {members : Record Json}
    (read : ofRequest isKnown request = .ok (some (.obj members))) :
    Record.contains Record.ancestorKey members = false := by
  unfold ofRequest at read
  split at read
  · cases read
  · split at read
    · exact ofMediaType_object read
    · split at read
      · cases read
      · split at read <;> cases read

end Body

/-- Handlings that differ in the contents of stored secrets only. -/
structure Handling.Alike (handling other : Handling) : Prop where
  result : handling.result = other.result
  lines : handling.lines = other.lines
  collaborators : handling.collaborators.Alike other.collaborators

/-- Servers that differ in the contents of stored secrets only. -/
structure Server.Alike (server other : Server) : Prop where
  config : server.config = other.config
  registry : server.registry = other.registry
  tallies : server.tallies = other.tallies
  collaborators : server.collaborators.Alike other.collaborators

/-- Raw configurations for the backend that parameters name, if there is one. -/
def AlikeFor
    (registry : Registry)
    (backendType : String)
    (raw other : RawConfig) : Prop :=
  ∀ backend,
    registry.find? backendType = some backend →
    backend.schema.Alike raw other

/-- Every mapping is alike to itself. -/
theorem AlikeFor.refl
    (registry : Registry)
    (backendType : String)
    (raw : RawConfig) :
    AlikeFor registry backendType raw raw :=
  fun _ _ => ⟨fun _ _ => rfl, fun _ _ _ => rfl⟩

/--
Bodies of requests with some parameters: the same, or two objects that differ
in the values of secret fields of the backend that the parameters name.
-/
inductive AlikeBodies (registry : Registry) (params : Record String) :
    Option Json → Option Json → Prop where
  | same (body : Option Json) : AlikeBodies registry params body body
  | objects
      (members other : Record Json)
      (plain : Record.contains Record.ancestorKey members = false)
      (otherPlain : Record.contains Record.ancestorKey other = false)
      (alike :
        ∀ backendType,
          Record.get? Route.backendParam params = some backendType →
          AlikeFor registry backendType members other) :
      AlikeBodies registry params (some (.obj members)) (some (.obj other))

namespace Server.Alike

variable
  {server other : Server}

/-- Refusals alike leave alike servers behind. -/
theorem refuse
    (servers : server.Alike other)
    (report : ErrorReport) :
    (server.refuse report).Alike (other.refuse report) :=
  ⟨rfl, rfl, servers.collaborators⟩

/-- Answers alike leave alike servers behind. -/
theorem answer
    (servers : server.Alike other)
    (answer : Answer)
    (lines : List LogLine) :
    (server.answer answer lines).Alike (other.answer answer lines) :=
  ⟨rfl, rfl, servers.collaborators⟩

/-- Servers that are alike find the same backend, or refuse alike. -/
theorem withBackend
    (servers : server.Alike other)
    (backendType : String)
    {handle otherHandle : Backend → Handling}
    (handles :
      ∀ backend,
        server.registry.find? backendType = some backend →
        (handle backend).Alike (otherHandle backend)) :
    (server.withBackend backendType handle).Alike
      (other.withBackend backendType otherHandle) := by
  unfold Server.withBackend Registry.get
  rw [← servers.registry]
  cases found : server.registry.find? backendType with
  | none => exact servers.refuse _
  | some backend => exact handles backend found

/-- Programs alike, run by servers alike, are handled alike. -/
theorem runProgram
    {α : Type}
    (servers : server.Alike other)
    {program otherProgram : Program α}
    (programs : program.Alike otherProgram)
    (toAnswer : α → Answer) :
    (server.runProgram program toAnswer).Alike
      (other.runProgram otherProgram toAnswer) := by
  have outcomes := programs.run servers.collaborators
  exact ⟨by simp only [Server.runProgram, outcomes.result],
    outcomes.lines, outcomes.collaborators⟩

/-- The health of an engine does not depend on secrets. -/
theorem health
    (servers : server.Alike other)
    (moment : Moment) :
    (server.health moment).Alike (other.health moment) := by
  have checks := servers.collaborators.healthy
  exact ⟨by simp only [Server.health, checks.result, servers.registry], rfl,
    checks.collaborators⟩

/-- A dry run tells nothing about secret values. -/
theorem validate
    (servers : server.Alike other)
    (keeps : server.registry.KeepsSecrets)
    {backendType : String}
    {raw otherRaw : RawConfig}
    (alike : AlikeFor server.registry backendType raw otherRaw) :
    (server.validate backendType raw).Alike
      (other.validate backendType otherRaw) := by
  refine servers.withBackend backendType fun backend found => ?_
  have apart := (keeps backend (List.mem_of_find?_eq_some found)).apart
  have validations := (alike backend found).validate apart
  generalize backend.schema.validate raw = validation at validations ⊢
  generalize backend.schema.validate otherRaw = otherValidation
    at validations ⊢
  cases validations with
  | accepted config otherConfig same =>
      simp only [same.redact]
      exact servers.answer _ _
  | rejected issues => exact servers.answer _ _
  | unprintable => exact servers.refuse _

/-- An application tells nothing about secret values. -/
theorem putInstance
    (servers : server.Alike other)
    (keeps : server.registry.KeepsSecrets)
    {params : Payload.InstanceParams}
    {raw otherRaw : RawConfig}
    (alike : AlikeFor server.registry params.backendType raw otherRaw) :
    (server.putInstance params raw).Alike
      (other.putInstance params otherRaw) := by
  refine servers.withBackend params.backendType fun backend found => ?_
  have keepsSecrets := keeps backend (List.mem_of_find?_eq_some found)
  have validations := (alike backend found).validate keepsSecrets.apart
  unfold ConfigSchema.accept
  generalize backend.schema.validate raw = validation at validations ⊢
  generalize backend.schema.validate otherRaw = otherValidation
    at validations ⊢
  cases validations with
  | accepted config otherConfig same =>
      rw [← servers.config]
      exact servers.runProgram
        (Backend.addInstance_alike keepsSecrets same _ _) _
  | rejected issues => exact servers.refuse _
  | unprintable => exact servers.refuse _

/-- A deletion names no secret, so it is handled alike. -/
theorem deleteInstance
    (servers : server.Alike other)
    (params : Payload.InstanceParams) :
    (server.deleteInstance params).Alike (other.deleteInstance params) :=
  servers.withBackend params.backendType fun _ _ =>
    servers.runProgram (.same _) _

/-- Parameters carry no secret: they are refused alike, or handled alike. -/
theorem withParams
    {α : Type}
    (servers : server.Alike other)
    (decoder : Decoder α)
    (params : Record String)
    {handle otherHandle : α → Handling}
    (handles :
      ∀ value,
        decoder (some (Json.ofTextRecord params)) = .valid value →
        (handle value).Alike (otherHandle value)) :
    (server.withParams decoder params handle).Alike
      (other.withParams decoder params otherHandle) := by
  unfold Server.withParams
  split
  · rename_i value read
    exact handles value read
  · exact servers.refuse _

/-- Bodies alike are refused alike, or give mappings that are alike. -/
theorem withConfig
    (servers : server.Alike other)
    {params : Record String}
    {body otherBody : Option Json}
    (bodies : AlikeBodies server.registry params body otherBody)
    {backendType : String}
    (named : Record.get? Route.backendParam params = some backendType)
    {handle otherHandle : RawConfig → Handling}
    (handles :
      ∀ raw otherRaw,
        AlikeFor server.registry backendType raw otherRaw →
        (handle raw).Alike (otherHandle otherRaw)) :
    (server.withConfig body handle).Alike
      (other.withConfig otherBody otherHandle) := by
  cases bodies with
  | same body =>
      unfold Server.withConfig
      split
      · rename_i raw read
        exact handles raw raw (AlikeFor.refl _ _ raw)
      · exact servers.refuse _
  | objects members otherMembers plain otherPlain alike =>
      simp only [Server.withConfig, Option.getD_some,
        Payload.rawConfigDecoder_object plain,
        Payload.rawConfigDecoder_object otherPlain]
      exact handles members otherMembers (alike backendType named)

/-- Alike bodies are handled alike, whichever the route. -/
theorem handleRoute
    (servers : server.Alike other)
    (keeps : server.registry.KeepsSecrets)
    (moment : Moment)
    {params : Record String}
    {body otherBody : Option Json}
    (bodies : AlikeBodies server.registry params body otherBody)
    (route : Route) :
    (server.handleRoute moment params body route = none ∧
        other.handleRoute moment params otherBody route = none) ∨
      ∃ handling otherHandling,
        server.handleRoute moment params body route = some handling ∧
        other.handleRoute moment params otherBody route =
          some otherHandling ∧
        handling.Alike otherHandling := by
  cases route with
  | options => exact .inl ⟨rfl, rfl⟩
  | health => exact .inr ⟨_, _, rfl, rfl, servers.health moment⟩
  | backendList =>
      refine .inr ⟨_, _, rfl, rfl, ?_⟩
      unfold Server.listBackends
      rw [servers.registry]
      exact servers.answer _ _
  | backendDetail =>
      refine .inr ⟨_, _, rfl, rfl, ?_⟩
      refine servers.withParams _ params fun named _ => ?_
      exact servers.withBackend _ fun _ _ => servers.answer _ _
  | validate =>
      refine .inr ⟨_, _, rfl, rfl, ?_⟩
      refine servers.withParams _ params fun named read => ?_
      exact servers.withConfig bodies
        (Payload.BackendParams.decoder_valid read)
        fun raw otherRaw alike => servers.validate keeps alike
  | putInstance =>
      refine .inr ⟨_, _, rfl, rfl, ?_⟩
      refine servers.withParams _ params fun named read => ?_
      exact servers.withConfig bodies
        (Payload.InstanceParams.decoder_valid read).1
        fun raw otherRaw alike => servers.putInstance keeps alike
  | deleteInstance =>
      refine .inr ⟨_, _, rfl, rfl, ?_⟩
      refine servers.withParams _ params fun named _ => ?_
      exact servers.deleteInstance named

end Server.Alike

/-- The header that tells the length of a body. -/
def lengthHeader : String :=
  "content-length"

/-- Visits that agree in all but their bodies and the lengths of these. -/
structure Visit.Agrees (visit other : Visit) : Prop where
  arrival : visit.arrival = other.arrival
  moment : visit.moment = other.moment
  method : visit.request.method = other.request.method
  target : visit.request.target = other.request.target
  header :
    ∀ name,
      Text.toLower name ≠ lengthHeader →
      visit.request.header? name = other.request.header? name

namespace Visit.Agrees

variable {visit other : Visit}

theorem verb (agree : visit.Agrees other) : visit.verb = other.verb := by
  unfold Visit.verb Request.verb
  rw [agree.method]

theorem url (agree : visit.Agrees other) : visit.url = other.url := by
  unfold Visit.url
  rw [agree.target]

/-- Visits that agree have the same headers but for the length of the body. -/
theorem nonEmptyHeader?
    (agree : visit.Agrees other)
    {name : String}
    (elsewhere : Text.toLower name ≠ lengthHeader) :
    visit.request.nonEmptyHeader? name =
      other.request.nonEmptyHeader? name := by
  unfold Request.nonEmptyHeader?
  rw [agree.header name elsewhere]

/-- Visits that agree bear the same identifier. -/
theorem requestId (agree : visit.Agrees other) :
    visit.requestId = other.requestId := by
  unfold Visit.requestId
  rw [agree.moment, agree.nonEmptyHeader? (by decide +kernel)]

/-- Visits that agree are announced by the same line. -/
theorem incomingLine (agree : visit.Agrees other) :
    Server.incomingLine visit = Server.incomingLine other := by
  unfold Server.incomingLine
  rw [agree.verb, agree.url, agree.requestId,
    agree.header "user-agent" (by decide +kernel)]

/-- Visits that agree are concluded by the same line. -/
theorem completionLine
    (agree : visit.Agrees other)
    (route : Option Route)
    (params : Record String)
    (status : Nat) :
    Server.completionLine visit route params status =
      Server.completionLine other route params status := by
  unfold Server.completionLine
  rw [agree.verb, agree.url, agree.requestId]

/-- Visits that agree have the same content sent to them. -/
theorem sentContent
    (agree : visit.Agrees other)
    (content : Content) :
    Server.sentContent visit.request content =
      Server.sentContent other.request content := by
  have sameVerb : visit.request.verb = other.request.verb := agree.verb
  unfold Server.sentContent
  rw [sameVerb]

/-- A report is told in the same words to visits that agree. -/
theorem reply
    (agree : visit.Agrees other)
    (isDevelopment : Bool)
    (report : ErrorReport) :
    report.reply isDevelopment visit = report.reply isDevelopment other := by
  unfold ErrorReport.reply ErrorReport.content ErrorReport.body
  rw [agree.requestId, agree.moment]

/-- A report is tracked in the same way for visits that agree. -/
theorem tracked
    (agree : visit.Agrees other)
    (report : ErrorReport) :
    report.tracked visit = report.tracked other := by
  unfold ErrorReport.tracked
  rw [agree.verb, agree.url]

/-- Visits that agree and lead nowhere end in the same way. -/
theorem endUnknown
    (agree : visit.Agrees other)
    (params : Record String)
    (headers : List (String × String)) :
    Server.endUnknown visit params headers =
      Server.endUnknown other params headers := by
  unfold Server.endUnknown Server.unknownBody Server.unknownLine
  rw [agree.verb, agree.url, agree.requestId, agree.moment]

theorem endPreflight
    (agree : visit.Agrees other)
    (destination : Destination) :
    Server.endPreflight visit.request destination =
      Server.endPreflight other.request destination := by
  unfold Server.endPreflight
  rw [agree.nonEmptyHeader? (by decide +kernel),
    agree.nonEmptyHeader? (by decide +kernel)]

theorem targetExchange
    (agree : visit.Agrees other)
    (problem : TargetProblem) :
    problem.exchange visit = problem.exchange other := by
  unfold TargetProblem.exchange
  rw [agree.target]
  simp only [agree.sentContent]

end Visit.Agrees

namespace Server.Alike

variable
  {server other : Server}
  {visit otherVisit : Visit}

/-- An error ends alike on servers that are alike. -/
theorem endWithError
    (servers : server.Alike other)
    (agree : visit.Agrees otherVisit)
    (destination : Destination)
    (headers : List (String × String))
    (report : ErrorReport) :
    server.endWithError visit destination headers report =
      other.endWithError otherVisit destination headers report := by
  unfold Server.endWithError
  rw [servers.config, agree.reply, agree.tracked]

/-- An early end is the same on servers that are alike. -/
theorem endEarly
    (servers : server.Alike other)
    (agree : visit.Agrees otherVisit)
    (destination : Destination)
    (headers : List (String × String))
    (report : ErrorReport) :
    server.endEarly visit destination headers report =
      other.endEarly otherVisit destination headers report := by
  unfold Server.endEarly
  rw [servers.endWithError agree]

/-- Alike handlings come to the same end. -/
theorem endHandled
    (servers : server.Alike other)
    (agree : visit.Agrees otherVisit)
    (destination : Destination)
    (headers : List (String × String))
    {handling otherHandling : Handling}
    (handlings : handling.Alike otherHandling) :
    server.endHandled visit destination headers handling =
      other.endHandled otherVisit destination headers otherHandling := by
  unfold Server.endHandled
  rw [handlings.result, handlings.lines]
  split
  · rw [servers.endWithError agree]
  · rfl

/-- The same end is told in the same way. -/
theorem exchange
    (servers : server.Alike other)
    (agree : visit.Agrees otherVisit)
    (firstLines : List LogLine)
    (ending : Ending) :
    server.exchange visit firstLines ending =
      other.exchange otherVisit firstLines ending := by
  have sameHeaders :
      server.commonHeaders visit.request =
        other.commonHeaders otherVisit.request := by
    unfold Server.commonHeaders Server.originHeaders
    rw [servers.config, agree.nonEmptyHeader? (by decide +kernel)]
  unfold Server.exchange
  rw [sameHeaders, servers.config, agree.completionLine, agree.sentContent]

end Server.Alike

/--
Visits of two clients: the same, or two configurations for one backend whose
bodies are read as objects that differ in the values of secret fields.
-/
inductive Visit.Alike (registry : Registry) (visit : Visit) :
    Visit → Prop where
  | same : Visit.Alike registry visit visit
  | secrets
      (other : Visit)
      (agree : visit.Agrees other)
      (destination : Destination)
      (arrives :
        Destination.ofTarget visit.verb visit.request.target =
          .ok destination)
      (takesConfig :
        destination.route = some .validate ∨
          destination.route = some .putInstance)
      (members otherMembers : Record Json)
      (read :
        Body.ofRequest true visit.request = .ok (some (.obj members)))
      (otherRead :
        Body.ofRequest true other.request = .ok (some (.obj otherMembers)))
      (alike :
        ∀ backendType,
          Record.get? Route.backendParam destination.params =
            some backendType →
          AlikeFor registry backendType members otherMembers) :
      Visit.Alike registry visit other

namespace Visit.Alike

variable
  {registry : Registry}
  {visit other : Visit}

/-- Visits that are alike agree outside their bodies. -/
theorem agrees (alike : Visit.Alike registry visit other) :
    visit.Agrees other := by
  cases alike with
  | same => exact ⟨rfl, rfl, rfl, rfl, fun _ _ => rfl⟩
  | secrets other agree => exact agree

/-- The bodies of alike visits are wrong in the same way or read alike. -/
theorem bodies
    (alike : Visit.Alike registry visit other)
    {destination : Destination}
    (arrives :
      Destination.ofTarget visit.verb visit.request.target =
        .ok destination) :
    (∃ problem,
        Body.ofRequest destination.route.isSome visit.request =
          .error problem ∧
        Body.ofRequest destination.route.isSome other.request =
          .error problem) ∨
      ∃ body otherBody,
        Body.ofRequest destination.route.isSome visit.request = .ok body ∧
        Body.ofRequest destination.route.isSome other.request =
          .ok otherBody ∧
        AlikeBodies registry destination.params body otherBody := by
  cases alike with
  | same =>
      cases read :
          Body.ofRequest destination.route.isSome visit.request with
      | error problem => exact .inl ⟨problem, rfl, rfl⟩
      | ok body => exact .inr ⟨body, body, rfl, rfl, .same body⟩
  | secrets other agree known arrivesToo takesConfig members otherMembers
      read otherRead alike =>
      rw [arrivesToo] at arrives
      cases arrives
      have isKnown : destination.route.isSome = true := by
        rcases takesConfig with validates | puts
        · rw [validates]
          rfl
        · rw [puts]
          rfl
      rw [isKnown]
      exact .inr ⟨_, _, read, otherRead,
        .objects members otherMembers (Body.ofRequest_object read)
          (Body.ofRequest_object otherRead) alike⟩

end Visit.Alike

namespace Server.Alike

variable
  {server other : Server}
  {visit otherVisit : Visit}

/-- Servers alike read bodies alike, handle them alike and stay alike. -/
theorem handleBody
    (servers : server.Alike other)
    (keeps : server.registry.KeepsSecrets)
    (visits : Visit.Alike server.registry visit otherVisit)
    {destination : Destination}
    (arrives :
      Destination.ofTarget visit.verb visit.request.target =
        .ok destination)
    (headers : List (String × String)) :
    (server.handleBody visit destination headers).1 =
        (other.handleBody otherVisit destination headers).1 ∧
      (server.handleBody visit destination headers).2.Alike
        (other.handleBody otherVisit destination headers).2 := by
  have agree := visits.agrees
  unfold Server.handleBody
  rcases visits.bodies arrives with
    ⟨problem, wrong, otherWrong⟩ | ⟨body, otherBody, read, otherRead, bodies⟩
  · simp only [wrong, otherWrong]
    exact ⟨servers.endEarly agree _ _ _, servers⟩
  · simp only [read, otherRead]
    cases destination.route with
    | none => exact ⟨agree.endUnknown _ _, servers⟩
    | some route =>
        simp only [Option.bind_some, ← agree.moment]
        rcases servers.handleRoute keeps visit.moment bodies route with
          ⟨nothing, otherNothing⟩ |
            ⟨handling, otherHandling, handled, otherHandled, handlings⟩
        · simp only [nothing, otherNothing]
          exact ⟨agree.endUnknown _ _, servers⟩
        · simp only [handled, otherHandled]
          exact ⟨servers.endHandled agree _ _ handlings,
            ⟨servers.config, servers.registry, servers.tallies,
              handlings.collaborators⟩⟩

/-- Servers alike have counted the same of a client. -/
theorem tally
    (servers : server.Alike other)
    (agree : visit.Agrees otherVisit) :
    server.tally visit = other.tally otherVisit := by
  unfold Server.tally
  rw [servers.config, servers.tallies, agree.arrival]

/-- Servers stay alike when they count visits that agree. -/
theorem counting
    (servers : server.Alike other)
    (agree : visit.Agrees otherVisit) :
    (server.counting visit).Alike (other.counting otherVisit) := by
  refine ⟨servers.config, servers.registry, ?_, servers.collaborators⟩
  unfold Server.counting
  rw [servers.tally agree, servers.tallies]

/-- Servers alike set the same limit to visits that agree. -/
theorem isBeyondLimit
    (servers : server.Alike other)
    (agree : visit.Agrees otherVisit) :
    server.isBeyondLimit visit = other.isBeyondLimit otherVisit := by
  unfold Server.isBeyondLimit
  rw [servers.tally agree, servers.config]

/-- Servers alike tell visits that agree the same about the limit. -/
theorem limitHeaders
    (servers : server.Alike other)
    (agree : visit.Agrees otherVisit) :
    server.limitHeaders visit = other.limitHeaders otherVisit := by
  unfold Server.limitHeaders
  rw [servers.tally agree, servers.config, agree.arrival]

/-- Servers alike refuse visits that agree with the same report. -/
theorem limitReport
    (servers : server.Alike other)
    (agree : visit.Agrees otherVisit) :
    server.limitReport visit = other.limitReport otherVisit := by
  unfold Server.limitReport
  rw [servers.tally agree, servers.config, agree.arrival]

/-- Servers alike count visits that are alike in the same way, and stay alike. -/
theorem handleCounted
    (servers : server.Alike other)
    (keeps : server.registry.KeepsSecrets)
    (visits : Visit.Alike server.registry visit otherVisit)
    {destination : Destination}
    (arrives :
      Destination.ofTarget visit.verb visit.request.target =
        .ok destination) :
    (server.handleCounted visit destination).1 =
        (other.handleCounted otherVisit destination).1 ∧
      (server.handleCounted visit destination).2.Alike
        (other.handleCounted otherVisit destination).2 := by
  have agree := visits.agrees
  have counted := servers.counting agree
  have sameLimit := servers.isBeyondLimit agree
  rcases destination with ⟨_ | route, params⟩
  · exact servers.handleBody keeps visits arrives []
  · cases beyond : server.isBeyondLimit visit with
    | true =>
        rw [Server.handleCounted_beyond beyond,
          Server.handleCounted_beyond (sameLimit ▸ beyond),
          servers.limitHeaders agree, servers.limitReport agree]
        exact ⟨counted.endEarly agree _ _ _, counted⟩
    | false =>
        rw [Server.handleCounted_within beyond,
          Server.handleCounted_within (sameLimit ▸ beyond),
          servers.limitHeaders agree]
        exact counted.handleBody keeps visits arrives _

/-- Alike visits are answered alike. -/
theorem serve
    (servers : server.Alike other)
    (keeps : server.registry.KeepsSecrets)
    (visits : Visit.Alike server.registry visit otherVisit) :
    (server.serve visit).1 = (other.serve otherVisit).1 ∧
      (server.serve visit).2.Alike (other.serve otherVisit).2 := by
  have agree := visits.agrees
  have samePreflight :
      server.isPreflight visit.request =
        other.isPreflight otherVisit.request := by
    have sameVerb : visit.request.verb = otherVisit.request.verb := agree.verb
    unfold Server.isPreflight
    rw [servers.config, sameVerb]
  unfold Server.serve
  rw [← agree.verb, ← agree.target, ← samePreflight]
  split
  · exact ⟨agree.targetExchange _, servers⟩
  · rename_i destination arrives
    split
    · rw [agree.endPreflight]
      exact ⟨servers.exchange agree _ _, servers⟩
    · obtain ⟨sameEnding, next⟩ :=
        servers.handleCounted keeps visits arrives
      generalize server.handleCounted visit destination = ended
        at sameEnding next ⊢
      generalize other.handleCounted otherVisit destination = otherEnded
        at sameEnding next ⊢
      rcases ended with ⟨ending, after⟩
      rcases otherEnded with ⟨otherEnding, otherAfter⟩
      simp only at sameEnding
      subst sameEnding
      rw [agree.incomingLine]
      exact ⟨servers.exchange agree _ _, next⟩

end Server.Alike

namespace Server

/-- Servers that are visited alike answer alike from the first to the last. -/
theorem Alike.serveAll
    {server other : Server}
    (servers : server.Alike other)
    (keeps : server.registry.KeepsSecrets)
    {visits : List (Visit × Visit)}
    (alike :
      ∀ pair ∈ visits, Visit.Alike server.registry pair.1 pair.2) :
    (server.serveAll (visits.map Prod.fst)).1 =
        (other.serveAll (visits.map Prod.snd)).1 ∧
      (server.serveAll (visits.map Prod.fst)).2.Alike
        (other.serveAll (visits.map Prod.snd)).2 := by
  induction visits generalizing server other with
  | nil => exact ⟨rfl, servers⟩
  | cons pair rest inductionHypothesis =>
      obtain ⟨first, others⟩ := List.forall_mem_cons.1 alike
      obtain ⟨sameExchange, next⟩ := servers.serve keeps first
      have kept := server.registry_serve pair.1
      obtain ⟨sameExchanges, last⟩ :=
        inductionHypothesis next (kept.symm ▸ keeps)
          (fun later listed => kept.symm ▸ others later listed)
      exact ⟨congrArg₂ List.cons sameExchange sameExchanges, last⟩

end Server

/--
Two runs of a server over the built-in backends that differ in secret values
only cannot be told apart.

The server may be in any state and of any configuration, its engine of either
kind, and the requests may be any: two corresponding ones are the same or are
configurations for one backend, to be tried or applied, that agree up to the
values of secret fields. Then all statuses, headers and bodies of the replies,
all lines of the log and all errors reported to error tracking are the same,
and the engine has been left with the same plans and variables, or files. The
names and references of stored secrets are the same too.
-/
theorem serveAll_builtin
    {server : Server}
    (builtin : server.registry = Registry.builtin)
    {visits : List (Visit × Visit)}
    (alike :
      ∀ pair ∈ visits, Visit.Alike Registry.builtin pair.1 pair.2) :
    let (exchanges, last) := server.serveAll (visits.map Prod.fst)
    let (otherExchanges, otherLast) :=
      server.serveAll (visits.map Prod.snd)
    exchanges = otherExchanges ∧
      last.collaborators.engine = otherLast.collaborators.engine ∧
      Record.mapValues StoredSecret.reference
          last.collaborators.secrets.secrets =
        Record.mapValues StoredSecret.reference
          otherLast.collaborators.secrets.secrets := by
  have servers : server.Alike server :=
    ⟨rfl, rfl, rfl, Collaborators.Alike.refl server.collaborators⟩
  have keeps : server.registry.KeepsSecrets :=
    builtin.symm ▸ Registry.keepsSecrets_builtin
  obtain ⟨sameExchanges, last⟩ :=
    servers.serveAll keeps (builtin.symm ▸ alike)
  exact ⟨sameExchanges, last.collaborators.engine,
    last.collaborators.references⟩

/-- A server of the default configuration before its first request. -/
def idleServer : Server where
  config :=
    { listening := .default
      logging := .default
      tracking := none
      environment := Service.Config.defaultEnvironment
      rateLimit := .default
      deployment := .default
      spaces := .default }
  registry := .builtin
  collaborators := .ofEngine .numbered (Engine.ofKind .memory)
  tallies := []

/-- The idle server once it knows the plan of the PowerStore. -/
def readyServer : Server :=
  { idleServer with
    collaborators :=
      (Catalogue.dellPowerStore.registerPlan.run
        idleServer.collaborators).collaborators }

/-- A request that applies a PowerStore configuration with some password. -/
def passwordVisit (password : String) : Visit where
  request :=
    { method := "PUT"
      target :=
        { path := "/backends/dellpowerstore/instances/ps".toList
          query := none }
      headers := [("content-type", "application/json")]
      body :=
        some
          ("\x7b\"san-ip\":\"192.0.2.1\",\"san-username\":\"admin\"," ++
            "\"san-password\":\"" ++ password ++ "\"\x7d") }
  arrival := { client := "127.0.0.1", clock := 0 }
  moment :=
    { identifier := "1"
      timestamp := "2025-01-01T00:00:00.000Z"
      uptime := Number.ofNat 1
      latency := Number.ofNat 1
      trace := "" }

/-- The object that a body was read as. -/
def Body.object? :
    Except Body.Problem (Option Json) → Option (Record Json)
  | .ok (some (.obj members)) => some members
  | _ => none

/-- A body shown as an object was read without a problem. -/
theorem eq_of_object?
    {read : Except Body.Problem (Option Json)}
    {members : Record Json}
    (found : Body.object? read = some members) :
    read = .ok (some (.obj members)) := by
  unfold Body.object? at found
  split at found
  · cases found
    rfl
  · cases found

/-- What can be seen of a PowerStore configuration besides secret values. -/
def visibleShape (visit : Visit) : Option (List String × List Verdict) :=
  (Body.object? (Body.ofRequest true visit.request)).map fun members =>
    (Record.keys members,
      Catalogue.dellPowerStore.schema.secretFields.map fun field =>
        (field.examine members).verdict)

/-- The servers that two passwords were applied to differ in secrets only. -/
theorem serveAll_builtin_password :
    let (exchanges, last) := readyServer.serveAll [passwordVisit "old"]
    let (otherExchanges, otherLast) :=
      readyServer.serveAll [passwordVisit "a longer one"]
    exchanges.map (·.reply.status) = [201] ∧
      last.collaborators.secrets.secrets ≠
        otherLast.collaborators.secrets.secrets ∧
      exchanges = otherExchanges ∧
        last.collaborators.engine = otherLast.collaborators.engine ∧
          Record.mapValues StoredSecret.reference
              last.collaborators.secrets.secrets =
            Record.mapValues StoredSecret.reference
              otherLast.collaborators.secrets.secrets := by
  have shaped : ∀ password ∈ ["old", "a longer one"],
      visibleShape (passwordVisit password) =
        some
          (["san-ip", "san-username", "san-password"],
            [.accepted, .accepted, .accepted]) := by
    decide +kernel
  obtain ⟨members, read, shape⟩ :=
    Option.map_eq_some_iff.1 (shaped "old" (by simp))
  obtain ⟨otherMembers, otherRead, otherShape⟩ :=
    Option.map_eq_some_iff.1 (shaped "a longer one" (by simp))
  obtain ⟨keys, verdicts⟩ := Prod.mk.inj shape
  obtain ⟨otherKeys, otherVerdicts⟩ := Prod.mk.inj otherShape
  have alikeMembers :
      Catalogue.dellPowerStore.schema.Alike members otherMembers := by
    constructor
    case plain =>
      intro key isPlain
      have notListed : key ∉ ["san-ip", "san-username", "san-password"] := by
        intro listed
        refine isPlain ?_
        have arrives : ∀ key ∈ ["san-ip", "san-username", "san-password"],
            key ∈ Catalogue.dellPowerStore.schema.secretArrivals := by
          decide +kernel
        exact arrives key listed
      rw [(Record.get?_eq_none_iff key members).2 (keys ▸ notListed),
        (Record.get?_eq_none_iff key otherMembers).2 (otherKeys ▸ notListed)]
    case verdicts =>
      intro field listed secret
      exact List.map_inj_left.1 (verdicts.trans otherVerdicts.symm) field
        (List.mem_filter.2 ⟨listed, secret⟩)
  have alike :
      ∀ pair ∈ [(passwordVisit "old", passwordVisit "a longer one")],
        Visit.Alike Registry.builtin pair.1 pair.2 := by
    intro pair listed
    rw [List.mem_singleton.1 listed]
    refine .secrets _ ⟨rfl, rfl, rfl, rfl, fun _ _ => rfl⟩
      ⟨some .putInstance,
        [("backendType", "dellpowerstore"), ("instanceName", "ps")]⟩
      ?_ (.inr rfl) members otherMembers (eq_of_object? read)
      (eq_of_object? otherRead) ?_
    · decide +kernel
    · have isPowerStore :
          Registry.builtin.find? Catalogue.dellPowerStore.backendType =
            some Catalogue.dellPowerStore :=
        Registry.builtin.find?_backendType
          (by simp [Registry.builtin, Catalogue.all])
      have named :
          Record.get? Route.backendParam
              [("backendType", "dellpowerstore"), ("instanceName", "ps")] =
            some Catalogue.dellPowerStore.backendType := by
        decide +kernel
      intro backendType given backend found
      rw [named] at given
      cases given
      rw [isPowerStore] at found
      cases found
      exact alikeMembers
  have builtin : readyServer.registry = Registry.builtin := rfl
  have applied :
      (readyServer.serveAll [passwordVisit "old"]).1.map (·.reply.status) =
        [201] := by
    decide +kernel
  have kept :
      (readyServer.serveAll
          [passwordVisit "old"]).2.collaborators.secrets.secrets ≠
        (readyServer.serveAll
          [passwordVisit "a longer one"]).2.collaborators.secrets.secrets := by
    decide +kernel
  exact ⟨applied, kept, serveAll_builtin builtin alike⟩

end StorageBackends.Http
