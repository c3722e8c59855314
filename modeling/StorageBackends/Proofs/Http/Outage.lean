import StorageBackends.Proofs.Http.Calls
import StorageBackends.Proofs.Http.Moments
import StorageBackends.Proofs.Lifecycle.Outage

namespace StorageBackends.Http

open StorageBackends.Document

/-!
# What clients see of outages

Outside development the message of an outage stays inside: two servers whose
collaborators have the same operations out of order, with other messages, give
the same replies to the same requests, apart from those about health. The
request that meets the outage is answered as an internal error with a general
message, and the outage is reported to error tracking with its own message.
-/

/-- A visit, and the operations that are out of order while it is served. -/
structure Disruption where
  visit : Visit
  outages : List (Operation × String)

/-- Disruptions of the same arriving request by outages of the same operations. -/
structure Disruption.Alike (disruption other : Disruption) : Prop where
  request : disruption.visit.request = other.visit.request
  arrival : disruption.visit.arrival = other.visit.arrival
  operations :
    disruption.outages.map Prod.fst = other.outages.map Prod.fst

/-- The body of the reply to a request that met an outage. -/
def generalBody (visit : Visit) : Json :=
  .obj
    [("error", .obj
      [("code", .str ErrorReport.internalCode),
        ("message", .str ErrorReport.generalMessage),
        ("statusCode", Json.ofInt 500)]),
      ("requestId", .str visit.requestId),
      ("timestamp", .str visit.moment.timestamp)]

/-- Outages are answered without their messages. -/
theorem ErrorReport.reply_outage (message : String) (visit : Visit) :
    (ofFailure (.collaborator message)).reply false visit =
      (500, .json (generalBody visit)) := rfl

/-- The route of a request is one of its method. -/
theorem Destination.mem_ofVerb
    {verb : String}
    {target : Target}
    {route : Route}
    {params : Record String}
    (arrives : ofTarget verb target = .ok ⟨some route, params⟩)
    (known : route ≠ .options) :
    route ∈ Route.ofVerb verb := by
  have among_mem :
      ∀ {path routes},
        among path routes = .ok (some ⟨some route, params⟩) →
        route ∈ routes := by
    intro path routes found
    induction routes with
    | nil => cases found
    | cons first rest inductionHypothesis =>
        unfold among at found
        split at found
        · cases found
          exact List.mem_cons_self
        · cases found
        · exact List.mem_cons_of_mem _ (inductionHypothesis found)
  unfold ofTarget at arrives
  split at arrives
  · cases arrives
  · rename_i path decoded
    unfold ofPath at arrives
    split at arrives
    · cases arrives
      exact absurd rfl known
    · cases found : among path (Route.ofVerb verb) with
      | error problem =>
          rw [found] at arrives
          cases arrives
      | ok destination =>
          rw [found] at arrives
          cases destination with
          | none => cases arrives
          | some destination =>
              cases arrives
              exact among_mem found

namespace Server

/-- The server while some operations of its collaborators are out of order. -/
def disrupted (server : Server) (outages : List (Operation × String)) :
    Server :=
  server.facing { server.collaborators with outages := outages }

/-- The server after visits that were served during outages. -/
def endure (server : Server) : List Disruption → Server
  | [] => server
  | disruption :: rest =>
      ((server.disrupted disruption.outages).serve
        disruption.visit).2.endure rest

/-- A request makes a call that meets an operation out of order. -/
def Hits
    (server : Server)
    (visit : Visit)
    (operation : Operation)
    (message : String) : Prop :=
  ∃ call,
    server.Makes visit call ∧
      call.program.met? server.collaborators = some (operation, message)

/-- A request ends as an internal error that is reported once with a message. -/
structure Masks
    (server : Server)
    (visit : Visit)
    (message : String) : Prop where
  status : (server.serve visit).1.reply.status = 500
  content :
    (server.serve visit).1.reply.content = .json (generalBody visit)
  tracked :
    (server.serve visit).1.tracked = [⟨message, visit.verb, visit.url⟩]

/-- What clients see of outages that differ in their messages. -/
structure OutageLaw
    (server other : Server)
    (visit otherVisit : Visit) : Prop where
  /-- Replies are the same up to marks. -/
  replies :
    ¬visit.Reaches .health →
    (server.serve visit).1.reply.SameButMarks
      (other.serve otherVisit).1.reply
  /-- Requests that meet an outage meet it in both, and do not tell it. -/
  hits :
    ∀ operation message,
      server.Hits visit operation message →
      ∃ otherMessage,
        other.Hits otherVisit operation otherMessage ∧
          server.Masks visit message ∧ other.Masks otherVisit otherMessage

/-- The same call is made over other collaborators, at another moment. -/
theorem Makes.facing_arriving
    {server : Server}
    {visit : Visit}
    {call : Call}
    (makes : server.Makes visit call)
    (collaborators : Collaborators)
    (moment : Moment) :
    (server.facing collaborators).Makes (visit.arriving moment) call := by
  obtain ⟨route, params, body, ⟨arrives, within, read⟩, decides⟩ := makes
  refine ⟨route, params, body, ⟨arrives, within, read⟩, ?_⟩
  cases decides with
  | put names named raw given backend found config accepted =>
      exact @Decides.put (server.facing collaborators) params body names named
        raw given backend found config accepted
  | delete names named backend found =>
      exact .delete names named backend found

/-- Requests that make calls ask for more than headers. -/
theorem Makes.verb_ne_head
    {server : Server}
    {visit : Visit}
    {call : Call}
    (makes : server.Makes visit call) :
    visit.request.verb ≠ "HEAD" := by
  obtain ⟨route, params, body, passes, decides⟩ := makes
  have arrives := passes.arrives
  unfold Visit.verb at arrives
  intro head
  rw [head] at arrives
  cases decides with
  | put => exact absurd (Destination.mem_ofVerb arrives (by decide)) (by decide)
  | delete =>
      exact absurd (Destination.mem_ofVerb arrives (by decide)) (by decide)

/-- The reply to a request that ends with an outage does not tell its message. -/
theorem reply_conclude_outage
    {server : Server}
    (production : server.config.isDevelopment = false)
    (visit : Visit)
    (destination : Destination)
    (headers : List (String × String))
    {handling : Handling}
    {message : String}
    (ended :
      handling.result = .error (.ofFailure (.collaborator message))) :
    (server.conclude visit destination headers handling).1.reply =
      { status := 500
        headers :=
          withConnection <|
            server.commonHeaders visit.request ++ headers ++
              contentHeaders (.json (generalBody visit))
        content := sentContent visit.request (.json (generalBody visit)) } := by
  simp only [conclude, exchange, endHandled, ended, endWithError, production,
    ErrorReport.reply_outage]

/-- The message of an outage is tracked, once. -/
theorem tracked_conclude_outage
    (server : Server)
    (visit : Visit)
    (destination : Destination)
    (headers : List (String × String))
    {handling : Handling}
    {message : String}
    (ended :
      handling.result = .error (.ofFailure (.collaborator message))) :
    (server.conclude visit destination headers handling).1.tracked =
      [⟨message, visit.verb, visit.url⟩] := by
  simp only [conclude, exchange, endHandled, ended, endWithError]
  rfl

/-- A request that meets an outage does not tell it. -/
theorem Hits.masks
    {server : Server}
    (production : server.config.isDevelopment = false)
    {visit : Visit}
    {operation : Operation}
    {message : String}
    (hits : server.Hits visit operation message) :
    server.Masks visit message := by
  obtain ⟨call, makes, met⟩ := hits
  obtain ⟨destination, headers, serves⟩ := serve_of_makes makes
  have ended :
      (server.handleCall call).result =
        .error (.ofFailure (.collaborator message)) := by
    have compares :=
      call.program.run_compares (.refl server.collaborators)
    unfold handleCall runProgram
    generalize call.program.run server.collaborators = outcome
      at compares ⊢
    rw [met] at compares
    cases compares
    rfl
  have served :
      server.serve visit =
        server.conclude visit destination headers
          (server.handleCall call) :=
    serves server.collaborators
  constructor
  · rw [served, reply_conclude_outage production _ _ _ ended]
  · rw [served, reply_conclude_outage production _ _ _ ended]
    exact if_neg makes.verb_ne_head
  · rw [served, tracked_conclude_outage _ _ _ _ ended]

/-- Servers that differ in the messages of outages only. -/
structure SameButMessages (server other : Server) : Prop where
  same : other = server.facing other.collaborators
  collaborators :
    server.collaborators.SameButMessages other.collaborators

namespace SameButMessages

variable {server other : Server}

/-- Outages of the same operations keep servers the same up to messages. -/
theorem disrupted
    (servers : server.SameButMessages other)
    {outages otherOutages : List (Operation × String)}
    (operations : outages.map Prod.fst = otherOutages.map Prod.fst) :
    (server.disrupted outages).SameButMessages
      (other.disrupted otherOutages) := by
  refine ⟨?_, servers.collaborators.rearmed operations⟩
  conv_lhs => rw [servers.same]
  rfl

/-- A request meets the same operation in both, with another message. -/
theorem hits
    (servers : server.SameButMessages other)
    {visit : Visit}
    {operation : Operation}
    {message : String}
    (hits : server.Hits visit operation message)
    (moment : Moment) :
    ∃ otherMessage,
      other.Hits (visit.arriving moment) operation otherMessage := by
  obtain ⟨call, makes, met⟩ := hits
  have compares := call.program.run_compares servers.collaborators
  rw [met] at compares
  have otherMakes := makes.facing_arriving other.collaborators moment
  rw [← servers.same] at otherMakes
  cases otherMet : call.program.met? other.collaborators with
  | none =>
      rw [otherMet] at compares
      cases compares
  | some outage =>
      rw [otherMet] at compares
      generalize call.program.run server.collaborators = outcome at compares
      generalize call.program.run other.collaborators = otherOutcome
        at compares
      cases compares with
      | met operation message otherMessage same =>
          exact ⟨otherMessage, call, otherMakes, otherMet⟩

/-- Calls over both end alike: with one result, or each with its outage. -/
theorem handleCall
    (servers : server.SameButMessages other)
    (call : Call) :
    ((server.handleCall call).result = (other.handleCall call).result ∨
        ∃ message otherMessage,
          (server.handleCall call).result =
              .error (.ofFailure (.collaborator message)) ∧
            (other.handleCall call).result =
              .error (.ofFailure (.collaborator otherMessage))) ∧
      (server.handleCall call).collaborators.SameButMessages
        (other.handleCall call).collaborators := by
  have compares := call.program.run_compares servers.collaborators
  unfold Server.handleCall runProgram
  generalize call.program.met? server.collaborators = met at compares
  generalize call.program.met? other.collaborators = otherMet at compares
  generalize call.program.run server.collaborators = outcome at compares ⊢
  generalize call.program.run other.collaborators = otherOutcome
    at compares ⊢
  cases compares with
  | unmet result lines same => exact ⟨.inl rfl, same⟩
  | met operation message otherMessage same =>
      exact ⟨.inr ⟨message, otherMessage, rfl, rfl⟩, same⟩

/--
A request without a call is served alike by all that face other collaborators.
-/
theorem serve_eq
    (servers : server.SameButMessages other)
    {visit : Visit}
    {served : Exchange × Server}
    (serves : (server.facing other.collaborators).serve visit = served) :
    other.serve visit = served := by
  rwa [← servers.same] at serves

/-- A request that is not about health has one reply for both. -/
theorem reply
    (servers : server.SameButMessages other)
    (production : server.config.isDevelopment = false)
    {visit : Visit}
    (elsewhere : ¬visit.Reaches .health) :
    (server.serve visit).1.reply = (other.serve visit).1.reply := by
  cases server.course visit with
  | aside exchange tallies discreet serves =>
      rw [servers.serve_eq (serves other.collaborators),
        show server.serve visit = _ from serves server.collaborators]
  | checks params arrives headers serves =>
      exact absurd ⟨params, arrives⟩ elsewhere
  | calls call makes destination headers serves =>
      rw [servers.serve_eq (serves other.collaborators), ← servers.same,
        show server.serve visit = _ from serves server.collaborators]
      have itself : server.facing server.collaborators = server := rfl
      rw [itself]
      obtain ⟨same | ⟨message, otherMessage, ended, otherEnded⟩, -⟩ :=
        servers.handleCall call
      · unfold conclude exchange endHandled
        rw [same]
        split <;> rfl
      · rw [reply_conclude_outage production _ _ _ ended,
          reply_conclude_outage production _ _ _ otherEnded]

/-- Serving a request leaves such servers behind. -/
theorem serve
    (servers : server.SameButMessages other)
    (visit : Visit) :
    (server.serve visit).2.SameButMessages (other.serve visit).2 := by
  cases server.course visit with
  | aside exchange tallies discreet serves =>
      rw [servers.serve_eq (serves other.collaborators),
        show server.serve visit = _ from serves server.collaborators]
      exact ⟨rfl, servers.collaborators⟩
  | checks params arrives headers serves =>
      rw [servers.serve_eq (serves other.collaborators),
        show server.serve visit = _ from serves server.collaborators]
      exact ⟨rfl, servers.collaborators.healthy⟩
  | calls call makes destination headers serves =>
      rw [servers.serve_eq (serves other.collaborators), ← servers.same,
        show server.serve visit = _ from serves server.collaborators]
      exact ⟨rfl, (servers.handleCall call).2⟩

end SameButMessages

/-- Outages change no configuration. -/
theorem config_endure (server : Server) (disruptions : List Disruption) :
    (server.endure disruptions).config = server.config := by
  induction disruptions generalizing server with
  | nil => rfl
  | cons disruption rest inductionHypothesis =>
      exact (inductionHypothesis _).trans
        (config_serve (server.disrupted disruption.outages) _)

/-- A visit with the same request is the visit at the moment of the other. -/
theorem eq_arriving
    {visit other : Visit}
    (request : visit.request = other.request)
    (arrival : visit.arrival = other.arrival) :
    other = visit.arriving other.moment := by
  cases visit
  cases other
  cases request
  cases arrival
  rfl

/-- Runs with outages of the same operations stay the same up to messages. -/
theorem SameButMessages.endure
    {server other : Server}
    (servers : server.SameButMessages other)
    {disruptions : List (Disruption × Disruption)}
    (alike : ∀ pair ∈ disruptions, pair.1.Alike pair.2) :
    (server.endure (disruptions.map Prod.fst)).SameButMessages
      (other.endure (disruptions.map Prod.snd)) := by
  induction disruptions generalizing server other with
  | nil => exact servers
  | cons pair rest inductionHypothesis =>
      obtain ⟨first, others⟩ := List.forall_mem_cons.1 alike
      refine inductionHypothesis ?_ others
      -- The other visit has a moment of its own, which no server keeps.
      have served :=
        (servers.disrupted first.operations).serve pair.1.visit
      rw [serve_snd (other.disrupted pair.2.outages) pair.1.visit
        pair.2.visit.moment, ← eq_arriving first.request first.arrival] at served
      exact served

/-- Servers that are the same up to messages obey the law at the next visit. -/
theorem SameButMessages.outageLaw
    {server other : Server}
    (servers : server.SameButMessages other)
    (production : server.config.isDevelopment = false)
    (visit : Visit)
    (moment : Moment) :
    server.OutageLaw other visit (visit.arriving moment) := by
  have otherProduction : other.config.isDevelopment = false := by
    rw [servers.same]
    exact production
  constructor
  · intro elsewhere
    rw [servers.reply production elsewhere]
    exact serve_sameButMarks otherProduction elsewhere moment
  · intro operation message hits
    obtain ⟨otherMessage, otherHits⟩ := servers.hits hits moment
    exact ⟨otherMessage, otherHits, hits.masks production,
      otherHits.masks otherProduction⟩

/--
After any visits, made during any outages, a server outside development keeps
the messages of outages from its clients: had the messages been others from
the first visit on, each reply would be the same up to its marks.
-/
theorem endure_outageLaw
    {server : Server}
    (production : server.config.isDevelopment = false)
    {earlier : List (Disruption × Disruption)}
    (alikeEarlier : ∀ pair ∈ earlier, pair.1.Alike pair.2)
    {disruption other : Disruption}
    (alike : disruption.Alike other) :
    ((server.endure (earlier.map Prod.fst)).disrupted
        disruption.outages).OutageLaw
      ((server.endure (earlier.map Prod.snd)).disrupted other.outages)
      disruption.visit other.visit := by
  have start : server.SameButMessages server := ⟨rfl, .refl _⟩
  have servers :=
    (start.endure alikeEarlier).disrupted alike.operations
  rw [eq_arriving alike.request alike.arrival]
  refine servers.outageLaw ?_ disruption.visit other.visit.moment
  exact (congrArg Service.Config.isDevelopment
    (server.config_endure _)).trans production

end Server

/-- A server of the default configuration in production. -/
def productionServer : Server :=
  { idleServer with
    config := { idleServer.config with environment := .production } }

/-- A removal while no instance can be destroyed. -/
def brokenRemoval (message : String) : Disruption where
  visit := removalVisit
  outages := [(.destroy, message)]

/-- Nobody can tell which of two outages a removal has met. -/
theorem Server.endure_outageLaw_brokenRemoval :
    (productionServer.disrupted [(.destroy, "disk full")]).Hits removalVisit
        .destroy "disk full" ∧
      (productionServer.disrupted [(.destroy, "disk full")]).OutageLaw
        (productionServer.disrupted [(.destroy, "no route to host")])
        removalVisit removalVisit := by
  constructor
  · have isPowerStore :
        Registry.builtin.find? Catalogue.dellPowerStore.backendType =
          some Catalogue.dellPowerStore :=
      Registry.builtin.find?_backendType
        (by simp [Registry.builtin, Catalogue.all])
    refine ⟨.remove Catalogue.dellPowerStore "ps",
      ⟨.deleteInstance,
        [("backendType", "dellpowerstore"), ("instanceName", "ps")], none,
        ⟨?_, ?_, ?_⟩,
        .delete ⟨Catalogue.dellPowerStore.backendType, "ps"⟩ ?_
          Catalogue.dellPowerStore isPowerStore⟩, ?_⟩
    · decide +kernel
    · decide +kernel
    · rfl
    · rfl
    · rfl
  · have production : productionServer.config.isDevelopment = false := by
      decide
    have alike :
        (brokenRemoval "disk full").Alike
          (brokenRemoval "no route to host") :=
      ⟨rfl, rfl, rfl⟩
    exact endure_outageLaw production (List.forall_mem_nil _) alike

end StorageBackends.Http
