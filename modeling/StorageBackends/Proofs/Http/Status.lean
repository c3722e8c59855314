import StorageBackends.Http.Serving

namespace StorageBackends.Http

open StorageBackends.Document

/-!
# The status of a reply

A request to a known route is counted. If its body can be read, the reply has
the status that the handling comes to, unless the request is beyond the limit.
An error comes to the status that it shows, or to an internal error if no
reply may have that status.
-/

namespace ErrorReport

/-- The status of the reply to a request that failed. -/
def sentStatus (report : ErrorReport) : Nat :=
  if isReplyStatus report.shownStatus then report.shownStatus.toNat else 500

theorem reply_fst
    (report : ErrorReport)
    (isDevelopment : Bool)
    (visit : Visit) :
    (report.reply isDevelopment visit).1 = report.sentStatus := by
  unfold reply sentStatus
  split <;> rfl

theorem sentStatus_ofCode
    (code message : String)
    {status : Nat}
    (lower : 100 ≤ status)
    (upper : status ≤ 599) :
    (ofCode code status message).sentStatus = status := by
  have isReply : isReplyStatus (status : Int) = true := by
    simp only [isReplyStatus, Bool.and_eq_true, decide_eq_true_eq]
    omega
  show (if isReplyStatus (status : Int) then (status : Int).toNat else 500) =
    status
  rw [if_pos isReply, Int.toNat_natCast]

/-- A failure is answered with its own status; without one it is internal. -/
theorem sentStatus_ofFailure (failure : Failure) :
    (ofFailure failure).sentStatus = failure.status?.getD 500 := by
  cases failure with
  | fault fault =>
      rcases fault with ⟨kind, arguments⟩
      cases kind <;> rfl
  | _ => rfl

end ErrorReport

/-- The status that a handling comes to. -/
def Handling.status (handling : Handling) : Nat :=
  match handling.result with
  | .ok answer => answer.status
  | .error report => report.sentStatus

/-- Only the options of a path lead to their route. -/
theorem Destination.verb_ne_options
    {verb : String}
    {target : Target}
    {destination : Destination}
    (arrives : ofTarget verb target = .ok destination)
    (known : destination.route ≠ some .options) :
    verb ≠ "OPTIONS" := by
  rintro rfl
  unfold ofTarget at arrives
  split at arrives
  · cases arrives
  · cases arrives
    exact known rfl

namespace Server

/-- An error that ends a request gives it the status of its report. -/
theorem status_endWithError
    (server : Server)
    (visit : Visit)
    (destination : Destination)
    (headers : List (String × String))
    (report : ErrorReport) :
    (server.endWithError visit destination headers report).status =
      report.sentStatus :=
  report.reply_fst server.config.isDevelopment visit

/-- A handled request has the status of its handling. -/
theorem status_endHandled
    (server : Server)
    (visit : Visit)
    (destination : Destination)
    (headers : List (String × String))
    (handling : Handling) :
    (server.endHandled visit destination headers handling).status =
      handling.status := by
  unfold endHandled Handling.status
  cases handling.result with
  | ok answer => rfl
  | error report =>
      exact server.status_endWithError visit destination headers report

/-- Handling does not look at the tallies. -/
theorem handleRoute_tallies
    (server : Server)
    (tallies : List RateLimit.Tally)
    (moment : Moment)
    (params : Record String)
    (body : Option Json)
    (route : Route) :
    { server with tallies := tallies }.handleRoute moment params body route =
      server.handleRoute moment params body route := by
  cases route <;> rfl

/-- The handlers do not look at the tallies. -/
theorem handleRoute_counting
    (server : Server)
    (visit : Visit)
    (moment : Moment)
    (params : Record String)
    (body : Option Json)
    (route : Route) :
    (server.counting visit).handleRoute moment params body route =
      server.handleRoute moment params body route :=
  server.handleRoute_tallies _ moment params body route

/-- Cross-origin rules do not answer a request that leads to a handler. -/
theorem isPreflight_eq_false
    (server : Server)
    {visit : Visit}
    {route : Route}
    {params : Record String}
    (arrives :
      Destination.ofTarget visit.verb visit.request.target =
        .ok ⟨some route, params⟩)
    (known : route ≠ .options) :
    server.isPreflight visit.request = false := by
  have notOptions : visit.request.verb ≠ "OPTIONS" :=
    Destination.verb_ne_options arrives (by simpa using known)
  simp [isPreflight, notOptions]

/-- A request beyond the limit is counted and refused. -/
theorem handleCounted_beyond
    {server : Server}
    {visit : Visit}
    (beyond : server.isBeyondLimit visit = true)
    (route : Route)
    (params : Record String) :
    server.handleCounted visit ⟨some route, params⟩ =
      ((server.counting visit).endEarly visit ⟨some route, params⟩
        (server.limitHeaders visit) (server.limitReport visit),
        server.counting visit) := by
  simp only [handleCounted, beyond, if_true]

/-- A request within the limit is counted and handled. -/
theorem handleCounted_within
    {server : Server}
    {visit : Visit}
    (within : server.isBeyondLimit visit = false)
    (route : Route)
    (params : Record String) :
    server.handleCounted visit ⟨some route, params⟩ =
      (server.counting visit).handleBody visit ⟨some route, params⟩
        (server.limitHeaders visit) := by
  simp only [handleCounted, within, Bool.false_eq_true, if_false]

/-- Handling a body moves nothing of a server but its collaborators. -/
theorem handleBody_frame
    (server : Server)
    (visit : Visit)
    (destination : Destination)
    (headers : List (String × String)) :
    (server.handleBody visit destination headers).2 =
      { server with
        collaborators :=
          (server.handleBody visit destination headers).2.collaborators } := by
  unfold handleBody
  split
  · rfl
  · dsimp only
    split <;> rfl

/-- Whether a server counts a visit. -/
def counts (server : Server) (visit : Visit) : Bool :=
  match Destination.ofTarget visit.verb visit.request.target with
  | .ok ⟨some _, _⟩ => !server.isPreflight visit.request
  | _ => false

/-- The server that has counted a visit, if the visit counts. -/
def counted (server : Server) (visit : Visit) : Server :=
  if server.counts visit then server.counting visit else server

/-- Serving counts the visit and moves the collaborators, and nothing else. -/
theorem serve_frame (server : Server) (visit : Visit) :
    (server.serve visit).2 =
      { server.counted visit with
        collaborators := (server.serve visit).2.collaborators } := by
  unfold serve counted counts
  cases Destination.ofTarget visit.verb visit.request.target with
  | error problem => rfl
  | ok destination =>
      cases server.isPreflight visit.request with
      | true => rcases destination with ⟨_ | route, params⟩ <;> rfl
      | false =>
          rcases destination with ⟨_ | route, params⟩
          · exact server.handleBody_frame visit _ []
          · cases beyond : server.isBeyondLimit visit with
            | true =>
                simp only [Bool.false_eq_true, if_false,
                  handleCounted_beyond beyond]
                rfl
            | false =>
                simp only [Bool.false_eq_true, if_false,
                  handleCounted_within beyond]
                exact handleBody_frame _ visit _ _

/-- Serving keeps the registry. -/
theorem registry_serve (server : Server) (visit : Visit) :
    (server.serve visit).2.registry = server.registry := by
  rw [serve_frame]
  unfold counted
  split <;> rfl

/-- Serving keeps the configuration. -/
theorem config_serve (server : Server) (visit : Visit) :
    (server.serve visit).2.config = server.config := by
  rw [serve_frame]
  unfold counted
  split <;> rfl

/-- The reply to a counted request tells what its handling comes to. -/
theorem status_serve
    {server : Server}
    {visit : Visit}
    {route : Route}
    {params : Record String}
    (arrives :
      Destination.ofTarget visit.verb visit.request.target =
        .ok ⟨some route, params⟩)
    (known : route ≠ .options)
    {body : Option Json}
    (read : Body.ofRequest true visit.request = .ok body)
    {handling : Handling}
    (handled :
      server.handleRoute visit.moment params body route = some handling) :
    (server.serve visit).1.reply.status =
      if server.isBeyondLimit visit then 429 else handling.status := by
  have otherRoute : some route ≠ some .options := by simpa using known
  have notPreflight := server.isPreflight_eq_false arrives known
  simp only [serve, arrives, notPreflight, Bool.false_eq_true, if_false,
    exchange]
  cases beyond : server.isBeyondLimit visit with
  | true =>
      rw [handleCounted_beyond beyond, endEarly, if_neg otherRoute,
        status_endWithError]
      rfl
  | false =>
      simp only [handleCounted_within beyond, handleBody,
        Option.isSome_some, read, Option.bind_some, handleRoute_counting,
        handled, status_endHandled, Bool.false_eq_true, if_false]

/-- Checked parameters fail with a status of their own. -/
theorem status_withParams_eq_internal_iff
    {α : Type}
    (server : Server)
    (decoder : Decoder α)
    (params : Record String)
    (handle : α → Handling) :
    (server.withParams decoder params handle).status = 500 ↔
      ∃ value,
        decoder (some (Json.ofTextRecord params)) = .valid value ∧
          (handle value).status = 500 := by
  unfold withParams
  cases decoder (some (Json.ofTextRecord params)) with
  | valid value => simp
  | invalid issues =>
      have refused :
          (server.refuse (validationReport paramIssueText issues)).status =
            400 :=
        ErrorReport.sentStatus_ofCode _ _ (by decide) (by decide)
      simp [refused]

end Server

end StorageBackends.Http
