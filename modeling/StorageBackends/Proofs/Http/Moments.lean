import StorageBackends.Proofs.Http.Effect

namespace StorageBackends.Http

/-!
# What moments change

Serving looks at the moment of a visit for its marks, which are the identifier
of the request and the time, for the trace of an error in development, and for
the health of the engine. Elsewhere two visits with the same request and the
same arrival are served in the same way, up to the marks of their replies.
-/

/-- The visit with the same request that is served at another moment. -/
def Visit.arriving (visit : Visit) (moment : Moment) : Visit :=
  { visit with moment := moment }

@[simp] theorem Visit.request_arriving (visit : Visit) (moment : Moment) :
    (visit.arriving moment).request = visit.request := rfl

@[simp] theorem Visit.verb_arriving (visit : Visit) (moment : Moment) :
    (visit.arriving moment).verb = visit.verb := rfl

namespace Server

/-- The limit goes by the arrival of a visit, not by its moment. -/
theorem isBeyondLimit_arriving
    (server : Server)
    (visit : Visit)
    (moment : Moment) :
    server.isBeyondLimit (visit.arriving moment) =
      server.isBeyondLimit visit := rfl

end Server

/-- Content without its marks. -/
def Content.unmarked : Content → Content
  | .json (.obj members) =>
      .json (.obj (Record.erase "requestId" (Record.erase "timestamp" members)))
  | content => content

/-- Replies that differ in their marks and their headers only. -/
structure Reply.SameButMarks (reply other : Reply) : Prop where
  status : reply.status = other.status
  content : reply.content.unmarked = other.content.unmarked

/-- Endings of which replies are made that differ in no other way. -/
structure Ending.SameButMarks (ending other : Ending) : Prop where
  status : ending.status = other.status
  content : ending.content.unmarked = other.content.unmarked

/-- A moment shows in the marks of an error reply only. -/
theorem ErrorReport.unmarked_body
    (report : ErrorReport)
    (visit : Visit)
    (moment : Moment) :
    (Content.json (report.body false visit)).unmarked =
      (Content.json (report.body false (visit.arriving moment))).unmarked := by
  simp [Content.unmarked, body, Record.erase]

namespace Server

variable
  {server : Server}
  {visit : Visit}

/-- Content without its marks is sent alike. -/
theorem unmarked_sentContent
    {content other : Content}
    (same : content.unmarked = other.unmarked)
    (request : Request) :
    (sentContent request content).unmarked =
      (sentContent request other).unmarked := by
  unfold sentContent
  split
  · rfl
  · exact same

/--
Endings that differ in marks only make replies that differ in marks only.
-/
theorem exchange_sameButMarks
    {ending other : Ending}
    (same : ending.SameButMarks other)
    (moment : Moment)
    (firstLines otherLines : List LogLine) :
    (server.exchange visit firstLines ending).reply.SameButMarks
      (server.exchange (visit.arriving moment) otherLines other).reply :=
  ⟨same.status, unmarked_sentContent same.content visit.request⟩

/-- Outside development an error shows no trace of its moment but the marks. -/
theorem endWithError_sameButMarks
    (production : server.config.isDevelopment = false)
    (visit : Visit)
    (destination : Destination)
    (headers : List (String × String))
    (report : ErrorReport)
    (moment : Moment) :
    (server.endWithError visit destination headers report).SameButMarks
      (server.endWithError (visit.arriving moment) destination headers
        report) := by
  unfold endWithError ErrorReport.reply
  rw [production]
  cases ErrorReport.isReplyStatus report.shownStatus with
  | false => exact ⟨rfl, rfl⟩
  | true =>
      refine ⟨rfl, ?_⟩
      simp only [if_true, ErrorReport.content]
      cases ErrorReport.isContentless report.shownStatus with
      | true => rfl
      | false => exact report.unmarked_body visit moment

/-- An early end shows no trace of its moment but the marks. -/
theorem endEarly_sameButMarks
    (production : server.config.isDevelopment = false)
    (destination : Destination)
    (headers : List (String × String))
    (report : ErrorReport)
    (moment : Moment) :
    (server.endEarly visit destination headers report).SameButMarks
      (server.endEarly (visit.arriving moment) destination headers
        report) := by
  unfold endEarly
  split
  · exact ⟨rfl, rfl⟩
  · exact endWithError_sameButMarks production visit destination headers
      report moment

/-- A request that leads nowhere is told so alike at all moments. -/
theorem endUnknown_sameButMarks
    (visit : Visit)
    (params : Record String)
    (headers : List (String × String))
    (moment : Moment) :
    (endUnknown visit params headers).SameButMarks
      (endUnknown (visit.arriving moment) params headers) := by
  refine ⟨rfl, ?_⟩
  simp [endUnknown, Content.unmarked, unknownBody, Record.erase, Visit.verb,
    Visit.url, Visit.arriving]

/-- A handled request ends alike at all moments, whether it fails or not. -/
theorem endHandled_sameButMarks
    (production : server.config.isDevelopment = false)
    (destination : Destination)
    (headers : List (String × String))
    (handling : Handling)
    (moment : Moment) :
    (server.endHandled visit destination headers handling).SameButMarks
      (server.endHandled (visit.arriving moment) destination headers
        handling) := by
  unfold endHandled
  cases handling.result with
  | ok answer => exact ⟨rfl, rfl⟩
  | error report =>
      have same :=
        endWithError_sameButMarks production visit destination headers report
          moment
      exact ⟨same.status, same.content⟩

/-- Only the health of the engine is told with a moment. -/
theorem handleRoute_moment
    (server : Server)
    (moment other : Moment)
    (params : Record String)
    (body : Option Json)
    {route : Route}
    (elsewhere : route ≠ .health) :
    server.handleRoute moment params body route =
      server.handleRoute other params body route := by
  cases route with
  | health => exact absurd rfl elsewhere
  | _ => rfl

/-- A body is answered alike at all moments unless it is about health. -/
private theorem handleBody_sameButMarks
    (production : server.config.isDevelopment = false)
    {destination : Destination}
    (elsewhere : destination.route ≠ some .health)
    (headers : List (String × String))
    (moment : Moment) :
    (server.handleBody visit destination headers).1.SameButMarks
      (server.handleBody (visit.arriving moment) destination headers).1 := by
  rcases destination with ⟨route, params⟩
  have handled :
      ∀ body,
        route.bind (server.handleRoute visit.moment params body) =
          route.bind (server.handleRoute moment params body) := by
    intro body
    cases route with
    | none => rfl
    | some route =>
        exact server.handleRoute_moment _ _ params body
          (by simpa using elsewhere)
  unfold handleBody
  dsimp only [Visit.arriving]
  split
  · exact endEarly_sameButMarks production _ _ _ moment
  · rename_i body read
    rw [handled body]
    split
    · exact endUnknown_sameButMarks visit params headers moment
    · exact endHandled_sameButMarks production _ headers _ moment

/-- Handling a body leaves the same server behind at all moments. -/
private theorem handleBody_snd
    (server : Server)
    (visit : Visit)
    (destination : Destination)
    (headers : List (String × String))
    (moment : Moment) :
    (server.handleBody visit destination headers).2 =
      (server.handleBody (visit.arriving moment) destination headers).2 := by
  rcases destination with ⟨route, params⟩
  unfold handleBody
  dsimp only [Visit.arriving]
  split
  · rfl
  · rename_i body read
    rcases route with _ | route
    · rfl
    · cases route <;> rfl

/-- A request that is not about health is answered alike at all moments. -/
theorem serve_sameButMarks
    (production : server.config.isDevelopment = false)
    (elsewhere : ¬visit.Reaches .health)
    (moment : Moment) :
    (server.serve visit).1.reply.SameButMarks
      (server.serve (visit.arriving moment)).1.reply := by
  cases arrives : Destination.ofTarget visit.verb visit.request.target with
  | error problem =>
      simp only [serve, Visit.verb_arriving, Visit.request_arriving, arrives]
      exact ⟨rfl, rfl⟩
  | ok destination =>
      have notHealth : destination.route ≠ some .health := by
        intro health
        refine elsewhere ⟨destination.params, ?_⟩
        rw [← health]
        exact arrives
      cases preflight : server.isPreflight visit.request with
      | true =>
          simp only [serve, Visit.verb_arriving, Visit.request_arriving,
            arrives, preflight, if_true]
          exact exchange_sameButMarks ⟨rfl, rfl⟩ moment [] []
      | false =>
          simp only [serve, Visit.verb_arriving, Visit.request_arriving,
            arrives, preflight, Bool.false_eq_true, if_false]
          refine exchange_sameButMarks ?_ moment _ _
          have counted :
              (server.counting visit).config.isDevelopment = false :=
            production
          rcases destination with ⟨_ | route, params⟩
          · exact handleBody_sameButMarks production notHealth [] moment
          · have same := server.isBeyondLimit_arriving visit moment
            cases beyond : server.isBeyondLimit visit with
            | true =>
                rw [handleCounted_beyond beyond,
                  handleCounted_beyond (same.trans beyond)]
                exact endEarly_sameButMarks counted _ _ _ moment
            | false =>
                rw [handleCounted_within beyond,
                  handleCounted_within (same.trans beyond)]
                exact handleBody_sameButMarks counted notHealth _ moment

/-- Every request leaves the same server behind at all moments. -/
theorem serve_snd
    (server : Server)
    (visit : Visit)
    (moment : Moment) :
    (server.serve visit).2 = (server.serve (visit.arriving moment)).2 := by
  cases arrives : Destination.ofTarget visit.verb visit.request.target with
  | error problem =>
      simp only [serve, Visit.verb_arriving, Visit.request_arriving, arrives]
  | ok destination =>
      cases preflight : server.isPreflight visit.request with
      | true =>
          simp only [serve, Visit.verb_arriving, Visit.request_arriving,
            arrives, preflight, if_true]
      | false =>
          simp only [serve, Visit.verb_arriving, Visit.request_arriving,
            arrives, preflight, Bool.false_eq_true, if_false]
          rcases destination with ⟨_ | route, params⟩
          · exact server.handleBody_snd visit _ [] moment
          · have same := server.isBeyondLimit_arriving visit moment
            cases beyond : server.isBeyondLimit visit with
            | true =>
                rw [handleCounted_beyond beyond,
                  handleCounted_beyond (same.trans beyond)]
                rfl
            | false =>
                rw [handleCounted_within beyond,
                  handleCounted_within (same.trans beyond)]
                exact handleBody_snd _ visit _ _ moment

end Server

end StorageBackends.Http
