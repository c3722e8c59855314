import Mathlib.Data.List.Induction
import Mathlib.Data.List.Perm.Subperm
import StorageBackends.Proofs.Http.Status

namespace StorageBackends.Http

/-!
# The rate limit over a run

The tallies of a server are those of the requests it has counted, in order. As
long as there are no more clients than it remembers, the requests of one client
do not move the tally of another, so a client is refused for its own requests
alone: it has sent more of them than the limit since its window began. The
window ends, and then the client is served again.
-/

namespace RateLimit

/-- The tally of a client after one more request, whether it had one or not. -/
def following
    (limit : Service.RateLimit)
    (tally? : Option Tally)
    (arrival : Arrival) :
    Tally :=
  match tally? with
  | some tally => tally.next limit arrival
  | none => .first arrival

/-- The tallies after some more requests. -/
def after
    (limit : Service.RateLimit)
    (tallies : List Tally)
    (arrivals : List Arrival) :
    List Tally :=
  arrivals.foldl
    (fun tallies arrival => remember (tallyOf limit arrival tallies) tallies)
    tallies

/-- The tally of a client that has sent these requests, looked at alone. -/
def alone? (limit : Service.RateLimit) (arrivals : List Arrival) :
    Option Tally :=
  arrivals.foldl (fun tally? arrival => some (following limit tally? arrival))
    none

/-- The requests that one client sent. -/
def own (client : String) (arrivals : List Arrival) : List Arrival :=
  arrivals.filter (·.client == client)

theorem tallyOf_eq_following
    (limit : Service.RateLimit)
    (arrival : Arrival)
    (tallies : List Tally) :
    tallyOf limit arrival tallies =
      following limit (tallies.find? (·.client == arrival.client))
        arrival := rfl

theorem after_concat
    (limit : Service.RateLimit)
    (tallies : List Tally)
    (arrivals : List Arrival)
    (last : Arrival) :
    after limit tallies (arrivals ++ [last]) =
      remember (tallyOf limit last (after limit tallies arrivals))
        (after limit tallies arrivals) := by
  simp [after]

theorem alone?_concat
    (limit : Service.RateLimit)
    (arrivals : List Arrival)
    (last : Arrival) :
    alone? limit (arrivals ++ [last]) =
      some (following limit (alone? limit arrivals) last) := by
  simp [alone?]

/-- The tally of a request is that of the client who sends it. -/
@[simp] theorem client_tallyOf
    (limit : Service.RateLimit)
    (arrival : Arrival)
    (tallies : List Tally) :
    (tallyOf limit arrival tallies).client = arrival.client := by
  unfold tallyOf
  split
  · rename_i tally found
    unfold Tally.next
    split
    · rfl
    · simpa using List.find?_some found
  · rfl

/-- Tallies of some clients, in which no client comes twice. -/
structure Ordered (clients : List String) (tallies : List Tally) : Prop where
  distinct : (tallies.map Tally.client).Nodup
  known : ∀ tally ∈ tallies, tally.client ∈ clients

namespace Ordered

variable
  {clients : List String}
  {tallies : List Tally}
  {tally : Tally}

/-- There are no more tallies than clients. -/
theorem length_le (ordered : Ordered clients tallies) :
    tallies.length ≤ clients.length := by
  rw [← List.length_map Tally.client]
  refine (List.subperm_of_subset ordered.distinct ?_).length_le
  intro client listed
  obtain ⟨tally, inTallies, rfl⟩ := List.mem_map.1 listed
  exact ordered.known tally inTallies

/-- A tally takes the place of the one that its client had. -/
theorem replaced
    (ordered : Ordered clients tallies)
    (known : tally.client ∈ clients) :
    Ordered clients (tally :: tallies.filter (·.client != tally.client)) where
  distinct := by
    rw [List.map_cons, List.nodup_cons]
    refine ⟨by simp, ?_⟩
    exact ordered.distinct.sublist (List.filter_sublist.map Tally.client)
  known other listed := by
    rcases List.mem_cons.1 listed with rfl | inRest
    · exact known
    · exact ordered.known other (List.mem_of_mem_filter inRest)

/-- Where there is room for all clients, nobody is forgotten. -/
theorem remember_eq
    (ordered : Ordered clients tallies)
    (few : clients.length ≤ maxClients)
    (known : tally.client ∈ clients) :
    remember tally tallies =
      tally :: tallies.filter (·.client != tally.client) :=
  List.take_of_length_le
    (Nat.le_trans (ordered.replaced known).length_le few)

/-- A remembered tally shows for its own client only. -/
theorem find?_remember
    (ordered : Ordered clients tallies)
    (few : clients.length ≤ maxClients)
    (known : tally.client ∈ clients)
    (client : String) :
    (remember tally tallies).find? (·.client == client) =
      if client = tally.client then some tally
      else tallies.find? (·.client == client) := by
  rw [ordered.remember_eq few known]
  by_cases own : client = tally.client
  · simp [own]
  · have kept :
        (fun other : Tally =>
          decide ((other.client != tally.client) = true ∧
            (other.client == client) = true)) =
          (·.client == client) := by
      funext other
      by_cases same : other.client = client
      · simp [same, own]
      · simp [same]
    rw [if_neg own, List.find?_cons, beq_false_of_ne (Ne.symm own),
      List.find?_filter, kept]

/-- The tallies stay in order through the requests of their clients. -/
theorem after
    (ordered : Ordered clients tallies)
    (few : clients.length ≤ maxClients)
    (limit : Service.RateLimit)
    {arrivals : List Arrival}
    (known : ∀ arrival ∈ arrivals, arrival.client ∈ clients) :
    Ordered clients (RateLimit.after limit tallies arrivals) := by
  induction arrivals generalizing tallies with
  | nil => exact ordered
  | cons arrival rest inductionHypothesis =>
      have knownTally :
          (tallyOf limit arrival tallies).client ∈ clients := by
        rw [client_tallyOf]
        exact known arrival List.mem_cons_self
      have next :
          Ordered clients
            (remember (tallyOf limit arrival tallies) tallies) := by
        rw [ordered.remember_eq few knownTally]
        exact ordered.replaced knownTally
      exact inductionHypothesis next fun other listed =>
        known other (List.mem_cons_of_mem arrival listed)

end Ordered

/--
The tally of a client goes by its own requests: those of the others, wherever
they stand between, do not move it.
-/
theorem find?_after
    (limit : Service.RateLimit)
    {clients : List String}
    (few : clients.length ≤ maxClients)
    {arrivals : List Arrival}
    (known : ∀ arrival ∈ arrivals, arrival.client ∈ clients)
    (client : String) :
    (after limit [] arrivals).find? (·.client == client) =
      alone? limit (own client arrivals) := by
  have empty : Ordered clients [] := ⟨List.nodup_nil, by simp⟩
  induction arrivals using List.reverseRecOn generalizing client with
  | nil => rfl
  | append_singleton arrivals last inductionHypothesis =>
      have knownBefore : ∀ arrival ∈ arrivals, arrival.client ∈ clients :=
        fun arrival listed => known arrival (List.mem_append_left _ listed)
      have knownLast :
          (tallyOf limit last (after limit [] arrivals)).client ∈ clients := by
        rw [client_tallyOf]
        exact known last (List.mem_append_right _ List.mem_cons_self)
      rw [after_concat,
        (empty.after few limit knownBefore).find?_remember few knownLast,
        client_tallyOf, own, List.filter_append]
      by_cases isOwn : client = last.client
      · rw [if_pos isOwn, tallyOf_eq_following,
          inductionHypothesis knownBefore]
        subst isOwn
        simp [own, alone?_concat]
      · rw [if_neg isOwn, inductionHypothesis knownBefore]
        simp [own, Ne.symm isOwn]

/--
A tally covers the last requests: one of them began its window, and the
others came before the window was over.
-/
structure Covers
    (limit : Service.RateLimit)
    (tally : Tally)
    (first : Arrival)
    (later : List Arrival) :
    Prop where
  since : tally.since = first.clock
  count : tally.count = later.length + 1
  lasting : ∀ arrival ∈ later, tally.isOver limit arrival.clock = false

/-- The tally of a client covers its requests since the window began. -/
theorem covers_of_alone?
    {limit : Service.RateLimit}
    {arrivals : List Arrival}
    {tally : Tally}
    (sent : alone? limit arrivals = some tally) :
    ∃ earlier first later,
      arrivals = earlier ++ first :: later ∧ Covers limit tally first later := by
  induction arrivals using List.reverseRecOn generalizing tally with
  | nil => cases sent
  | append_singleton arrivals last inductionHypothesis =>
      have opens : Covers limit (.first last) last [] :=
        ⟨rfl, rfl, by simp⟩
      rw [alone?_concat, Option.some.injEq] at sent
      cases before : alone? limit arrivals with
      | none =>
          rw [before] at sent
          exact ⟨arrivals, last, [], rfl, sent ▸ opens⟩
      | some known =>
          simp only [before, following, Tally.next] at sent
          split at sent
          · exact ⟨arrivals, last, [], rfl, sent ▸ opens⟩
          · rename_i lasts
            obtain ⟨earlier, first, later, rfl, covers⟩ :=
              inductionHypothesis before
            subst sent
            refine ⟨earlier, first, later ++ [last], by simp, covers.since, ?_,
              ?_⟩
            · simp [covers.count]
            · intro arrival listed
              rcases List.mem_append.1 listed with isLater | isLast
              · exact covers.lasting arrival isLater
              · rw [List.mem_singleton.1 isLast]
                exact Bool.eq_false_iff.2 lasts

end RateLimit

namespace Server

open RateLimit

/-- What a server counts depends on its configuration only. -/
theorem counts_congr
    {server other : Server}
    (same : server.config = other.config) :
    server.counts = other.counts := by
  funext visit
  simp only [counts, isPreflight, same]

/-- The tallies after a run are moved by the visits that were counted. -/
theorem tallies_serveAll (server : Server) (visits : List Visit) :
    (server.serveAll visits).2.tallies =
      after server.config.rateLimit server.tallies
        ((visits.filter server.counts).map Visit.arrival) := by
  induction visits generalizing server with
  | nil => rfl
  | cons visit rest inductionHypothesis =>
      have sameConfig := server.config_serve visit
      have served :
          (server.serve visit).2.tallies = (server.counted visit).tallies := by
        rw [serve_frame]
      have later := inductionHypothesis (server.serve visit).2
      rw [counts_congr sameConfig, sameConfig, served] at later
      refine Eq.trans later ?_
      cases counts : server.counts visit with
      | true =>
          simp only [counted, counts, if_true, List.filter_cons_of_pos counts,
            List.map_cons]
          rfl
      | false =>
          have passed : ¬server.counts visit = true := by simp [counts]
          simp only [counted, counts, Bool.false_eq_true, if_false,
            List.filter_cons_of_neg passed]

/-- The configuration of a server lasts through every run. -/
theorem config_serveAll (server : Server) (visits : List Visit) :
    (server.serveAll visits).2.config = server.config := by
  induction visits generalizing server with
  | nil => rfl
  | cons visit rest inductionHypothesis =>
      exact (inductionHypothesis (server.serve visit).2).trans
        (server.config_serve visit)

section

variable
  {server : Server}
  {clients : List String}
  {visits : List Visit}

/-- The counted requests of the client of a visit, this one included. -/
def ownArrivals
    (server : Server)
    (visits : List Visit)
    (visit : Visit) :
    List Arrival :=
  own visit.arrival.client
    ((visits.filter server.counts).map Visit.arrival) ++ [visit.arrival]

/-- After a run the tally of a visit goes by the requests of its client. -/
theorem alone?_ownArrivals
    (fresh : server.tallies = [])
    (few : clients.length ≤ maxClients)
    (known : ∀ other ∈ visits, other.arrival.client ∈ clients)
    (visit : Visit) :
    alone? server.config.rateLimit (server.ownArrivals visits visit) =
      some ((server.serveAll visits).2.tally visit) := by
  have knownCounted :
      ∀ arrival ∈ (visits.filter server.counts).map Visit.arrival,
        arrival.client ∈ clients := by
    intro arrival listed
    obtain ⟨other, counted, rfl⟩ := List.mem_map.1 listed
    exact known other (List.mem_of_mem_filter counted)
  rw [ownArrivals, alone?_concat, tally, tallyOf_eq_following,
    config_serveAll, tallies_serveAll, fresh,
    find?_after server.config.rateLimit few knownCounted]

/--
A client is refused for its own requests alone: since one of them began the
window it has sent more than the limit allows, and the window is not over.
-/
theorem covers_of_isBeyondLimit
    (fresh : server.tallies = [])
    (few : clients.length ≤ maxClients)
    (known : ∀ other ∈ visits, other.arrival.client ∈ clients)
    {visit : Visit}
    (beyond : (server.serveAll visits).2.isBeyondLimit visit = true) :
    ∃ earlier first later,
      server.ownArrivals visits visit = earlier ++ first :: later ∧
        Covers server.config.rateLimit ((server.serveAll visits).2.tally visit)
          first later ∧
        server.config.rateLimit.global ≤ later.length := by
  obtain ⟨earlier, first, later, split, covers⟩ :=
    covers_of_alone? (alone?_ownArrivals fresh few known visit)
  refine ⟨earlier, first, later, split, covers, ?_⟩
  rw [isBeyondLimit, exceeds, config_serveAll, decide_eq_true_eq,
    covers.count] at beyond
  exact Nat.le_of_lt_succ beyond

/-- A client whose window is over is served again. -/
theorem isBeyondLimit_eq_false_of_isOver
    (positive : 0 < server.config.rateLimit.global)
    {visit : Visit}
    (ended :
      ∀ tally ∈ server.tallies,
        tally.client = visit.arrival.client →
          tally.isOver server.config.rateLimit visit.arrival.clock = true) :
    server.isBeyondLimit visit = false := by
  have first : (server.tally visit).count = 1 := by
    unfold tally tallyOf
    split
    · rename_i tally found
      have windowOver :=
        ended tally (List.mem_of_find?_eq_some found)
          (by simpa using List.find?_some found)
      rw [Tally.next, if_pos windowOver]
      rfl
    · rfl
  rw [isBeyondLimit, exceeds, first, decide_eq_false_iff_not]
  exact Nat.not_lt.2 positive

end

end Server

end StorageBackends.Http
