import Mathlib.Data.List.Induction

namespace StorageBackends

/-!
# What has held since

What a map holds after a list of events is told by the last event about a key:
something happened there, and since then nothing else did. Such statements are
proved from the end of the list, one event at a time.
-/

variable {Event : Type}

/-- Something happened in a history, and since then all events are of a kind. -/
def Since
    (held happened : Event → Prop)
    (history : List Event) : Prop :=
  ∃ earlier event later,
    history = earlier ++ event :: later ∧
    happened event ∧
    ∀ other ∈ later, held other

variable
  {held happened : Event → Prop}
  {history : List Event}

theorem not_since_nil : ¬Since held happened [] := by
  rintro ⟨earlier, event, later, split, -⟩
  exact absurd split (by simp)

/-- It happened last, or it had happened before and still holds. -/
theorem since_append_singleton_iff {last : Event} :
    Since held happened (history ++ [last]) ↔
      happened last ∨ held last ∧ Since held happened history := by
  constructor
  · rintro ⟨earlier, event, later, split, happens, holds⟩
    cases later using List.reverseRec with
    | nil =>
        obtain ⟨-, here⟩ := List.append_inj' split rfl
        cases here
        exact .inl happens
    | append_singleton between final =>
        rw [← List.cons_append, ← List.append_assoc] at split
        obtain ⟨front, here⟩ := List.append_inj' split rfl
        cases here
        exact .inr ⟨holds last (by simp), earlier, event, between, front,
          happens, fun other listed => holds other (by simp [listed])⟩
  · rintro (happens | ⟨holdsLast, since⟩)
    · exact ⟨history, last, [], rfl, happens, nofun⟩
    · obtain ⟨earlier, event, later, rfl, happens, holds⟩ := since
      refine ⟨earlier, event, later ++ [last], by simp, happens, ?_⟩
      intro other listed
      rcases List.mem_append.1 listed with before | final
      · exact holds other before
      · rw [List.mem_singleton.1 final]
        exact holdsLast

/-- Two places of a list that hold the same are one if nothing is listed twice. -/
theorem split_unique
    {Value : Type}
    {extract : Event → Option Value}
    (distinct : (history.filterMap extract).Nodup)
    {value : Value}
    {earlier later otherEarlier otherLater : List Event}
    {event other : Event}
    (split : history = earlier ++ event :: later)
    (otherSplit : history = otherEarlier ++ other :: otherLater)
    (extracts : extract event = some value)
    (otherExtracts : extract other = some value) :
    earlier = otherEarlier ∧ event = other ∧ later = otherLater := by
  subst split
  induction earlier generalizing otherEarlier with
  | nil =>
      cases otherEarlier with
      | nil =>
          obtain ⟨rfl, rfl⟩ := List.cons.inj otherSplit
          exact ⟨rfl, rfl, rfl⟩
      | cons first between =>
          obtain ⟨rfl, rfl⟩ := List.cons.inj otherSplit
          simp [extracts, otherExtracts] at distinct
  | cons first between inductionHypothesis =>
      cases otherEarlier with
      | nil =>
          obtain ⟨rfl, rfl⟩ := List.cons.inj otherSplit
          simp [extracts, otherExtracts] at distinct
      | cons otherFirst otherBetween =>
          obtain ⟨rfl, behind⟩ := List.cons.inj otherSplit
          have distinctBehind :
              ((between ++ event :: later).filterMap extract).Nodup :=
            (List.Sublist.filterMap extract
              (List.sublist_cons_self first _)).nodup distinct
          obtain ⟨rfl, sameEvent, sameLater⟩ :=
            inductionHypothesis distinctBehind behind
          exact ⟨rfl, sameEvent, sameLater⟩

end StorageBackends
