import StorageBackends.Proofs.History
import StorageBackends.Proofs.SecretStore

namespace StorageBackends

/-!
# What references lead to

References are issued by writes, one for each, and are found by searching the
stored secrets. As long as no reference is issued twice, the search finds what
a run of calls says: a reference leads to the content that was written under
it until its name is written or removed again, and to nothing from then on.
The references themselves are whatever their issuer makes them.
-/

/-- A call of a store: a write with the reference issued for it, or a removal. -/
inductive SecretCall where
  | put (reference name : String) (content : Record String)
  | remove (name : String)
deriving DecidableEq, Repr

namespace SecretCall

/-- The name that a call is about. -/
def name : SecretCall → String
  | put _ name _ => name
  | remove name => name

/-- The reference that is issued for a call. -/
def reference? : SecretCall → Option String
  | put reference _ _ => some reference
  | remove _ => none

/-- A call writes some content under a name. -/
def Stores (name : String) (call : SecretCall) : Prop :=
  ∃ reference content, call = put reference name content

/-- A store after a call. -/
def on (store : SecretStore) : SecretCall → SecretStore
  | put reference name content => store.putUnder reference name content
  | remove name => store.remove name

end SecretCall

/-- The references that some calls issue, in the order of issue. -/
def issuedReferences (calls : List SecretCall) : List String :=
  calls.filterMap SecretCall.reference?

theorem mem_issuedReferences
    {calls : List SecretCall}
    (reference name : String)
    (content : Record String)
    (listed : .put reference name content ∈ calls) :
    reference ∈ issuedReferences calls :=
  List.mem_filterMap.2 ⟨_, listed, rfl⟩

namespace SecretStore

/-- A store after some calls. -/
def after (store : SecretStore) (calls : List SecretCall) : SecretStore :=
  calls.foldl SecretCall.on store

/-- A write issues the next reference of the store itself. -/
theorem snd_put
    (store : SecretStore)
    (name : String)
    (content : Record String) :
    (store.put name content).2 =
      (SecretCall.put store.nextReference name content).on store := rfl

theorem after_append_singleton
    (store : SecretStore)
    (calls : List SecretCall)
    (call : SecretCall) :
    store.after (calls ++ [call]) = call.on (store.after calls) := by
  simp only [after, List.foldl_append, List.foldl_cons, List.foldl_nil]

/-- What is stored under a name is what its last call has left. -/
theorem secret?_after_eq_some_iff
    (supply : ReferenceSupply)
    (calls : List SecretCall)
    (name : String)
    (secret : StoredSecret) :
    ((empty supply).after calls).secret? name = some secret ↔
      Since (fun call => call.name ≠ name)
        (fun call => call = .put secret.reference name secret.content)
        calls := by
  induction calls using List.reverseRecOn with
  | nil =>
      constructor
      · nofun
      · exact fun since => absurd since not_since_nil
  | append_singleton calls call inductionHypothesis =>
      rw [after_append_singleton, since_append_singleton_iff,
        ← inductionHypothesis]
      cases call with
      | put reference other content =>
          rw [SecretCall.on, secret?_putUnder]
          by_cases own : name = other
          · rcases secret with ⟨stored, found⟩
            simp [SecretCall.name, own]
          · simp [SecretCall.name, own, Ne.symm own]
      | remove other =>
          rw [SecretCall.on, secret?_remove]
          by_cases own : name = other
          · simp [SecretCall.name, own]
          · simp [SecretCall.name, own, Ne.symm own]

/-- A secret is stored under a name that was not removed since it was written. -/
theorem has_after_iff
    (supply : ReferenceSupply)
    (calls : List SecretCall)
    (name : String) :
    ((empty supply).after calls).has name = true ↔
      Since (· ≠ .remove name) (SecretCall.Stores name) calls := by
  induction calls using List.reverseRecOn with
  | nil =>
      constructor
      · nofun
      · exact fun since => absurd since not_since_nil
  | append_singleton calls call inductionHypothesis =>
      rw [after_append_singleton, since_append_singleton_iff,
        ← inductionHypothesis, has_eq_isSome, has_eq_isSome]
      cases call with
      | put reference other content =>
          rw [SecretCall.on, secret?_putUnder]
          by_cases own : name = other
          · simp [SecretCall.Stores, own]
          · simp [SecretCall.Stores, own, Ne.symm own]
      | remove other =>
          rw [SecretCall.on, secret?_remove]
          by_cases own : name = other
          · simp [SecretCall.Stores, own]
          · simp [SecretCall.Stores, own, Ne.symm own]

theorem nodup_keys_after
    (supply : ReferenceSupply)
    (calls : List SecretCall) :
    (Record.keys ((empty supply).after calls).secrets).Nodup := by
  induction calls using List.reverseRecOn with
  | nil => exact List.nodup_nil
  | append_singleton calls call inductionHypothesis =>
      rw [after_append_singleton]
      cases call with
      | put reference name content =>
          exact Record.nodup_keys_insert inductionHypothesis name _
      | remove name => exact Record.nodup_keys_erase inductionHypothesis name

/-- No reference is found under two names if none was issued twice. -/
theorem unambiguous_after
    (supply : ReferenceSupply)
    {calls : List SecretCall}
    (distinct : (issuedReferences calls).Nodup) :
    ((empty supply).after calls).Unambiguous where
  distinctNames := nodup_keys_after supply calls
  distinctReferences := by
    intro name secret other otherSecret stored otherStored same
    obtain ⟨earlier, call, later, split, rfl, -⟩ :=
      (secret?_after_eq_some_iff supply calls name secret).1 stored
    obtain ⟨otherEarlier, otherCall, otherLater, otherSplit, rfl, -⟩ :=
      (secret?_after_eq_some_iff supply calls other otherSecret).1 otherStored
    obtain ⟨-, sameCall, -⟩ :=
      split_unique distinct split otherSplit rfl (congrArg some same.symm)
    injection sameCall

/-- A reference leads to what was written under it, to a name untouched since. -/
theorem resolve?_after_eq_some_iff
    (supply : ReferenceSupply)
    {calls : List SecretCall}
    (distinct : (issuedReferences calls).Nodup)
    (reference : String)
    (content : Record String) :
    ((empty supply).after calls).resolve? reference = some content ↔
      ∃ name,
        Since (fun call => call.name ≠ name)
          (fun call => call = .put reference name content) calls := by
  rw [(unambiguous_after supply distinct).resolve?_eq_some_iff]
  exact exists_congr fun name => secret?_after_eq_some_iff supply calls name _

/-- What becomes of a reference that was issued for a write. -/
theorem resolve?_after_of_issued
    (supply : ReferenceSupply)
    {calls : List SecretCall}
    (distinct : (issuedReferences calls).Nodup)
    {earlier later : List SecretCall}
    {reference name : String}
    {content : Record String}
    (split : calls = earlier ++ .put reference name content :: later) :
    ((empty supply).after calls).resolve? reference =
      if ∀ call ∈ later, call.name ≠ name then some content else none := by
  apply Option.ext
  intro found
  rw [resolve?_after_eq_some_iff supply distinct, Option.ite_none_right_eq_some,
    Option.some.injEq]
  constructor
  · rintro ⟨other, otherEarlier, call, otherLater, otherSplit, rfl, spared⟩
    obtain ⟨-, sameCall, rfl⟩ :=
      split_unique distinct split otherSplit rfl rfl
    cases sameCall
    exact ⟨spared, rfl⟩
  · rintro ⟨spared, rfl⟩
    exact ⟨name, earlier, _, later, split, rfl, spared⟩

/-- A call about another name leaves a reference where it leads. -/
theorem resolve?_after_append_singleton
    (supply : ReferenceSupply)
    {calls : List SecretCall}
    {call : SecretCall}
    (distinct : (issuedReferences (calls ++ [call])).Nodup)
    {reference name : String}
    {content : Record String}
    (apart : call.name ≠ name)
    (listed : .put reference name content ∈ calls) :
    ((empty supply).after (calls ++ [call])).resolve? reference =
      ((empty supply).after calls).resolve? reference := by
  obtain ⟨earlier, later, split⟩ := List.append_of_mem listed
  have distinctBefore : (issuedReferences calls).Nodup := by
    refine List.Sublist.nodup ?_ distinct
    exact (List.sublist_append_left calls [call]).filterMap _
  have splitAfter :
      calls ++ [call] =
        earlier ++ .put reference name content :: (later ++ [call]) := by
    simp [split]
  rw [resolve?_after_of_issued supply distinct splitAfter,
    resolve?_after_of_issued supply distinctBefore split]
  simp [or_imp, forall_and, apart]

theorem has_after_append_singleton
    (supply : ReferenceSupply)
    (calls : List SecretCall)
    {call : SecretCall}
    {name : String}
    (apart : call.name ≠ name) :
    ((empty supply).after (calls ++ [call])).has name =
      ((empty supply).after calls).has name := by
  rw [after_append_singleton, has_eq_isSome, has_eq_isSome]
  congr 1
  cases call with
  | put reference other content =>
      exact (secret?_putUnder _ _ _ _ _).trans (if_neg (Ne.symm apart))
  | remove other => exact (secret?_remove _ _ _).trans (if_neg (Ne.symm apart))

/--
What a store answers after some calls: an issued reference leads to the
content written under it unless its name was written or removed later, any
other text leads nowhere, and a name has a secret unless it was removed after
all writes. None of this changes with a call about another name.
-/
structure ReferenceLaw
    (supply : ReferenceSupply)
    (calls : List SecretCall) :
    Prop where
  issued :
    ∀ earlier reference name content later,
      calls = earlier ++ .put reference name content :: later →
      ((empty supply).after calls).resolve? reference =
        if ∀ call ∈ later, call.name ≠ name then some content else none
  unissued :
    ∀ reference,
      reference ∉ issuedReferences calls →
      ((empty supply).after calls).resolve? reference = none
  stored :
    ∀ name,
      ((empty supply).after calls).has name = true ↔
        Since (· ≠ .remove name) (SecretCall.Stores name) calls
  elsewhere :
    ∀ earlier call later,
      calls = earlier ++ call :: later →
      ∀ name,
        call.name ≠ name →
        ((empty supply).after (earlier ++ [call])).has name =
            ((empty supply).after earlier).has name ∧
          ∀ reference content,
            .put reference name content ∈ earlier →
            ((empty supply).after (earlier ++ [call])).resolve? reference =
              ((empty supply).after earlier).resolve? reference

/-- A store answers as its calls say if no reference was issued twice. -/
theorem after_referenceLaw
    (supply : ReferenceSupply)
    {calls : List SecretCall}
    (distinct : (issuedReferences calls).Nodup) :
    ReferenceLaw supply calls where
  issued := by
    intro earlier reference name content later split
    exact resolve?_after_of_issued supply distinct split
  unissued := by
    intro reference unissued
    refine Option.eq_none_iff_forall_ne_some.2 fun content resolved => ?_
    obtain ⟨name, earlier, call, later, rfl, rfl, -⟩ :=
      (resolve?_after_eq_some_iff supply distinct reference content).1 resolved
    exact unissued (mem_issuedReferences reference name content (by simp))
  stored := has_after_iff supply calls
  elsewhere := by
    intro earlier call later split name apart
    refine ⟨has_after_append_singleton supply earlier apart, ?_⟩
    intro reference content listed
    refine resolve?_after_append_singleton supply ?_ apart listed
    have front : (earlier ++ [call]).Sublist calls := by
      rw [split, List.append_cons earlier call later]
      exact List.sublist_append_left _ _
    exact (front.filterMap _).nodup distinct

/-- A secret is written, written again and read, and another one removed. -/
theorem after_referenceLaw_rewritten :
    let calls : List SecretCall :=
      [.put "secret:#1" "hitachi-a" [("password", "old")],
        .put "secret:#2" "hitachi-b" [("password", "other")],
        .put "secret:#3" "hitachi-a" [("password", "new")],
        .remove "hitachi-b"]
    let written :=
      (((((empty .numbered).put "hitachi-a" [("password", "old")]).2.put
        "hitachi-b" [("password", "other")]).2.put
        "hitachi-a" [("password", "new")]).2.remove "hitachi-b")
    (issuedReferences calls).Nodup ∧
      (empty .numbered).after calls = written ∧
        ReferenceLaw .numbered calls := by
  intro calls written
  have distinct : (issuedReferences calls).Nodup := by decide
  exact ⟨distinct, by rfl, after_referenceLaw .numbered distinct⟩

end SecretStore

end StorageBackends
