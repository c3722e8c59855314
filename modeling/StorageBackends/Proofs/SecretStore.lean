import StorageBackends.Deploy.SecretStore
import StorageBackends.Proofs.Record

namespace StorageBackends.SecretStore

/-!
# References to secrets

Secrets are kept by name and found by reference. Finding the right one rests
on an invariant: every stored reference was issued, and no two names share
one. Under it a new reference leads to the content just stored, a reference
keeps its content as long as its name is not written, and a reference that has
lost its secret never leads anywhere again.
-/

/-- The secret stored under a name. -/
def secret? (store : SecretStore) (name : String) : Option StoredSecret :=
  Record.get? name store.secrets

/-- The reference of the secret stored under a name. -/
def reference? (store : SecretStore) (name : String) : Option String :=
  (store.secret? name).map StoredSecret.reference

/-- A reference was issued by a store if its place in the order of issue came. -/
def HasIssued (store : SecretStore) (reference : String) : Prop :=
  ∃ place ≤ store.issued, reference = store.supply.referenceAt place

/-- Names are listed once, and no two of them hold one reference. -/
structure Unambiguous (store : SecretStore) : Prop where
  distinctNames : (Record.keys store.secrets).Nodup
  distinctReferences :
    ∀ {name secret other otherSecret},
      store.secret? name = some secret →
      store.secret? other = some otherSecret →
      secret.reference = otherSecret.reference →
      name = other

/-- What holds of the references of a store after any run of writes. -/
structure Sound (store : SecretStore) : Prop extends Unambiguous store where
  issuedBefore :
    ∀ {name secret},
      store.secret? name = some secret →
      store.HasIssued secret.reference

/-- A reference that was issued and leads nowhere. -/
structure Lost (reference : String) (store : SecretStore) : Prop where
  sound : store.Sound
  issued : store.HasIssued reference
  unresolved : store.resolve? reference = none

/-- The next reference is none that was issued. -/
theorem HasIssued.ne_nextReference
    {store : SecretStore}
    {reference : String}
    (issued : store.HasIssued reference) :
    reference ≠ store.nextReference := by
  obtain ⟨place, bound, rfl⟩ := issued
  intro same
  have equal : place = store.issued + 1 := store.supply.distinct same
  omega

@[simp] theorem put_fst
    (store : SecretStore)
    (name : String)
    (content : Record String) :
    (store.put name content).1 = store.nextReference := rfl

/-- A write replaces the secret of its own name and no other. -/
theorem secret?_putUnder
    (store : SecretStore)
    (reference name : String)
    (content : Record String)
    (other : String) :
    (store.putUnder reference name content).secret? other =
      if other = name then some ⟨reference, content⟩
      else store.secret? other :=
  Record.get?_insert name _ store.secrets other

/-- What is put is found under its name, and other names are untouched. -/
theorem secret?_put
    (store : SecretStore)
    (name : String)
    (content : Record String)
    (other : String) :
    (store.put name content).2.secret? other =
      if other = name then some ⟨store.nextReference, content⟩
      else store.secret? other :=
  store.secret?_putUnder store.nextReference name content other

/-- What is removed is gone, and other names are untouched. -/
theorem secret?_remove
    (store : SecretStore)
    (name other : String) :
    (store.remove name).secret? other =
      if other = name then none else store.secret? other :=
  Record.get?_erase name store.secrets other

/-- A secret that was removed is not there to be removed again. -/
theorem remove_remove (store : SecretStore) (name : String) :
    (store.remove name).remove name = store.remove name := by
  simp only [remove, Record.erase_erase]

theorem has_eq_isSome (store : SecretStore) (name : String) :
    store.has name = (store.secret? name).isSome :=
  Record.contains_eq_isSome name store.secrets

/-- A reference leads to the content that some name holds under it. -/
theorem Unambiguous.resolve?_eq_some_iff
    {store : SecretStore}
    (unambiguous : store.Unambiguous)
    {reference : String}
    {content : Record String} :
    store.resolve? reference = some content ↔
      ∃ name, store.secret? name = some ⟨reference, content⟩ := by
  have listed : ∀ name secret,
      (name, secret) ∈ store.secrets ↔ store.secret? name = some secret :=
    Record.mem_iff_get?_eq_some unambiguous.distinctNames
  constructor
  · intro resolved
    obtain ⟨⟨name, reference', content'⟩, found, rfl⟩ :=
      Option.map_eq_some_iff.1 resolved
    have leads : reference' = reference := by
      simpa using List.find?_some found
    subst leads
    exact ⟨name, (listed _ _).1 (List.mem_of_find?_eq_some found)⟩
  · rintro ⟨name, stored⟩
    have member := (listed _ _).2 stored
    cases found :
        store.secrets.find? fun secret => secret.2.reference == reference with
    | none =>
        have none := List.find?_eq_none.1 found _ member
        simp at none
    | some entry =>
        rcases entry with ⟨other, secret⟩
        have leads : secret.reference = reference := by
          simpa using List.find?_some found
        have otherStored :=
          (listed _ _).1 (List.mem_of_find?_eq_some found)
        -- Both names hold the reference, so they are one name.
        have sameName :=
          unambiguous.distinctReferences otherStored stored leads
        subst sameName
        rw [stored] at otherStored
        cases otherStored
        simp [resolve?, found]

/-- The store without secrets is sound. -/
theorem sound_empty (supply : ReferenceSupply) : (empty supply).Sound where
  distinctNames := List.nodup_nil
  issuedBefore := by
    intro name secret found
    cases found
  distinctReferences := by
    intro name secret other otherSecret found
    cases found

namespace HasIssued

/-- A write keeps what was issued. -/
theorem put
    {store : SecretStore}
    {reference : String}
    (issued : store.HasIssued reference)
    (name : String)
    (content : Record String) :
    (store.put name content).2.HasIssued reference := by
  obtain ⟨place, bound, spelled⟩ := issued
  exact ⟨place, Nat.le_succ_of_le bound, spelled⟩

end HasIssued

theorem hasIssued_put
    (store : SecretStore)
    (name : String)
    (content : Record String) :
    (store.put name content).2.HasIssued store.nextReference :=
  ⟨store.issued + 1, Nat.le_refl _, rfl⟩

namespace Sound

/-- A write keeps a store sound. -/
theorem put
    {store : SecretStore}
    (sound : store.Sound)
    (name : String)
    (content : Record String) :
    (store.put name content).2.Sound where
  distinctNames := Record.nodup_keys_insert sound.distinctNames name _
  issuedBefore := by
    intro found secret
    rw [secret?_put]
    split
    · rintro ⟨rfl⟩
      exact hasIssued_put store name content
    · intro old
      exact (sound.issuedBefore old).put name content
  distinctReferences := by
    intro first secret second otherSecret
    rw [secret?_put, secret?_put]
    split <;> split
    · rename_i firstIs secondIs
      intro _ _ _
      rw [firstIs, secondIs]
    · rintro ⟨rfl⟩ old same
      exact absurd same.symm (sound.issuedBefore old).ne_nextReference
    · rintro old ⟨rfl⟩ same
      exact absurd same (sound.issuedBefore old).ne_nextReference
    · exact sound.distinctReferences

theorem remove
    {store : SecretStore}
    (sound : store.Sound)
    (name : String) :
    (store.remove name).Sound where
  distinctNames := Record.nodup_keys_erase sound.distinctNames name
  issuedBefore := by
    intro found secret
    rw [secret?_remove]
    split
    · intro impossible
      cases impossible
    · exact sound.issuedBefore
  distinctReferences := by
    intro first secret second otherSecret
    rw [secret?_remove, secret?_remove]
    split <;> split <;> intro firstFound secondFound
    · cases firstFound
    · cases firstFound
    · cases secondFound
    · exact sound.distinctReferences firstFound secondFound

/-- A reference resolves to what stands under some name with it. -/
theorem resolve?_eq_some_iff
    {store : SecretStore}
    (sound : store.Sound)
    {reference : String}
    {content : Record String} :
    store.resolve? reference = some content ↔
      ∃ name, store.secret? name = some ⟨reference, content⟩ :=
  sound.toUnambiguous.resolve?_eq_some_iff

/-- Rewriting one name loses the reference it held and no other old one. -/
theorem resolve?_of_rewritten
    {before after : SecretStore}
    (sound : before.Sound)
    (afterSound : after.Sound)
    {name : String}
    {written : Option StoredSecret}
    (rewritten :
      ∀ other,
        after.secret? other =
          if other = name then written else before.secret? other)
    {reference : String}
    (notNew : ∀ secret, written = some secret → secret.reference ≠ reference) :
    after.resolve? reference =
      if before.reference? name = some reference then none
      else before.resolve? reference := by
  have elsewhere : ∀ {other content},
      after.secret? other = some ⟨reference, content⟩ →
        other ≠ name ∧ before.secret? other = some ⟨reference, content⟩ := by
    intro other content stored
    rw [rewritten] at stored
    split at stored
    · exact absurd rfl (notNew _ stored)
    · rename_i isOther
      exact ⟨isOther, stored⟩
  apply Option.ext
  intro content
  rw [afterSound.resolve?_eq_some_iff]
  by_cases held : before.reference? name = some reference
  · obtain ⟨own, ownStored, leads⟩ := Option.map_eq_some_iff.1 held
    simp only [held, if_true]
    constructor
    · rintro ⟨other, stored⟩
      obtain ⟨isOther, stored⟩ := elsewhere stored
      exact absurd (sound.distinctReferences stored ownStored leads.symm)
        isOther
    · intro impossible
      cases impossible
  · simp only [held, if_false]
    rw [sound.resolve?_eq_some_iff]
    constructor
    · rintro ⟨other, stored⟩
      exact ⟨other, (elsewhere stored).2⟩
    · rintro ⟨other, stored⟩
      have isOther : other ≠ name := by
        rintro rfl
        exact held (by simp [reference?, stored])
      exact ⟨other, by rw [rewritten, if_neg isOther, stored]⟩

/--
After a write the next reference leads to the content just stored; the
reference that the name held is lost and no other one.
-/
theorem resolve?_put
    {store : SecretStore}
    (sound : store.Sound)
    (name : String)
    (content : Record String)
    (reference : String) :
    (store.put name content).2.resolve? reference =
      if reference = store.nextReference then some content
      else if store.reference? name = some reference then none
      else store.resolve? reference := by
  have afterSound := sound.put name content
  split
  · rename_i isNew
    rw [isNew]
    exact afterSound.resolve?_eq_some_iff.2
      ⟨name, (secret?_put store name content name).trans (if_pos rfl)⟩
  · rename_i isOld
    refine sound.resolve?_of_rewritten afterSound
      (secret?_put store name content) ?_
    rintro secret ⟨rfl⟩
    exact Ne.symm isOld

/-- A removal loses the reference that its name held and no other. -/
theorem resolve?_remove
    {store : SecretStore}
    (sound : store.Sound)
    (name reference : String) :
    (store.remove name).resolve? reference =
      if store.reference? name = some reference then none
      else store.resolve? reference := by
  refine sound.resolve?_of_rewritten (sound.remove name)
    (secret?_remove store name) ?_
  intro secret impossible
  cases impossible

end Sound

namespace Lost

/-- A write does not bring a lost reference back. -/
theorem put
    {store : SecretStore}
    {reference : String}
    (lost : store.Lost reference)
    (name : String)
    (content : Record String) :
    (store.put name content).2.Lost reference where
  sound := lost.sound.put name content
  issued := lost.issued.put name content
  unresolved := by
    rw [lost.sound.resolve?_put, if_neg lost.issued.ne_nextReference,
      lost.unresolved, ite_self]

theorem remove
    {store : SecretStore}
    {reference : String}
    (lost : store.Lost reference)
    (name : String) :
    (store.remove name).Lost reference where
  sound := lost.sound.remove name
  issued := lost.issued
  unresolved := by
    rw [lost.sound.resolve?_remove, lost.unresolved, ite_self]

end Lost

namespace Sound

/-- A write loses the reference that its name held. -/
theorem lost_of_put
    {store : SecretStore}
    (sound : store.Sound)
    {name : String}
    {secret : StoredSecret}
    (held : store.secret? name = some secret)
    (content : Record String) :
    (store.put name content).2.Lost secret.reference where
  sound := sound.put name content
  issued := (sound.issuedBefore held).put name content
  unresolved := by
    rw [sound.resolve?_put, if_neg (sound.issuedBefore held).ne_nextReference]
    exact if_pos (by rw [reference?, held]; rfl)

/-- The reference of a removed secret is lost. -/
theorem lost_of_remove
    {store : SecretStore}
    (sound : store.Sound)
    {name : String}
    {secret : StoredSecret}
    (held : store.secret? name = some secret) :
    (store.remove name).Lost secret.reference where
  sound := sound.remove name
  issued := sound.issuedBefore held
  unresolved := by
    rw [sound.resolve?_remove]
    exact if_pos (by rw [reference?, held]; rfl)

end Sound

end StorageBackends.SecretStore
