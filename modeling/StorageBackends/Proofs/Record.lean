import Mathlib.Data.List.Induction
import Mathlib.Data.List.Nodup
import StorageBackends.Record

namespace StorageBackends.Record

/-!
# Looking up in records

What a look-up finds after a member was inserted or erased, for the key that
was written and for every other key. Where keys are distinct, looking up is
membership. Applying a function to every value commutes with both operations,
since neither of them looks at a value. Of a run of assignments the last one of
each key stands.
-/

variable {α β : Type}

/-- The first member decides a look-up of its key. -/
theorem get?_cons
    (key : String)
    (member : String × α)
    (record : Record α) :
    get? key (member :: record) =
      if key = member.1 then some member.2 else get? key record := by
  rcases member with ⟨name, value⟩
  by_cases same : key = name
  · simp [get?, same]
  · have unequal : (key == name) = false := by simp [same]
    simp [get?, List.lookup_cons, unequal, same]

/-- A look-up fails exactly for the keys that are not listed. -/
theorem get?_eq_none_iff (key : String) (record : Record α) :
    get? key record = none ↔ key ∉ keys record := by
  induction record with
  | nil => simp [get?]
  | cons member rest inductionHypothesis =>
      rw [get?_cons]
      by_cases same : key = member.1
      · simp [same]
      · simp [same, inductionHypothesis]

/-- A record contains the keys that have a value in it. -/
theorem contains_eq_isSome (key : String) (record : Record α) :
    contains key record = (get? key record).isSome := by
  rw [Bool.eq_iff_iff, contains_iff]
  cases found : get? key record with
  | none => simpa using (get?_eq_none_iff key record).1 found
  | some value =>
      refine ⟨fun _ => rfl, fun _ => Decidable.byContradiction fun absent => ?_⟩
      rw [(get?_eq_none_iff key record).2 absent] at found
      cases found

/-- Replacing gives a present key its new value and changes no other look-up. -/
theorem get?_replace
    (key : String)
    (value : α)
    (record : Record α)
    (other : String) :
    get? other (replace key value record) =
      if other = key then (get? key record).map fun _ => value
      else get? other record := by
  induction record with
  | nil => simp [replace, get?]
  | cons member rest inductionHypothesis =>
      have shape :
          replace key value (member :: rest) =
            (if member.1 = key then (key, value) else member) ::
              replace key value rest := rfl
      rw [shape, get?_cons, get?_cons, get?_cons, inductionHypothesis]
      by_cases atHead : member.1 = key
      · by_cases wanted : other = key <;> simp [atHead, wanted]
      · by_cases wanted : other = key
        · simp [atHead, wanted, Ne.symm atHead]
        · simp [atHead, wanted]

/-- A member that is placed under a new key shows there only. -/
theorem get?_place
    {key : String}
    {record : Record α}
    (absent : key ∉ keys record)
    (value : α)
    (other : String) :
    get? other (place key value record) =
      if other = key then some value else get? other record := by
  have whole := List.takeWhile_append_dropWhile
    (p := fun member : String × α => precedes member.1 key) (l := record)
  have recombined :
      get? other record =
        ((record.takeWhile fun member => precedes member.1 key).lookup
            other).or
          ((record.dropWhile fun member => precedes member.1 key).lookup
            other) := by
    rw [← List.lookup_append, whole]
    rfl
  have placed :
      get? other (place key value record) =
        ((record.takeWhile fun member => precedes member.1 key).lookup
            other).or
          (get? other ((key, value) ::
            record.dropWhile fun member => precedes member.1 key)) :=
    List.lookup_append
  rw [placed, get?_cons]
  by_cases wanted : other = key
  · have notBefore :
        (record.takeWhile fun member => precedes member.1 key).lookup other =
          none := by
      rw [wanted]
      refine (get?_eq_none_iff key _).2 fun listed => absent ?_
      exact (List.takeWhile_sublist _).map Prod.fst |>.subset listed
    rw [notBefore]
    simp [wanted]
  · simp only [wanted, if_false]
    exact recombined.symm

/-- An insertion is found under its key and changes no other look-up. -/
theorem get?_insert
    (key : String)
    (value : α)
    (record : Record α)
    (other : String) :
    get? other (insert key value record) =
      if other = key then some value else get? other record := by
  unfold insert
  split
  · rename_i present
    obtain ⟨old, found⟩ :=
      Option.isSome_iff_exists.1 (contains_eq_isSome key record ▸ present)
    rw [get?_replace, found]
    rfl
  · rename_i missing
    exact get?_place (fun listed => missing ((contains_iff key record).2 listed))
      value other

/-- Inserting adds one key. -/
theorem contains_insert_iff
    (key : String)
    (value : α)
    (record : Record α)
    (other : String) :
    contains other (insert key value record) = true ↔
      other = key ∨ contains other record = true := by
  rw [contains_eq_isSome, contains_eq_isSome, get?_insert]
  by_cases same : other = key <;> simp [same]

/-- An erased key is not found any more, and no other look-up changes. -/
theorem get?_erase
    (key : String)
    (record : Record α)
    (other : String) :
    get? other (erase key record) =
      if other = key then none else get? other record := by
  induction record with
  | nil => simp [erase, get?]
  | cons member rest inductionHypothesis =>
      by_cases atHead : member.1 = key
      · have shape : erase key (member :: rest) = erase key rest := by
          simp [erase, atHead]
        rw [shape, get?_cons, inductionHypothesis]
        by_cases wanted : other = key <;> simp [atHead, wanted]
      · have shape : erase key (member :: rest) = member :: erase key rest := by
          simp [erase, atHead]
        rw [shape, get?_cons, get?_cons, inductionHypothesis]
        by_cases wanted : other = key
        · simp [wanted, Ne.symm atHead]
        · simp [wanted]

/-- A member that was dropped is not there to be dropped again. -/
theorem erase_erase (key : String) (record : Record α) :
    erase key (erase key record) = erase key record := by
  unfold erase
  rw [List.filter_filter]
  simp only [Bool.and_self]

/-- A record that has no member of a key is left alone, and no other is. -/
theorem erase_eq_self_iff (key : String) (record : Record α) :
    erase key record = record ↔ contains key record = false := by
  unfold erase contains
  rw [List.filter_eq_self, List.any_eq_false]
  simp

/-- Keys stay distinct without one of them. -/
theorem nodup_keys_erase
    {record : Record α}
    (distinct : (keys record).Nodup)
    (key : String) :
    (keys (erase key record)).Nodup :=
  (List.filter_sublist.map Prod.fst).nodup distinct

/-- Where keys are distinct, the members are what look-ups find. -/
theorem mem_iff_get?_eq_some
    {record : Record α}
    (distinct : (keys record).Nodup)
    (key : String)
    (value : α) :
    (key, value) ∈ record ↔ get? key record = some value := by
  induction record with
  | nil => simp [get?]
  | cons member rest inductionHypothesis =>
      rcases member with ⟨name, first⟩
      obtain ⟨fresh, restDistinct⟩ := List.nodup_cons.1 distinct
      rw [get?_cons, List.mem_cons, inductionHypothesis restDistinct]
      by_cases same : key = name
      · have notBehind : get? name rest = none :=
          (get?_eq_none_iff name rest).2 fresh
        simp [same, notBehind, eq_comm]
      · simp [same]

@[simp] theorem keys_mapValues (f : α → β) (record : Record α) :
    keys (mapValues f record) = keys record := by
  simp [keys, mapValues]

/-- Values are looked up and mapped in either order. -/
theorem get?_mapValues
    (key : String)
    (f : α → β)
    (record : Record α) :
    get? key (mapValues f record) = (get? key record).map f := by
  induction record with
  | nil => rfl
  | cons member rest inductionHypothesis =>
      have shape :
          mapValues f (member :: rest) =
            (member.1, f member.2) :: mapValues f rest := rfl
      rw [shape, get?_cons, get?_cons, inductionHypothesis]
      by_cases same : key = member.1 <;> simp [same]

@[simp] theorem contains_mapValues
    (key : String)
    (f : α → β)
    (record : Record α) :
    contains key (mapValues f record) = contains key record := by
  simp [contains, mapValues, List.any_map, Function.comp_def]

/-- Where a function tells values apart, records of its values are too. -/
theorem mapValues_injective
    {f : α → β}
    (injective : Function.Injective f) :
    Function.Injective (mapValues f) := by
  refine List.map_injective_iff.2 ?_
  rintro ⟨key, value⟩ ⟨other, otherValue⟩ same
  obtain ⟨sameKey, sameValue⟩ := Prod.mk.inj same
  rw [Prod.mk.injEq]
  exact ⟨sameKey, injective sameValue⟩

/-- Applying a function to every value commutes with inserting. -/
theorem mapValues_insert
    (f : α → β)
    (key : String)
    (value : α)
    (record : Record α) :
    mapValues f (insert key value record) =
      insert key (f value) (mapValues f record) := by
  unfold insert
  rw [contains_mapValues]
  split
  · simp only [mapValues, replace, List.map_map]
    refine List.map_congr_left fun member _ => ?_
    by_cases same : member.1 = key <;> simp [same]
  · simp only [mapValues, place, List.map_append, List.map_cons,
      List.takeWhile_map, List.dropWhile_map, Function.comp_def]

/-- Mapping the values commutes with erasing a key. -/
theorem mapValues_erase
    (f : α → β)
    (key : String)
    (record : Record α) :
    mapValues f (erase key record) = erase key (mapValues f record) := by
  simp only [mapValues, erase, List.filter_map, Function.comp_def]

/-- Applying a function to every value commutes with putting members in. -/
private theorem mapValues_foldl
    {f : α → β}
    {put : String → α → Record α → Record α}
    {putMapped : String → β → Record β → Record β}
    (commutes :
      ∀ key value record,
        mapValues f (put key value record) =
          putMapped key (f value) (mapValues f record))
    (members : List (String × α))
    (record : Record α) :
    mapValues f
        (members.foldl
          (fun record member => put member.1 member.2 record) record) =
      (members.map fun member => (member.1, f member.2)).foldl
        (fun record member => putMapped member.1 member.2 record)
        (mapValues f record) := by
  induction members generalizing record with
  | nil => rfl
  | cons member rest inductionHypothesis =>
      simp only [List.foldl_cons, List.map_cons]
      rw [inductionHypothesis, commutes]

/-- Applying a function to every value commutes with a run of assignments. -/
theorem mapValues_ofAssignments
    (f : α → β)
    (members : List (String × α)) :
    mapValues f (ofAssignments members) =
      ofAssignments (members.map fun member => (member.1, f member.2)) := by
  refine mapValues_foldl (fun key value record => ?_) members []
  unfold assign
  split
  · rfl
  · exact mapValues_insert f key value record

/-- Mapping the values commutes with making a record of a list. -/
theorem mapValues_ofList
    (f : α → β)
    (members : List (String × α)) :
    mapValues f (ofList members) =
      ofList (members.map fun member => (member.1, f member.2)) :=
  mapValues_foldl (mapValues_insert f) members []

/-- A member of a record with an insertion is the inserted one or was there. -/
theorem mem_of_mem_insert
    {key : String}
    {value : α}
    {record : Record α}
    {member : String × α}
    (listed : member ∈ insert key value record) :
    member = (key, value) ∨ member ∈ record := by
  unfold insert at listed
  split at listed
  · obtain ⟨old, oldListed, rfl⟩ := List.mem_map.1 listed
    by_cases atKey : old.1 = key
    · exact .inl (if_pos atKey)
    · rw [if_neg atKey]
      exact .inr oldListed
  · rcases List.mem_append.1 listed with before | behind
    · exact .inr (List.takeWhile_sublist _ |>.subset before)
    · rcases List.mem_cons.1 behind with placed | after
      · exact .inl placed
      · exact .inr (List.dropWhile_sublist _ |>.subset after)

theorem ofList_concat
    (members : List (String × α))
    (last : String × α) :
    ofList (members ++ [last]) =
      insert last.1 last.2 (ofList members) := by
  simp [ofList]

/-- A record made of a list has no other members than the list. -/
theorem mem_of_mem_ofList
    {members : List (String × α)}
    {member : String × α}
    (listed : member ∈ ofList members) :
    member ∈ members := by
  induction members using List.reverseRecOn with
  | nil => exact listed
  | append_singleton earlier last inductionHypothesis =>
      rw [ofList_concat] at listed
      rcases mem_of_mem_insert listed with rfl | before
      · exact List.mem_append_right _ (List.mem_singleton.2 rfl)
      · exact List.mem_append_left _ (inductionHypothesis before)

/-- Of a list of members the last one of each key stands. -/
theorem get?_ofList
    (members : List (String × α))
    (key : String) :
    get? key (ofList members) = get? key members.reverse := by
  induction members using List.reverseRecOn with
  | nil => rfl
  | append_singleton earlier last inductionHypothesis =>
      rw [ofList_concat, get?_insert, inductionHypothesis,
        List.reverse_concat, get?_cons]

/-- An assignment shows under its key, unless that is the ancestor key. -/
theorem get?_assign
    (key : String)
    (value : α)
    (record : Record α)
    (other : String) :
    get? other (assign key value record) =
      if other = key ∧ key ≠ ancestorKey then some value
      else get? other record := by
  unfold assign
  split
  · rename_i isAncestor
    simp [isAncestor]
  · rename_i notAncestor
    simp [get?_insert, notAncestor]

theorem ofAssignments_concat
    (members : List (String × α))
    (last : String × α) :
    ofAssignments (members ++ [last]) =
      assign last.1 last.2 (ofAssignments members) := by
  simp [ofAssignments]

/-- The last assignment of a key stands, and none of the ancestor key. -/
theorem get?_ofAssignments
    (members : List (String × α))
    (key : String) :
    get? key (ofAssignments members) =
      if key = ancestorKey then none else get? key members.reverse := by
  induction members using List.reverseRecOn with
  | nil => simp [ofAssignments, get?]
  | append_singleton earlier last inductionHypothesis =>
      rw [ofAssignments_concat, get?_assign, inductionHypothesis,
        List.reverse_concat, get?_cons]
      by_cases isAncestor : key = ancestorKey
      · have neverAssigned : ¬(key = last.1 ∧ last.1 ≠ ancestorKey) :=
          fun ⟨same, other⟩ => other (same ▸ isAncestor)
        simp [isAncestor, isAncestor ▸ neverAssigned]
      · by_cases same : key = last.1
        · simp [same, same ▸ isAncestor]
        · simp [same]

/-- The keys that a run of assignments leaves depend on the assigned keys only. -/
theorem keys_ofAssignments_congr
    {members : List (String × α)}
    {others : List (String × β)}
    (same : keys members = keys others) :
    keys (ofAssignments members) = keys (ofAssignments others) := by
  have marked : ∀ {γ : Type} (listed : List (String × γ)),
      keys (ofAssignments listed) =
        keys (ofAssignments ((keys listed).map fun key => (key, ()))) := by
    intro γ listed
    rw [← keys_mapValues fun _ => (), mapValues_ofAssignments]
    unfold keys
    rw [List.map_map]
    rfl
  rw [marked members, marked others, same]

/-- Members that agree under a key give the same look-up of that key. -/
theorem get?_congr
    {key : String}
    {members others : List (String × α)}
    (alike :
      List.Forall₂
        (fun member other =>
          member.1 = other.1 ∧ (member.1 = key → member.2 = other.2))
        members others) :
    get? key members = get? key others := by
  induction alike with
  | nil => rfl
  | cons first rest inductionHypothesis =>
      obtain ⟨sameKey, sameValue⟩ := first
      rw [get?_cons, get?_cons, inductionHypothesis, ← sameKey]
      split
      · rename_i wanted
        rw [sameValue wanted.symm]
      · rfl

/-- Assignments never give a key two values. -/
theorem nodup_keys_ofAssignments (members : List (String × α)) :
    (keys (ofAssignments members)).Nodup := by
  induction members using List.reverseRecOn with
  | nil => exact List.nodup_nil
  | append_singleton earlier last inductionHypothesis =>
      rw [ofAssignments_concat, assign]
      split
      · exact inductionHypothesis
      · exact nodup_keys_insert inductionHypothesis last.1 last.2

/-- Where no key is assigned twice, every assignment stands. -/
theorem get?_reverse_eq_some_iff
    {members : List (String × α)}
    (distinct : (keys members).Nodup)
    (key : String)
    (value : α) :
    get? key members.reverse = some value ↔ (key, value) ∈ members := by
  have distinctReverse : (keys members.reverse).Nodup := by
    rw [keys, List.map_reverse, List.nodup_reverse]
    exact distinct
  rw [← mem_iff_get?_eq_some distinctReverse, List.mem_reverse]

/-- A record consists of certain members if it lists each of them once. -/
structure Comprises
    (record : Record α)
    (members : String → α → Prop) : Prop where
  distinct : (keys record).Nodup
  listed : ∀ key value, (key, value) ∈ record ↔ members key value

/-- A record that comprises its members is looked up by them. -/
theorem Comprises.get?_eq_some_iff
    {record : Record α}
    {members : String → α → Prop}
    (comprises : Comprises record members)
    (key : String)
    (value : α) :
    get? key record = some value ↔ members key value := by
  rw [← mem_iff_get?_eq_some comprises.distinct, comprises.listed]

/-- Assignments consist of what a look-up in their reversed list finds. -/
theorem comprises_ofAssignments
    {assignments : List (String × α)}
    {members : String → α → Prop}
    (noAncestor : ∀ value, ¬members ancestorKey value)
    (found :
      ∀ key value,
        key ≠ ancestorKey →
        (get? key assignments.reverse = some value ↔ members key value)) :
    Comprises (ofAssignments assignments) members := by
  have distinct := nodup_keys_ofAssignments assignments
  refine ⟨distinct, fun key value => ?_⟩
  rw [mem_iff_get?_eq_some distinct, get?_ofAssignments]
  by_cases isAncestor : key = ancestorKey
  · simp [isAncestor, noAncestor]
  · rw [if_neg isAncestor]
    exact found key value isAncestor

end StorageBackends.Record
