import Mathlib.Data.List.TakeWhile
import StorageBackends.Proofs.Record
import StorageBackends.Proofs.Text.Decimal

namespace StorageBackends.Record

/-!
# The order of listing

Index keys are canonical decimals, so no two of them denote the same index,
and of two distinct keys that are compared one precedes the other. A record
that insertions built is therefore in the order of listing: inserting its
members once more, one after the other, builds the same record.
-/

variable {α : Type}

/-- An index key is the decimal of its index. -/
private theorem toList_of_indexOf?
    {key : String}
    {index : Nat}
    (isIndex : indexOf? key = some index) :
    key.toList = Nat.toDigits 10 index := by
  unfold indexOf? at isIndex
  cases spelled : key.toList with
  | nil => simp [spelled] at isIndex
  | cons first rest =>
      simp only [spelled, Option.ite_none_right_eq_some, Bool.and_eq_true,
        Bool.or_eq_true, List.isEmpty_iff, decide_eq_true_eq,
        Option.some.injEq] at isIndex
      obtain ⟨⟨decimals, canonical⟩, -, denoted⟩ := isIndex
      have digits : ∀ c ∈ first :: rest, Text.isDigit c = true :=
        List.all_eq_true.1 decimals
      have value : Text.decimalValue (first :: rest) = index := denoted
      rw [← value]
      by_cases leading : first = '0'
      · have alone : rest = [] :=
          canonical.resolve_right fun apart => apart leading
        rw [leading, alone]
        rfl
      · rw [Text.toDigits_decimalValue leading digits]

/-- No two keys denote the same index. -/
theorem indexOf?_inj
    {key other : String}
    {index : Nat}
    (isIndex : indexOf? key = some index)
    (isOther : indexOf? other = some index) :
    key = other := by
  rw [← String.toList_inj, toList_of_indexOf? isIndex,
    toList_of_indexOf? isOther]

/-- Of two distinct keys, one that does not precede the other follows it. -/
private theorem precedes_of_not_precedes
    {key other : String}
    (apart : key ≠ other)
    (behind : precedes key other = false) :
    precedes other key = true := by
  unfold precedes at behind ⊢
  cases isOther : indexOf? other with
  | none => simp [isOther] at behind
  | some otherIndex =>
      cases isIndex : indexOf? key with
      | none => rfl
      | some index =>
          have unequal : index ≠ otherIndex := by
            rintro rfl
            exact apart (indexOf?_inj isIndex isOther)
          simp [isOther, isIndex] at behind ⊢
          omega

/-- What follows a key also follows every key that the key does not precede. -/
private theorem precedes_of_behind
    {key newKey later : String}
    (behind : precedes key newKey = false)
    (ordered : precedes key later = true) :
    precedes newKey later = true := by
  unfold precedes at behind ordered ⊢
  cases isLater : indexOf? later with
  | none => rfl
  | some laterIndex =>
      cases isNew : indexOf? newKey with
      | none => simp [isNew] at behind
      | some newIndex =>
          cases isIndex : indexOf? key with
          | none => simp [isLater, isIndex] at ordered
          | some index =>
              simp [isLater, isNew, isIndex] at behind ordered ⊢
              omega

/-- A new key is placed where the order of listing wants it. -/
private theorem pairwise_placed
    {listed : List String}
    {key : String}
    (absent : key ∉ listed)
    (ordered : listed.Pairwise fun key later => precedes key later) :
    (listed.takeWhile (precedes · key) ++
        key :: listed.dropWhile (precedes · key)).Pairwise
      fun key later => precedes key later := by
  induction listed with
  | nil => simp
  | cons first rest inductionHypothesis =>
      obtain ⟨apart, absentRest⟩ := List.ne_and_not_mem_of_not_mem_cons absent
      obtain ⟨before, restOrdered⟩ := List.pairwise_cons.1 ordered
      cases atFront : precedes first key with
      | true =>
          simp only [List.takeWhile_cons, List.dropWhile_cons, atFront,
            if_true, List.cons_append, List.pairwise_cons]
          refine ⟨fun later inPlaced => ?_,
            inductionHypothesis absentRest restOrdered⟩
          rcases List.mem_append.1 inPlaced with inFront | behind
          · exact before later ((List.takeWhile_sublist _).subset inFront)
          · rcases List.mem_cons.1 behind with rfl | inRest
            · exact atFront
            · exact before later ((List.dropWhile_sublist _).subset inRest)
      | false =>
          simp only [List.takeWhile_cons, List.dropWhile_cons, atFront,
            Bool.false_eq_true, if_false, List.nil_append,
            List.pairwise_cons]
          refine ⟨fun later inList => ?_, before, restOrdered⟩
          rcases List.mem_cons.1 inList with rfl | inRest
          · exact precedes_of_not_precedes (Ne.symm apart) atFront
          · exact precedes_of_behind atFront (before later inRest)

/-- The keys of a record are distinct and in the order of listing. -/
structure InOrder (record : Record α) : Prop where
  distinct : (keys record).Nodup
  ordered : (keys record).Pairwise fun key later => precedes key later

namespace InOrder

variable {record : Record α}

theorem nil : InOrder ([] : Record α) :=
  ⟨List.nodup_nil, List.Pairwise.nil⟩

theorem insert
    (inOrder : InOrder record)
    (key : String)
    (value : α) :
    InOrder (Record.insert key value record) := by
  refine ⟨nodup_keys_insert inOrder.distinct key value, ?_⟩
  unfold Record.insert
  split
  · rw [keys_replace]
    exact inOrder.ordered
  · rename_i missing
    have absent : key ∉ keys record :=
      fun listed => missing ((contains_iff key record).2 listed)
    have placed :
        keys (place key value record) =
          (keys record).takeWhile (precedes · key) ++
            key :: (keys record).dropWhile (precedes · key) := by
      simp only [keys, place, List.map_append, List.map_cons,
        List.takeWhile_map, List.dropWhile_map, Function.comp_def]
    rw [placed]
    exact pairwise_placed absent inOrder.ordered

/-- Inserting members that are in order builds the record that they are. -/
theorem ofList_eq (inOrder : InOrder record) : ofList record = record := by
  induction record using List.reverseRecOn with
  | nil => rfl
  | append_singleton earlier last inductionHypothesis =>
      have split : keys (earlier ++ [last]) = keys earlier ++ [last.1] := by
        simp [keys]
      obtain ⟨distinct, ordered⟩ := inOrder
      rw [split] at distinct ordered
      obtain ⟨earlierDistinct, -, apart⟩ := List.nodup_append.1 distinct
      obtain ⟨earlierOrdered, -, before⟩ := List.pairwise_append.1 ordered
      have absent : contains last.1 earlier = false := by
        rw [Bool.eq_false_iff, ne_eq, contains_iff]
        exact fun listed =>
          apart last.1 listed last.1 (List.mem_singleton.2 rfl) rfl
      have precede : ∀ member ∈ earlier, precedes member.1 last.1 = true :=
        fun member listed =>
          before member.1 (List.mem_map_of_mem listed) last.1
            (List.mem_singleton.2 rfl)
      rw [ofList_concat,
        inductionHypothesis ⟨earlierDistinct, earlierOrdered⟩,
        Record.insert, absent, if_neg Bool.false_ne_true, place,
        List.takeWhile_eq_self_iff.2 precede,
        List.dropWhile_eq_nil_iff.2 precede]

end InOrder

theorem inOrder_ofList (members : List (String × α)) :
    InOrder (ofList members) := by
  induction members using List.reverseRecOn with
  | nil => exact .nil
  | append_singleton earlier last inductionHypothesis =>
      rw [ofList_concat]
      exact inductionHypothesis.insert last.1 last.2

theorem inOrder_ofAssignments (members : List (String × α)) :
    InOrder (ofAssignments members) := by
  induction members using List.reverseRecOn with
  | nil => exact .nil
  | append_singleton earlier last inductionHypothesis =>
      rw [ofAssignments_concat, assign]
      split
      · exact inductionHypothesis
      · exact inductionHypothesis.insert last.1 last.2

/-- A record is the record of its members exactly if they are in order. -/
theorem ofList_eq_self_iff (record : Record α) :
    ofList record = record ↔ InOrder record := by
  constructor
  · intro same
    rw [← same]
    exact inOrder_ofList record
  · exact InOrder.ofList_eq

end StorageBackends.Record
