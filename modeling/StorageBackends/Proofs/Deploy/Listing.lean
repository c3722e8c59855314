import Mathlib.Data.List.Nodup
import StorageBackends.Deploy.DirectoryEngine
import StorageBackends.Proofs.Deploy.Tree

namespace StorageBackends

/-!
# What a directory lists

A tree that lists no path twice lists each child of a directory once. The
instances of a plan are read off its files of variables by taking the ending
of their names away, and sorted by their code units, so they come in ascending
order and without repetition.
-/

namespace Text

/-- The order of texts by their code units is transitive. -/
theorem unitsLe_trans :
    ∀ {first second third : List Nat},
      unitsLe first second = true →
      unitsLe second third = true →
      unitsLe first third = true
  | [], _, _, _, _ => rfl
  | left :: lefts, middle :: middles, right :: rights, before, behind => by
      simp only [unitsLe, Bool.or_eq_true, Bool.and_eq_true,
        decide_eq_true_eq, beq_iff_eq] at before behind ⊢
      rcases before with less | ⟨rfl, restBefore⟩
      · rcases behind with lessBehind | ⟨rfl, -⟩
        · exact .inl (Nat.lt_trans less lessBehind)
        · exact .inl less
      · rcases behind with lessBehind | ⟨rfl, restBehind⟩
        · exact .inl lessBehind
        · exact .inr ⟨rfl, unitsLe_trans restBefore restBehind⟩

/-- Two texts are comparable by their code units. -/
theorem unitsLe_total :
    ∀ left right : List Nat,
      (unitsLe left right || unitsLe right left) = true
  | [], _ => rfl
  | _ :: _, [] => rfl
  | left :: lefts, right :: rights => by
      have rest := unitsLe_total lefts rights
      simp only [unitsLe, Bool.or_eq_true, Bool.and_eq_true,
        decide_eq_true_eq, beq_iff_eq] at rest ⊢
      rcases Nat.lt_trichotomy left right with less | rfl | greater
      · exact .inl (.inl less)
      · rcases rest with before | behind
        · exact .inl (.inr ⟨rfl, before⟩)
        · exact .inr (.inr ⟨rfl, behind⟩)
      · exact .inr (.inl greater)

/-- Names in ascending order of their code units, none of them twice. -/
structure Ascending (names : List String) : Prop where
  ordered :
    names.Pairwise fun name later =>
      unitsLe (units name) (units later) = true
  distinct : names.Nodup

/-- Names without repetition are in ascending order once they are sorted. -/
theorem ascending_sortNames
    {names : List String}
    (distinct : names.Nodup) :
    Ascending (sortNames names) where
  ordered := by
    have transitive :
        ∀ first second third : String,
          unitsLe (units first) (units second) = true →
          unitsLe (units second) (units third) = true →
          unitsLe (units first) (units third) = true :=
      fun _ _ _ => unitsLe_trans
    have total :
        ∀ left right : String,
          (unitsLe (units left) (units right) ||
            unitsLe (units right) (units left)) = true :=
      fun left right => unitsLe_total (units left) (units right)
    exact List.pairwise_mergeSort transitive total names
  distinct := (List.mergeSort_perm names _).nodup_iff.2 distinct

/-- Sorting neither adds nor drops a name. -/
theorem mem_sortNames {name : String} {names : List String} :
    name ∈ sortNames names ↔ name ∈ names :=
  List.mem_mergeSort

end Text

namespace Tree

/-- No path is listed twice. -/
def DistinctPaths (tree : Tree) : Prop :=
  (tree.map Prod.fst).Nodup

namespace DistinctPaths

variable {tree : Tree}

theorem erase (distinct : tree.DistinctPaths) (path : Path) :
    (tree.erase path).DistinctPaths :=
  (List.filter_sublist.map Prod.fst).nodup distinct

/-- A node that is put replaces the one at its path, so paths stay distinct. -/
theorem set
    (distinct : tree.DistinctPaths)
    (path : Path)
    (node : Node) :
    (tree.set path node).DistinctPaths := by
  refine List.nodup_cons.2 ⟨?_, distinct.erase path⟩
  intro listed
  obtain ⟨entry, kept, same⟩ := List.mem_map.1 listed
  exact absurd same (by simpa using (List.mem_filter.1 kept).2)

/--
Making one directory keeps paths distinct: it is made where nothing stood.
-/
theorem makeHere
    (distinct : tree.DistinctPaths)
    {made : Tree}
    {path : Path}
    {isTarget : Bool}
    (succeeds : tree.makeHere path isTarget = .ok made) :
    made.DistinctPaths := by
  unfold Tree.makeHere at succeeds
  split at succeeds
  · cases succeeds
    exact distinct
  · cases succeeds
  · split at succeeds
    · cases succeeds
    · cases succeeds
      exact distinct.set path .directory

/-- Making the directory of a plan keeps paths distinct. -/
theorem makeDirectory
    (distinct : tree.DistinctPaths)
    {made : Tree}
    {name : String}
    (succeeds : tree.makeDirectory [name] = (.ok (), made)) :
    made.DistinctPaths := by
  simp only [Tree.makeDirectory, makeDirectories, List.nil_append]
    at succeeds
  split at succeeds
  · rename_i opened first
    split at succeeds
    · rename_i last second
      cases succeeds
      exact (distinct.makeHere first).makeHere second
    · cases succeeds
  · cases succeeds

end DistinctPaths

/-- The name under which a path stands in a directory. -/
private def childName (directory path : Path) : Option String :=
  match path.getLast? with
  | some name => if path.dropLast = directory then some name else none
  | none => none

/-- A child lies one segment below its directory. -/
private theorem childName_eq_some_iff
    (directory path : Path)
    (name : String) :
    childName directory path = some name ↔ path = directory ++ [name] := by
  unfold childName
  constructor
  · intro named
    split at named
    · rename_i last isLast
      split at named
      · rename_i within
        cases named
        rw [← within]
        exact (List.dropLast_append_getLast? name isLast).symm
      · cases named
    · cases named
  · rintro rfl
    simp

private theorem children_eq (tree : Tree) (directory : Path) :
    tree.children directory =
      (tree.map Prod.fst).filterMap (childName directory) := by
  rw [List.filterMap_map]
  rfl

/-- The children of a directory are the names with a node below it. -/
theorem mem_children_iff
    (tree : Tree)
    (directory : Path)
    (name : String) :
    name ∈ tree.children directory ↔
      tree.node? (directory ++ [name]) ≠ none := by
  rw [children_eq, node?, ne_eq, List.lookup_eq_none_iff]
  simp [List.mem_filterMap, childName_eq_some_iff]

/-- With distinct paths no child is listed twice. -/
theorem DistinctPaths.nodup_children
    {tree : Tree}
    (distinct : tree.DistinctPaths)
    (directory : Path) :
    (tree.children directory).Nodup := by
  rw [children_eq]
  refine List.Nodup.filterMap (fun path other name here there => ?_) distinct
  rw [Option.mem_def, childName_eq_some_iff] at here there
  rw [here, there]

end Tree

namespace DirectoryEngine

/-- A file holds the variables of the instance it is named after. -/
theorem instanceOfFile?_eq_some_iff (file name : String) :
    instanceOfFile? file = some name ↔ file = name ++ variablesEnding := by
  unfold instanceOfFile?
  simp only
  rw [Option.ite_none_right_eq_some, List.isSuffixOf_iff_suffix,
    Option.some.injEq]
  constructor
  · rintro ⟨⟨lead, split⟩, rfl⟩
    rw [← String.toList_inj, String.toList_append, String.toList_ofList,
      ← split]
    simp
  · rintro rfl
    rw [String.toList_append]
    exact ⟨List.suffix_append _ _, by simp⟩

/-- The instances of a plan whose directory lists certain files. -/
def listed (tree : Tree) (planName : String) : List String :=
  Text.sortNames ((tree.children [planName]).filterMap instanceOfFile?)

/-- A plan lists an instance exactly when its variables have a node. -/
theorem mem_listed_iff
    (tree : Tree)
    (planName name : String) :
    name ∈ listed tree planName ↔
      tree.node? (variablesPath planName name) ≠ none := by
  unfold listed
  rw [Text.mem_sortNames, List.mem_filterMap]
  simp only [instanceOfFile?_eq_some_iff, exists_eq_right,
    Tree.mem_children_iff]
  rfl

/--
Instances are listed in the order of their code units, each of them once.
-/
theorem ascending_listed
    {tree : Tree}
    (distinct : tree.DistinctPaths)
    (planName : String) :
    Text.Ascending (listed tree planName) := by
  refine Text.ascending_sortNames ?_
  refine List.Nodup.filterMap (fun file other name here there => ?_)
    (distinct.nodup_children [planName])
  rw [Option.mem_def, instanceOfFile?_eq_some_iff] at here there
  rw [here, there]

end DirectoryEngine

end StorageBackends
