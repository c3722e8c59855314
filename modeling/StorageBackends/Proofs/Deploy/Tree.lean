import StorageBackends.Deploy.Tree

namespace StorageBackends.Tree

/-!
# What operations do to a tree

Writing a file and removing one change the node at one path, and making a
directory adds the directories that were missing on the way to it. Every
operation is told here by the nodes of the tree that it leaves behind, which
is all that later operations look at.
-/

/-- Leaving paths out of a tree leaves the nodes at all others. -/
theorem lookup_filter
    (tree : Tree)
    (keeps : Path → Bool)
    {path : Path}
    (kept : keeps path = true) :
    (tree.filter fun entry => keeps entry.1).lookup path =
      tree.lookup path := by
  induction tree with
  | nil => rfl
  | cons entry rest inductionHypothesis =>
      rcases entry with ⟨here, node⟩
      by_cases atPath : path = here
      · subst atPath
        simp [kept]
      · have missed : (path == here) = false := by simpa using atPath
        cases keptHere : keeps here <;>
          simp [keptHere, List.lookup_cons, missed, inductionHypothesis]

/-- A node that is put shows at its own path only. -/
theorem node?_set
    (tree : Tree)
    (path : Path)
    (node : Node)
    (other : Path) :
    (tree.set path node).node? other =
      if other = path then some node else tree.node? other := by
  unfold node? set
  by_cases here : other = path
  · simp [here]
  · have missed : (other == path) = false := by simpa using here
    rw [List.lookup_cons, missed, if_neg here]
    exact tree.lookup_filter (· != path) (by simpa using here)

/-- A node that is taken away is missing at its own path only. -/
theorem node?_erase
    (tree : Tree)
    (path other : Path) :
    (tree.erase path).node? other =
      if other = path then none else tree.node? other := by
  unfold node? erase
  by_cases here : other = path
  · rw [if_pos here, List.lookup_eq_none_iff]
    rintro ⟨kept, node⟩ listed
    have apart := (List.mem_filter.1 listed).2
    simp only [bne_iff_ne, ne_eq] at apart
    simpa [here] using Ne.symm apart
  · rw [if_neg here]
    exact tree.lookup_filter (· != path) (by simpa using here)

/-- The text of the file at a path. -/
def file? (tree : Tree) (path : Path) : Option String :=
  match tree.node? path with
  | some (.file text) => some text
  | _ => none

theorem file?_congr
    {tree other : Tree}
    {path : Path}
    (same : tree.node? path = other.node? path) :
    tree.file? path = other.file? path := by
  unfold file?
  rw [same]

theorem file?_eq_some_iff
    {tree : Tree}
    {path : Path}
    {text : String} :
    tree.file? path = some text ↔ tree.node? path = some (.file text) := by
  unfold file?
  split
  · rename_i found here
    rw [here]
    simp
  · rename_i noFile
    constructor
    · nofun
    · exact fun here => absurd here (noFile text)

/-- A file that is put shows at its own path only. -/
theorem file?_set
    (tree : Tree)
    (path : Path)
    (text : String)
    (other : Path) :
    (tree.set path (.file text)).file? other =
      if other = path then some text else tree.file? other := by
  by_cases here : other = path
  · simp [file?, node?_set, here]
  · simp [file?, node?_set, here]

/-- Making a directory leaves every node, or puts one where nothing was. -/
theorem node?_makeHere
    {tree made : Tree}
    {path : Path}
    {isTarget : Bool}
    (succeeds : tree.makeHere path isTarget = .ok made)
    (other : Path) :
    made.node? other = tree.node? other ∨
      other = path ∧
        tree.node? other = none ∧ made.node? other = some .directory := by
  unfold makeHere at succeeds
  split at succeeds
  · cases succeeds
    exact .inl rfl
  · cases succeeds
  · rename_i absent
    split at succeeds
    · cases succeeds
    · cases succeeds
      by_cases here : other = path
      · exact .inr ⟨here, here ▸ absent, by rw [node?_set, if_pos here]⟩
      · exact .inl ((tree.node?_set _ _ _).trans (if_neg here))

/--
A node after directories were made is the one from before, or a new directory
on the way.
-/
theorem node?_makeDirectories
    (tree : Tree)
    (done path other : Path) :
    (tree.makeDirectories done path).2.node? other = tree.node? other ∨
      other <+: done ++ path ∧
        tree.node? other = none ∧
        (tree.makeDirectories done path).2.node? other = some .directory := by
  induction path generalizing tree done with
  | nil =>
      unfold makeDirectories
      cases makes : tree.makeHere done true with
      | error error => exact .inl rfl
      | ok made =>
          refine (node?_makeHere makes other).imp_right ?_
          rintro ⟨rfl, absent, isNew⟩
          exact ⟨by simp, absent, isNew⟩
  | cons name rest inductionHypothesis =>
      have further : done ++ name :: rest = done ++ [name] ++ rest := by simp
      unfold makeDirectories
      cases makes : tree.makeHere done false with
      | error error => exact .inl rfl
      | ok made =>
          have later := inductionHypothesis made (done ++ [name])
          rw [← further] at later
          rcases node?_makeHere makes other with same | ⟨rfl, absent, isNew⟩
          · rwa [same] at later
          · refine .inr ⟨List.prefix_append _ _, absent, ?_⟩
            rcases later with kept | ⟨-, gone, -⟩
            · exact kept.trans isNew
            · rw [isNew] at gone
              cases gone

/-- Directories are made beside all files, whether all can be made or not. -/
theorem file?_makeDirectories
    (tree : Tree)
    (done path other : Path) :
    (tree.makeDirectories done path).2.file? other = tree.file? other := by
  rcases tree.node?_makeDirectories done path other with
    same | ⟨-, absent, isNew⟩
  · exact file?_congr same
  · simp only [file?, absent, isNew]

/-- A file that could be written is the only node that is new. -/
theorem write_eq_ok
    {tree written : Tree}
    {path : Path}
    {text : String}
    (succeeds : tree.write path text = .ok written) :
    written = tree.set path (.file text) := by
  unfold write at succeeds
  split at succeeds
  · cases succeeds
  · cases succeeds
    rfl
  · split at succeeds
    · cases succeeds
      rfl
    · cases succeeds
    · cases succeeds
  · cases succeeds

/-- What is found at the end of a path is the node there. -/
theorem node?_of_findFrom
    {tree : Tree}
    {done path : Path}
    {node : Node}
    (found : tree.findFrom done path = .ok node) :
    tree.node? (done ++ path) = some node := by
  induction path generalizing done with
  | nil =>
      unfold findFrom at found
      split at found
      · cases found
      · split at found
        · rename_i here
          cases found
          rw [List.append_nil, here]
        · cases found
  | cons name rest inductionHypothesis =>
      unfold findFrom at found
      split at found
      · simpa using inductionHypothesis found
      · cases found
      · cases found

/-- What the way down to a path ends at is the node of the path. -/
theorem node?_of_find
    {tree : Tree}
    {path : Path}
    {node : Node}
    (found : tree.find path = .ok node) :
    tree.node? path = some node :=
  node?_of_findFrom found

/-- A directory below the root, and the root itself, are there. -/
structure HasDirectory (tree : Tree) (name : String) : Prop where
  root : tree.node? [] = some .directory
  inner : tree.node? [name] = some .directory

/--
No name in a tree is too long, and there are no directories inside those below
the root, so nothing stands in the way of a file there.
-/
structure Clear (tree : Tree) : Prop where
  short : ∀ path, tree.node? path ≠ none → endsTooLong path = false
  flat : ∀ name file, tree.node? [name, file] ≠ some .directory

/-- A file with a name that fits keeps a tree clear. -/
theorem Clear.set_file
    {tree : Tree}
    (clear : tree.Clear)
    {path : Path}
    (short : endsTooLong path = false)
    (text : String) :
    (tree.set path (.file text)).Clear where
  short := by
    intro other there
    rw [node?_set] at there
    split at there
    · rename_i same
      exact same ▸ short
    · exact clear.short other there
  flat := by
    intro name file
    rw [node?_set]
    split
    · simp
    · exact clear.flat name file

/-- A tree stays clear without one of its nodes. -/
theorem Clear.erase
    {tree : Tree}
    (clear : tree.Clear)
    (path : Path) :
    (tree.erase path).Clear where
  short := by
    intro other there
    rw [node?_erase] at there
    split at there
    · exact absurd rfl there
    · exact clear.short other there
  flat := by
    intro name file
    rw [node?_erase]
    split
    · simp
    · exact clear.flat name file

/-- Where a directory could be made, it is there and the rest is unchanged. -/
theorem makeHere_eq_ok
    {tree made : Tree}
    {path : Path}
    {isTarget : Bool}
    (succeeds : tree.makeHere path isTarget = .ok made) :
    (tree.node? path = none → endsTooLong path = false) ∧
      ∀ other,
        made.node? other =
          if other = path then some .directory else tree.node? other := by
  unfold makeHere at succeeds
  split at succeeds
  · rename_i here
    cases succeeds
    refine ⟨by simp [here], fun other => ?_⟩
    split
    · rename_i same
      rw [same, here]
    · rfl
  · cases succeeds
  · split at succeeds
    · cases succeeds
    · rename_i short
      cases succeeds
      exact ⟨fun _ => by simpa using short, tree.node?_set path .directory⟩

/-- The ways in which a directory below the root can be made. -/
theorem makeDirectory_eq_ok
    {tree made : Tree}
    {name : String}
    (succeeds : tree.makeDirectory [name] = (.ok (), made)) :
    (tree.node? [name] = none → endsTooLong [name] = false) ∧
      ∀ path,
        made.node? path =
          if path = [] ∨ path = [name] then some .directory
          else tree.node? path := by
  simp only [makeDirectory, makeDirectories, List.nil_append] at succeeds
  split at succeeds
  · rename_i opened first
    obtain ⟨-, atRoot⟩ := makeHere_eq_ok first
    split at succeeds
    · rename_i last second
      cases succeeds
      obtain ⟨short, atName⟩ := makeHere_eq_ok second
      refine ⟨fun absent => short (by simpa [atRoot] using absent), ?_⟩
      intro path
      rw [atName, atRoot]
      by_cases here : path = [name]
      · simp [here]
      · simp [here]
    · cases succeeds
  · cases succeeds

/-- A directory that has been made is open. -/
theorem hasDirectory_of_makeDirectory
    {tree made : Tree}
    {name : String}
    (succeeds : tree.makeDirectory [name] = (.ok (), made)) :
    made.HasDirectory name := by
  obtain ⟨-, nodes⟩ := makeDirectory_eq_ok succeeds
  exact ⟨by simp [nodes], by simp [nodes]⟩

/--
Making a directory keeps a tree clear, for only a name that fits is made.
-/
theorem Clear.makeDirectory
    {tree made : Tree}
    (clear : tree.Clear)
    {name : String}
    (succeeds : tree.makeDirectory [name] = (.ok (), made)) :
    made.Clear := by
  obtain ⟨short, nodes⟩ := makeDirectory_eq_ok succeeds
  constructor
  · intro path there
    by_cases absent : tree.node? path = none
    · rw [nodes, absent] at there
      split at there
      · rename_i isNew
        rcases isNew with rfl | rfl
        · rfl
        · exact short absent
      · exact absurd rfl there
    · exact clear.short path absent
  · intro directory file
    simpa [nodes] using clear.flat directory file

namespace HasDirectory

variable
  {tree : Tree}
  {name : String}

/-- A directory that is there need not be made. -/
theorem makeDirectory (opened : tree.HasDirectory name) :
    tree.makeDirectory [name] = (.ok (), tree) := by
  simp [Tree.makeDirectory, makeDirectories, makeHere, opened.root,
    opened.inner]

/-- In an open directory nothing stands in the way to a file. -/
theorem find
    (opened : tree.HasDirectory name)
    {file : String}
    (short : endsTooLong [name, file] = false) :
    tree.find [name, file] =
      match tree.node? [name, file] with
      | some node => .ok node
      | none => .error .missing := by
  cases here : tree.node? [name, file] <;>
    simp only [Tree.find, findFrom, opened.root, opened.inner,
      List.nil_append, List.singleton_append, short, Bool.false_eq_true,
      if_false, here]

/-- A file is written unless something stands in its way. -/
theorem write
    (opened : tree.HasDirectory name)
    (clear : tree.Clear)
    {file : String}
    (short : endsTooLong [name, file] = false)
    (text : String) :
    tree.write [name, file] text =
      .ok (tree.set [name, file] (.file text)) := by
  have isDirectory : tree.find [name] = .ok .directory := by
    have shortName : endsTooLong [name] = false :=
      clear.short [name] (by simp [opened.inner])
    simp [Tree.find, findFrom, opened.root, opened.inner, shortName]
  unfold Tree.write
  rw [opened.find short]
  cases here : tree.node? [name, file] with
  | none => simp [isDirectory]
  | some node =>
      cases node with
      | directory => exact absurd here (clear.flat name file)
      | file old => rfl

/-- A file is gone once it is removed, whether it was there or not. -/
theorem remove
    (opened : tree.HasDirectory name)
    (clear : tree.Clear)
    {file : String}
    (short : endsTooLong [name, file] = false) :
    ∃ removed,
      tree.remove [name, file] = .ok removed ∧
        (removed = tree ∨ removed = tree.erase [name, file]) ∧
        ∀ path,
          removed.node? path =
            if path = [name, file] then none else tree.node? path := by
  unfold Tree.remove
  rw [opened.find short]
  cases here : tree.node? [name, file] with
  | none =>
      refine ⟨tree, rfl, .inl rfl, fun path => ?_⟩
      split
      · rename_i same
        rw [same, here]
      · rfl
  | some node =>
      cases node with
      | directory => exact absurd here (clear.flat name file)
      | file text => exact ⟨_, rfl, .inr rfl, tree.node?_erase _⟩

/-- An overlong name is no name of a file. -/
theorem find_of_tooLong
    (opened : tree.HasDirectory name)
    {file : String}
    (long : endsTooLong [name, file] = true) :
    tree.find [name, file] = .error .nameTooLong := by
  simp only [Tree.find, findFrom, opened.root, opened.inner,
    List.nil_append, List.singleton_append, long, if_true]

/-- A file whose name does not fit is not written. -/
theorem write_of_tooLong
    (opened : tree.HasDirectory name)
    {file : String}
    (long : endsTooLong [name, file] = true)
    (text : String) :
    tree.write [name, file] text = .error .nameTooLong := by
  unfold Tree.write
  rw [opened.find_of_tooLong long]

/-- A file whose name does not fit is not there to be removed. -/
theorem remove_of_tooLong
    (opened : tree.HasDirectory name)
    {file : String}
    (long : endsTooLong [name, file] = true) :
    tree.remove [name, file] = .error .nameTooLong := by
  unfold Tree.remove
  rw [opened.find_of_tooLong long]

/-- A file can be removed under a name of some length only. -/
theorem short_of_remove
    (opened : tree.HasDirectory name)
    {removed : Tree}
    {file : String}
    (succeeds : tree.remove [name, file] = .ok removed) :
    endsTooLong [name, file] = false := by
  refine Bool.eq_false_iff.2 fun long => ?_
  rw [opened.remove_of_tooLong long] at succeeds
  cases succeeds

/-- What could be removed was a file, or nothing was there. -/
theorem remove_eq_ok
    (opened : tree.HasDirectory name)
    {removed : Tree}
    {file : String}
    (succeeds : tree.remove [name, file] = .ok removed) :
    ∀ path,
      removed.node? path =
        if path = [name, file] then none else tree.node? path := by
  have short := opened.short_of_remove succeeds
  unfold Tree.remove at succeeds
  rw [opened.find short] at succeeds
  intro path
  cases here : tree.node? [name, file] with
  | none =>
      rw [here] at succeeds
      cases succeeds
      split
      · rename_i same
        rw [same, here]
      · rfl
  | some node =>
      rw [here] at succeeds
      cases node with
      | directory => cases succeeds
      | file text =>
          cases succeeds
          exact tree.node?_erase _ path

/-- Removing a file again changes nothing. -/
theorem remove_again
    (opened : tree.HasDirectory name)
    {removed : Tree}
    {file : String}
    (succeeds : tree.remove [name, file] = .ok removed) :
    removed.HasDirectory name ∧ removed.remove [name, file] = .ok removed := by
  have nodes := opened.remove_eq_ok succeeds
  have openedStill : removed.HasDirectory name := by
    constructor
    case root => simpa [nodes] using opened.root
    case inner => simpa [nodes] using opened.inner
  refine ⟨openedStill, ?_⟩
  unfold Tree.remove
  rw [openedStill.find (opened.short_of_remove succeeds), nodes,
    if_pos rfl]

/-- A file that was written is read as it was written. -/
theorem read_written
    (opened : tree.HasDirectory name)
    {written : Tree}
    {file text : String}
    (succeeds : tree.write [name, file] text = .ok written) :
    written.HasDirectory name ∧ written.read [name, file] = .ok text := by
  have nodes := tree.node?_set [name, file] (.file text)
  rw [← write_eq_ok succeeds] at nodes
  have openedStill : written.HasDirectory name := by
    constructor
    case root => simpa [nodes] using opened.root
    case inner => simpa [nodes] using opened.inner
  have short : endsTooLong [name, file] = false := by
    refine Bool.eq_false_iff.2 fun long => ?_
    rw [opened.write_of_tooLong long] at succeeds
    cases succeeds
  refine ⟨openedStill, ?_⟩
  unfold Tree.read
  rw [openedStill.find short, nodes, if_pos rfl]

end HasDirectory

end StorageBackends.Tree
