import StorageBackends.Proofs.Deploy.Holdings
import StorageBackends.Proofs.Deploy.Listing

namespace StorageBackends

/-!
# Trees that only an engine writes to

A directory engine that nobody disturbs keeps its tree tidy: no path is listed
twice, no name is too long, and every file lies in the directory of a plan. On
such a tree each operation succeeds unless a name in it is too long.
-/

namespace Tree

/-- A tree that nobody but an engine writes to: files lie in directories of plans. -/
structure Tidy (tree : Tree) : Prop where
  distinct : tree.DistinctPaths
  clear : tree.Clear
  placed :
    ∀ path text,
      tree.node? path = some (.file text) →
      ∃ name file, path = [name, file] ∧ tree.HasDirectory name

private theorem Clear.absent_of_tooLong
    {tree : Tree}
    (clear : tree.Clear)
    {path : Path}
    (long : endsTooLong path = true) :
    tree.node? path = none := by
  refine Decidable.byContradiction fun there => ?_
  rw [clear.short path there] at long
  cases long

/-- Directories of plans stay where only other nodes change. -/
private theorem HasDirectory.congr
    {tree after : Tree}
    {name : String}
    (opened : tree.HasDirectory name)
    (same :
      ∀ path,
        path.length < 2 →
        tree.node? path = some .directory →
        after.node? path = some .directory) :
    after.HasDirectory name :=
  ⟨same [] (by simp) opened.root, same [name] (by simp) opened.inner⟩

namespace Tidy

variable
  {tree made : Tree}
  {name file : String}

/-- A directory that is made leaves a tree tidy and its files as they are. -/
theorem makeDirectory
    (tidy : tree.Tidy)
    (succeeds : tree.makeDirectory [name] = (.ok (), made)) :
    made.Tidy ∧ ∀ path, made.file? path = tree.file? path := by
  obtain ⟨-, nodes⟩ := makeDirectory_eq_ok succeeds
  have files :
      ∀ path text,
        made.node? path = some (.file text) ↔
          tree.node? path = some (.file text) := by
    intro path text
    rw [nodes]
    split
    · rename_i isNew
      refine ⟨nofun, fun isFile => ?_⟩
      obtain ⟨other, inner, rfl, -⟩ := tidy.placed path text isFile
      simp at isNew
    · rfl
  refine ⟨⟨tidy.distinct.makeDirectory succeeds,
    tidy.clear.makeDirectory succeeds, fun path text isFile => ?_⟩,
    fun path => ?_⟩
  · obtain ⟨other, inner, split, opened⟩ :=
      tidy.placed path text ((files path text).1 isFile)
    refine ⟨other, inner, split, opened.congr fun path _ isDirectory => ?_⟩
    rw [nodes]
    split
    · rfl
    · exact isDirectory
  · apply Option.ext
    intro text
    rw [file?_eq_some_iff, file?_eq_some_iff]
    exact files path text

/-- A file that fits into an open directory leaves a tree tidy. -/
theorem set_file
    (tidy : tree.Tidy)
    (opened : tree.HasDirectory name)
    (short : endsTooLong [name, file] = false)
    (text : String) :
    (tree.set [name, file] (.file text)).Tidy := by
  have kept :
      ∀ {other},
        tree.HasDirectory other →
        (tree.set [name, file] (.file text)).HasDirectory other := by
    refine fun opened => opened.congr fun path few isDirectory => ?_
    rw [node?_set, if_neg]
    · exact isDirectory
    · rintro rfl
      simp at few
  refine ⟨tidy.distinct.set _ _, tidy.clear.set_file short text, ?_⟩
  intro path other isFile
  rw [node?_set] at isFile
  split at isFile
  · rename_i here
    exact ⟨name, file, here, kept opened⟩
  · obtain ⟨directory, inner, split, otherOpened⟩ :=
      tidy.placed path other isFile
    exact ⟨directory, inner, split, kept otherOpened⟩

theorem erase (tidy : tree.Tidy) (name file : String) :
    (tree.erase [name, file]).Tidy := by
  refine ⟨tidy.distinct.erase _, tidy.clear.erase _, ?_⟩
  intro path text isFile
  rw [node?_erase] at isFile
  split at isFile
  · cases isFile
  · obtain ⟨directory, inner, split, opened⟩ := tidy.placed path text isFile
    refine ⟨directory, inner, split,
      opened.congr fun path few isDirectory => ?_⟩
    rw [node?_erase, if_neg]
    · exact isDirectory
    · rintro rfl
      simp at few

/-- Inside a directory of a plan there is nothing but files. -/
theorem node?_ne_none_iff (tidy : tree.Tidy) (name file : String) :
    tree.node? [name, file] ≠ none ↔
      (tree.file? [name, file]).isSome = true := by
  unfold file?
  cases here : tree.node? [name, file] with
  | none => simp
  | some node =>
      cases node with
      | directory => exact absurd here (tidy.clear.flat name file)
      | file text => simp

/-- A directory can be made where no file is and no name is too long. -/
private theorem makeHere_of_fits
    {path : Path}
    (noFile : ∀ text, tree.node? path ≠ some (.file text))
    (fits : endsTooLong path = false)
    (isTarget : Bool) :
    ∃ made, tree.makeHere path isTarget = .ok made := by
  unfold makeHere
  cases here : tree.node? path with
  | none => exact ⟨_, by simp only [fits]; rfl⟩
  | some node =>
      cases node with
      | directory => exact ⟨tree, rfl⟩
      | file text => exact absurd here (noFile text)

private theorem makeHere_root (tidy : tree.Tidy) :
    ∃ made, tree.makeHere [] false = .ok made := by
  refine makeHere_of_fits (fun text isFile => ?_) rfl false
  obtain ⟨name, file, split, -⟩ := tidy.placed [] text isFile
  cases split

/--
In a tidy tree only an overlong name can keep a directory from being made.
-/
theorem makeDirectory_of_fits
    (tidy : tree.Tidy)
    (fits : endsTooLong [name] = false) :
    ∃ made, tree.makeDirectory [name] = (.ok (), made) := by
  obtain ⟨rooted, root⟩ := makeHere_root tidy
  obtain ⟨-, nodes⟩ := makeHere_eq_ok root
  have noFile : ∀ text, rooted.node? [name] ≠ some (.file text) := by
    intro text isFile
    rw [nodes, if_neg (by simp)] at isFile
    obtain ⟨directory, file, split, -⟩ := tidy.placed [name] text isFile
    cases split
  obtain ⟨made, inner⟩ := makeHere_of_fits noFile fits true
  refine ⟨made, ?_⟩
  simp only [Tree.makeDirectory, makeDirectories, root, List.nil_append,
    inner]

theorem makeDirectory_of_tooLong
    (tidy : tree.Tidy)
    (long : endsTooLong [name] = true) :
    (tree.makeDirectory [name]).1 = .error .nameTooLong := by
  obtain ⟨rooted, root⟩ := makeHere_root tidy
  obtain ⟨-, nodes⟩ := makeHere_eq_ok root
  have absent : rooted.node? [name] = none := by
    rw [nodes, if_neg (by simp)]
    exact tidy.clear.absent_of_tooLong long
  have refused : rooted.makeHere [name] true = .error .nameTooLong := by
    simp only [makeHere, absent, long, if_true]
  simp only [Tree.makeDirectory, makeDirectories, root, List.nil_append,
    refused]

end Tidy

/-- What reads find in a directory of a plan are its files. -/
theorem Tidy.read
    {tree : Tree}
    (tidy : tree.Tidy)
    {name : String}
    (opened : tree.HasDirectory name)
    (file : String) :
    (tree.read [name, file]).toOption = tree.file? [name, file] := by
  unfold Tree.read file?
  cases long : endsTooLong [name, file] with
  | true =>
      rw [opened.find_of_tooLong long, tidy.clear.absent_of_tooLong long]
      rfl
  | false =>
      rw [opened.find long]
      cases here : tree.node? [name, file] with
      | none => rfl
      | some node => cases node <;> rfl

end Tree

namespace DirectoryEngine

/-- The ways in which the directory of a plan is opened. -/
inductive OpenRun (engine : DirectoryEngine) (planName : String) :
    Except Failure Unit × DirectoryEngine → Prop
  | tooLong
      (next : DirectoryEngine)
      (long : Tree.endsTooLong [planName] = true) :
      OpenRun engine planName (.error (.storage .nameTooLong), next)
  | opened
      {made : Tree}
      (fits : Tree.endsTooLong [planName] = false)
      (tidy : made.Tidy)
      (directory : made.HasDirectory planName)
      (files : ∀ path, made.file? path = engine.tree.file? path) :
      OpenRun engine planName (.ok (), ⟨made⟩)

variable
  {engine : DirectoryEngine}
  {planName instanceName : String}

/-- A plan with a safe name is opened, or its name is too long. -/
theorem openPlan_run
    (tidy : engine.tree.Tidy)
    (safe : isSafeName planName = true) :
    OpenRun engine planName (engine.openPlan planName) := by
  have accepted : checkName .ofPlan planName = .ok () := if_pos safe
  unfold openPlan
  rw [accepted]
  cases long : Tree.endsTooLong [planName] with
  | true =>
      have refused := tidy.makeDirectory_of_tooLong long
      cases attempt : engine.tree.makeDirectory [planName] with
      | mk answer tree =>
          rw [attempt] at refused
          cases refused
          exact .tooLong ⟨tree⟩ long
  | false =>
      obtain ⟨made, succeeds⟩ := tidy.makeDirectory_of_fits long
      obtain ⟨tidyMade, files⟩ := tidy.makeDirectory succeeds
      simp only [succeeds]
      exact .opened long tidyMade
        (Tree.hasDirectory_of_makeDirectory succeeds) files

theorem openInstance_run
    (tidy : engine.tree.Tidy)
    (safePlan : isSafeName planName = true)
    (safeInstance : isSafeName instanceName = true) :
    OpenRun engine planName (engine.openInstance planName instanceName) := by
  have accepted : checkName .ofInstance instanceName = .ok () :=
    if_pos safeInstance
  unfold openInstance
  rw [accepted]
  exact openPlan_run tidy safePlan

/-- A plan is known exactly if its file is there. -/
theorem hasPlan_eq (tidy : engine.tree.Tidy) (planName : String) :
    engine.hasPlan planName =
      (engine.tree.file? (planPath planName)).isSome := by
  unfold hasPlan
  cases here : engine.tree.file? (planPath planName) with
  | some text =>
      have isFile := Tree.file?_eq_some_iff.1 here
      obtain ⟨name, file, split, opened⟩ := tidy.placed _ _ isFile
      cases split
      have short := endsTooLong_planPath planName
      unfold planPath at isFile short ⊢
      rw [opened.find short, isFile]
      rfl
  | none =>
      split
      · rename_i node found
        obtain ⟨root, below⟩ := Tree.node?_eq_directory_of_findFrom found
        obtain ⟨inner, -⟩ := Tree.node?_eq_directory_of_findFrom below
        have opened : engine.tree.HasDirectory planName := ⟨root, inner⟩
        have absent :
            engine.tree.node? [planName, planFile] = none :=
          Decidable.byContradiction fun there => by
            have present := (tidy.node?_ne_none_iff _ _).1 there
            unfold planPath at here
            rw [here] at present
            cases present
        have short := endsTooLong_planPath planName
        unfold planPath at found short
        rw [opened.find short, absent] at found
        cases found
      · rfl

end DirectoryEngine

end StorageBackends
