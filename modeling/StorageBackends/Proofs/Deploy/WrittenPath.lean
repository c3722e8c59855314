import StorageBackends.Proofs.Deploy.Holdings
import StorageBackends.Proofs.Text.Splitting

namespace StorageBackends

/-!
# Paths in writing

A path in writing is followed from the root part by part, as file systems do.
The files of plans and instances with safe names are found where their paths
say, and the files of different ones are different.
-/

namespace Path

/--
Follow the parts of a written path: an empty part and a dot stay where they
are, two dots go up, and nothing is above the root.
-/
def walk (here : Path) : List (List Char) → Option Path
  | [] => some here
  | part :: rest =>
      if part = [] ∨ part = ['.'] then
        walk here rest
      else if part = ['.', '.'] then
        if here = [] then none else walk here.dropLast rest
      else
        walk (here ++ [String.ofList part]) rest

/-- Where a written path leads to from the root, if it stays below. -/
def ofText? (text : String) : Option Path :=
  walk [] (text.toList.splitOn '/')

example : ofText? "a/../../b" = none := by
  decide

/-- A path in writing. -/
def text (path : Path) : String :=
  String.intercalate "/" path

/-- A name that leads one step down wherever it is written. -/
structure IsSegment (name : String) : Prop where
  starts : name.toList.head?.any Text.isLowerOrDigit = true
  slashless : '/' ∉ name.toList

/-- Segments without anything special are walked one by one. -/
theorem walk_map_toList
    (here : Path)
    {names : Path}
    (segments : ∀ name ∈ names, IsSegment name) :
    walk here (names.map String.toList) = some (here ++ names) := by
  induction names generalizing here with
  | nil => simp [walk]
  | cons name rest inductionHypothesis =>
      obtain ⟨first, others⟩ := List.forall_mem_cons.1 segments
      have starts := first.starts
      have notDots :
          name.toList ≠ [] ∧ name.toList ≠ ['.'] ∧ name.toList ≠ ['.', '.'] := by
        refine ⟨?_, ?_, ?_⟩ <;>
        · intro spelled
          rw [spelled] at starts
          exact absurd starts (by decide)
      simp [walk, notDots, inductionHypothesis _ others]

/-- A path of plain names is found again where its text leads to. -/
theorem ofText?_text
    {path : Path}
    (segments : ∀ name ∈ path, IsSegment name)
    (notRoot : path ≠ []) :
    ofText? path.text = some path := by
  have whole : ∀ piece ∈ path.map String.toList, '/' ∉ piece := by
    intro piece listed
    obtain ⟨name, named, rfl⟩ := List.mem_map.1 listed
    exact (segments name named).slashless
  have split :
      path.text.toList.splitOn '/' = path.map String.toList := by
    rw [text, String.toList_intercalate]
    exact List.splitOn_intercalate '/' whole (by simpa using notRoot)
  rw [ofText?, split, walk_map_toList [] segments, List.nil_append]

/-- Written paths of plain names differ unless they are the same path. -/
theorem text_inj
    {path other : Path}
    (segments : ∀ name ∈ path, IsSegment name)
    (otherSegments : ∀ name ∈ other, IsSegment name)
    (notRoot : path ≠ [])
    (otherNotRoot : other ≠ []) :
    path.text = other.text ↔ path = other := by
  constructor
  · intro same
    have found := ofText?_text segments notRoot
    rw [same, ofText?_text otherSegments otherNotRoot] at found
    exact (Option.some.inj found).symm
  · exact congrArg text

end Path

namespace DirectoryEngine

/-- A safe name is a segment of its own. -/
theorem isSegment_of_isSafeName
    {name : String}
    (safe : isSafeName name = true) :
    Path.IsSegment name :=
  ⟨((isSafeName_iff name).1 safe).1, slash_not_mem_of_isSafeName safe⟩

theorem isSegment_planFile : Path.IsSegment planFile :=
  ⟨by decide, by decide⟩

theorem isSegment_append_variablesEnding
    {name : String}
    (safe : isSafeName name = true) :
    Path.IsSegment (name ++ variablesEnding) := by
  obtain ⟨starts, slashless⟩ := isSegment_of_isSafeName safe
  constructor
  · rw [String.toList_append]
    cases spelled : name.toList with
    | nil => simp [spelled] at starts
    | cons first rest => simpa [spelled] using starts
  · have endingSlashless : '/' ∉ variablesEnding.toList := by decide
    simp [slashless, endingSlashless]

theorem isSegment_of_mem_variablesPath
    {planName instanceName : String}
    (planSafe : isSafeName planName = true)
    (instanceSafe : isSafeName instanceName = true) :
    ∀ name ∈ variablesPath planName instanceName, Path.IsSegment name := by
  simpa [variablesPath] using
    ⟨isSegment_of_isSafeName planSafe,
      isSegment_append_variablesEnding instanceSafe⟩

theorem variablesPath_ne_nil (planName instanceName : String) :
    variablesPath planName instanceName ≠ [] := by
  simp [variablesPath]

/--
The paths of safe names, written down, lead into the directory of the plan and
to the file that the engine means, and no two files share a path.
-/
structure FilesApart : Prop where
  directory :
    ∀ planName,
      isSafeName planName = true →
      Path.ofText? (Path.text [planName]) = some [planName]
  plan :
    ∀ planName,
      isSafeName planName = true →
      Path.ofText? (planPath planName).text = some (planPath planName)
  deployment :
    ∀ planName instanceName,
      isSafeName planName = true →
      isSafeName instanceName = true →
      Path.ofText? (variablesPath planName instanceName).text =
        some (variablesPath planName instanceName)
  instances :
    ∀ planName instanceName otherPlan otherName,
      variablesPath planName instanceName = variablesPath otherPlan otherName →
      planName = otherPlan ∧ instanceName = otherName
  plans :
    ∀ planName otherPlan,
      planPath planName = planPath otherPlan → planName = otherPlan
  kinds :
    ∀ planName otherPlan otherName,
      planPath planName ≠ variablesPath otherPlan otherName

/--
Safe names lead to files below the root, and different names to different
files.
-/
theorem filesApart : FilesApart where
  directory planName safe :=
    Path.ofText?_text (by simpa using isSegment_of_isSafeName safe) (by simp)
  plan planName safe :=
    Path.ofText?_text
      (by simpa [planPath] using
        ⟨isSegment_of_isSafeName safe, isSegment_planFile⟩)
      (by simp [planPath])
  deployment planName instanceName planSafe instanceSafe :=
    Path.ofText?_text (isSegment_of_mem_variablesPath planSafe instanceSafe)
      (variablesPath_ne_nil planName instanceName)
  instances _ _ _ _ same := variablesPath_inj.1 same
  plans _ _ same := planPath_inj.1 same
  kinds := planPath_ne_variablesPath

end DirectoryEngine

end StorageBackends
