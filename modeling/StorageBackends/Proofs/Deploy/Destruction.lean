import StorageBackends.Proofs.Deploy.Holdings

namespace StorageBackends

/-!
# Destroying an instance

Whatever an engine holds, destroying an instance either fails and leaves all
that is held, or takes the variables of that instance away and nothing else.
Once it has succeeded, doing it again changes nothing at all. Directories that
are made on the way hold nothing.
-/

namespace DirectoryEngine

variable
  (engine : DirectoryEngine)
  (planName instanceName : String)

theorem file?_openPlan (path : Path) :
    (engine.openPlan planName).2.tree.file? path =
      engine.tree.file? path := by
  have made := engine.tree.file?_makeDirectories [] [planName] path
  unfold openPlan
  split
  · rfl
  · unfold Tree.makeDirectory
    split
    · rename_i tree succeeds
      rwa [succeeds] at made
    · rename_i error tree fails
      rwa [fails] at made

theorem file?_openInstance (path : Path) :
    (engine.openInstance planName instanceName).2.tree.file? path =
      engine.tree.file? path := by
  unfold openInstance
  split
  · rfl
  · exact engine.file?_openPlan planName path

variable {engine planName instanceName}

theorem hasDirectory_of_openInstance
    {opened : DirectoryEngine}
    (succeeds :
      engine.openInstance planName instanceName = (.ok (), opened)) :
    opened.tree.HasDirectory planName := by
  unfold openInstance at succeeds
  split at succeeds
  · cases succeeds
  · exact Tree.hasDirectory_of_makeDirectory (openPlan_eq_ok succeeds).2

/-- Opening an instance once more, its plan being open, changes nothing. -/
theorem openInstance_again
    {opened next : DirectoryEngine}
    (opens : engine.openInstance planName instanceName = (.ok (), opened))
    (hasDirectory : next.tree.HasDirectory planName) :
    next.openInstance planName instanceName = (.ok (), next) := by
  unfold openInstance at opens ⊢
  split at opens
  · cases opens
  · have planSafe : checkName .ofPlan planName = .ok () :=
      if_pos (openPlan_eq_ok opens).1
    simp only [openPlan, planSafe, hasDirectory.makeDirectory]

end DirectoryEngine

namespace Engine

/-- An engine without the variables of an instance that another one held. -/
structure Destroyed
    (planName instanceName : String)
    (engine next : Engine) : Prop where
  gone : next.held? (.deployment planName instanceName) = none
  others :
    ∀ target,
      target ≠ .deployment planName instanceName →
      next.held? target = engine.held? target
  again : next.destroy planName instanceName = (.ok (), next)

/-- All that can come of destroying an instance. -/
inductive DestroyRun (planName instanceName : String) (engine : Engine) :
    Except Failure Unit × Engine → Prop where
  | failed
      (failure : Failure)
      (next : Engine)
      (held : ∀ target, next.held? target = engine.held? target) :
      DestroyRun planName instanceName engine (.error failure, next)
  | destroyed
      (next : Engine)
      (destroyed : Destroyed planName instanceName engine next) :
      DestroyRun planName instanceName engine (.ok (), next)

/-- The path of the file that holds what is held at a target. -/
def path? : Target → Option Path
  | .plan planName => some (DirectoryEngine.planPath planName)
  | .deployment planName instanceName =>
      some (DirectoryEngine.variablesPath planName instanceName)
  | .secret _ => none

theorem held?_directory (engine : DirectoryEngine) (target : Target) :
    (directory engine).held? target =
      (path? target).bind fun path => (engine.tree.file? path).map .file := by
  cases target <;> rfl

theorem path?_ne_variablesPath
    {planName instanceName : String}
    {target : Target}
    (apart : target ≠ .deployment planName instanceName) :
    path? target ≠
      some (DirectoryEngine.variablesPath planName instanceName) := by
  intro same
  cases target with
  | plan other =>
      exact DirectoryEngine.planPath_ne_variablesPath other planName
        instanceName (Option.some.inj same)
  | deployment otherPlan otherName =>
      obtain ⟨rfl, rfl⟩ :=
        DirectoryEngine.variablesPath_inj.1 (Option.some.inj same)
      exact apart rfl
  | secret name => cases same

/-- Files are all that a directory engine holds. -/
theorem held?_congr
    {engine next : DirectoryEngine}
    (target : Target)
    (same :
      ∀ path,
        path? target = some path →
        next.tree.file? path = engine.tree.file? path) :
    (directory next).held? target = (directory engine).held? target := by
  rw [held?_directory, held?_directory]
  refine Option.bind_congr fun path isPath => ?_
  rw [same path isPath]

private theorem destroy_run_memory
    {planName instanceName : String}
    (accepts : Accepts planName instanceName)
    (engine : MemoryEngine) :
    DestroyRun planName instanceName (memory engine)
      ((memory engine).destroy planName instanceName) := by
  refine .destroyed _ ⟨?gone, ?others, ?again⟩
  case gone =>
    simp only [held?, MemoryEngine.variables?_destroy, if_true,
      Option.map_none]
  case others =>
    have keeps :
        Keeps (· ≠ .deployment planName instanceName) (memory engine)
          (memory (engine.destroy planName instanceName)) := by
      refine keeps_of_records accepts rfl fun otherPlan otherName apart => ?_
      rw [MemoryEngine.variables?_destroy, if_neg apart]
    exact keeps.held
  case again =>
    simp only [destroy, MemoryEngine.destroy, Record.erase_erase]

private theorem destroy_run_directory
    (planName instanceName : String)
    (engine : DirectoryEngine) :
    DestroyRun planName instanceName (directory engine)
      ((directory engine).destroy planName instanceName) := by
  have files := engine.file?_openInstance planName instanceName
  have destroys :
      (directory engine).destroy planName instanceName =
        ((engine.destroy planName instanceName).1,
          directory (engine.destroy planName instanceName).2) := rfl
  rcases opens : engine.openInstance planName instanceName with
    ⟨failure | done, opened⟩
  · rw [opens] at files
    rw [destroys, DirectoryEngine.destroy, opens]
    exact .failed failure _ fun target =>
      held?_congr target fun path _ => files path
  · rw [opens] at files
    have hasDirectory := DirectoryEngine.hasDirectory_of_openInstance opens
    rw [destroys, DirectoryEngine.destroy, opens]
    dsimp only
    cases removes :
        opened.tree.remove
          (DirectoryEngine.variablesPath planName instanceName) with
    | error error =>
        exact .failed _ _ fun target =>
          held?_congr target fun path _ => files path
    | ok removed =>
        have nodes := hasDirectory.remove_eq_ok removes
        obtain ⟨openedStill, again⟩ := hasDirectory.remove_again removes
        refine .destroyed (directory ⟨removed⟩) ⟨?gone, ?others, ?again⟩
        case gone =>
          have absent :
              removed.node?
                  (DirectoryEngine.variablesPath planName instanceName) =
                none :=
            (nodes _).trans (if_pos rfl)
          simp only [held?, Tree.file?, absent, Option.map_none]
        case others =>
          intro target apart
          refine held?_congr target fun path isPath => ?_
          have isOther :
              path ≠ DirectoryEngine.variablesPath planName instanceName := by
            rintro rfl
            exact path?_ne_variablesPath apart isPath
          exact (Tree.file?_congr ((nodes path).trans (if_neg isOther))).trans
            (files path)
        case again =>
          have reopens :
              DirectoryEngine.openInstance ⟨removed⟩ planName instanceName =
                (.ok (), ⟨removed⟩) :=
            DirectoryEngine.openInstance_again opens openedStill
          have removesAgain :
              removed.remove
                  (DirectoryEngine.variablesPath planName instanceName) =
                .ok removed := again
          simp only [destroy, DirectoryEngine.destroy, reopens, removesAgain,
            DirectoryEngine.settle]

/-- Destroying an instance with sound names ends in one of these ways. -/
theorem destroy_run
    {planName instanceName : String}
    (accepts : Accepts planName instanceName)
    (engine : Engine) :
    DestroyRun planName instanceName engine
      (engine.destroy planName instanceName) := by
  cases engine with
  | memory engine => exact destroy_run_memory accepts engine
  | directory engine =>
      exact destroy_run_directory planName instanceName engine

end Engine

end StorageBackends
