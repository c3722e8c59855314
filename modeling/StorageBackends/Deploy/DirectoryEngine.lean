import StorageBackends.Deploy.Tree
import StorageBackends.Json.Reader
import StorageBackends.Service.Payload

namespace StorageBackends

/-!
# The directory engine

The directory engine keeps a plan in the directory of its name, and the
variables of each instance in a file beside it. Names become names of files,
so only safe ones are taken: lower-case letters, digits and hyphens, and no
hyphen in front. The directory of a plan appears as soon as it is needed.
-/

/-- What a name is used for. -/
inductive NameUse where
  | ofPlan
  | ofInstance
deriving DecidableEq, Repr

namespace NameUse

/-- The written form of a use. -/
def text : NameUse → String
  | ofPlan => "plan"
  | ofInstance => "instance"

end NameUse

/-- A lower-case letter or digit, then also hyphens. -/
def isSafeName (name : String) : Bool :=
  match name.toList with
  | [] => false
  | first :: rest =>
      Text.isLowerOrDigit first &&
        rest.all fun c => Text.isLowerOrDigit c || c == '-'

/-- The tree that deployments are written to. -/
structure DirectoryEngine where
  tree : Tree
deriving Repr

namespace DirectoryEngine

/-- The engine whose directory is not there yet. -/
def fresh : DirectoryEngine where
  tree := []

/-- The name of the file of a plan. -/
def planFile : String :=
  "plan.json"

/-- The end of the name of a file of variables. -/
def variablesEnding : String :=
  ".tfvars.json"

/-- The path of the file of a plan. -/
def planPath (planName : String) : Path :=
  [planName, planFile]

/-- The path of the file of the variables of an instance. -/
def variablesPath (planName instanceName : String) : Path :=
  [planName, instanceName ++ variablesEnding]

/-- Accept a name. -/
def checkName (usage : NameUse) (name : String) : Except Failure Unit :=
  if isSafeName name then
    .ok ()
  else
    .error (.fault ⟨.unsafeName, [usage.text, name]⟩)

/-- Take over the report and the tree of an operation on the tree. -/
def settle
    (engine : DirectoryEngine)
    (written : Except StorageError Tree) :
    Except Failure Unit × DirectoryEngine :=
  match written with
  | .ok tree => (.ok (), ⟨tree⟩)
  | .error error => (.error (.storage error), engine)

/-- Check the name of a plan and make its directory. -/
def openPlan (engine : DirectoryEngine) (planName : String) :
    Except Failure Unit × DirectoryEngine :=
  match checkName .ofPlan planName with
  | .error failure => (.error failure, engine)
  | .ok () =>
      match engine.tree.makeDirectory [planName] with
      | (.ok (), tree) => (.ok (), ⟨tree⟩)
      | (.error error, tree) => (.error (.storage error), ⟨tree⟩)

/-- Check the name of an instance and open its plan. -/
def openInstance
    (engine : DirectoryEngine)
    (planName instanceName : String) :
    Except Failure Unit × DirectoryEngine :=
  match checkName .ofInstance instanceName with
  | .error failure => (.error failure, engine)
  | .ok () => engine.openPlan planName

/-- Write the file of a plan. -/
def registerPlan
    (engine : DirectoryEngine)
    (planName : String)
    (plan : Json) :
    Except Failure Unit × DirectoryEngine :=
  match engine.openPlan planName with
  | (.error failure, opened) => (.error failure, opened)
  | (.ok (), opened) =>
      opened.settle
        (opened.tree.write (planPath planName) (Json.fileText plan))

/-- Whether the file of a plan is there. -/
def hasPlan (engine : DirectoryEngine) (planName : String) : Bool :=
  match engine.tree.find (planPath planName) with
  | .ok _ => true
  | .error _ => false

/-- Write the variables of an instance of a plan that has a file. -/
def apply
    (engine : DirectoryEngine)
    (planName instanceName : String)
    (deployment : Json) :
    Except Failure Unit × DirectoryEngine :=
  match checkName .ofPlan planName, checkName .ofInstance instanceName with
  | .error failure, _ => (.error failure, engine)
  | .ok (), .error failure => (.error failure, engine)
  | .ok (), .ok () =>
      if engine.hasPlan planName then
        match engine.openInstance planName instanceName with
        | (.error failure, opened) => (.error failure, opened)
        | (.ok (), opened) =>
            opened.settle
              (opened.tree.write (variablesPath planName instanceName)
                (Json.fileText deployment))
      else
        (.error (.fault ⟨.planNotRegistered, [planName]⟩), engine)

/-- Remove the variables of an instance. -/
def destroy
    (engine : DirectoryEngine)
    (planName instanceName : String) :
    Except Failure Unit × DirectoryEngine :=
  match engine.openInstance planName instanceName with
  | (.error failure, opened) => (.error failure, opened)
  | (.ok (), opened) =>
      opened.settle
        (opened.tree.remove (variablesPath planName instanceName))

/-- The variables that the text of a file holds. -/
def variablesOfText (text : String) : Except Failure DeploymentVariables :=
  match Json.parse? text with
  | none => .error .unreadable
  | some document =>
      match DeploymentVariables.decoder (some document) with
      | .valid deployment => .ok deployment
      | .invalid issues => .error (.malformed issues)

/-- The variables last applied for an instance, if any were. -/
def read
    (engine : DirectoryEngine)
    (planName instanceName : String) :
    Except Failure (Option DeploymentVariables) × DirectoryEngine :=
  match engine.openInstance planName instanceName with
  | (.error failure, opened) => (.error failure, opened)
  | (.ok (), opened) =>
      match opened.tree.read (variablesPath planName instanceName) with
      | .error _ => (.ok none, opened)
      | .ok text => ((variablesOfText text).map some, opened)

/-- The instance whose variables a file of some name holds. -/
def instanceOfFile? (name : String) : Option String :=
  let characters := name.toList
  let ending := variablesEnding.toList
  if ending.isSuffixOf characters then
    some (String.ofList (characters.take (characters.length - ending.length)))
  else
    none

/-- The instances of a plan that have variables, in ascending order. -/
def instances (engine : DirectoryEngine) (planName : String) :
    Except Failure (List String) × DirectoryEngine :=
  match engine.openPlan planName with
  | (.error failure, opened) => (.error failure, opened)
  | (.ok (), opened) =>
      (.ok (Text.sortNames
        ((opened.tree.children [planName]).filterMap instanceOfFile?)), opened)

/-- Whether the directory is there or can be made. -/
def healthy (engine : DirectoryEngine) : Bool × DirectoryEngine :=
  match engine.tree.makeDirectory [] with
  | (.ok (), tree) => (true, ⟨tree⟩)
  | (.error _, tree) => (false, ⟨tree⟩)

end DirectoryEngine

end StorageBackends
