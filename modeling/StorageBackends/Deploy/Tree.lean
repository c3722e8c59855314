import StorageBackends.Failure
import StorageBackends.Text.CodeUnits

namespace StorageBackends

/-!
# File trees

A tree maps paths to directories and files; the empty path is the root, which
may be absent or a file as well. Operations report the first obstacle on the
way from the root, and making a directory makes its ancestors too. There are
no symbolic links: an engine makes none, and a path leads to one node only.
-/

/-- A path below the root. -/
abbrev Path :=
  List String

/-- What stands at a path. -/
inductive Node where
  | directory
  | file (text : String)
deriving DecidableEq, Repr

/-- The nodes of a tree by path. -/
abbrev Tree :=
  List (Path × Node)

namespace Tree

/-- The longest name of a node in bytes. -/
def maxName : Nat :=
  255

/-- The node at a path. -/
def node? (tree : Tree) (path : Path) : Option Node :=
  tree.lookup path

/-- Put a node at a path. -/
def set (tree : Tree) (path : Path) (node : Node) : Tree :=
  (path, node) :: tree.filter fun entry => entry.1 != path

/-- Take the node at a path away. -/
def erase (tree : Tree) (path : Path) : Tree :=
  tree.filter fun entry => entry.1 != path

/-- The tree whose root is a file. -/
def ofFile (text : String) : Tree :=
  [([], .file text)]

/-- Whether the last name of a path is too long. -/
def endsTooLong (path : Path) : Bool :=
  match path.getLast? with
  | none => false
  | some name => maxName < name.utf8ByteSize

/-- Make the directory at a path, below directories that are there. -/
def makeHere
    (tree : Tree)
    (path : Path)
    (isTarget : Bool) :
    Except StorageError Tree :=
  match tree.node? path with
  | some .directory => .ok tree
  | some (.file _) =>
      .error (if isTarget then .alreadyThere else .notDirectory)
  | none =>
      if endsTooLong path then
        .error .nameTooLong
      else
        .ok (tree.set path .directory)

/-- Make the directories from a path on downward. -/
def makeDirectories
    (tree : Tree)
    (done : Path) :
    Path → Except StorageError Unit × Tree
  | [] =>
      match tree.makeHere done true with
      | .ok made => (.ok (), made)
      | .error error => (.error error, tree)
  | name :: rest =>
      match tree.makeHere done false with
      | .ok made => made.makeDirectories (done ++ [name]) rest
      | .error error => (.error error, tree)

/-- Make a directory and its ancestors. -/
def makeDirectory (tree : Tree) (path : Path) :
    Except StorageError Unit × Tree :=
  tree.makeDirectories [] path

/-- The node at the end of a path, looked for from some ancestor on. -/
def findFrom (tree : Tree) (done : Path) : Path → Except StorageError Node
  | [] =>
      if endsTooLong done then
        .error .nameTooLong
      else
        match tree.node? done with
        | some node => .ok node
        | none => .error .missing
  | name :: rest =>
      match tree.node? done with
      | some .directory => tree.findFrom (done ++ [name]) rest
      | some (.file _) => .error .notDirectory
      | none => .error .missing

/-- The node at the end of a path, or the obstacle on the way. -/
def find (tree : Tree) (path : Path) : Except StorageError Node :=
  tree.findFrom [] path

/-- Write a file into a directory that is there. -/
def write (tree : Tree) (path : Path) (text : String) :
    Except StorageError Tree :=
  match tree.find path with
  | .ok .directory => .error .isDirectory
  | .ok (.file _) => .ok (tree.set path (.file text))
  | .error .missing =>
      match tree.find path.dropLast with
      | .ok .directory => .ok (tree.set path (.file text))
      | .ok (.file _) => .error .notDirectory
      | .error error => .error error
  | .error error => .error error

/-- The text of a file. -/
def read (tree : Tree) (path : Path) : Except StorageError String :=
  match tree.find path with
  | .ok (.file text) => .ok text
  | .ok .directory => .error .isDirectory
  | .error error => .error error

/-- Remove a file if there is one. -/
def remove (tree : Tree) (path : Path) : Except StorageError Tree :=
  match tree.find path with
  | .ok (.file _) => .ok (tree.erase path)
  | .ok .directory => .error .directoryRemoval
  | .error .missing => .ok tree
  | .error error => .error error

/-- The names of the nodes of a directory. -/
def children (tree : Tree) (path : Path) : List String :=
  tree.filterMap fun entry =>
    match entry.1.getLast? with
    | some name => if entry.1.dropLast = path then some name else none
    | none => none

/-- A path in writing: a directory ends in a slash. -/
def pathText (entry : Path × Node) : String :=
  String.intercalate "/" entry.1 ++
    match entry.2 with
    | .directory => "/"
    | .file _ => ""

/-- The paths below the root in ascending order. -/
def listing (tree : Tree) : List String :=
  Text.sortTexts
    ((tree.filter fun entry => !entry.1.isEmpty).map pathText)

end Tree

end StorageBackends
