import TerminalEditor.Failure
import TerminalEditor.Files.Path

/-!
# File trees

A file tree tells which directories and files there are, by the names on the
way to them from the root.  Names are looked up one after the other, and each
must be a directory to go on from.
-/

namespace TerminalEditor

/-- What a name stands for. -/
inductive FileNode
  | directory
  | device
  | file (lines : List String)
  deriving DecidableEq, Repr

/-- The names on the way from the root. -/
abbrev Location : Type :=
  List (List Char)

namespace Failure

/-- A name on the way does not exist. -/
def notFound : Failure :=
  ⟨.other, "No such file or directory (os error 2)"⟩

/-- A name that should be new exists. -/
def alreadyExists : Failure :=
  ⟨.other, "File exists (os error 17)"⟩

/-- A name on the way is not a directory. -/
def notADirectory : Failure :=
  ⟨.other, "Not a directory (os error 20)"⟩

/-- A directory was to be opened as a file. -/
def isADirectory : Failure :=
  ⟨.other, "Is a directory (os error 21)"⟩

end Failure

/-- The directories and files there are, and where relative paths start. -/
structure FileTree where
  nodes : List (Location × FileNode)
  here : Location := []
  deriving Repr

namespace FileTree

/-- What is at a location. -/
def node?
    (tree : FileTree)
    (location : Location) :
    Option FileNode :=
  if location.isEmpty then
    some .directory
  else
    tree.nodes.lookup location

/-- The tree with something else at a location. -/
def withNode
    (tree : FileTree)
    (location : Location)
    (node : FileNode) :
    FileTree :=
  { tree with
    nodes :=
      (location, node) ::
        tree.nodes.filter fun entry => entry.1 != location }

/-- Passes on if there is a directory at a location. -/
def requireDirectory
    (tree : FileTree)
    (location : Location) :
    Except Failure Unit :=
  match tree.node? location with
  | none => .error .notFound
  | some .directory => .ok ()
  | some _ => .error .notADirectory

/-- The location reached from another one along some segments. -/
def follow
    (tree : FileTree)
    (location : Location) :
    List (List Char) → Except Failure Location
  | [] => .ok location
  | segment :: later => do
    tree.requireDirectory location
    if Path.isSilent segment then
      tree.follow location later
    else if segment = Path.above then
      tree.follow location.dropLast later
    else
      tree.follow (location ++ [segment]) later

/-- Where the segments of a path are followed from. -/
def origin
    (tree : FileTree)
    (path : List Char) :
    Location :=
  if Path.isAbsolute path then [] else tree.here

/-- What a path names in the directory it leads to. -/
inductive Target
  /-- A directory on the way, by no name of its own. -/
  | itself
  /-- A name in a directory. -/
  | child (directory : Location) (name : List Char)
  deriving DecidableEq, Repr

/-- Follows a path up to its last segment. -/
def target
    (tree : FileTree)
    (path : List Char) :
    Except Failure Target := do
  let parts := (Path.segments path).filter (· != [])
  let directory ← tree.follow (tree.origin path) parts.dropLast
  tree.requireDirectory directory
  match parts.getLast? with
  | none => return .itself
  | some name =>
    if name = ['.'] ∨ name = Path.above then
      return .itself
    else
      return .child directory name

/-- Whether a path leads to a directory. -/
def isDirectory
    (tree : FileTree)
    (path : List Char) :
    Bool :=
  match tree.follow (tree.origin path) (Path.segments path) with
  | .ok location => tree.node? location == some .directory
  | .error _ => false

/-- Makes one directory. -/
def makeDirectory
    (tree : FileTree)
    (path : List Char) :
    Except Failure FileTree := do
  match ← tree.target path with
  | .itself => throw .alreadyExists
  | .child directory name =>
    let location := directory ++ [name]
    match tree.node? location with
    | some _ => throw .alreadyExists
    | none => return tree.withNode location .directory

/-- Makes a directory, unless the path leads to one. -/
def ensureDirectory
    (tree : FileTree)
    (path : List Char) :
    Except Failure FileTree :=
  match tree.makeDirectory path with
  | .ok made => .ok made
  | .error failure =>
    if tree.isDirectory path then .ok tree else .error failure

/-- Makes a directory and at most `depth` ones above it that are missing. -/
def makeDirectoriesUpTo
    (tree : FileTree)
    (path : List Char) :
    Nat → Except Failure FileTree
  | 0 => tree.ensureDirectory path
  | depth + 1 =>
    if path.isEmpty then
      .ok tree
    else
      match tree.makeDirectory path with
      | .ok made => .ok made
      | .error failure =>
        if failure = .notFound then
          match Path.parent? path with
          | none => .error failure
          | some parent => do
            let made ← tree.makeDirectoriesUpTo parent depth
            made.ensureDirectory path
        else if tree.isDirectory path then
          .ok tree
        else
          .error failure

/-- Makes a directory and all the ones above it that are missing. -/
def makeDirectories
    (tree : FileTree)
    (path : List Char) :
    Except Failure FileTree :=
  tree.makeDirectoriesUpTo path path.length

/-- Opens a file to add lines to it, and makes it if it is missing. -/
def openFile
    (tree : FileTree)
    (path : List Char) :
    Except Failure FileTree := do
  match ← tree.target path with
  | .itself => throw .isADirectory
  | .child directory name =>
    let location := directory ++ [name]
    if path.getLast? = some '/' then
      throw .isADirectory
    match tree.node? location with
    | some .directory => throw .isADirectory
    | some _ => return tree
    | none => return tree.withNode location (.file [])

/-- The lines of the file that a path leads to. -/
def lines?
    (tree : FileTree)
    (path : List Char) :
    Option (List String) :=
  match tree.follow (tree.origin path) (Path.segments path) with
  | .ok location =>
    match tree.node? location with
    | some (.file lines) => some lines
    | _ => none
  | .error _ => none

/-- Adds lines to the file that a path leads to, if it is one. -/
def addLines
    (tree : FileTree)
    (path : List Char)
    (lines : List String) :
    FileTree :=
  match tree.follow (tree.origin path) (Path.segments path) with
  | .ok location =>
    match tree.node? location with
    | some (.file present) =>
      tree.withNode location (.file (present ++ lines))
    | _ => tree
  | .error _ => tree

end FileTree

end TerminalEditor
