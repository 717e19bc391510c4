import Outlining.FileTree

/-!
# Building file trees

Files, links and directories are added to a file system at paths. A path on which nothing stands yet leads through directories that are made for it; links on the way are followed, and so is a link at the place of a new file. What cannot be added is left out.
-/

namespace Outlining

namespace FileTree

/-- The tree with a node at the end of names, in directories that are made where there are none. -/
def put (node : FileTree) : List String → FileTree → FileTree
  | [], _ => node
  | name :: rest, .directory entries =>
    let there := (entries.lookup name).getD (.directory [])
    .directory (entries.filter (·.1 != name) ++ [(name, put node rest there)])
  | name :: rest, _ => .directory [(name, put node rest (.directory []))]

/-- The names on a trail, from the root on. -/
def Trail.names (trail : Trail) : List String :=
  (trail.map Prod.fst).reverse

end FileTree

namespace FileSystem

/-- Puts a node under a name into the directory that a trail leads to. -/
def putAt (system : FileSystem) (trail : FileTree.Trail) (name : String) (node : FileTree) : FileSystem :=
  { system with root := FileTree.put node (trail.names ++ [name]) system.root }

/-- Changes the directory at the end of components, if there is one; the change is given the trail to it and its entries. -/
def changeDirectory (system : FileSystem) (components : List String)
    (change : FileTree.Trail → List (String × FileTree) → FileSystem) : FileSystem :=
  match system.trailTo components with
  | .error _ => system
  | .ok trail =>
    match trail.target system.root with
    | .directory entries => change trail entries
    | _ => system

/-- Puts a node into the directory at the end of components, unless the name is taken. -/
def putNew (system : FileSystem) (components : List String) (name : String) (node : FileTree) : FileSystem :=
  system.changeDirectory components fun trail entries =>
    if name = "" ∨ name = "." ∨ name = ".." ∨ (entries.lookup name).isSome then system else system.putAt trail name node

/-- Makes the directories along further components that are not there. -/
def makeDirectories (system : FileSystem) (components : List String) : List String → FileSystem
  | [] => system
  | name :: rest => makeDirectories (system.putNew components name (.directory [])) (components ++ [name]) rest

/-- Writes a file into the directory at the end of components, through at most `links` links at its place. -/
def writeThrough (content : ByteArray) : Nat → FileSystem → List String → String → FileSystem
  | 0, system, _, _ => system
  | links + 1, system, components, name =>
    system.changeDirectory components fun trail entries =>
      match entries.lookup name with
      | some (.directory _) => system
      | some (.link target) =>
        let start := if Path.isAbsolute target then [] else trail.names
        let followed := Path.components target
        writeThrough content links system (start ++ followed.dropLast) (followed.getLastD "")
      | _ => if name = "" ∨ name = "." ∨ name = ".." then system else system.putAt trail name (.file content)

/-- Adds a node at a path below the working directory. -/
def add (system : FileSystem) (path : String) (node : FileTree) : FileSystem :=
  let components := (Path.components path).filter fun component => component ≠ "" ∧ component ≠ "."
  let directory := components.dropLast
  let name := components.getLastD ""
  let prepared := system.makeDirectories system.workingDirectory directory
  let inside := system.workingDirectory ++ directory
  match node with
  | .file content => writeThrough content (linkLimit + 1) prepared inside name
  | _ => prepared.putNew inside name node

end FileSystem

end Outlining
