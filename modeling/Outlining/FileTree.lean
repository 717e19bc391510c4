import Outlining.FileTree.Path

/-!
# File trees

A file system as a value: files with their bytes, directories with their entries, and symbolic links with the text they lead to. A path is followed component by component from the root, and a link on the way is replaced by the components of its target. After forty links a path is given up, so a link that leads to itself leads nowhere.
-/

namespace Outlining

inductive FileTree where
  | file (content : ByteArray)
  | link (target : String)
  | directory (entries : List (String × FileTree))

/-- Why a file cannot be read. -/
inductive ReadFault where
  | notFound
  | notDirectory
  | isDirectory
  | nameTooLong
  | tooManyLinks
  | nulInPath
  | notUtf8
  deriving DecidableEq, Repr

/-- The fault in the words of the operating system. -/
def ReadFault.message : ReadFault → String
  | .notFound => "No such file or directory (os error 2)"
  | .notDirectory => "Not a directory (os error 20)"
  | .isDirectory => "Is a directory (os error 21)"
  | .nameTooLong => "File name too long (os error 36)"
  | .tooManyLinks => "Too many levels of symbolic links (os error 40)"
  | .nulInPath => "file name contained an unexpected NUL byte"
  | .notUtf8 => "stream did not contain valid UTF-8"

namespace FileTree

/-- What is gone through on the way to a place in a tree: entries with their names, from the innermost on. -/
abbrev Trail := List (String × FileTree)

/-- What a trail from the root leads to. -/
def Trail.target (root : FileTree) (trail : Trail) : FileTree :=
  (trail.head?.map Prod.snd).getD root

/-- How many bytes the name of an entry may have. -/
def nameLimit : Nat := 255

/-- Follows components from the end of a trail, and hands over to `followLink` at a link, with the trail to the directory it stands in and what is left to follow. An empty component and a single dot stay where they are. -/
def followWith (root : FileTree)
    (followLink : Trail → List String → Except ReadFault Trail) (trail : Trail) :
    List String → Except ReadFault Trail
  | [] => .ok trail
  | component :: rest =>
    match trail.target root with
    | .directory entries =>
      if component = "" ∨ component = "." then followWith root followLink trail rest
      else if component = ".." then followWith root followLink trail.tail rest
      else if nameLimit < component.utf8ByteSize then .error .nameTooLong
      else match entries.lookup component with
        | none => .error .notFound
        | some (.link target) =>
          followLink (if Path.isAbsolute target then [] else trail) (Path.components target ++ rest)
        | some entry => followWith root followLink ((component, entry) :: trail) rest
    | _ => .error .notDirectory

/-- Follows components through at most `links` links. -/
def follow (root : FileTree) : Nat → Trail → List String → Except ReadFault Trail
  | 0 => followWith root fun _ _ => .error .tooManyLinks
  | links + 1 => followWith root (follow root links)

end FileTree

/-- A tree of files, and the working directory in it that relative paths begin at. -/
structure FileSystem where
  root : FileTree
  workingDirectory : List String := []

namespace FileSystem

/-- How many links may be followed on the way of one path. -/
def linkLimit : Nat := 40

/-- How many bytes a path may have. -/
def pathLimit : Nat := 4095

/-- The trail from the root along components. -/
def trailTo (system : FileSystem) (components : List String) : Except ReadFault FileTree.Trail :=
  system.root.follow linkLimit [] components

/-- What a path leads to, which is never a link. -/
def resolve (system : FileSystem) (path : String) : Except ReadFault FileTree :=
  if path.toList.contains '\x00' then .error .nulInPath
  else if path = "" then .error .notFound
  else if pathLimit < path.utf8ByteSize then .error .nameTooLong
  else
    let start := if Path.isAbsolute path then [] else system.workingDirectory
    (system.trailTo (start ++ Path.components path)).map (FileTree.Trail.target system.root)

def pathExists (system : FileSystem) (path : String) : Bool :=
  match system.resolve path with
  | .ok _ => true
  | .error _ => false

def isDirectory (system : FileSystem) (path : String) : Bool :=
  match system.resolve path with
  | .ok (.directory _) => true
  | _ => false

/-- The entries of the directory that a path leads to. -/
def readDirectory (system : FileSystem) (path : String) : Except ReadFault (List (String × FileTree)) := do
  match ← system.resolve path with
  | .directory entries => return entries
  | _ => throw .notDirectory

def readText (system : FileSystem) (path : String) : Except ReadFault String := do
  match ← system.resolve path with
  | .file content =>
    match String.fromUTF8? content with
    | some text => return text
    | none => throw .notUtf8
  | .directory _ => throw .isDirectory
  | .link _ => throw .notFound

end FileSystem

end Outlining
