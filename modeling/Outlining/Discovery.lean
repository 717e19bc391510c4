import Outlining.FileTree
import Outlining.IgnoreFilter

/-!
# Finding manifests

A directory is searched with everything below it for files with the extension of manifests; a path that leads to a file is taken as it is, and a path that leads nowhere is skipped. Links to directories are not followed inside a search, so a link back to a directory above cannot lead around in circles. Entries come in the order of their names, and ignore rules are applied last. A directory that cannot be read ends the whole search.
-/

namespace Outlining.Discovery

def unreadableDirectory (path : String) (fault : ReadFault) : Diagnostic where
  origin := .file path
  message := "Failed to read directory: " ++ fault.message
  hint := some "Check that the directory is readable"
  code := some 304

/-- Lists that are found one after the other, up to the first failure. -/
def inTurn {ε α : Type} : List (Except ε (List α)) → Except ε (List α)
  | [] => .ok []
  | first :: rest => do return (← first) ++ (← inTurn rest)

/-- What is found at the entries of a directory, in the order of the entries' names. -/
def inNameOrder {ε α : Type} (results : List (String × Except ε (List α))) : Except ε (List α) :=
  inTurn ((results.mergeSort fun left right => decide (left.1 ≤ right.1)).map Prod.snd)

mutual

/-- The manifests at and below an entry of a directory that is being searched. -/
def belowEntry (system : FileSystem) (extension path name : String) : FileTree → Except Diagnostic (List String)
  | .directory entries =>
    -- No link is followed on the way from the searched directory to here, so what is read there are these entries.
    match system.readDirectory path with
    | .ok _ => inNameOrder (belowEntries system extension path entries)
    | .error fault => .error (unreadableDirectory path fault)
  | .link _ =>
    if system.isDirectory path then .ok []
    else if Path.extension? name = some extension then .ok [path] else .ok []
  | .file _ => if Path.extension? name = some extension then .ok [path] else .ok []

/-- The manifests at and below each entry of the directory at `path`. -/
def belowEntries (system : FileSystem) (extension path : String) :
    List (String × FileTree) → List (String × Except Diagnostic (List String))
  | [] => []
  | (name, entry) :: rest =>
    (name, belowEntry system extension (Path.join path name) name entry) :: belowEntries system extension path rest

end

/-- The manifests that one argument stands for. -/
def ofArgument (system : FileSystem) (extension argument : String) : Except Diagnostic (List String) :=
  let path := Path.withoutTrailingSeparators argument
  match system.resolve path with
  | .ok (.directory entries) => inNameOrder (belowEntries system extension path entries)
  | .ok _ => .ok [path]
  | .error _ => .ok []

/-- The manifests that several arguments stand for, ignored ones left out. -/
def manifests (language : PatternLanguage) (system : FileSystem) (settings : Settings) (arguments : List String) :
    Except Diagnostic (List String) := do
  let filter ← IgnoreFilter.ofRules language settings.ignorePaths
  let found ← inTurn (arguments.map (ofArgument system settings.extension))
  return found.filter fun path => !filter.ignores path

end Outlining.Discovery
