import Mathlib.Tactic.SplitIfs
import Outlining.FileTree

/-!
# Trees without contents

Where a path leads depends on the names, directories and links of a tree, not on what its files hold: emptying all files changes a path's target in nothing but its contents (`resolve_withoutContents`).
-/

namespace Outlining

namespace FileTree

mutual

/-- The tree with all of its files emptied. -/
def withoutContents : FileTree → FileTree
  | .file _ => .file .empty
  | .link target => .link target
  | .directory entries => .directory (entriesWithoutContents entries)

def entriesWithoutContents : List (String × FileTree) → List (String × FileTree)
  | [] => []
  | (name, entry) :: rest => (name, entry.withoutContents) :: entriesWithoutContents rest

end

def Trail.withoutContents (trail : Trail) : Trail :=
  trail.map (Prod.map id FileTree.withoutContents)

theorem lookup_entriesWithoutContents (name : String) (entries : List (String × FileTree)) :
    (entriesWithoutContents entries).lookup name = (entries.lookup name).map withoutContents := by
  induction entries with
  | nil => rfl
  | cons entry rest ih =>
    rw [entriesWithoutContents, List.lookup_cons, List.lookup_cons, ih]
    cases name == entry.1 <;> rfl

theorem Trail.target_withoutContents (root : FileTree) (trail : Trail) :
    trail.withoutContents.target root.withoutContents = (trail.target root).withoutContents := by
  cases trail <;> rfl

theorem Trail.tail_withoutContents (trail : Trail) :
    List.tail trail.withoutContents = Trail.withoutContents (List.tail trail) := by
  cases trail <;> rfl

variable {root : FileTree}

theorem followWith_withoutContents {followLink followEmptied : Trail → List String → Except ReadFault Trail}
    (hlink : ∀ trail components, followEmptied trail.withoutContents components =
      (followLink trail components).map Trail.withoutContents)
    (trail : Trail) (components : List String) :
    followWith root.withoutContents followEmptied trail.withoutContents components =
      (followWith root followLink trail components).map Trail.withoutContents := by
  induction components generalizing trail with
  | nil => rfl
  | cons component rest ih =>
    rw [followWith, followWith, Trail.target_withoutContents]
    cases trail.target root with
    | file content => rfl
    | link target => rfl
    | directory entries =>
      simp only [withoutContents, lookup_entriesWithoutContents, Trail.tail_withoutContents]
      split_ifs with hstay hup hlong
      · exact ih trail
      · exact ih trail.tail
      · rfl
      · cases entries.lookup component with
        | none => rfl
        | some entry =>
          cases entry with
          | link target =>
            have hfrom : (if Path.isAbsolute target then [] else trail.withoutContents) =
                Trail.withoutContents (if Path.isAbsolute target then [] else trail) := by
              split <;> rfl
            exact (congrArg (followEmptied · _) hfrom).trans (hlink _ _)
          | file content => exact ih ((component, .file content) :: trail)
          | directory inner => exact ih ((component, .directory inner) :: trail)

theorem follow_withoutContents (links : Nat) (trail : Trail) (components : List String) :
    root.withoutContents.follow links trail.withoutContents components =
      (root.follow links trail components).map Trail.withoutContents := by
  induction links generalizing trail components with
  | zero => exact followWith_withoutContents (fun _ _ => rfl) trail components
  | succ links ih => exact followWith_withoutContents ih trail components

end FileTree

namespace FileSystem

/-- The file system with all of its files emptied. -/
def withoutContents (system : FileSystem) : FileSystem :=
  { system with root := system.root.withoutContents }

theorem trailTo_withoutContents (system : FileSystem) (components : List String) :
    system.withoutContents.trailTo components =
      (system.trailTo components).map FileTree.Trail.withoutContents :=
  FileTree.follow_withoutContents linkLimit [] components

theorem resolve_withoutContents (system : FileSystem) (path : String) :
    system.withoutContents.resolve path = (system.resolve path).map FileTree.withoutContents := by
  have htarget : ∀ components, (system.withoutContents.trailTo components).map
      (FileTree.Trail.target system.withoutContents.root) =
        ((system.trailTo components).map (FileTree.Trail.target system.root)).map FileTree.withoutContents := by
    intro components
    rw [trailTo_withoutContents]
    cases system.trailTo components with
    | error fault => rfl
    | ok trail => exact congrArg Except.ok (FileTree.Trail.target_withoutContents system.root trail)
  rw [resolve, resolve]
  split_ifs
  · rfl
  · rfl
  · rfl
  · exact htarget _
  · exact htarget _

theorem isDirectory_withoutContents (system : FileSystem) (path : String) :
    system.withoutContents.isDirectory path = system.isDirectory path := by
  rw [isDirectory, isDirectory, resolve_withoutContents]
  cases system.resolve path with
  | error fault => rfl
  | ok target => cases target <;> rfl

theorem readDirectory_withoutContents (system : FileSystem) (path : String) :
    system.withoutContents.readDirectory path =
      (system.readDirectory path).map FileTree.entriesWithoutContents := by
  rw [readDirectory, readDirectory, resolve_withoutContents]
  cases system.resolve path with
  | error fault => rfl
  | ok target => cases target <;> rfl

end FileSystem

end Outlining
