/-!
# Settings

What a user may choose about outlining and about the search for manifests.
-/

namespace Outlining

/-- How the include statements that follow each other are recorded. -/
inductive IncludePolicy where
  /-- Neighbouring includes share one block, like any other kind. -/
  | joined
  /-- Every include opens a block of its own. -/
  | separate
  deriving DecidableEq, Repr

/-- Which of the paths found are left out. -/
structure IgnoreRules where
  /-- Patterns for the beginning of a path. -/
  beginWith : List String := []
  /-- Texts that occur anywhere in a path. -/
  contains : List String := []
  deriving DecidableEq, Repr

/-- All settings, with their defaults. -/
structure Settings where
  includePolicy : IncludePolicy := .joined
  /-- Record the declaration of a class as an include rather than as a resource. -/
  classDeclarationsAsIncludes : Bool := false
  ignorePaths : IgnoreRules := ⟨[], []⟩
  /-- The file name extension of manifests. -/
  extension : String := "pp"
  deriving DecidableEq, Repr

end Outlining
