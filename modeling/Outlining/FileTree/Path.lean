/-!
# Paths

Paths are texts whose components stand between slashes. Nothing is normalized: a path that is built from another keeps its text as it is.
-/

namespace Outlining.Path

/-- The parts of a text between slashes; there is always at least one. -/
def splitAtSlashes : List Char → List (List Char)
  | [] => [[]]
  | c :: rest =>
    if c = '/' then [] :: splitAtSlashes rest
    else match splitAtSlashes rest with
      | [] => [[c]]
      | first :: more => (c :: first) :: more

/-- The components of a path, among them an empty one wherever the path begins or ends with a slash or two slashes meet. -/
def components (path : String) : List String :=
  (splitAtSlashes path.toList).map String.ofList

def isAbsolute (path : String) : Bool :=
  path.toList.head? == some '/'

def join (directory name : String) : String :=
  if directory.toList.getLast? = some '/' then directory ++ name else directory ++ "/" ++ name

/-- Whether a character separates components on some system. -/
def isSeparator (c : Char) : Bool :=
  c == '/' || c == '\\'

/-- A path without the separators it ends with; a path of nothing but separators stays as it is. -/
def withoutTrailingSeparators (path : String) : String :=
  let kept := (path.toList.reverse.dropWhile isSeparator).reverse
  if kept.isEmpty then path else String.ofList kept

/-- The part of a file name behind its last dot, unless that dot comes first. -/
def extension? (name : String) : Option String :=
  let reversed := name.toList.reverse
  let suffix := reversed.takeWhile (· != '.')
  match reversed.drop suffix.length with
  | _ :: before => if before.isEmpty || name = ".." then none else some (String.ofList suffix.reverse)
  | [] => none

end Outlining.Path
