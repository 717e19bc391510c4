import Outlining.Violation

/-!
# Diagnostics

How trouble is reported: where it comes from, what went wrong, and perhaps a hint and a number. A diagnostic is also what a manifest parser hands back when it rejects a file.
-/

namespace Outlining

/-- Where trouble comes from. -/
inductive Origin where
  /-- A parsed tree lacks something; the class or node is named once it is known. -/
  | incompleteTree (unit : Option String)
  /-- The file or directory at a path cannot be read. -/
  | file (path : String)
  /-- The manifest at a path is rejected by its parser. -/
  | manifest (path : String)
  | settings
  | runtime
  deriving DecidableEq, Repr

/-- A report of trouble. -/
structure Diagnostic where
  origin : Origin
  message : String
  hint : Option String := none
  code : Option Nat := none
  deriving DecidableEq, Repr

def Origin.heading : Origin → String
  | .incompleteTree none => "Structural Violation"
  | .incompleteTree (some unit) => "Structural Violation in '" ++ unit ++ "'"
  | .file path => "File Error '" ++ path ++ "'"
  | .manifest path => "Error while parsing '" ++ path ++ "'"
  | .settings => "Config Error"
  | .runtime => "Runtime Error"

namespace Diagnostic

/-- The whole report in one line. -/
def text (diagnostic : Diagnostic) : String :=
  "[OUTLINE] " ++ diagnostic.origin.heading ++ ": " ++ diagnostic.message ++
    (diagnostic.hint.elim "" fun hint => " Hint: " ++ hint) ++
    (diagnostic.code.elim "" fun code => " Code: " ++ toString code)

/-- The report of a violation in the body of `unit`. -/
def ofViolation (unit : Option String) (violation : Violation) : Diagnostic where
  origin := .incompleteTree unit
  message := violation.message
  hint := some "The manifest parser produced an incomplete tree"
  code := some violation.code

/-- The report for a manifest whose parser stopped with `diagnostic`: trouble without a place of its own is placed in the file at `path`. -/
def inManifest (path : String) (diagnostic : Diagnostic) : Diagnostic :=
  match diagnostic.origin with
  | .runtime => ⟨.manifest path, diagnostic.message, diagnostic.hint, some 320⟩
  | _ => diagnostic

end Diagnostic

end Outlining
