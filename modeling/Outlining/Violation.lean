import Outlining.Expr.Text

/-!
# Violations

What can be wrong with a body: a statement lacks a title or a parameter list that its kind must have.
-/

namespace Outlining

/-- Why a statement cannot be outlined. -/
inductive Violation where
  | instanceWithoutTitle (type : String)
  | instanceWithoutParameters (type : String) (title : Expr)
  | overrideWithoutParameters (target : Expr)
  | defaultsWithoutParameters (type : String)
  deriving Repr

namespace Violation

/-- The number that names the kind of violation. -/
def code : Violation → Nat
  | .instanceWithoutTitle _ => 401
  | .instanceWithoutParameters _ _ => 402
  | .overrideWithoutParameters _ => 403
  | .defaultsWithoutParameters _ => 404

def message : Violation → String
  | .instanceWithoutTitle type => "'" ++ type ++ "' resource instance has no title"
  | .instanceWithoutParameters type title => "'" ++ type ++ "' resource " ++ title.written ++ " has no parameter list"
  | .overrideWithoutParameters target => "override of " ++ target.written ++ " has no parameter list"
  | .defaultsWithoutParameters type => "defaults for " ++ type ++ " have no parameter list"

end Violation

end Outlining
