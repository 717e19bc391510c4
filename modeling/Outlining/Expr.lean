/-!
# Value expressions

The values that a manifest parser hands over: literals, variables, lists, operations and references to declared resources. Only what an outline shows of them is kept, so a literal is its text as it stands in the manifest.
-/

namespace Outlining

/-- A part of a double-quoted text that mentions variables. -/
inductive Fragment where
  | text (content : String)
  | variable (name : String)
  deriving DecidableEq, Repr

/-- A value as it is written in a manifest. -/
inductive Expr where
  /-- A quoted string, its quote marks included. -/
  | quoted (text : String)
  /-- A name, a number, a boolean or another bare word. -/
  | word (text : String)
  | variable (name : String)
  /-- A double-quoted text with variables in it. -/
  | template (fragments : List Fragment)
  | list (items : List Expr)
  | operation (left : Expr) (operator : String) (right : Expr)
  /-- A reference to declared resources of one type. -/
  | reference (type : String) (titles : List Expr)
  /-- The value that stands for no value. -/
  | undefined
  /-- Any other value, known by its text alone. -/
  | verbatim (text : String)
  deriving Repr

end Outlining
