import Outlining.Expr.Text

/-!
# Shown values

What an outline records for a variable or a parameter: one text, a list of texts, or that there is no value. No value is distinct from the empty text.
-/

namespace Outlining

/-- The value that an outline records. -/
inductive Value where
  | absent
  | text (content : String)
  | list (items : List String)
  deriving DecidableEq, Repr

namespace Value

/-- The recorded form of a value in a manifest, which may be missing. -/
def ofExpr : Option Expr → Value
  | none => .absent
  | some .undefined => .absent
  | some (.list items) => .list (Expr.list items).shownItems
  | some value => .text value.shown

end Value

end Outlining
