/-!
# JSON values

A JSON value over a type of texts, which is `String` for values to be written. Members of an object keep their order, and a name may stand twice. Numbers are kept as they are spelled, because no outline needs their magnitude.
-/

namespace Outlining

/-- A JSON value whose strings and member names are of the type `Text`. -/
inductive Json (Text : Type) where
  | null
  | bool (value : Bool)
  | number (literal : String)
  | string (text : Text)
  | array (items : List (Json Text))
  | object (members : List (Text × Json Text))
  deriving Repr

namespace Json

def ofTexts {Text : Type} (texts : List Text) : Json Text :=
  .array (texts.map .string)

end Json

end Outlining
