/-!
# Quote marks around a text

A manifest writes a string between quote marks, and what surrounds it may add more of them. A *mark* is a double quote, a single quote or a double quote escaped by a backslash. All marks on each end of a text form one layer, so taking the layer off twice is the same as taking it off once.
-/

namespace Outlining.QuoteMarks

/-- The text without the marks at its front. -/
def dropLeading : List Char → List Char
  | '\\' :: '"' :: rest => dropLeading rest
  | '"' :: rest => dropLeading rest
  | '\'' :: rest => dropLeading rest
  | rest => rest

/-- A text read from its end, without the marks it ends with: the backslash of an escaped quote then stands behind the quote. -/
def dropTrailingReversed : List Char → List Char
  | '"' :: '\\' :: rest => dropTrailingReversed rest
  | '"' :: rest => dropTrailingReversed rest
  | '\'' :: rest => dropTrailingReversed rest
  | rest => rest

/-- The text without the marks at its end. -/
def dropTrailing (text : List Char) : List Char :=
  (dropTrailingReversed text.reverse).reverse

/-- The text without the marks on either end; the front goes first, so a text of nothing but marks becomes empty. -/
def strip (text : String) : String :=
  String.ofList (dropTrailing (dropLeading text.toList))

end Outlining.QuoteMarks
