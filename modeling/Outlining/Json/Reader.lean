import Outlining.Json
import Outlining.Json.Token

/-!
# Reading JSON

A value is read from its tokens with the containers that are open around it kept in a list, so values may be nested to any depth. A container that ends is itself a value of the container around it.
-/

namespace Outlining.Json

/-- A value as it is read: a string has no text if its escapes leave a surrogate alone. -/
abbrev Read := Json (Option String)

/-- A container that is still open, with what it holds so far, latest first. -/
inductive Container where
  | array (items : List Read)
  /-- An object, and the name of the member whose value comes next. -/
  | object (members : List (Option String × Read)) (name : Option String)

mutual

/-- Reads the value at the front of the tokens and then what follows it. -/
def readValue (around : List Container) : List Token → Option Read
  | .null :: rest => readAfter around .null rest
  | .bool value :: rest => readAfter around (.bool value) rest
  | .number literal :: rest => readAfter around (.number literal) rest
  | .string text :: rest => readAfter around (.string text) rest
  | .beginArray :: .endArray :: rest => readAfter around (.array []) rest
  | .beginArray :: rest => readValue (.array [] :: around) rest
  | .beginObject :: .endObject :: rest => readAfter around (.object []) rest
  | .beginObject :: .string name :: .colon :: rest => readValue (.object [] name :: around) rest
  | _ => none

/-- Reads what follows a complete value: the next one, the end of its container, or the end of the text. -/
def readAfter (around : List Container) (value : Read) : List Token → Option Read
  | [] => if around.isEmpty then some value else none
  | .comma :: .string name :: .colon :: rest =>
    match around with
    | .object members current :: outer => readValue (.object ((current, value) :: members) name :: outer) rest
    | _ => none
  | .comma :: rest =>
    match around with
    | .array items :: outer => readValue (.array (value :: items) :: outer) rest
    | _ => none
  | .endArray :: rest =>
    match around with
    | .array items :: outer => readAfter outer (.array (value :: items).reverse) rest
    | _ => none
  | .endObject :: rest =>
    match around with
    | .object members current :: outer => readAfter outer (.object ((current, value) :: members).reverse) rest
    | _ => none
  | _ => none

end

/-- The value that a text is, if it is one JSON value with nothing but blanks around it. -/
def read? (text : String) : Option Read :=
  (tokens? text.toList).bind (readValue [])

end Outlining.Json
