import Outlining.Expr
import Outlining.Text.QuoteMarks

/-!
# Texts of expressions

An outline shows values as texts. The *written* text of an expression is close to how it stands in the manifest; its *shown* text is the written text without enclosing quote marks, and a list has one shown text per item. Conditions, class parameter defaults and the labels of case options each have a text of their own.
-/

namespace Outlining

/-- A fragment as it stands inside the quote marks. -/
def Fragment.written : Fragment → String
  | .text content => content
  | .variable name => "$\x7b" ++ name ++ "\x7d"

namespace Expr

def writtenFragments (fragments : List Fragment) : String :=
  String.join (fragments.map Fragment.written)

mutual

/-- The text of an expression, close to how it stands in a manifest; every operation is in parentheses. -/
def written : Expr → String
  | .quoted text => text
  | .word text => text
  | .variable name => "$" ++ name
  | .template fragments => "\"" ++ writtenFragments fragments ++ "\""
  | .list items => "[" ++ ", ".intercalate (writtenAll items) ++ "]"
  | .operation left operator right => "(" ++ left.written ++ " " ++ operator ++ " " ++ right.written ++ ")"
  | .reference type titles => type ++ "[" ++ ", ".intercalate (writtenAll titles) ++ "]"
  | .undefined => "undef"
  | .verbatim text => text

def writtenAll : List Expr → List String
  | [] => []
  | item :: rest => item.written :: writtenAll rest

end

/-- The text that an outline shows for a value: a template loses every double quote in it, anything else the quote marks around its written text. -/
def shown : Expr → String
  | .template fragments => String.ofList ((writtenFragments fragments).toList.filter (· != '"'))
  | value => QuoteMarks.strip value.written

/-- The shown texts of a value taken as a list: one per item of a list, one for anything else. -/
def shownItems : Expr → List String
  | .list items => items.map (fun item => QuoteMarks.strip item.shown)
  | value => [value.shown]

/-- The text of a condition with `tail` behind it. The operations along the left operands are taken from the outermost inwards, and what each of them adds goes in front of the tail. -/
def asConditionBefore : Expr → (tail : String) → String
  | .operation left operator right, tail => left.asConditionBefore (" " ++ operator ++ " " ++ right.written ++ tail)
  | value, tail => value.written ++ tail

/-- The text of a condition: the operations along the left operands lose their parentheses, right operands keep theirs. -/
def asCondition (condition : Expr) : String :=
  condition.asConditionBefore ""

/-- The text of a class parameter's default: strings stand in one pair of double quotes, so they read differently from bare words; a parameter without a default has the empty text. -/
def defaultText : Option Expr → String
  | none => ""
  | some (.quoted text) => "\"" ++ shown (.quoted text) ++ "\""
  | some (.template fragments) => "\"" ++ shown (.template fragments) ++ "\""
  | some value => value.written

/-- The label of a case option: all values it is chosen for. -/
def label (values : List Expr) : String :=
  ", ".intercalate (values.map shown)

/-- The names that a value stands for, free of quote marks. -/
def names (value : Expr) : List String :=
  value.shownItems.map QuoteMarks.strip

end Expr

end Outlining
