import Outlining.Diagnostic
import Outlining.Pattern.Progress
import Outlining.Pattern.Reader
import Outlining.Settings

/-!
# Ignore filters

The ignore rules of the settings in a form that can be asked about paths. A rule for the beginning of a path is put as text into a group that is anchored at the start, and a path is ignored when the whole occurs in it. Which texts are patterns is for a language of patterns to say, and all that rules need of it is that it compiles texts and finds patterns in texts.
-/

namespace Outlining

/-- What rules need of a language of patterns. -/
structure PatternLanguage where
  Compiled : Type
  /-- The pattern that a text writes, or in words what is wrong with the text. -/
  compile : String → Except String Compiled
  occursIn : Compiled → String → Bool

/-- The patterns that keep to the limits, as a language. -/
abbrev Pattern.language (limits : Pattern.Limits) : PatternLanguage where
  Compiled := Pattern
  compile text := (ofText limits text).mapError Fault.message
  occursIn := occursIn

/-- The language that a user writes patterns in. -/
abbrev PatternLanguage.standard : PatternLanguage :=
  Pattern.language .standard

/-- Ignore rules whose patterns have been compiled. -/
structure IgnoreFilter (language : PatternLanguage) where
  patterns : List language.Compiled
  contains : List String

/-- Whether a text occurs in another. -/
def occursInChars (needle : List Char) : List Char → Bool
  | [] => needle.isEmpty
  | c :: rest => needle.isPrefixOf (c :: rest) || occursInChars needle rest

namespace IgnoreFilter

/-- The text of the pattern for paths that begin in a certain way. -/
def anchoredText (beginning : String) : String :=
  "^(?:" ++ beginning ++ ")"

def invalidPattern (beginning fault : String) : Diagnostic where
  origin := .settings
  message := "Invalid ignore pattern '" ++ beginning ++ "': " ++ fault
  hint := some "begin_with entries are regular expressions"
  code := some 311

variable (language : PatternLanguage)

/-- The pattern for paths that begin in a certain way. -/
def anchored (beginning : String) : Except String language.Compiled :=
  language.compile (anchoredText beginning)

/-- The patterns of several rules; the first that is none is reported. -/
def anchoredAll : List String → Except Diagnostic (List language.Compiled)
  | [] => .ok []
  | beginning :: rest => do
    let pattern ← (anchored language beginning).mapError (invalidPattern beginning)
    let more ← anchoredAll rest
    return pattern :: more

/-- The filter for a set of rules. -/
def ofRules (rules : IgnoreRules) : Except Diagnostic (IgnoreFilter language) := do
  let patterns ← anchoredAll language rules.beginWith
  return ⟨patterns, rules.contains⟩

variable {language}

def ignores (filter : IgnoreFilter language) (path : String) : Bool :=
  filter.patterns.any (language.occursIn · path) ||
    filter.contains.any fun text => occursInChars text.toList path.toList

end IgnoreFilter

end Outlining
