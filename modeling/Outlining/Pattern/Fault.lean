/-!
# Faults of patterns

Why a text is not a pattern.
-/

namespace Outlining.Pattern

/-- What is wrong with the text of a pattern. -/
inductive Fault where
  | unopenedGroup
  | unclosedGroup
  | unclosedClass
  | nothingToRepeat
  | invalidCount
  | trailingBackslash
  | unknownEscape (c : Char)
  | backreference
  | invalidCodePoint
  | unknownBoundary
  | invalidRange
  | escapeNotInClass
  | lookAround
  | unknownOption (c : Char)
  | repeatedOption
  | danglingNegation
  | invalidGroupName
  | repeatedGroupName
  | unsupported
  | nestedTooDeeply
  | tooLarge
  deriving DecidableEq, Repr

/-- The fault in words. -/
def Fault.message : Fault → String
  | .unopenedGroup => "unopened group"
  | .unclosedGroup => "unclosed group"
  | .unclosedClass => "unclosed character class"
  | .nothingToRepeat => "repetition of nothing"
  | .invalidCount => "invalid repetition count"
  | .trailingBackslash => "nothing is escaped by the last backslash"
  | .unknownEscape c => "unknown escape of '" ++ c.toString ++ "'"
  | .backreference => "backreferences are not supported"
  | .invalidCodePoint => "no character has this number"
  | .unknownBoundary => "unknown word boundary"
  | .invalidRange => "invalid range in a character class"
  | .escapeNotInClass => "this escape cannot stand in a character class"
  | .lookAround => "look-around is not supported"
  | .unknownOption c => "unknown option '" ++ c.toString ++ "'"
  | .repeatedOption => "an option is given twice"
  | .danglingNegation => "nothing is negated in the options"
  | .invalidGroupName => "invalid group name"
  | .repeatedGroupName => "a group name is given twice"
  | .unsupported => "this construct is not supported"
  | .nestedTooDeeply => "the pattern is nested too deeply"
  | .tooLarge => "the automaton of the pattern gets too large"

end Outlining.Pattern
