import Outlining.Pattern.Unrolled

/-!
# Matching

A text is read once, from its first character to its last. At each place it is known which characters of the pattern may have been the last ones read by a match that has begun somewhere: that is the progress of all these matches together. Where a match could end, the pattern occurs in the text.
-/

namespace Outlining

/-- The characters of a pattern that may have been read last. -/
inductive Progress where
  | idle (pattern : Unrolled)
  | read (set : CharSet)
  | sequence (first second : Progress)
  | either (left right : Progress)
  | star (body : Progress)
  deriving DecidableEq, Repr

namespace Progress

def inSequence : Progress → Progress → Progress
  | .idle first, .idle second => .idle (.sequence first second)
  | first, second => .sequence first second

def inEither : Progress → Progress → Progress
  | .idle left, .idle right => .idle (.either left right)
  | left, right => .either left right

def inStar : Progress → Progress
  | .idle body => .idle (.star body)
  | body => .star body

/-- Whether the pattern matches the empty text between two characters. -/
def skippable (before after : Option Char) : Progress → Bool
  | .idle pattern => pattern.skippable before after
  | .read _ => false
  | .sequence first second => first.skippable before after && second.skippable before after
  | .either left right => left.skippable before after || right.skippable before after
  | .star _ => true

/-- Whether a match that has read at least one character can end between two characters. -/
def canEnd (before after : Option Char) : Progress → Bool
  | .idle _ => false
  | .read _ => true
  | .sequence first second => second.canEnd before after || (first.canEnd before after && second.skippable before after)
  | .either left right => left.canEnd before after || right.canEnd before after
  | .star body => body.canEnd before after

/-- The progress of matches that begin with the character `next`, which stands behind `before`. -/
def begin (before : Option Char) (next : Char) : Unrolled → Progress
  | .empty => .idle .empty
  | .member set => if set.contains next then .read set else .idle (.member set)
  | .assertion condition => .idle (.assertion condition)
  | .sequence first second =>
    inSequence (begin before next first)
      (if first.skippable before (some next) then begin before next second else .idle second)
  | .either left right => inEither (begin before next left) (begin before next right)
  | .star body => inStar (begin before next body)

/-- The progress after the character `next`, which stands behind `before`, where a match may begin with it if `fresh`. -/
def advance (before : Option Char) (next : Char) (fresh : Bool) : Progress → Progress
  | .idle pattern => if fresh then begin before next pattern else .idle pattern
  | .read set => if fresh && set.contains next then .read set else .idle (.member set)
  | .sequence first second =>
    inSequence (first.advance before next fresh)
      (second.advance before next
        (first.canEnd before (some next) || (fresh && first.skippable before (some next))))
  | .either left right => inEither (left.advance before next fresh) (right.advance before next fresh)
  | .star body => inStar (body.advance before next (fresh || body.canEnd before (some next)))

/-- Whether a match ends at a place of a text or later, with the progress at that place and the character before it. -/
def endsIn (before : Option Char) : Progress → List Char → Bool
  | progress, [] => progress.canEnd before none || progress.skippable before none
  | progress, next :: rest =>
    progress.canEnd before (some next) || progress.skippable before (some next) ||
      endsIn (some next) (progress.advance before next true) rest

end Progress

def Pattern.occursIn (pattern : Pattern) (text : String) : Bool :=
  Progress.endsIn none (.idle (.ofPattern pattern)) text.toList

end Outlining
