import Outlining.Pattern

/-!
# Unrolled patterns

For matching, what is repeated a certain number of times is written out, so that of all repetitions only the one without limits remains. Copies are put together in halves and parts in pairs, which keeps the result shallow.
-/

namespace Outlining

/-- A pattern without counts. -/
inductive Unrolled where
  | empty
  | member (set : CharSet)
  | assertion (condition : Assertion)
  | sequence (first second : Unrolled)
  | either (left right : Unrolled)
  /-- A body that is repeated any number of times. -/
  | star (body : Unrolled)
  deriving DecidableEq, Repr

namespace Unrolled

def append : Unrolled → Unrolled → Unrolled
  | .empty, second => second
  | first, .empty => first
  | first, second => .sequence first second

/-- Any number of matches of a pattern; repeating what is repeated anyway describes nothing more. -/
def repeated : Unrolled → Unrolled
  | .star body => .star body
  | body => .star body

/-- So many copies of a pattern one after the other, for counts below `2 ^ depth`. -/
def copiesBelow (pattern : Unrolled) : Nat → Nat → Unrolled
  | 0, _ => .empty
  | depth + 1, count =>
    let half := copiesBelow pattern depth (count / 2)
    if count % 2 = 0 then half.append half else pattern.append (half.append half)

/-- So many copies of a pattern one after the other. -/
def copies (pattern : Unrolled) (count : Nat) : Unrolled :=
  copiesBelow pattern (count.log2 + 1) count

def inPairs : List Unrolled → List Unrolled
  | first :: second :: rest => first.append second :: inPairs rest
  | rest => rest

/-- Patterns one after the other, where neighbours are put together in pairs so many times before all that are left are. -/
def inRounds : Nat → List Unrolled → Unrolled
  | 0, parts => parts.foldr append .empty
  | rounds + 1, parts => inRounds rounds (inPairs parts)

/-- Patterns one after the other. -/
def inSequence (parts : List Unrolled) : Unrolled :=
  inRounds (parts.length.log2 + 1) parts

mutual

/-- A pattern without its counts; groups and eagerness do not matter for matching. -/
def ofPattern : Pattern → Unrolled
  | .empty => .empty
  | .literal text => inSequence (text.map fun c => .member (.single c))
  | .member set => .member set
  | .assertion condition => .assertion condition
  | .group _ body => ofPattern body
  | .repetition body least most _ =>
    let once := ofPattern body
    let further := match most with
      | none => repeated once
      | some most => copies (.either .empty once) (most - least)
    (copies once least).append further
  | .sequence parts => inSequence (ofEach parts)
  | .alternatives branches => ofBranches branches

def ofEach : List Pattern → List Unrolled
  | [] => []
  | part :: rest => ofPattern part :: ofEach rest

def ofBranches : List Pattern → Unrolled
  | [] => .member .empty
  | [branch] => ofPattern branch
  | branch :: rest => .either (ofPattern branch) (ofBranches rest)

end

def skippable (before after : Option Char) : Unrolled → Bool
  | .empty => true
  | .member _ => false
  | .assertion condition => condition.holds before after
  | .sequence first second => first.skippable before after && second.skippable before after
  | .either left right => left.skippable before after || right.skippable before after
  | .star _ => true

end Unrolled

end Outlining
