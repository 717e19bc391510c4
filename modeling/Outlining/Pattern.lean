import Outlining.CharSet

/-!
# Patterns

Patterns describe texts. A pattern is matched against part of a text, and what stands next to that part may matter too: the beginning or the end of the text or of a line, or of a word.
-/

namespace Outlining

/-- A condition on the place between two characters. -/
inductive Assertion where
  | textStart
  | textEnd
  | lineStart
  | lineEnd
  | wordBoundary
  | notWordBoundary
  | wordStart
  | wordEnd
  /-- No word goes on from the left. -/
  | wordStartHalf
  /-- No word goes on to the right. -/
  | wordEndHalf
  deriving DecidableEq, Repr

namespace Assertion

/-- Whether there is a character and it can be part of a word. -/
def inWord (neighbor : Option Char) : Bool :=
  neighbor.any Character.isWord

/-- Whether an assertion holds between two characters, which are missing at the ends of the text. -/
def holds (before after : Option Char) : Assertion → Bool
  | .textStart => before.isNone
  | .textEnd => after.isNone
  | .lineStart => before.all (· == '\n')
  | .lineEnd => after.all (· == '\n')
  | .wordBoundary => inWord before != inWord after
  | .notWordBoundary => inWord before == inWord after
  | .wordStart => !inWord before && inWord after
  | .wordEnd => inWord before && !inWord after
  | .wordStartHalf => !inWord before
  | .wordEndHalf => !inWord after

end Assertion

inductive Pattern where
  | empty
  /-- One character after the other, at least one. -/
  | literal (text : List Char)
  | member (set : CharSet)
  | assertion (condition : Assertion)
  /-- A part whose match can be asked for by a number. -/
  | group (number : Nat) (body : Pattern)
  /-- A body that is repeated at least and at most so many times, as often as possible if it is eager; there may be no upper limit. -/
  | repetition (body : Pattern) (least : Nat) (most : Option Nat) (eager : Bool)
  | sequence (parts : List Pattern)
  | alternatives (branches : List Pattern)
  deriving Repr

namespace Pattern

mutual

def same : Pattern → Pattern → Bool
  | .empty, .empty => true
  | .literal left, .literal right => left == right
  | .member left, .member right => left == right
  | .assertion left, .assertion right => left == right
  | .group left leftBody, .group right rightBody => left == right && leftBody.same rightBody
  | .repetition leftBody leftLeast leftMost leftEager, .repetition rightBody rightLeast rightMost rightEager =>
    leftLeast == rightLeast && leftMost == rightMost && leftEager == rightEager && leftBody.same rightBody
  | .sequence left, .sequence right => sameList left right
  | .alternatives left, .alternatives right => sameList left right
  | _, _ => false

def sameList : List Pattern → List Pattern → Bool
  | [], [] => true
  | left :: lefts, right :: rights => left.same right && sameList lefts rights
  | _, _ => false

end

mutual

/-- The least number of characters of a match, if there can be a match. -/
def leastLength : Pattern → Option Nat
  | .empty => some 0
  | .literal text => some text.length
  | .member set => if set.ranges.isEmpty then none else some 1
  | .assertion _ => some 0
  | .group _ body => body.leastLength
  | .repetition body least _ _ => body.leastLength.map (least * ·)
  | .sequence parts => leastLengthOfAll parts
  | .alternatives branches => leastLengthOfAny branches

def leastLengthOfAll : List Pattern → Option Nat
  | [] => some 0
  | part :: rest => do return (← part.leastLength) + (← leastLengthOfAll rest)

def leastLengthOfAny : List Pattern → Option Nat
  | [] => none
  | [branch] => branch.leastLength
  | branch :: rest => do return min (← branch.leastLength) (← leastLengthOfAny rest)

end

mutual

/-- The greatest number of characters of a match, if there is one. -/
def greatestLength : Pattern → Option Nat
  | .empty => some 0
  | .literal text => some text.length
  | .member set => if set.ranges.isEmpty then none else some 1
  | .assertion _ => some 0
  | .group _ body => body.greatestLength
  | .repetition body _ most _ => do return (← most) * (← body.greatestLength)
  | .sequence parts => greatestLengthOfAll parts
  | .alternatives branches => greatestLengthOfAny branches

def greatestLengthOfAll : List Pattern → Option Nat
  | [] => some 0
  | part :: rest => do return (← part.greatestLength) + (← greatestLengthOfAll rest)

def greatestLengthOfAny : List Pattern → Option Nat
  | [] => none
  | [branch] => branch.greatestLength
  | branch :: rest => do return max (← branch.greatestLength) (← greatestLengthOfAny rest)

end

/-! ### Putting patterns together

Patterns that describe the same texts are often put together to one and the same pattern, the simplest of them.
-/

def ofSet (set : CharSet) : Pattern :=
  match set.ranges with
  | [(first, last)] => if first = last then .literal [Char.ofNat first] else .member set
  | _ => .member set

/-- Puts a part in front of others; characters that meet become one literal. -/
def prepend : Pattern → List Pattern → List Pattern
  | .empty, parts => parts
  | .literal first, .literal second :: rest => .literal (first ++ second) :: rest
  | part, parts => part :: parts

def ofParts (parts : List Pattern) : Pattern :=
  let flat := parts.flatMap fun part =>
    match part with
    | .sequence inner => inner
    | _ => [part]
  match flat.foldr prepend [] with
  | [] => .empty
  | [part] => part
  | several => .sequence several

/-- The set of characters that branches of one character each describe together: either all of them are characters, or all are sets. -/
def setOfBranches? (branches : List Pattern) : Option CharSet :=
  let characters := branches.mapM fun branch =>
    match branch with
    | .literal [c] => some c
    | _ => none
  let sets := branches.mapM fun branch =>
    match branch with
    | .member set => some set
    | _ => none
  (characters.map CharSet.ofList).or (sets.map fun sets => sets.foldl CharSet.union .empty)

/-- How many parts two lists have in common at their front. -/
def commonLength : List Pattern → List Pattern → Nat
  | left :: lefts, right :: rights => if left.same right then commonLength lefts rights + 1 else 0
  | _, _ => 0

/-- One of several branches, where branches of branches are branches; what is not a single branch or a set is left to `otherwise`. -/
def ofBranchesOr (otherwise : List Pattern → Pattern) (branches : List Pattern) : Pattern :=
  let flat := branches.flatMap fun branch =>
    match branch with
    | .alternatives inner => inner
    | _ => [branch]
  match flat with
  | [branch] => branch
  | _ => ((setOfBranches? flat).map ofSet).getD (otherwise flat)

/-- Branches as they are, but for the parts that all of them begin with: those stand in front of what differs. -/
def withSharedFront (branches : List Pattern) : Pattern :=
  let sequences := branches.mapM fun branch =>
    match branch with
    | .sequence parts => some parts
    | _ => none
  match sequences with
  | some (first :: others) =>
    let shared := others.foldl (fun length parts => min length (commonLength first parts)) first.length
    if shared = 0 then .alternatives branches
    else
      let rest := (first :: others).map fun parts => ofParts (parts.drop shared)
      ofParts (first.take shared ++ [ofBranchesOr .alternatives rest])
  | _ => .alternatives branches

def ofBranches (branches : List Pattern) : Pattern :=
  ofBranchesOr withSharedFront branches

/-- A body that is repeated. Nothing changes when the empty text is repeated, so a body that matches nothing else is taken at most once. -/
def repeated (body : Pattern) (least : Nat) (most : Option Nat) (eager : Bool) : Pattern :=
  let onlyEmpty := body.greatestLength = some 0
  let least := if onlyEmpty then min least 1 else least
  let most := if onlyEmpty then some (min (most.getD 1) 1) else most
  if most = some 0 then .empty
  else if least = 1 ∧ most = some 1 then body
  else .repetition body least most eager

end Pattern

end Outlining
