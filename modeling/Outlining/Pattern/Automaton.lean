import Outlining.Pattern
import Outlining.Pattern.Automaton.Sets

/-!
# The size of automata

A pattern is matched by an automaton that reads bytes, and a second one that reads backwards. Their states are counted here as they would be made: 32 bytes for each, and more for lists of transitions. Counting stops as soon as the limit is passed, so it takes no longer for a pattern that is far too large.
-/

namespace Outlining.Pattern

/-- The automaton whose size is counted: its direction and the limit on its bytes. -/
structure Plan where
  backwards : Bool
  limit : Nat

namespace Plan

/-- An extent, unless it passes the limit. -/
def within (plan : Plan) (extent : Extent) : Option Extent :=
  if 32 * extent.states + extent.bytes ≤ plan.limit then some extent else none

def times (step : Extent → Option Extent) : Nat → Extent → Option Extent
  | 0, extent => some extent
  | count + 1, extent =>
    match step extent with
    | some next => times step count next
    | none => none

end Plan

mutual

/-- Whether the part for a pattern ends in a branching state, to which what follows is added. -/
def endsBranching (backwards : Bool) : Pattern → Bool
  | .group _ body => backwards && body.endsBranching backwards
  | .repetition _ 0 (some _) _ => false
  | .repetition body 0 none _ => body.leastLength.any (0 < ·)
  | .repetition _ (_ + 1) none _ => true
  | .repetition body (least + 1) (some most) _ => most == least + 1 && body.endsBranching backwards
  | .sequence parts => endsBranchingOfAll backwards parts
  | _ => false

/-- Whether the part for patterns one after the other ends in a branching state: forwards the last of them ends it, backwards the first. -/
def endsBranchingOfAll (backwards : Bool) : List Pattern → Bool
  | [] => false
  | [part] => part.endsBranching backwards
  | part :: rest => if backwards then part.endsBranching backwards else endsBranchingOfAll backwards rest

end

/-- The bytes that it takes to lead on from the end of a part. -/
def linkBytes (backwards : Bool) (pattern : Pattern) : Extent :=
  ⟨0, if pattern.endsBranching backwards then 4 else 0⟩

/-- The literals among patterns, as bytes in the order in which they are read, if there is nothing else. -/
def literals? (backwards : Bool) (patterns : List Pattern) : Option (List (List Nat)) :=
  patterns.mapM fun pattern =>
    match pattern with
    | .literal text => some (if backwards then (Utf8.bytesOf text).reverse else Utf8.bytesOf text)
    | _ => none

mutual

/-- Adds the part for a pattern to an automaton. -/
def addTo (plan : Plan) : Pattern → Extent → Option Extent
  | .empty, extent => plan.within (extent + .readingOne)
  | .literal text, extent => plan.within (extent + ⟨(Utf8.bytesOf text).length, 0⟩)
  | .member set, extent => plan.within (addSet plan.backwards set extent)
  | .assertion _, extent => plan.within (extent + .readingOne)
  | .group _ body, extent =>
    if plan.backwards then body.addTo plan extent
    else do plan.within ((← body.addTo plan (extent + .readingOne)) + linkBytes plan.backwards body + .readingOne)
  | .repetition body least most _, extent =>
    let link := linkBytes plan.backwards body
    let linked := fun extent => body.addTo plan (extent + link)
    match most with
    | none =>
      match least with
      | 0 =>
        if body.leastLength.any (0 < ·) then do
          plan.within ((← body.addTo plan (extent + .branching 1)) + link)
        else do
          plan.within ((← body.addTo plan extent) + link + .branching 2 + .branching 2 + .readingOne)
      | more + 1 => do
        plan.within ((← Plan.times linked more (← body.addTo plan extent)) + link + .branching 1)
    | some most =>
      match least with
      | 0 =>
        if most = 1 then do plan.within ((← body.addTo plan (extent + .branching 2)) + link + .readingOne)
        else do
          let once := fun extent => body.addTo plan (extent + .branching 2 + link)
          plan.within (← Plan.times once most (extent + .readingOne + .readingOne))
      | more + 1 => do
        let repeatedly ← Plan.times linked more (← body.addTo plan extent)
        if most = least then plan.within repeatedly
        else
          let once := fun extent => body.addTo plan (extent + .branching 2 + link)
          plan.within ((← Plan.times once (most - least) (repeatedly + .readingOne)) + link)
  | .sequence parts, extent => addAllTo plan parts extent
  | .alternatives branches, extent =>
    match literals? plan.backwards branches with
    | some words => plan.within (extent + extentOfWords words)
    | none => addAnyTo plan 0 branches extent

def addAllTo (plan : Plan) : List Pattern → Extent → Option Extent
  | [], extent => some extent
  | [part], extent => part.addTo plan extent
  | part :: next :: rest, extent =>
    if plan.backwards then do
      part.addTo plan ((← addAllTo plan (next :: rest) extent) + ⟨0, if endsBranchingOfAll true (next :: rest) then 4 else 0⟩)
    else do addAllTo plan (next :: rest) ((← part.addTo plan extent) + linkBytes false part)

/-- Adds the parts for branches to an automaton of which `before` branches have been added. The state before all branches and the state behind them are made after two of them. -/
def addAnyTo (plan : Plan) (before : Nat) : List Pattern → Extent → Option Extent
  | [], extent => some extent
  | branch :: rest, extent => do
    let frame : Extent := if before = 1 then Extent.branching 0 + .readingOne else {}
    let added := (← branch.addTo plan extent) + linkBytes plan.backwards branch + ⟨0, 4⟩ + frame
    addAnyTo plan (before + 1) rest (← plan.within added)

end

mutual

/-- Whether every match of a pattern begins where the text begins, as far as that can be seen. -/
def startsAtStart : Pattern → Bool
  | .assertion condition => condition == .textStart
  | .group _ body => body.startsAtStart
  | .repetition body least _ _ => 0 < least && body.startsAtStart
  | .sequence parts => allStartsAtStart parts
  | .alternatives branches => anyStartsAtStart branches
  | _ => false

def allStartsAtStart : List Pattern → Bool
  | [] => false
  | part :: rest => part.startsAtStart || (part.greatestLength == some 0 && allStartsAtStart rest)

def anyStartsAtStart : List Pattern → Bool
  | [] => true
  | branch :: rest => branch.startsAtStart && anyStartsAtStart rest

end

mutual

/-- Whether every match of a pattern ends where the text ends, as far as that can be seen. -/
def endsAtEnd : Pattern → Bool
  | .assertion condition => condition == .textEnd
  | .group _ body => body.endsAtEnd
  | .repetition body least _ _ => 0 < least && body.endsAtEnd
  | .sequence parts => (allEndsAtEnd parts).1
  | .alternatives branches => anyEndsAtEnd branches
  | _ => false

/-- Whether every match of parts one after the other ends where the text ends, and whether the parts match nothing but the empty text. -/
def allEndsAtEnd : List Pattern → Bool × Bool
  | [] => (false, true)
  | part :: rest =>
    let (ends, isEmpty) := allEndsAtEnd rest
    (ends || (isEmpty && part.endsAtEnd), isEmpty && part.greatestLength == some 0)

def anyEndsAtEnd : List Pattern → Bool
  | [] => true
  | branch :: rest => branch.endsAtEnd && anyEndsAtEnd rest

end

/-- Whether the automaton for a pattern stays within the limit in one direction. A match that may begin anywhere takes a loop in front that reads any byte. -/
def fitsIn (plan : Plan) (pattern : Pattern) : Bool :=
  let bound := if plan.backwards then pattern.endsAtEnd else pattern.startsAtStart
  let front : Extent := if bound then .readingOne else .branching 2 + .readingOne + .reading 1
  let whole : Pattern := .group 0 pattern
  let added : Option Extent := do
    plan.within ((← whole.addTo plan front) + linkBytes plan.backwards whole + .readingOne)
  added.isSome

/-- Whether the automata for a pattern stay within a limit on their bytes. -/
def fits (limit : Nat) (pattern : Pattern) : Bool :=
  pattern.fitsIn ⟨false, limit⟩ && pattern.fitsIn ⟨true, limit⟩

end Outlining.Pattern
