import Outlining.CharSet
import Outlining.Pattern.Automaton.Words
import Outlining.Text.Utf8
import Std.Data.HashMap

/-!
# The size of an automaton for a set of characters

A character outside of ASCII is read byte by byte, and so is any character of a set that has such characters. The runs of bytes of the set share states: forwards those that end alike, backwards those that begin alike. States to share are looked up in a table with a fixed number of places, in which a new entry takes the place of an older one, so now and then a state is made again.
-/

namespace Outlining.Pattern

/-- The place of a key in a table with so many places. -/
def placeOf (places : Nat) (key : List Nat) : Nat :=
  let mixed := key.foldl (fun mixed part => (mixed ^^^ part.toUInt64) * 1099511628211) (14695981039346656037 : UInt64)
  mixed.toNat % places

/-- States that can be shared, by what leads on from them, and the extent of the automaton so far. -/
structure SharedStates where
  /-- How many places the table has. -/
  places : Nat
  /-- The key and the number of the state at each place that is taken. -/
  table : Std.HashMap Nat (List Nat × Nat) := {}
  extent : Extent

namespace SharedStates

/-- The state with a key, which is made if it is not at its place. -/
def share (shared : SharedStates) (key : List Nat) (made : Extent) : SharedStates × Nat :=
  let place := placeOf shared.places key
  match shared.table[place]?.filter fun entry => entry.1 == key with
  | some (_, state) => (shared, state)
  | none =>
    let state := shared.extent.states
    ({ shared with table := shared.table.insert place (key, state), extent := shared.extent + made }, state)

end SharedStates

/-- Runs that begin with the same range of bytes, one after the other, together: that range and what follows it in each. -/
def groupedRuns : List (List (Nat × Nat)) → List ((Nat × Nat) × List (List (Nat × Nat)))
  | [] => []
  | [] :: runs => groupedRuns runs
  | (first :: rest) :: runs =>
    match groupedRuns runs with
    | (next, rests) :: groups =>
      if first = next then (first, rest :: rests) :: groups else (first, [rest]) :: (next, rests) :: groups
    | [] => [(first, [rest])]

/-- The state from which runs of at most `depth` bytes lead to the state `target`. -/
def stateForRuns (target : Nat) : Nat → List (List (Nat × Nat)) → SharedStates → SharedStates × Nat
  | 0, _, shared => (shared, target)
  | depth + 1, runs, shared =>
    if runs.all List.isEmpty then (shared, target)
    else
      let (shared, transitions) := (groupedRuns runs).foldl
        (fun (shared, transitions) (range, rests) =>
          let (shared, next) := stateForRuns target depth rests shared
          (shared, transitions ++ [range.1, range.2, next]))
        (shared, [])
      shared.share transitions (.reading (transitions.length / 3))

def runsOfSet (set : CharSet) : List (List (Nat × Nat)) :=
  set.ranges.flatMap fun range => Utf8.runs range.1 range.2

/-- The extent of an automaton with a forward part for a set added to it. -/
def addSetForwards (set : CharSet) (extent : Extent) : Extent :=
  let target := extent.states
  (stateForRuns target 4 (runsOfSet set) ⟨10000, {}, extent + .readingOne⟩).1.extent

/-- The state from which a run, read from its last byte on, leads to the state `target`. -/
def stateForRun (target : Nat) (run : List (Nat × Nat)) (shared : SharedStates) : SharedStates × Nat :=
  run.foldl (fun (shared, next) range => shared.share [next, range.1, range.2] .readingOne) (shared, target)

/-- The extent of an automaton with a backward part for a set added to it: a branching state leads to every run. -/
def addSetBackwards (set : CharSet) (extent : Extent) : Extent :=
  let runs := runsOfSet set
  let target := extent.states + 1
  let shared : SharedStates := ⟨1000, {}, extent + .branching runs.length + .readingOne⟩
  (runs.foldl (fun shared run => (stateForRun target run shared).1) shared).extent

def isAscii (set : CharSet) : Bool :=
  set.ranges.all fun range => range.2 < 0x80

/-- The extent of an automaton with a part for a set added to it. A set of ASCII characters takes one state that reads and one that is led to. -/
def addSet (backwards : Bool) (set : CharSet) (extent : Extent) : Extent :=
  if isAscii set then extent + .readingOne + .reading set.ranges.length
  else if backwards then addSetBackwards set extent
  else addSetForwards set extent

end Outlining.Pattern
