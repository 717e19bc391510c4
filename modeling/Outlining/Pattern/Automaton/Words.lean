/-!
# The size of an automaton for words

Several words are recognized byte by byte. Words that begin alike share the states for what they have in common, unless a word that is complete there has come between them.
-/

namespace Outlining.Pattern

/-- How many states a part of an automaton has, and how many bytes the lists of transitions in them take. -/
structure Extent where
  states : Nat := 0
  bytes : Nat := 0
  deriving DecidableEq, Repr

namespace Extent

instance : Add Extent where
  add left right := ⟨left.states + right.states, left.bytes + right.bytes⟩

/-- A state that leads on in so many ways without reading. -/
def branching (ways : Nat) : Extent :=
  ⟨1, 4 * ways⟩

/-- A state that reads a byte out of so many ranges. -/
def reading (ranges : Nat) : Extent :=
  ⟨1, 8 * ranges⟩

/-- A state that reads one certain byte, or one out of a single range. -/
def readingOne : Extent :=
  ⟨1, 0⟩

end Extent

/-- What is left of words at a place, in the order in which they came: the runs of words that go on, between words that end. -/
structure Runs where
  /-- The runs that a word has ended, the latest first. -/
  ended : List (List (List Nat)) := []
  /-- The words since then that go on, the latest first. -/
  current : List (List Nat) := []

/-- Takes in a word; words that end one after the other before any goes on are one. -/
def Runs.add (runs : Runs) : List Nat → Runs
  | [] =>
    if runs.current.isEmpty && runs.ended.all List.isEmpty && !runs.ended.isEmpty then runs
    else { ended := runs.current.reverse :: runs.ended }
  | word => { runs with current := word :: runs.current }

def Runs.all (runs : Runs) : List (List (List Nat)) :=
  (runs.current.reverse :: runs.ended).reverse

/-- What is left of the words of a run that go on with a byte. -/
def wordsBehind (byte : Nat) (run : List (List Nat)) : List (List Nat) :=
  run.filterMap fun word => if word.head? = some byte then some word.tail else none

/-- The extent of the states for what is left of words, through at most `depth` bytes. -/
def wordsExtent : Nat → List (List Nat) → Extent
  | 0, _ => {}
  | depth + 1, words =>
    if words.all List.isEmpty then {}
    else
      let runs := (words.foldl Runs.add {}).all
      let extents := runs.map fun run =>
        let bytes := (run.filterMap List.head?).eraseDups
        let own : Extent := match bytes with
          | [] => {}
          | [_] => .readingOne
          | _ => .reading bytes.length
        bytes.foldl (fun extent byte => extent + wordsExtent depth (wordsBehind byte run)) own
      let goingOn := (runs.filter (!·.isEmpty)).length
      extents.foldl (· + ·) (.branching (goingOn + (runs.length - 1)))

/-- The extent of an automaton for words, with the state that all of them lead to. -/
def extentOfWords (words : List (List Nat)) : Extent :=
  .readingOne + wordsExtent ((words.map List.length).foldl max 0 + 1) words

end Outlining.Pattern
