import Outlining.Character.Caseless
import Outlining.Character.Space
import Outlining.Character.Word

/-!
# Sets of characters

A set of characters is kept as its ranges in order, so a set is written in one way only, and how many ranges it takes can be asked.
-/

namespace Outlining

/-- A set of characters, by its ranges of code points in order. -/
structure CharSet where
  ranges : List (Nat × Nat)
  deriving DecidableEq, Repr

namespace CharSet

def empty : CharSet :=
  ⟨[]⟩

def range (first last : Char) : CharSet :=
  ⟨[(first.toNat, last.toNat)]⟩

def single (c : Char) : CharSet :=
  range c c

def contains (set : CharSet) (c : Char) : Bool :=
  Character.isIn set.ranges c

def union (left right : CharSet) : CharSet :=
  ⟨Character.insertRanges right.ranges left.ranges⟩

def intersection (left right : CharSet) : CharSet :=
  ⟨Character.commonRanges left.ranges right.ranges⟩

def complement (set : CharSet) : CharSet :=
  ⟨Character.rangesOutside 0 set.ranges⟩

def difference (left right : CharSet) : CharSet :=
  left.intersection right.complement

def symmetricDifference (left right : CharSet) : CharSet :=
  (left.union right).difference (left.intersection right)

def ofList (characters : List Char) : CharSet :=
  characters.foldl (fun set c => set.union (single c)) empty

def all : CharSet :=
  empty.complement

/-- The decimal digits of all scripts. -/
def decimal : CharSet :=
  ⟨Character.insertRanges Character.digits []⟩

def space : CharSet :=
  ⟨Character.spaces⟩

def word : CharSet :=
  ⟨[Character.digits, Character.connectors, Character.marks].foldr Character.insertRanges Character.letters⟩

/-- The code points of a set together with those that differ from one of them at most in case. -/
def ignoringCase (set : CharSet) : CharSet :=
  let leasts := Character.casePairs.filter fun pair => set.contains (Char.ofNat pair.1)
  let lowered : CharSet := ⟨Character.insertRanges (leasts.map fun pair => (pair.2, pair.2)) set.ranges⟩
  let raised := Character.casePairs.filter fun pair => lowered.contains (Char.ofNat pair.2)
  ⟨Character.insertRanges (raised.map fun pair => (pair.1, pair.1)) lowered.ranges⟩

end CharSet

end Outlining
