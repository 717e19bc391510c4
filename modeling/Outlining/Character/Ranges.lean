/-!
# Ranges of code points

A set of characters can be given by ranges of code points, each with its first and its last one. Ranges in order are those that begin one after the other with at least one code point between any two of them.
-/

namespace Outlining.Character

def isIn (ranges : List (Nat × Nat)) (c : Char) : Bool :=
  ranges.any fun range => range.1 ≤ c.toNat && c.toNat ≤ range.2

/-- Puts a range into ranges in order; those that it overlaps or touches become one with it. -/
def insertRange (first last : Nat) : List (Nat × Nat) → List (Nat × Nat)
  | [] => [(first, last)]
  | (lower, upper) :: rest =>
    if upper + 1 < first then (lower, upper) :: insertRange first last rest
    else if last + 1 < lower then (first, last) :: (lower, upper) :: rest
    else insertRange (min first lower) (max last upper) rest

def insertRanges (added ranges : List (Nat × Nat)) : List (Nat × Nat) :=
  added.foldl (fun inserted range => insertRange range.1 range.2 inserted) ranges

/-- Whether a code point is half of a surrogate pair, and so no character. -/
def isSurrogate (code : Nat) : Bool :=
  0xD800 ≤ code && code ≤ 0xDFFF

/-- The characters from one code point to another, if there are any: a surrogate at an end is left out. -/
def rangeBetween (first last : Nat) : List (Nat × Nat) :=
  let first := if isSurrogate first then 0xE000 else first
  let last := if isSurrogate last then 0xD7FF else last
  if first ≤ last then [(first, last)] else []

/-- The ranges of all characters from a code point on that lie in none of the given ranges in order. -/
def rangesOutside (first : Nat) : List (Nat × Nat) → List (Nat × Nat)
  | [] => rangeBetween first 0x10FFFF
  | (lower, upper) :: rest =>
    (if first < lower then rangeBetween first (lower - 1) else []) ++ rangesOutside (upper + 1) rest

/-- The ranges of what lies both in a range of the one side and in a range of the other. -/
def commonRanges (left right : List (Nat × Nat)) : List (Nat × Nat) :=
  left.flatMap fun range =>
    right.filterMap fun other =>
      if max range.1 other.1 ≤ min range.2 other.2 then some (max range.1 other.1, min range.2 other.2) else none

end Outlining.Character
