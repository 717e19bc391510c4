/-!
# UTF-8

The bytes that UTF-8 writes for a character, and how the characters from one code point to another fall apart into runs whose bytes vary independently of each other: a run is given by a range for each byte.
-/

namespace Outlining.Utf8

/-- The bytes of a code point: the first says how many follow, and each that follows holds six bits. -/
def bytes (code : Nat) : List Nat :=
  if code < 0x80 then [code]
  else if code < 0x800 then [0xC0 + code / 64, 0x80 + code % 64]
  else if code < 0x10000 then [0xE0 + code / 4096, 0x80 + code / 64 % 64, 0x80 + code % 64]
  else [0xF0 + code / 262144, 0x80 + code / 4096 % 64, 0x80 + code / 64 % 64, 0x80 + code % 64]

def bytesOf (text : List Char) : List Nat :=
  text.flatMap fun c => bytes c.toNat

/-- Cuts a range of code points where the last `level` bytes would not run through all their values between different bytes before them. -/
def cut : Nat → Nat → Nat → List (Nat × Nat)
  | 0, first, last => [(first, last)]
  | level + 1, first, last =>
    let block := 64 ^ (level + 1)
    if first / block = last / block then cut level first last
    else
      let inner := (first + block - 1) / block * block
      let outer := (last + 1) / block * block
      (if first < inner then cut level first (inner - 1) else []) ++
        (if inner < outer then [(inner, outer - 1)] else []) ++
        (if outer ≤ last then cut level outer last else [])

/-- The ranges of the code points that take one, two, three and four bytes, without the surrogates. -/
def segments : List (Nat × Nat) :=
  [(0, 0x7F), (0x80, 0x7FF), (0x800, 0xD7FF), (0xE000, 0xFFFF), (0x10000, 0x10FFFF)]

/-- The runs of a range of code points, in order, each with the first and the last value of every byte. -/
def runs (first last : Nat) : List (List (Nat × Nat)) :=
  segments.flatMap fun segment =>
    let first := max first segment.1
    let last := min last segment.2
    if last < first then []
    else if last < 0x80 then [[(first, last)]]
    else (cut 3 first last).map fun piece => (bytes piece.1).zip (bytes piece.2)

end Outlining.Utf8
