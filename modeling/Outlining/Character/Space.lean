import Outlining.Character.Ranges

/-!
# Space characters

The characters that Unicode calls white space.
-/

namespace Outlining.Character

def spaces : List (Nat × Nat) :=
  [(0x9, 0xD), (0x20, 0x20), (0x85, 0x85), (0xA0, 0xA0), (0x1680, 0x1680), (0x2000, 0x200A), (0x2028, 0x2029),
   (0x202F, 0x202F), (0x205F, 0x205F), (0x3000, 0x3000)]

def isSpace (c : Char) : Bool :=
  isIn spaces c

end Outlining.Character
