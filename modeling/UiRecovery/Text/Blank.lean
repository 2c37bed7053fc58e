/-!
# Blank characters

The characters of the Unicode property `White_Space`, and trimming by them. Text read from layouts
and signatures may hold any of them, so the classes of `Char`, which know ASCII only, would not do.
-/

namespace UiRecovery.Text

/-- The inclusive ranges of code points that have the property `White_Space`. -/
def blankRanges : List (Nat × Nat) :=
  [(0x09, 0x0d), (0x20, 0x20), (0x85, 0x85), (0xa0, 0xa0), (0x1680, 0x1680), (0x2000, 0x200a),
    (0x2028, 0x2029), (0x202f, 0x202f), (0x205f, 0x205f), (0x3000, 0x3000)]

def isBlank (c : Char) : Bool := blankRanges.any fun r => r.1 ≤ c.toNat && c.toNat ≤ r.2

/-- Remove the blank characters at both ends. -/
def trim (cs : List Char) : List Char := ((cs.dropWhile isBlank).reverse.dropWhile isBlank).reverse

/-- A text that holds nothing but blank characters. -/
def allBlank (s : String) : Bool := s.toList.all isBlank

end UiRecovery.Text
