/-!
# Blank text

The characters that Unicode calls white space, and the two questions asked of them: whether a
text holds nothing else, and what is left of a text when both its ends are stripped of them.
-/

namespace JobShell.Text

/-- The code points with the Unicode property White_Space, as closed ranges. -/
def blankRanges : List (Nat × Nat) :=
  [(0x09, 0x0D), (0x20, 0x20), (0x85, 0x85), (0xA0, 0xA0), (0x1680, 0x1680), (0x2000, 0x200A),
   (0x2028, 0x2029), (0x202F, 0x202F), (0x205F, 0x205F), (0x3000, 0x3000)]

example : (blankRanges.map fun r => r.2 + 1 - r.1).sum = 25 := by decide

/-- Whether Unicode counts `c` as white space. -/
def isBlank (c : Char) : Bool :=
  blankRanges.any fun r => r.1 ≤ c.toNat && c.toNat ≤ r.2

/-- Whether nothing but white space stands in `s`. -/
def isBlankText (s : String) : Bool := s.toList.all isBlank

/-- `cs` without the characters of `p` at its end. -/
def dropTrailing (p : Char → Bool) (cs : List Char) : List Char :=
  (cs.reverse.dropWhile p).reverse

/-- `s` without the white space at its two ends. -/
def strip (s : String) : String :=
  String.ofList (dropTrailing isBlank (s.toList.dropWhile isBlank))

end JobShell.Text
