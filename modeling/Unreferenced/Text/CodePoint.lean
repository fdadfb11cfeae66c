/-
Unreferenced/Text/CodePoint.lean

Sets of code points given by a list of closed ranges.  The character classes
that the library needs beyond ASCII (letters, numerals, printable characters)
are such lists; this file says what a member of one is.
-/

namespace Unreferenced.Text

/-- A list of closed ranges of code points, smallest first. -/
abbrev Ranges := List (Nat × Nat)

/-- Whether the code point `n` lies in one of the ranges. -/
def Ranges.has (ranges : Ranges) (n : Nat) : Bool :=
  ranges.any fun r => decide (r.1 ≤ n) && decide (n ≤ r.2)

end Unreferenced.Text
