/-!
# DaoForge.Text.CharClass.Basic

A class of characters is a list of ranges of code points, ends included.
-/

namespace DaoForge

/-- Ranges of code points, both ends included. -/
abbrev Ranges := List (Nat × Nat)

/-- The code point lies in one of the ranges. -/
def Ranges.contains (ranges : Ranges) (code : Nat) : Bool :=
  ranges.any fun range => decide (range.1 ≤ code) && decide (code ≤ range.2)

end DaoForge
