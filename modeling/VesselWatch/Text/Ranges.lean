/-
  Text/Ranges.lean --- sets of characters given by ranges of code points.

  WHAT THIS FILE FIXES.  A property of the Unicode standard is a table of ranges,
  both ends included; `inRanges` says whether a code point has the property.
-/

set_option autoImplicit false

namespace VesselWatch.Text

/-- The code point lies in one of the ranges. -/
def inRanges (ranges : List (Nat × Nat)) (n : Nat) : Bool :=
  ranges.any fun (first, last) => first ≤ n && n ≤ last

end VesselWatch.Text
