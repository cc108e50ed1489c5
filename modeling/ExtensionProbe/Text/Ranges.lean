/-!
# Sets of characters as ranges

A property of characters is a list of ranges of code points, in increasing order and apart.

* `contains_iff`: a code point is in the set exactly if one of the ranges holds it.
-/

namespace ExtensionProbe.Text

/-- Ranges of code points, both ends included. -/
abbrev Ranges := List (Nat × Nat)

/-- Whether one of the ranges holds the code point. -/
def Ranges.contains (rs : Ranges) (code : Nat) : Bool :=
  rs.any fun r => r.1 ≤ code && code ≤ r.2

theorem Ranges.contains_iff {rs : Ranges} {code : Nat} :
    rs.contains code = true ↔ ∃ r ∈ rs, r.1 ≤ code ∧ code ≤ r.2 := by
  simp [Ranges.contains]

end ExtensionProbe.Text
