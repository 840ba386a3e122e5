/-!
Classes of characters, given by the ranges of their code points.
-/

set_option autoImplicit false

namespace PinFlow.Text

/-- A class of characters as inclusive ranges of code points, in increasing order. -/
structure CharClass where
  ranges : List (Nat × Nat)

def CharClass.contains (k : CharClass) (c : Char) : Bool :=
  k.ranges.any fun range => decide (range.1 ≤ c.toNat) && decide (c.toNat ≤ range.2)

end PinFlow.Text
