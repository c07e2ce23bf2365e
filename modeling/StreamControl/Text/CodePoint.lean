/-!
# Sets of code points

A class of characters is given by inclusive ranges of code points, in
increasing order.
-/

set_option autoImplicit false

namespace StreamControl.Text

/-- Inclusive ranges of code points. -/
abbrev Ranges := List (Nat × Nat)

/-- Whether a character lies in one of the ranges. -/
def Ranges.covers (ranges : Ranges) (c : Char) : Bool :=
  ranges.any fun range => range.1 ≤ c.toNat && c.toNat ≤ range.2

end StreamControl.Text
