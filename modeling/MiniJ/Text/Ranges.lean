/-!
# Character classes as ranges

A class of characters is a list of ranges of code points, both ends included. The ranges ascend, so
that the search for a character ends at the first range that starts behind it.
-/

set_option autoImplicit false

namespace MiniJ.Text

/-- Whether a character lies in one of the ascending ranges. -/
def inRanges : List (Nat × Nat) → Char → Bool
  | [], _ => false
  | (low, high) :: rest, c =>
    if c.toNat < low then false
    else if c.toNat ≤ high then true
    else inRanges rest c

end MiniJ.Text
