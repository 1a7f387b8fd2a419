/-!
# Sets of code points

A Unicode property is kept as a list of closed ranges of code points.
-/

namespace ListMarkup.Unicode

set_option autoImplicit false

/-- Whether a code point lies in one of the closed ranges. -/
def withinRanges (ranges : List (Nat × Nat)) (point : Nat) : Bool :=
  ranges.any fun range => range.1 ≤ point && point ≤ range.2

end ListMarkup.Unicode
