import ListMarkup.Text.Integer
import ListMarkup.ValueList.Basic

/-!
# Positions in a list

Positions count from 1 at the start of a list and from -1 at its end.  Position 0
selects nothing.

Positions and lengths are 64-bit integers, and so are the ends of a window computed from
them (`slice?`).  None of the sums overflows while the number of values is such an integer.
-/

set_option autoImplicit false

namespace ListMarkup

/-- The place, counted from 0, that a position means, be it in the list or outside of it. -/
def signedPlace? (position count : Int) : Option Int :=
  Text.int64? (if 0 < position then position - 1 else count + position)

/-- The place, counted from 0, that a position selects among `count` values.
Positions are 64-bit integers, so a longer list has none. -/
def place? (position : Int) (count : Nat) : Option Nat := do
  let count ← Text.int64? count
  if position = 0 then none
  else
    let place ← signedPlace? position count
    if 0 ≤ place ∧ place < count then some place.toNat else none

namespace ValueList

/-- The value at a position. -/
def get? (values : ValueList) (position : Int) : Option Text :=
  (place? position values.length).bind fun place => values[place]?

/-- The value at a position, or the empty text when there is none. -/
def elementAt (values : ValueList) (position : Int) : Text :=
  (values.get? position).getD []

/-- The place behind a window that begins at `start`. -/
def windowStop? (count start : Int) : Option Int → Option Int
  | none => some count
  | some length =>
    if 0 ≤ length then some (Text.saturatingSum start length) else Text.int64? (count + length)

/-- The values in a window, unless a number on the way does not fit into 64 bits. -/
def slice? (values : ValueList) (offset : Int) (length : Option Int) : Option ValueList := do
  let count ← Text.int64? values.length
  if offset = 0 then some []
  else
    let start ← signedPlace? offset count
    let stop ← windowStop? count start length
    let first := (max 0 (min start count)).toNat
    let last := (max 0 (min stop count)).toNat
    if last ≤ first then some [] else some ((values.take last).drop first)

/-- The values from the one at `offset` on.  A length that is not negative tells
how many places to take, and a negative one how many to leave at the end.  The part
of the window that lies outside the list holds nothing. -/
def slice (values : ValueList) (offset : Int) (length : Option Int) : ValueList :=
  (values.slice? offset length).getD []

end ValueList

end ListMarkup
