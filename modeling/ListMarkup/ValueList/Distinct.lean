import ListMarkup.Text.Case
import ListMarkup.ValueList.Basic

/-!
# Values without repetitions

Of the values that share a key only the first is kept.
-/

set_option autoImplicit false

namespace ListMarkup

/-- The values whose key has not been seen before, in order. -/
def firstOccurrences {κ α : Type} [BEq κ] (seen : List κ) : List (κ × α) → List α
  | [] => []
  | (key, value) :: rest =>
    if seen.contains key then firstOccurrences seen rest
    else value :: firstOccurrences (key :: seen) rest

/-- The list without the values that repeat an earlier one, up to case or exactly.
The first spelling is the one kept. -/
def ValueList.distinct (values : ValueList) (caseSensitive : Bool) : ValueList :=
  firstOccurrences [] (values.map fun value => (Text.fold caseSensitive value, value))

end ListMarkup
