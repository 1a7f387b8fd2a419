import ListMarkup.Arguments
import ListMarkup.ValueList.Distinct
import ListMarkup.ValueList.Order

/-!
# Stages around a transformation

A list may be freed of repetitions and sorted before its values are transformed, and
again afterwards.  Before the transformation repetitions go first; the same holds
after it.  The keyword `sort` alone sorts before the transformation when that one
uses positions, and after it when it does not.
-/

set_option autoImplicit false

namespace ListMarkup

/-- When repetitions are removed. -/
structure Repetitions where
  stripBefore : Bool := false
  stripAfter : Bool := false

namespace Repetitions

/-- The keywords about repetitions. -/
def keywords : Keywords Repetitions :=
  [("keep".toList, fun _ => {}),
   ("strip".toList, fun _ => { stripBefore := true, stripAfter := true }),
   ("prestrip".toList, fun options => { options with stripBefore := true }),
   ("poststrip".toList, fun options => { options with stripAfter := true })]

/-- The choice that the words of a text make. -/
def ofText (text : Text) : Repetitions :=
  keywords.decode {} text

end Repetitions

/-- When values are sorted, as far as keywords say. -/
structure SortMode where
  before : Bool := false
  after : Bool := false
  /-- Sort once, at the time that suits the transformation. -/
  once : Bool := false

namespace SortMode

/-- The keywords about the time of sorting. -/
def keywords : Keywords SortMode :=
  [("nosort".toList, fun _ => {}),
   ("sort".toList, fun options => { options with once := true }),
   ("presort".toList, fun options => { options with before := true }),
   ("postsort".toList, fun options => { options with after := true })]

/-- The choice that the words of a text make. -/
def ofText (text : Text) : SortMode :=
  keywords.decode {} text

/-- Whether to sort before and whether to sort after a transformation, given whether
it uses positions. -/
def resolve (mode : SortMode) (usesPositions : Bool) : Bool × Bool :=
  (mode.before || mode.once && usesPositions, mode.after || mode.once && !usesPositions)

end SortMode

/-- What happens around a transformation. -/
structure Stages where
  repetitions : Repetitions
  sortBefore : Bool
  sortAfter : Bool
  sortOptions : SortOptions

namespace Stages

/-- The stages that the arguments of a call ask for. -/
def ofArguments (arguments : Arguments) (usesPositions : Bool) : Expansion Stages := do
  let mode := SortMode.ofText (← arguments.get "sortmode".toList)
  let repetitions := Repetitions.ofText (← arguments.get "duplicates".toList)
  let sortOptions := SortOptions.ofText (← arguments.get "sortoptions".toList)
  let (sortBefore, sortAfter) := mode.resolve usesPositions
  pure { repetitions, sortBefore, sortAfter, sortOptions }

/-- The list without repetitions and sorted, each when asked for. -/
def tidy (stages : Stages) (strip sort : Bool) (values : ValueList) : ValueList :=
  let stripped := if strip then values.distinct true else values
  if sort then stripped.sort stages.sortOptions else stripped

/-- Runs a transformation between the stages. -/
def run (stages : Stages) (values : ValueList)
    (transform : ValueList → Expansion ValueList) : Expansion ValueList := do
  let prepared := stages.tidy stages.repetitions.stripBefore stages.sortBefore values
  let transformed ← transform prepared
  pure (stages.tidy stages.repetitions.stripAfter stages.sortAfter transformed)

end Stages

end ListMarkup
