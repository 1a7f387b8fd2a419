import ListMarkup.Keyword
import ListMarkup.Number.Numeral
import ListMarkup.ValueList.Basic

/-!
# Sorting values

Values are compared by the number they start with or by their characters.  The
comparison by characters goes by code point, of the values themselves or of their
lower case.  Descending order turns every comparison around.  Sorting is stable:
values that compare equal keep their order.
-/

set_option autoImplicit false

namespace ListMarkup

/-- How values are compared. -/
structure SortOptions where
  numeric : Bool := false
  caseSensitive : Bool := false
  descending : Bool := false

namespace SortOptions

/-- The keywords of a comparison. -/
def keywords : Keywords SortOptions :=
  [("numeric".toList, fun options => { options with numeric := true }),
   ("alpha".toList, fun options => { options with numeric := false }),
   ("cs".toList, fun options => { options with caseSensitive := true }),
   ("ncs".toList, fun options => { options with caseSensitive := false }),
   ("desc".toList, fun options => { options with descending := true }),
   ("asc".toList, fun options => { options with descending := false })]

/-- The sort options that the words of a text give. -/
def ofText (text : Text) : SortOptions :=
  keywords.decode {} text

/-- The comparison in ascending order.  By number, case does not matter, and values that do
not compare would count as equal. -/
def ascendingOrder (options : SortOptions) (left right : Text) : Ordering :=
  if options.numeric then (left.numericValue.compare? right.numericValue).getD .eq
  else compare (Text.fold options.caseSensitive left) (Text.fold options.caseSensitive right)

/-- The comparison that the options describe. -/
def order (options : SortOptions) (left right : Text) : Ordering :=
  if options.descending then (options.ascendingOrder left right).swap
  else options.ascendingOrder left right

end SortOptions

/-- A comparison of keys, with an optional comparison of values for equal keys. -/
structure KeyOrder where
  primary : SortOptions
  secondary : Option SortOptions := none

/-- The comparison of values that stand under a key. -/
def KeyOrder.order (keyOrder : KeyOrder) (left right : Text × Text) : Ordering :=
  match keyOrder.primary.order left.1 right.1, keyOrder.secondary with
  | .eq, some secondary => secondary.order left.2 right.2
  | unequal, _ => unequal

namespace ValueList

/-- The values in the order that the options describe. -/
def sort (values : ValueList) (options : SortOptions) : ValueList :=
  values.mergeSort fun left right => (options.order left right).isLE

/-- Values under keys, in the order of the keys. -/
def sortPairs (pairs : List (Text × Text)) (keyOrder : KeyOrder) : List (Text × Text) :=
  pairs.mergeSort fun left right => (keyOrder.order left right).isLE

end ValueList

end ListMarkup
