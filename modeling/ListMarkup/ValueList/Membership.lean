import ListMarkup.Keyword
import ListMarkup.ValueList.Basic

/-!
# Searching a list

A value matches an item when both have the same folded form: they are equal, or
equal in lower case when case does not matter.
-/

set_option autoImplicit false

namespace ListMarkup

/-- How an item is looked for, and how its position is given. -/
structure SearchOptions where
  /-- The position counts back from the end. -/
  fromEnd : Bool := false
  caseSensitive : Bool := false
  /-- The search starts at the end. -/
  backwards : Bool := false

namespace SearchOptions

/-- The keywords of a search. -/
def keywords : Keywords SearchOptions :=
  [("neg".toList, fun options => { options with fromEnd := true }),
   ("pos".toList, fun options => { options with fromEnd := false }),
   ("cs".toList, fun options => { options with caseSensitive := true }),
   ("ncs".toList, fun options => { options with caseSensitive := false }),
   ("desc".toList, fun options => { options with backwards := true }),
   ("asc".toList, fun options => { options with backwards := false })]

/-- The search options that the words of a text give. -/
def ofText (text : Text) : SearchOptions :=
  keywords.decode {} text

end SearchOptions

/-- Whether a value is the item looked for. -/
def Text.isItem (caseSensitive : Bool) (item value : Text) : Bool :=
  Text.fold caseSensitive value == Text.fold caseSensitive item

namespace ValueList

/-- The first value that matches an item, as it is spelled in the list. -/
def find? (values : ValueList) (item : Text) (caseSensitive : Bool) : Option Text :=
  List.find? (Text.isItem caseSensitive item) values

/-- Whether a value matches a member of the list. -/
def includes (values : ValueList) (caseSensitive : Bool) (value : Text) : Bool :=
  values.any (Text.isItem caseSensitive value)

/-- The place, counted from 0, of the first or the last value that matches. -/
def placeOf? (values : ValueList) (item : Text) (options : SearchOptions) : Option Nat :=
  if options.backwards then
    (values.reverse.findIdx? (Text.isItem options.caseSensitive item)).map fun place =>
      values.length - 1 - place
  else values.findIdx? (Text.isItem options.caseSensitive item)

/-- The position of the first or the last value that matches, counted from the
start or back from the end. -/
def positionOf? (values : ValueList) (item : Text) (options : SearchOptions) : Option Int :=
  (values.placeOf? item options).map fun place =>
    if options.fromEnd then (place : Int) - values.length else place + 1

end ValueList

end ListMarkup
