import ListMarkup.Builtin.Conditional
import ListMarkup.Stages
import ListMarkup.Operator
import ListMarkup.ValueList.Position

/-!
# List functions of the short form

These functions take their arguments by position: a list, its separator, and a few
texts.  Bad arguments never fail; they select nothing or fall back on a default.
-/

set_option autoImplicit false

namespace ListMarkup.Builtin

/-- The list that a function works on. -/
def listParameter : Parameter := expandedParameter "list"

/-- The separator that the list is written with. -/
def separatorParameter : Parameter := plainParameter "insep" ","

/-- The separator of the result. -/
def resultSeparatorParameter : Parameter := plainParameter "outsep" ", "

/-- The list and separator of a call. -/
def givenList (arguments : Arguments) : Expansion ValueList :=
  arguments.list "list".toList "insep".toList

/-- A list written with the separator of the result. -/
def joined (arguments : Arguments) (values : ValueList) : Expansion Text := do
  let separator ← arguments.get "outsep".toList
  pure (values.toText separator none)

/-- Whether a call asks for attention to case. -/
def caseSensitivity (arguments : Arguments) (name : Text) : Expansion Bool := do
  let words ← arguments.get name
  pure (asksForCase words)

/-! ## Counting, selecting and searching -/

def countSignature : Signature :=
  positional [listParameter, separatorParameter]

/-- The number of values. -/
def countValues (arguments : Arguments) : Expansion Text := do
  let values ← givenList arguments
  pure values.count

def countDistinctSignature : Signature :=
  positional [listParameter, separatorParameter, plainParameter "csoption"]

/-- The number of different values. -/
def countDistinct (arguments : Arguments) : Expansion Text := do
  let values ← givenList arguments
  let caseSensitive ← caseSensitivity arguments "csoption".toList
  pure (values.distinct caseSensitive).count

def elementSignature : Signature :=
  positional [listParameter, separatorParameter, plainParameter "index" "1"]

/-- The value at a position.  An index that is no integer selects nothing. -/
def element (arguments : Arguments) : Expansion Text := do
  let values ← givenList arguments
  let index ← arguments.integer? "index".toList
  pure (values.elementAt (index.getD 0))

def sublistSignature : Signature :=
  positional
    [listParameter, separatorParameter, resultSeparatorParameter, plainParameter "offset" "1",
      plainParameter "length"]

/-- A run of values.  A length that is no integer reaches to the end of the list. -/
def sublist (arguments : Arguments) : Expansion Text := do
  let values ← givenList arguments
  let offset ← arguments.integer? "offset".toList
  let length ← arguments.integer? "length".toList
  joined arguments (values.slice (offset.getD 1) length)

def findSignature : Signature :=
  positional [plainParameter "item", listParameter, separatorParameter, plainParameter "csoption"]

/-- The first value that matches an item, in the spelling of the list. -/
def findValue (arguments : Arguments) : Expansion Text := do
  let item ← arguments.get "item".toList
  let values ← givenList arguments
  let caseSensitive ← caseSensitivity arguments "csoption".toList
  pure ((values.find? item caseSensitive).getD [])

def positionSignature : Signature :=
  positional [plainParameter "item", listParameter, separatorParameter, plainParameter "options"]

/-- The position of an item, or the empty text when it is not in the list. -/
def position (arguments : Arguments) : Expansion Text := do
  let item ← arguments.get "item".toList
  let values ← givenList arguments
  let options ← arguments.get "options".toList
  pure (((values.positionOf? item (SearchOptions.ofText options)).map Text.ofInt).getD [])

/-! ## Joining, removing, sorting and mapping -/

def separateSignature : Signature :=
  positional [listParameter, separatorParameter, resultSeparatorParameter]

/-- The same values with a new separator. -/
def separate (arguments : Arguments) : Expansion Text := do
  let values ← givenList arguments
  joined arguments values

/-- A list with a value added, written with its own separator. -/
def added (add : ValueList → Text → ValueList) (arguments : Arguments) : Expansion Text := do
  let values ← givenList arguments
  let value ← arguments.get "value".toList
  let separator ← arguments.get "insep".toList
  pure ((add values value).toText separator none)

def appendSignature : Signature :=
  positional [listParameter, separatorParameter, plainParameter "value"]

def prependSignature : Signature :=
  positional [plainParameter "value", separatorParameter, listParameter]

def concatenateSignature : Signature :=
  positional
    [expandedParameter "list1", plainParameter "insep1" ",", expandedParameter "list2",
      plainParameter "insep2" ",", resultSeparatorParameter]

/-- The values of two lists, one list after the other. -/
def concatenate (arguments : Arguments) : Expansion Text := do
  let first ← arguments.list "list1".toList "insep1".toList
  let second ← arguments.list "list2".toList "insep2".toList
  joined arguments (first ++ second)

def distinctSignature : Signature :=
  positional
    [listParameter, separatorParameter, resultSeparatorParameter, plainParameter "csoption"]

/-- The list without repetitions. -/
def distinct (arguments : Arguments) : Expansion Text := do
  let values ← givenList arguments
  let caseSensitive ← caseSensitivity arguments "csoption".toList
  joined arguments (values.distinct caseSensitive)

/-- A set of values for comparison.  With the empty separator it has one member. -/
def memberSet (separator text : Text) : ValueList :=
  if separator.isEmpty then [text.unescape] else ValueList.ofText separator text

/-- The operator that removes what is not in a set. -/
def keeping (members : ValueList) (caseSensitive : Bool) : Operator :=
  .testing members caseSensitive [] ValueList.removal

/-- The operator that removes what is in a set. -/
def removing (members : ValueList) (caseSensitive : Bool) : Operator :=
  .testing members caseSensitive ValueList.removal []

def keepSignature : Signature :=
  positional
    [expandedParameter "values", plainParameter "valuesep" ",", listParameter,
      separatorParameter, resultSeparatorParameter, plainParameter "csoption"]

/-- The values that are in a set. -/
def keep (arguments : Arguments) : Expansion Text := do
  let members ← arguments.get "values".toList
  let memberSeparator ← arguments.get "valuesep".toList
  let caseSensitive ← caseSensitivity arguments "csoption".toList
  let values ← givenList arguments
  let kept ← values.filterBy (keeping (memberSet memberSeparator members) caseSensitive) []
  joined arguments kept

def removeSignature : Signature :=
  positional
    [plainParameter "value", listParameter, separatorParameter, resultSeparatorParameter,
      plainParameter "csoption"]

/-- The values that are not a given one. -/
def remove (arguments : Arguments) : Expansion Text := do
  let value ← arguments.get "value".toList
  let caseSensitive ← caseSensitivity arguments "csoption".toList
  let values ← givenList arguments
  let kept ← values.filterBy (removing [value] caseSensitive) []
  joined arguments kept

def sortSignature : Signature :=
  positional
    [listParameter, separatorParameter, resultSeparatorParameter, plainParameter "sortoptions"]

/-- The list in order. -/
def sort (arguments : Arguments) : Expansion Text := do
  let values ← givenList arguments
  let options ← arguments.get "sortoptions".toList
  joined arguments (values.sort (SortOptions.ofText options))

def mapPatternSignature : Signature :=
  positional
    [listParameter, separatorParameter, plainParameter "token" "x",
      { name := "pattern".toList, default := "x".toList, reading := .verbatim },
      resultSeparatorParameter, plainParameter "sortmode", plainParameter "sortoptions"]

/-- The pattern filled with every value; empty results are left out. -/
def mapPattern (arguments : Arguments) : Expansion Text := do
  let values ← givenList arguments
  let pattern ← arguments.get "pattern".toList
  let token ← arguments.get "token".toList
  let stages ← Stages.ofArguments arguments false
  let results ← stages.run values fun values =>
    values.mapBy (.filling pattern [] [token]) [] false
  joined arguments results

def mapTemplateSignature : Signature :=
  positional
    [listParameter, plainParameter "template", separatorParameter, resultSeparatorParameter,
      plainParameter "sortmode", plainParameter "sortoptions"]

/-- The template called on every value.  Without a template the values stay as they
are. -/
def mapTemplate (arguments : Arguments) : Expansion Text := do
  let values ← givenList arguments
  let template ← arguments.get "template".toList
  if template.isEmpty then joined arguments values
  else
    let stages ← Stages.ofArguments arguments false
    let results ← stages.run values fun values => values.mapBy (.calling template) [] true
    joined arguments results

end ListMarkup.Builtin
