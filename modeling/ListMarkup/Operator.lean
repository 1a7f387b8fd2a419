import ListMarkup.Expansion
import ListMarkup.Pattern
import ListMarkup.ValueList.Distinct
import ListMarkup.ValueList.Membership
import ListMarkup.ValueList.Order

/-!
# Operators on values

An operator makes text of one value: it fills a pattern and expands it, calls a
template, or tells whether the value is in a set.  Filtering, mapping, sorting and
removing repetitions all work value by value through an operator, which also
learns the position of the value.
-/

set_option autoImplicit false

namespace ListMarkup

/-- What is done with one value. -/
inductive Operator where
  /-- Fills a pattern with the fields of the value and expands the result. -/
  | filling (pattern indexToken : Text) (tokens : List Text)
  /-- Calls a template with the fields as positional arguments. -/
  | calling (name : Text)
  /-- Answers one text for the members of a set and another for all else. -/
  | testing (members : ValueList) (caseSensitive : Bool) (whenIn whenOut : Text)

namespace Operator

/-- Applies an operator to the fields of a value. -/
def apply (operator : Operator) (fields : List Text) (index : Option Nat) : Expansion Text :=
  match operator with
  | .filling pattern indexToken tokens =>
    if pattern.isEmpty then pure (fields.headD [])
    else Expansion.expandUnescaped (Pattern.fill pattern indexToken index tokens fields)
  | .calling name =>
    let named :=
      match index with
      | some index => [("index".toList, Text.ofNat index)]
      | none => []
    Expansion.callTemplate { name, positional := fields, named }
  | .testing members caseSensitive whenIn whenOut =>
    pure (if members.includes caseSensitive (fields.headD []) then whenIn else whenOut)

/-- How many fields an operator can use; none means no limit. -/
def fieldLimit : Operator → Option Nat
  | .filling _ _ tokens => some (max tokens.length 1)
  | .calling _ => none
  | .testing _ _ _ _ => some 1

/-- Applies an operator to a whole value.  A pattern with one token takes the value
unsplit, and an empty pattern stands for the value. -/
def applyValue (operator : Operator) (value fieldSeparator : Text) (index : Option Nat) :
    Expansion Text :=
  match operator with
  | .filling pattern indexToken tokens =>
    if pattern.isEmpty then pure value
    else
      Expansion.expandUnescaped <|
        match tokens with
        | [token] => Pattern.fillValue pattern indexToken index token value
        | tokens => Pattern.fillFieldsOf pattern indexToken index tokens fieldSeparator value
  | operator => operator.apply (fieldsOf fieldSeparator value operator.fieldLimit) index

/-- The results for all values with their positions, in order, each beside its
value. -/
def results (operator : Operator) (fieldSeparator : Text) (values : ValueList) :
    Expansion (List (Text × Text)) :=
  values.zipIdx.mapM fun (value, place) => do
    let result ← operator.applyValue value fieldSeparator (some (place + 1))
    pure (result, value)

end Operator

namespace ValueList

/-- The results of an operator on the values, with or without the empty ones. -/
def mapBy (values : ValueList) (operator : Operator) (fieldSeparator : Text)
    (keepEmpty : Bool) : Expansion ValueList := do
  let results ← operator.results fieldSeparator values
  pure ((results.map Prod.fst).filter fun result => keepEmpty || !result.isEmpty)

/-- The result that takes a value out of a list. -/
def removal : Text := "remove".toList

/-- The values for which an operator does not ask for removal, in any case. -/
def filterBy (values : ValueList) (operator : Operator) (fieldSeparator : Text) :
    Expansion ValueList := do
  let results ← operator.results fieldSeparator values
  pure ((results.filter fun (result, _) => result.lower != removal).map Prod.snd)

/-- The values whose result under an operator repeats no earlier result. -/
def distinctBy (values : ValueList) (operator : Operator) (fieldSeparator : Text) :
    Expansion ValueList := do
  let results ← operator.results fieldSeparator values
  pure (firstOccurrences [] results)

/-- The values in the order of their results under an operator. -/
def sortBy (values : ValueList) (operator : Operator) (fieldSeparator : Text)
    (keyOrder : KeyOrder) : Expansion ValueList := do
  let results ← operator.results fieldSeparator values
  pure ((sortPairs results keyOrder).map Prod.snd)

end ValueList

end ListMarkup
