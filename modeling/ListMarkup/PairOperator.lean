import ListMarkup.Operator
import ListMarkup.ValueList.Merge

/-!
# Operators on pairs of values

Merging needs text made of two values: to tell whether they match, and to combine
them.  A pattern has tokens of its own for each of the two values; a template gets
the fields of the first and then those of the second.
-/

set_option autoImplicit false

namespace ListMarkup

/-- What is done with a pair of values. -/
inductive PairOperator where
  | filling (pattern : Text) (firstTokens secondTokens : List Text)
  | calling (name : Text)

namespace PairOperator

/-- Applies an operator to two values. -/
def apply (operator : PairOperator) (first second fieldSeparator : Text) : Expansion Text :=
  match operator with
  | .filling pattern firstTokens secondTokens =>
    Expansion.expandUnescaped <|
      Pattern.fillTwo pattern
        firstTokens (fieldsOf fieldSeparator first (some firstTokens.length))
        secondTokens (fieldsOf fieldSeparator second (some secondTokens.length))
  | .calling name =>
    let fields :=
      if fieldSeparator.isEmpty then [first, second]
      else fieldsOf fieldSeparator (first ++ fieldSeparator ++ second) none
    (Operator.calling name).apply fields none

end PairOperator

/-- The rule by which two values match when one operator makes text of them that is
not blank, and are combined into the trimmed text of another. -/
def MergeRule.ofOperators (accepting combining : PairOperator) (fieldSeparator : Text) :
    MergeRule Expansion where
  accepts first second := do
    let text ← accepting.apply first second fieldSeparator
    pure !text.trim.isEmpty
  combine first second := do
    let text ← combining.apply first second fieldSeparator
    pure text.trim

end ListMarkup
