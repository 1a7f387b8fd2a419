import ListMarkup.Arguments
import ListMarkup.Operator

/-!
# Presenting a result

A list function of the named style joins its values with a separator, and the last
two with a conjunction when one is given, between an introduction and a closing text
that may tell the number of values.  A list without values gives the default text.
-/

set_option autoImplicit false

namespace ListMarkup

/-- How a list is presented. -/
structure Output where
  separator : Text
  conjunction : Option Text
  countToken : Text
  intro : Text
  outro : Text
  default : Text

namespace Output

/-- The text of a list. -/
def render (output : Output) (values : ValueList) : Text :=
  if values.isEmpty then output.default
  else
    let withCount := Text.replace output.countToken values.count
    withCount output.intro ++ values.toText output.separator output.conjunction ++
      withCount output.outro

/-- The presentation that the arguments of a call ask for. -/
def ofArguments (arguments : Arguments) : Expansion Output := do
  let conjunction ← arguments.get "outconj".toList
  let separator ← arguments.get "outsep".toList
  let countToken ← arguments.get "counttoken".toList
  let intro ← arguments.get "intro".toList
  let outro ← arguments.get "outro".toList
  let default ← arguments.get "default".toList
  pure
    { separator, countToken, intro, outro, default
      conjunction := if arguments.isGiven "outconj".toList then some conjunction else none }

end Output

end ListMarkup
