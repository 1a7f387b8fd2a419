import ListMarkup.Arguments

/-!
# Conditionals and transformations of one text

The branch of a conditional that is not taken is never expanded.
-/

set_option autoImplicit false

namespace ListMarkup.Builtin

/-- A parameter that is expanded and not unescaped. -/
def expandedParameter (name : String) : Parameter :=
  { name := name.toList, reading := .expanded }

/-- A parameter that is expanded and unescaped, with a default. -/
def plainParameter (name : String) (default : String := "") : Parameter :=
  { name := name.toList, default := default.toList }

/-- A positional signature. -/
def positional (parameters : List Parameter) : Signature :=
  { style := .positional, parameters }

/-- A test and two branches. -/
def conditionalSignature : Signature :=
  positional [expandedParameter "test", expandedParameter "then", expandedParameter "else"]

/-- The first branch when the test is not blank, and the second when it is. -/
def conditional (arguments : Arguments) : Expansion Text := do
  let test ← arguments.get "test".toList
  if test.isEmpty then arguments.get "else".toList else arguments.get "then".toList

/-- Two texts to compare and two branches. -/
def comparisonSignature : Signature :=
  positional
    [expandedParameter "left", expandedParameter "right", expandedParameter "then",
      expandedParameter "else"]

/-- The first branch when both texts are equal after trimming, else the second. -/
def comparison (arguments : Arguments) : Expansion Text := do
  let left ← arguments.get "left".toList
  let right ← arguments.get "right".toList
  if left = right then arguments.get "then".toList else arguments.get "else".toList

/-- One text. -/
def oneTextSignature : Signature :=
  positional [expandedParameter "text"]

/-- The one text of a call, transformed. -/
def transformed (transform : Text → Text) (arguments : Arguments) : Expansion Text := do
  let text ← arguments.get "text".toList
  pure (transform text)

end ListMarkup.Builtin
