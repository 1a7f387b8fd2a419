import ListMarkup.FunctionTable

/-!
# Answers of function calls

With the answers of an expander a call gives a text, if there is a function of that name.  Two
calls are answered alike when there are functions of both names and they give the same text,
which is a fact about the bodies of the functions once their names are looked up
(`FunctionTable.answeredAlike_of_run`).
-/

set_option autoImplicit false

namespace ListMarkup

/-- An argument given by name. -/
def namedArgument (name : String) (text : Text) : Text :=
  name.toList ++ '=' :: text

namespace FunctionTable

/-- The text that a call of a function in the table gives. -/
def answer? (table : FunctionTable) (expander : Expander) (name : String)
    (arguments : List Text) : Option Text :=
  (table.call? name.toList arguments).map (Expansion.run expander)

/-- Two calls of functions that are always there are answered by the same text. -/
def AnsweredAlike (expander : Expander) (first second : String × List Text) : Prop :=
  ∃ text, builtin.answer? expander first.1 first.2 = some text ∧
    builtin.answer? expander second.1 second.2 = some text

theorem answeredAlike_of_run {expander : Expander} {firstName secondName : String}
    {firstArguments secondArguments : List Text} {first second : ParserFunction}
    (isFirst : builtin.find? firstName.toList = some first)
    (isSecond : builtin.find? secondName.toList = some second)
    (same : (second.call secondArguments).run expander =
      (first.call firstArguments).run expander) :
    AnsweredAlike expander (firstName, firstArguments) (secondName, secondArguments) := by
  refine ⟨(first.call firstArguments).run expander, ?_, ?_⟩
  · simp only [answer?, call?, isFirst, Option.map_some]
  · simp only [answer?, call?, isSecond, Option.map_some, same]

end FunctionTable

end ListMarkup
