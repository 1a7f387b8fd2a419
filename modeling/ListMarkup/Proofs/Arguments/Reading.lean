import ListMarkup.Arguments

/-!
# Values of arguments

With the answers of an expander every parameter of a call has a value: what is given for it,
expanded or not and with its escapes undone or not, or else its default
(`Arguments.value_of_declared`).  The value depends on what is given for that one parameter and
on nothing else in the call (`Arguments.get_congr`), so two calls that differ in one argument
agree about all other parameters (`Arguments.AlikeExcept.value`).
-/

set_option autoImplicit false

namespace ListMarkup

namespace Reading

variable (expander : Expander) (text : Text) (reading : Reading)

/-- What a text is worth to a parameter that reads it. -/
def value : Text :=
  let expansion := if reading.expand then expander (.markup text) else text
  if reading.unescape then expansion.trim.unescape else expansion.trim

/-- What has to be expanded to read a text. -/
def requests : List Request :=
  if reading.expand then [.markup text] else []

theorem run_read : (reading.read text).run expander = reading.value expander text := by
  unfold read value
  cases reading.expand <;> rfl

theorem requests_read : (reading.read text).requests expander = reading.requests text := by
  unfold read requests
  cases reading.expand <;> rfl

-- Text may have its escapes undone without being expanded.
example : ({ expand := false } : Reading).value (fun _ => []) " \\!a ".toList = "|a".toList := by
  decide

end Reading

namespace Parameter

/-- What a parameter is worth when a text is given for it, or none. -/
def value (expander : Expander) (parameter : Parameter) : Option Text → Text
  | none => parameter.default
  | some text => parameter.reading.value expander text

/-- What has to be expanded for a parameter when a text is given for it, or none. -/
def requests (parameter : Parameter) : Option Text → List Request
  | none => []
  | some text => parameter.reading.requests text

end Parameter

theorem Signature.name_of_find? {signature : Signature} {name : Text} {parameter : Parameter}
    (found : signature.find? name = some parameter) : parameter.name = name := by
  have same := List.find?_some found
  exact LawfulBEq.eq_of_beq same

namespace Arguments

variable (expander : Expander)

/-- The value of a parameter. -/
def value (arguments : Arguments) (name : Text) : Text :=
  (arguments.get name).run expander

@[simp] theorem run_get (arguments : Arguments) (name : Text) :
    (arguments.get name).run expander = arguments.value expander name := rfl

/-- A declared parameter is read from what is given for it. -/
theorem get_of_declared {arguments : Arguments} {name : Text} {parameter : Parameter}
    (declared : arguments.signature.find? name = some parameter) :
    arguments.get name =
      (arguments.given.lookup name).elim (pure parameter.default) parameter.reading.read := by
  unfold get
  simp only [declared, Signature.name_of_find? declared]
  cases arguments.given.lookup name <;> rfl

/-- The value of a declared parameter. -/
theorem value_of_declared {arguments : Arguments} {name : Text} {parameter : Parameter}
    (declared : arguments.signature.find? name = some parameter) :
    arguments.value expander name = parameter.value expander (arguments.given.lookup name) := by
  rw [value, get_of_declared declared]
  cases arguments.given.lookup name with
  | none => rfl
  | some text => exact parameter.reading.run_read expander text

/-- A text that is given for two parameters is worth the same to both when they read it alike. -/
theorem value_eq_of_given {left right : Arguments} {leftName rightName text : Text}
    {first second : Parameter} (isFirst : left.signature.find? leftName = some first)
    (isSecond : right.signature.find? rightName = some second)
    (givenFirst : left.given.lookup leftName = some text)
    (givenSecond : right.given.lookup rightName = some text)
    (alike : first.reading = second.reading) :
    left.value expander leftName = right.value expander rightName := by
  rw [value_of_declared expander isFirst, value_of_declared expander isSecond, givenFirst,
    givenSecond, Parameter.value, Parameter.value, alike]

/-- What has to be expanded for the value of a declared parameter. -/
theorem requests_of_declared {arguments : Arguments} {name : Text} {parameter : Parameter}
    (declared : arguments.signature.find? name = some parameter) :
    (arguments.get name).requests expander =
      parameter.requests (arguments.given.lookup name) := by
  rw [get_of_declared declared]
  cases arguments.given.lookup name with
  | none => rfl
  | some text => exact parameter.reading.requests_read expander text

/-- Whether a declared parameter is given. -/
theorem isGiven_of_declared {arguments : Arguments} {name : Text} {parameter : Parameter}
    (declared : arguments.signature.find? name = some parameter) :
    arguments.isGiven name = (arguments.given.lookup name).isSome := by
  unfold isGiven
  simp only [declared, Signature.name_of_find? declared]

/-- A parameter that is not declared has no value. -/
theorem get_of_undeclared {arguments : Arguments} {name : Text}
    (undeclared : arguments.signature.find? name = none) : arguments.get name = pure [] := by
  unfold get
  simp only [undeclared]

/-! ## Calls that say the same about a parameter -/

theorem get_congr {left right : Arguments} (signature : left.signature = right.signature)
    {name : Text} (given : left.given.lookup name = right.given.lookup name) :
    left.get name = right.get name := by
  cases declared : left.signature.find? name with
  | none => rw [get_of_undeclared declared, get_of_undeclared (signature ▸ declared)]
  | some parameter =>
      rw [get_of_declared declared, given, get_of_declared (signature ▸ declared)]

theorem value_congr {left right : Arguments} (signature : left.signature = right.signature)
    {name : Text} (given : left.given.lookup name = right.given.lookup name) :
    left.value expander name = right.value expander name :=
  congrArg (Expansion.run expander) (get_congr signature given)

theorem isGiven_congr {left right : Arguments} (signature : left.signature = right.signature)
    {name : Text} (given : left.given.lookup name = right.given.lookup name) :
    left.isGiven name = right.isGiven name := by
  cases declared : left.signature.find? name with
  | none =>
      unfold isGiven
      rw [← signature, declared]
  | some parameter =>
      rw [isGiven_of_declared declared, given, isGiven_of_declared (signature ▸ declared)]

/-- Two calls of one function that give the same for every parameter but one. -/
structure AlikeExcept (excepted : Text) (left right : Arguments) : Prop where
  signature : left.signature = right.signature
  given : ∀ name ≠ excepted, left.given.lookup name = right.given.lookup name

namespace AlikeExcept

variable {excepted : Text} {left right : Arguments} (alike : AlikeExcept excepted left right)

include alike

theorem value {name : Text} (other : name ≠ excepted) :
    left.value expander name = right.value expander name :=
  value_congr expander alike.signature (alike.given name other)

theorem isGiven {name : Text} (other : name ≠ excepted) :
    left.isGiven name = right.isGiven name :=
  isGiven_congr alike.signature (alike.given name other)

end AlikeExcept

end Arguments

end ListMarkup
