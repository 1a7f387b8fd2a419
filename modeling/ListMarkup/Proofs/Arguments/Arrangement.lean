import ListMarkup.Proofs.Arguments.Reading
import ListMarkup.Proofs.Text.Named

/-!
# What is given for a parameter

In the named style a parameter has the text of the last argument that names it.  When no
argument does, the first parameter has the first argument that names none, and any other
parameter has nothing (`Signature.lookup_arrange_named`).  An argument that names one parameter
is therefore nothing to the others (`Signature.lookup_arrange_insert`).
-/

set_option autoImplicit false

namespace ListMarkup.Signature

variable (signature : Signature)

/-- The text of an argument that names a parameter. -/
def named? (name argument : Text) : Option Text :=
  (signature.splitNamed? argument).bind fun (parameter, text) =>
    if parameter.name = name then some text else none

/-- The text of the last argument that names a parameter. -/
def lastNamed? (name : Text) : List Text → Option Text
  | [] => none
  | argument :: rest => (lastNamed? name rest).or (signature.named? name argument)

/-- Whether an argument names no parameter. -/
def isUnnamed (argument : Text) : Bool :=
  (signature.splitNamed? argument).isNone

/-- The first argument that names no parameter, if it counts for this one. -/
def firstUnnamed? (name : Text) (arguments : List Text) : Option Text :=
  if (signature.parameters.head?.map Parameter.name) = some name then
    arguments.find? signature.isUnnamed
  else none

/-- What is given already stays. -/
theorem lookup_giveIfAbsent (given : Given) (parameter : Parameter) (name text : Text) :
    (giveIfAbsent given parameter text).lookup name =
      (given.lookup name).or (if parameter.name = name then some text else none) :=
  lookup_unless_present given parameter.name name text

/-- The texts given after an argument that names no parameter. -/
def giveUnnamed (unnamedSeen : Bool) (given : Given) (argument : Text) : Given :=
  match unnamedSeen, signature.parameters with
  | false, parameter :: _ => giveIfAbsent given parameter argument
  | _, _ => given

theorem lookup_giveUnnamed (unnamedSeen : Bool) (given : Given) (name argument : Text) :
    (signature.giveUnnamed unnamedSeen given argument).lookup name =
      (given.lookup name).or
        (if unnamedSeen then none
          else if (signature.parameters.head?.map Parameter.name) = some name then some argument
          else none) := by
  unfold giveUnnamed
  cases unnamedSeen with
  | true => exact Option.or_none.symm
  | false =>
      cases signature.parameters with
      | nil => exact Option.or_none.symm
      | cons parameter _ =>
          simp only [lookup_giveIfAbsent, List.head?_cons, Option.map_some, Option.some.injEq,
            Bool.false_eq_true, if_false]

variable {signature} {argument : Text}

theorem arrangeNamed_cons_named {parameter : Parameter} {text : Text}
    (named : signature.splitNamed? argument = some (parameter, text)) (unnamedSeen : Bool)
    (given : Given) (rest : List Text) :
    signature.arrangeNamed unnamedSeen given (argument :: rest) =
      signature.arrangeNamed unnamedSeen ((parameter.name, text) :: given) rest := by
  simp only [arrangeNamed, named]

theorem arrangeNamed_cons_unnamed (unnamed : signature.splitNamed? argument = none)
    (unnamedSeen : Bool) (given : Given) (rest : List Text) :
    signature.arrangeNamed unnamedSeen given (argument :: rest) =
      signature.arrangeNamed true (signature.giveUnnamed unnamedSeen given argument) rest := by
  simp only [arrangeNamed, unnamed]
  rfl

theorem isUnnamed_of_named {named : Parameter × Text}
    (isNamed : signature.splitNamed? argument = some named) :
    ¬ signature.isUnnamed argument = true := by
  rw [isUnnamed, isNamed]
  exact Bool.false_ne_true

/-- An argument that names a parameter is not the first that names none. -/
theorem firstUnnamed?_insert {named : Parameter × Text}
    (isNamed : signature.splitNamed? argument = some named) (name : Text)
    (before after : List Text) :
    signature.firstUnnamed? name (before ++ argument :: after) =
      signature.firstUnnamed? name (before ++ after) := by
  rw [firstUnnamed?, List.find?_append, List.find?_cons_of_neg (isUnnamed_of_named isNamed),
    ← List.find?_append, firstUnnamed?]

theorem firstUnnamed?_cons_unnamed (unnamed : signature.splitNamed? argument = none)
    (name : Text) (rest : List Text) :
    signature.firstUnnamed? name (argument :: rest) =
      if (signature.parameters.head?.map Parameter.name) = some name then some argument
      else none := by
  have found : signature.isUnnamed argument = true := by
    rw [isUnnamed, unnamed]
    rfl
  rw [firstUnnamed?, List.find?_cons_of_pos found]

/-! ## All arguments -/

variable (signature)

/-- What is given for a parameter in the end: the last text under its name, or else what was
given before, or else the first argument without a name. -/
theorem lookup_arrangeNamed (name : Text) (arguments : List Text) :
    ∀ (unnamedSeen : Bool) (given : Given),
      (signature.arrangeNamed unnamedSeen given arguments).lookup name =
        (signature.lastNamed? name arguments).or ((given.lookup name).or
          (if unnamedSeen then none else signature.firstUnnamed? name arguments)) := by
  induction arguments with
  | nil =>
      intro unnamedSeen given
      have nothing : (if unnamedSeen then none else signature.firstUnnamed? name []) = none := by
        simp [firstUnnamed?]
      rw [nothing, Option.or_none]
      rfl
  | cons argument rest ih =>
      intro unnamedSeen given
      rw [lastNamed?, named?]
      cases split : signature.splitNamed? argument with
      | some named =>
          have passed := firstUnnamed?_insert split name [] rest
          rw [List.nil_append, List.nil_append] at passed
          rw [arrangeNamed_cons_named split, ih, lookup_cons_eq, passed]
          simp only [Option.bind_some, Option.or_assoc]
      | none =>
          rw [arrangeNamed_cons_unnamed split, ih, lookup_giveUnnamed,
            firstUnnamed?_cons_unnamed split]
          simp only [Option.bind_none, if_true, Option.or_none]

/-- What is given in a call in the named style. -/
theorem lookup_arrange_named (style : signature.style = .named) (name : Text)
    (arguments : List Text) :
    (signature.arrange arguments).given.lookup name =
      (signature.lastNamed? name arguments).or (signature.firstUnnamed? name arguments) := by
  unfold arrange
  simp only [style]
  exact signature.lookup_arrangeNamed name arguments false []

/-! ## Arguments that name a parameter -/

theorem lastNamed?_append (name : Text) (before after : List Text) :
    signature.lastNamed? name (before ++ after) =
      (signature.lastNamed? name after).or (signature.lastNamed? name before) := by
  induction before with
  | nil => exact Option.or_none.symm
  | cons argument before ih =>
      rw [List.cons_append, lastNamed?, ih, lastNamed?, Option.or_assoc]

variable {signature} {parameter : Parameter} {text : Text}
  (named : signature.splitNamed? argument = some (parameter, text))

include named

theorem named?_eq (name : Text) :
    signature.named? name argument = if parameter.name = name then some text else none := by
  rw [named?, named]
  rfl

/-- An argument that names one parameter is nothing to the others. -/
theorem lookup_arrange_insert (style : signature.style = .named) {name : Text}
    (other : parameter.name ≠ name) (before after : List Text) :
    (signature.arrange (before ++ argument :: after)).given.lookup name =
      (signature.arrange (before ++ after)).given.lookup name := by
  have nothing : signature.named? name argument = none := by
    rw [named?_eq named, if_neg other]
  rw [lookup_arrange_named signature style, lookup_arrange_named signature style,
    firstUnnamed?_insert named, lastNamed?_append, lastNamed?_append, lastNamed?, nothing,
    Option.or_none]

/-- The last argument that names a parameter counts. -/
theorem lookup_arrange_last (style : signature.style = .named) {before after : List Text}
    (last : signature.lastNamed? parameter.name after = none) :
    (signature.arrange (before ++ argument :: after)).given.lookup parameter.name =
      some text := by
  rw [lookup_arrange_named signature style, lastNamed?_append, lastNamed?, last,
    named?_eq named, if_pos rfl, Option.none_or, Option.some_or, Option.some_or]

theorem value_arrange_insert (expander : Expander) (style : signature.style = .named)
    {name : Text} (other : parameter.name ≠ name) (before after : List Text) :
    (signature.arrange (before ++ argument :: after)).value expander name =
      (signature.arrange (before ++ after)).value expander name := by
  refine Arguments.value_congr expander ?_ (lookup_arrange_insert named style other before after)
  rfl

theorem value_arrange_last (expander : Expander) (style : signature.style = .named)
    (declared : signature.find? parameter.name = some parameter) {before after : List Text}
    (last : signature.lastNamed? parameter.name after = none) :
    (signature.arrange (before ++ argument :: after)).value expander parameter.name =
      parameter.reading.value expander text := by
  have found : (signature.arrange (before ++ argument :: after)).signature.find? parameter.name =
      some parameter := declared
  rw [Arguments.value_of_declared expander found, lookup_arrange_last named style last]
  rfl

/-- Calls in which one argument differs, and names the same parameter in both. -/
theorem alikeExcept_arrange (style : signature.style = .named) {argument' text' : Text}
    (named' : signature.splitNamed? argument' = some (parameter, text'))
    (before after : List Text) :
    Arguments.AlikeExcept parameter.name (signature.arrange (before ++ argument :: after))
      (signature.arrange (before ++ argument' :: after)) where
  signature := rfl
  given name other := by
    rw [lookup_arrange_insert named style other.symm,
      lookup_arrange_insert named' style other.symm]

end ListMarkup.Signature
