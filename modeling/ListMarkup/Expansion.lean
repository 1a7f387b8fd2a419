import ListMarkup.Text.Escaped

/-!
# Asking for expansions

List functions never expand markup themselves.  A computation that needs markup
expanded asks for it and goes on with the answer, so that it is the same whoever
answers: a page with templates, a function on text, or a reader that records the
questions.  The requests are made in a definite order, which is part of what a
computation does.
-/

set_option autoImplicit false

namespace ListMarkup

/-- A call of a template with arguments that are already expanded.  Positional
arguments are numbered from 1. -/
structure TemplateCall where
  name : Text
  positional : List Text := []
  named : List (Text × Text) := []

namespace TemplateCall

/-- The arguments under their names, positional ones under their numbers. -/
def arguments (call : TemplateCall) : List (Text × Text) :=
  call.positional.mapIdx (fun place value => (Text.ofNat (place + 1), value)) ++ call.named

/-- The call written as markup.  It reads back as the same call only when no
argument holds markup of its own. -/
def toMarkup (call : TemplateCall) : Text :=
  "\x7b\x7b".toList ++ call.name ++
    call.arguments.flatMap (fun (name, value) => '|' :: name ++ '=' :: value) ++ "\x7d\x7d".toList

end TemplateCall

/-- What a computation may ask for. -/
inductive Request where
  /-- The expansion of markup. -/
  | markup (text : Text)
  /-- The result of a template. -/
  | template (call : TemplateCall)

/-- The markup whose expansion answers a request. -/
def Request.toMarkup : Request → Text
  | .markup text => text
  | .template call => call.toMarkup

/-! ## Computations that ask -/

/-- A computation that asks for expansions on its way to a value. -/
inductive Expansion (α : Type) where
  | done (value : α)
  | ask (request : Request) (resume : Text → Expansion α)

namespace Expansion

variable {α β : Type}

/-- Goes on with the value of the first computation. -/
def andThen : Expansion α → (α → Expansion β) → Expansion β
  | .done value, next => next value
  | .ask request resume, next => .ask request fun answer => (resume answer).andThen next

instance : Monad Expansion where
  pure := .done
  bind := andThen

theorem andThen_done (computation : Expansion α) : computation.andThen .done = computation := by
  induction computation with
  | done value => rfl
  | ask request resume ih => simp only [andThen, ih]

theorem andThen_assoc {γ : Type} (computation : Expansion α) (next : α → Expansion β)
    (last : β → Expansion γ) :
    (computation.andThen next).andThen last =
      computation.andThen fun value => (next value).andThen last := by
  induction computation with
  | done value => rfl
  | ask request resume ih => simp only [andThen, ih]

instance : LawfulMonad Expansion :=
  LawfulMonad.mk' Expansion (fun computation => andThen_done computation)
    (fun _ _ => rfl) andThen_assoc

/-- Asks for the expansion of markup. -/
def expand (text : Text) : Expansion Text :=
  .ask (.markup text) .done

/-- Asks for the expansion of text whose escapes are undone first. -/
def expandUnescaped (text : Text) : Expansion Text :=
  expand text.unescape

/-- Asks for the result of a template. -/
def callTemplate (call : TemplateCall) : Expansion Text :=
  .ask (.template call) .done

end Expansion

/-! ## Answering -/

/-- Answers requests. -/
abbrev Expander := Request → Text

/-- The expander that expands markup by a function and reads template calls as
markup. -/
def Expander.ofMarkup (expandMarkup : Text → Text) : Expander :=
  fun request => expandMarkup request.toMarkup

namespace Expansion

variable {α β : Type}

/-- The value of a computation whose requests an expander answers. -/
def run (expander : Expander) : Expansion α → α
  | .done value => value
  | .ask request resume => (resume (expander request)).run expander

/-- The value of a computation whose requests are answered with effects. -/
def runM {m : Type → Type} [Monad m] (expander : Request → m Text) : Expansion α → m α
  | .done value => pure value
  | .ask request resume => do
    let answer ← expander request
    (resume answer).runM expander

/-- The requests that a computation makes, in order. -/
def requests (expander : Expander) : Expansion α → List Request
  | .done _ => []
  | .ask request resume => request :: (resume (expander request)).requests expander

@[simp] theorem run_pure (expander : Expander) (value : α) :
    (pure value : Expansion α).run expander = value := rfl

@[simp] theorem run_bind (expander : Expander) (computation : Expansion α)
    (next : α → Expansion β) :
    (computation >>= next).run expander = (next (computation.run expander)).run expander := by
  show (computation.andThen next).run expander = _
  induction computation with
  | done value => rfl
  | ask request resume ih => exact ih (expander request)

@[simp] theorem run_map (expander : Expander) (f : α → β) (computation : Expansion α) :
    (f <$> computation).run expander = f (computation.run expander) := by
  rw [map_eq_pure_bind, run_bind, run_pure]

/-- Computations for the members of a list ask one after the other. -/
theorem run_mapM (expander : Expander) (step : α → Expansion β) (members : List α) :
    (members.mapM step).run expander = members.map fun member => (step member).run expander := by
  induction members with
  | nil => rfl
  | cons member members ih =>
      rw [List.mapM_cons, run_bind, run_bind, ih]
      rfl

/-- Answers without effects are the answers of an expander. -/
@[simp] theorem runM_pure {m : Type → Type} [Monad m] [LawfulMonad m] (expander : Expander)
    (computation : Expansion α) :
    computation.runM (fun request => (pure (expander request) : m Text)) =
      pure (computation.run expander) := by
  induction computation with
  | done value => rfl
  | ask request resume ih => simp only [runM, run, pure_bind, ih]

@[simp] theorem requests_pure (expander : Expander) (value : α) :
    (pure value : Expansion α).requests expander = [] := rfl

@[simp] theorem requests_bind (expander : Expander) (computation : Expansion α)
    (next : α → Expansion β) :
    (computation >>= next).requests expander =
      computation.requests expander ++ (next (computation.run expander)).requests expander := by
  show (computation.andThen next).requests expander = _
  induction computation with
  | done value => rfl
  | ask request resume ih => exact congrArg (request :: ·) (ih (expander request))

end Expansion

end ListMarkup
