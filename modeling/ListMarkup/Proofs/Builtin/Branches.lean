import ListMarkup.FunctionTable
import ListMarkup.Proofs.Arguments.Order

/-!
# The branch that is not taken

A conditional has its tests expanded, from left to right, and then the one branch that they
choose.  Nothing else in the call is looked at, so a template may call itself in a branch that
is not taken.

What is expanded is seen by an expander that keeps a record, and whose answers may even depend
on what is on record; if they do not, the record is that of the requests of the computation
(`Expansion.recorded_of_run`).  Whatever it answers, a call of a conditional puts the tests and the
chosen branch on record, as far as they are given, and comes to the trimmed expansion of that
branch (`FunctionTable.branch_not_taken`).  So two calls that agree on the tests and on the
chosen branch come to the same and leave the same record, whatever stands in the other branch
and after both.
-/

set_option autoImplicit false

namespace ListMarkup

/-! ## Reading arguments with a record -/

/-- Answers requests, knowing those that were made before. -/
abbrev RecordingExpander := (record : List Request) → Request → Text

/-- The answer to a request, which is on record from then on. -/
def RecordingExpander.answer (expander : RecordingExpander) (request : Request) :
    StateM (List Request) Text :=
  modifyGet fun record => (expander record request, record ++ [request])

namespace Expansion

variable {α β : Type}

theorem runM_bind {m : Type → Type} [Monad m] [LawfulMonad m] (expander : Request → m Text)
    (computation : Expansion α) (next : α → Expansion β) :
    (computation >>= next).runM expander =
      computation.runM expander >>= fun value => (next value).runM expander := by
  show (computation.andThen next).runM expander = _
  induction computation with
  | done value => exact (pure_bind value fun value => (next value).runM expander).symm
  | ask request resume ih =>
      simp only [andThen, runM, ih, bind_assoc]

variable (expander : RecordingExpander) (record : List Request)

/-- The value of a computation, and what is on record after it. -/
def recorded (computation : Expansion α) : α × List Request :=
  Id.run ((computation.runM expander.answer).run record)

theorem recorded_pure (value : α) :
    (pure value : Expansion α).recorded expander record = (value, record) := rfl

theorem recorded_expand (text : Text) :
    (expand text).recorded expander record =
      (expander record (.markup text), record ++ [.markup text]) := rfl

theorem recorded_bind (computation : Expansion α) (next : α → Expansion β) :
    (computation >>= next).recorded expander record =
      (next (computation.recorded expander record).1).recorded expander
        (computation.recorded expander record).2 := by
  rw [recorded, runM_bind, StateT.run_bind]
  rfl

/-- An expander that does not care about the record has the requests of the computation put on
it. -/
theorem recorded_of_run (expander : Expander) (computation : Expansion α) :
    ∀ record, computation.recorded (fun _ => expander) record =
      (computation.run expander, record ++ computation.requests expander) := by
  induction computation with
  | done value => exact fun record => congrArg (Prod.mk value) (List.append_nil record).symm
  | ask request resume ih =>
      intro record
      have rest := ih (expander request) (record ++ [request])
      rw [List.append_assoc] at rest
      exact rest

end Expansion

section Places

variable (expander : RecordingExpander) (record : List Request) (arguments : List Text)
  (place : Nat)

/-- The trimmed expansion of what is given at a place, which is empty when nothing is. -/
def expansionAt : Text :=
  match arguments[place]? with
  | none => []
  | some text => (expander record (.markup text)).trim

/-- What has to be asked for to read what is given at a place. -/
def requestsAt : List Request :=
  arguments[place]?.toList.map .markup

/-- Reads what is given at a place. -/
def readAt : Expansion Text :=
  match arguments[place]? with
  | none => pure []
  | some text => do
    let expansion ← Expansion.expand text
    pure expansion.trim

theorem recorded_readAt :
    (readAt arguments place).recorded expander record =
      (expansionAt expander record arguments place, record ++ requestsAt arguments place) := by
  unfold readAt expansionAt requestsAt
  cases arguments[place]? with
  | none =>
      rw [Expansion.recorded_pure, Option.toList_none, List.map_nil, List.append_nil]
  | some text =>
      rw [Expansion.recorded_bind, Expansion.recorded_expand, Expansion.recorded_pure]
      rfl

section Agree

variable {arguments place} {others : List Text} (agree : others[place]? = arguments[place]?)

include agree

theorem expansionAt_congr :
    expansionAt expander record others place = expansionAt expander record arguments place := by
  rw [expansionAt, expansionAt, agree]

theorem requestsAt_congr : requestsAt others place = requestsAt arguments place := by
  rw [requestsAt, requestsAt, agree]

end Agree

/-- A parameter that is expanded and has no default reads what is given at its place. -/
theorem Arguments.get_arrange {signature : Signature} (apart : signature.NamesApart)
    (style : signature.style = .positional) (name : String)
    (isAt : signature.parameters[place]? = some (Builtin.expandedParameter name)) :
    (signature.arrange arguments).get name.toList = readAt arguments place := by
  have declared : (signature.arrange arguments).signature.find? name.toList =
      some (Builtin.expandedParameter name) :=
    Signature.find?_name apart (List.mem_of_getElem? isAt)
  have given := Signature.lookup_arrange_eq_held? apart isAt arguments
  rw [Signature.held?, style] at given
  rw [get, declared]
  simp only [given, readAt]
  rfl

end Places

/-! ## Conditionals -/

namespace FunctionTable

/-- What a call of a function in the table comes to, and what is on record after it. -/
def recorded? (table : FunctionTable) (expander : RecordingExpander) (record : List Request)
    (name : String) (arguments : List Text) : Option (Text × List Request) :=
  (table.call? name.toList arguments).map (Expansion.recorded expander record)

variable (arguments : List Text)

open Builtin

/-- The branch that a test chooses is read after it. -/
theorem call?_if :
    builtin.call? "if".toList arguments =
      some (readAt arguments 0 >>= fun test => readAt arguments (if test = [] then 2 else 1)) := by
  have apart : conditionalSignature.NamesApart := by decide
  show some (conditional (conditionalSignature.arrange arguments)) = _
  rw [conditional, Arguments.get_arrange arguments 0 apart rfl "test" rfl,
    Arguments.get_arrange arguments 1 apart rfl "then" rfl,
    Arguments.get_arrange arguments 2 apart rfl "else" rfl]
  simp only [List.isEmpty_iff, apply_ite]

/-- The branch that two tests choose is read after them. -/
theorem call?_ifeq :
    builtin.call? "ifeq".toList arguments =
      some (readAt arguments 0 >>= fun left => readAt arguments 1 >>= fun right =>
        readAt arguments (if left = right then 2 else 3)) := by
  have apart : comparisonSignature.NamesApart := by decide
  show some (comparison (comparisonSignature.arrange arguments)) = _
  rw [comparison, Arguments.get_arrange arguments 0 apart rfl "left" rfl,
    Arguments.get_arrange arguments 1 apart rfl "right" rfl,
    Arguments.get_arrange arguments 2 apart rfl "then" rfl,
    Arguments.get_arrange arguments 3 apart rfl "else" rfl]
  simp only [apply_ite]

variable (expander : RecordingExpander) (record : List Request)

/-- The test is expanded and then the branch that it chooses. -/
theorem recorded?_if :
    let tested := record ++ requestsAt arguments 0
    let branch := if expansionAt expander record arguments 0 = [] then 2 else 1
    builtin.recorded? expander record "if" arguments =
      some (expansionAt expander tested arguments branch,
        tested ++ requestsAt arguments branch) := by
  intro tested branch
  rw [recorded?, call?_if, Option.map_some, Expansion.recorded_bind, recorded_readAt,
    recorded_readAt]

/-- Both tests are expanded and then the branch that they choose. -/
theorem recorded?_ifeq :
    let left := record ++ requestsAt arguments 0
    let tested := left ++ requestsAt arguments 1
    let branch := if expansionAt expander record arguments 0 =
      expansionAt expander left arguments 1 then 2 else 3
    builtin.recorded? expander record "ifeq" arguments =
      some (expansionAt expander tested arguments branch,
        tested ++ requestsAt arguments branch) := by
  intro left tested branch
  rw [recorded?, call?_ifeq, Option.map_some, Expansion.recorded_bind, recorded_readAt,
    Expansion.recorded_bind, recorded_readAt, recorded_readAt]

/-- **The branch that is not taken is not looked at.**  A conditional on one test has the test
expanded, and a conditional on two has both expanded in order; then the chosen branch is
expanded, and the call comes to its trimmed expansion.  What is not given is not expanded, and
stands for the empty text.  Any other arguments that agree with these on the tests and on the
branch that is chosen here come to the same and leave the same record. -/
theorem branch_not_taken :
    (let tested := record ++ requestsAt arguments 0
      let branch := if expansionAt expander record arguments 0 = [] then 2 else 1
      builtin.recorded? expander record "if" arguments =
          some (expansionAt expander tested arguments branch,
            tested ++ requestsAt arguments branch) ∧
        ∀ others : List Text, (∀ place ∈ [0, branch], others[place]? = arguments[place]?) →
          builtin.recorded? expander record "if" others =
            builtin.recorded? expander record "if" arguments) ∧
      let left := record ++ requestsAt arguments 0
      let tested := left ++ requestsAt arguments 1
      let branch := if expansionAt expander record arguments 0 =
        expansionAt expander left arguments 1 then 2 else 3
      builtin.recorded? expander record "ifeq" arguments =
          some (expansionAt expander tested arguments branch,
            tested ++ requestsAt arguments branch) ∧
        ∀ others : List Text, (∀ place ∈ [0, 1, branch], others[place]? = arguments[place]?) →
          builtin.recorded? expander record "ifeq" others =
            builtin.recorded? expander record "ifeq" arguments := by
  refine ⟨?one, ?two⟩
  case one =>
    intro tested branch
    refine ⟨recorded?_if arguments expander record, fun others agree => ?_⟩
    simp only [List.forall_mem_cons] at agree
    obtain ⟨test, chosen, -⟩ := agree
    rw [recorded?_if, recorded?_if, expansionAt_congr expander record test, requestsAt_congr test,
      expansionAt_congr expander _ chosen, requestsAt_congr chosen]
  case two =>
    intro left tested branch
    refine ⟨recorded?_ifeq arguments expander record, fun others agree => ?_⟩
    simp only [List.forall_mem_cons] at agree
    obtain ⟨first, second, chosen, -⟩ := agree
    rw [recorded?_ifeq, recorded?_ifeq, expansionAt_congr expander record first,
      requestsAt_congr first, expansionAt_congr expander _ second, requestsAt_congr second,
      expansionAt_congr expander _ chosen, requestsAt_congr chosen]

/-- An expander that answers with a space until something is on record, branches that are
missing or would not end, and an escape that is left as it is. -/
theorem branch_not_taken_loop :
    let expander : RecordingExpander := fun record request =>
      if record.isEmpty then " ".toList else request.toMarkup
    let loop := "\x7b\x7bloop\x7d\x7d".toList
    let chosen := " a\\_b ".toList
    builtin.recorded? expander [] "if" ["x".toList, loop, chosen, loop] =
        some ("a\\_b".toList, [.markup "x".toList, .markup chosen]) ∧
      builtin.recorded? expander [] "if" ["x".toList, [], chosen] =
        some ("a\\_b".toList, [.markup "x".toList, .markup chosen]) ∧
      builtin.recorded? expander [] "ifeq" ["x".toList, [], chosen] =
        some ("a\\_b".toList, [.markup "x".toList, .markup [], .markup chosen]) ∧
      builtin.recorded? expander [] "ifeq" ["x".toList, [], chosen, loop, loop] =
        some ("a\\_b".toList, [.markup "x".toList, .markup [], .markup chosen]) := by
  intro expander loop chosen
  obtain ⟨⟨one, alikeOne⟩, -⟩ :=
    branch_not_taken ["x".toList, loop, chosen, loop] expander []
  obtain ⟨-, two, alikeTwo⟩ := branch_not_taken ["x".toList, [], chosen] expander []
  have other := alikeOne ["x".toList, [], chosen] (by decide)
  have others := alikeTwo ["x".toList, [], chosen, loop, loop] (by decide)
  exact ⟨one, other.trans one, two, others.trans two⟩

end FunctionTable

end ListMarkup
