import ListMarkup.Proofs.Arguments.Arrangement
import ListMarkup.Proofs.Builtin.Forms
import ListMarkup.Proofs.FunctionTable.Answers
import ListMarkup.Proofs.ValueList.Distinct
import ListMarkup.Proofs.ValueList.Selection

/-!
# Removing repetitions around sorting

A call of `listsort` that has no operator sorts the values themselves.  It may be told to remove
repetitions before sorting, after sorting, or both times.  Sorting is stable, so the three ways
leave the same values in the same order (`Repetitions.sort_of_strips`), and the call gives the
same text (`FunctionTable.sort_commutes_with_selection`).
-/

set_option autoImplicit false

namespace ListMarkup

/-- The values in order, with repetitions removed before sorting and after it when asked for. -/
def Repetitions.sort (repetitions : Repetitions) (options : SortOptions) (values : ValueList) :
    ValueList :=
  let sorted := (if repetitions.stripBefore then values.distinct true else values).sort options
  if repetitions.stripAfter then sorted.distinct true else sorted

/-- Whether repetitions are removed at all. -/
def Repetitions.strips (repetitions : Repetitions) : Bool :=
  repetitions.stripBefore || repetitions.stripAfter

/-- When repetitions are removed does not matter. -/
theorem Repetitions.sort_of_strips {repetitions : Repetitions} (strips : repetitions.strips = true)
    (options : SortOptions) (values : ValueList) :
    repetitions.sort options values = (values.distinct true).sort options := by
  obtain ⟨before, after⟩ := repetitions
  cases before <;> cases after
  case false.false => cases strips
  case true.false => rfl
  case false.true => exact (ValueList.sort_distinct options values).symm
  case true.true =>
    calc ((values.distinct true).sort options).distinct true
      _ = ((values.distinct true).distinct true).sort options :=
          (ValueList.sort_distinct options (values.distinct true)).symm
      _ = (values.distinct true).sort options := by rw [ValueList.distinct_distinct]

/-! ## Calls -/

namespace Builtin

variable {expander : Expander}

/-- Without an operator the values themselves are sorted. -/
theorem run_listSort_of_none {arguments : Arguments}
    (none : (operator? arguments).run expander = none) :
    (listSort arguments).run expander =
      if (arguments.values expander).isEmpty then (arguments.output expander).default
      else (arguments.output expander).render
        ((Repetitions.ofText (arguments.value expander "duplicates".toList)).sort
          (SortOptions.ofText (arguments.value expander "sortoptions".toList))
          (arguments.values expander)) := by
  rw [listSort, run_presented]
  simp only [Expansion.run_bind, Expansion.run_pure, Arguments.run_get, none]
  rfl

/-- Two calls that only differ in when they remove repetitions. -/
theorem run_listSort_congr {left right : Arguments}
    (alike : left.AlikeExcept "duplicates".toList right)
    (template : left.value expander "template".toList = [])
    (pattern : left.value expander "pattern".toList = [])
    (stripsLeft :
      (Repetitions.ofText (left.value expander "duplicates".toList)).strips = true)
    (stripsRight :
      (Repetitions.ofText (right.value expander "duplicates".toList)).strips = true) :
    (listSort left).run expander = (listSort right).run expander := by
  have noneLeft := run_operator?_of_none template pattern
  rw [alike.value expander (by decide)] at template pattern
  have noneRight := run_operator?_of_none template pattern
  rw [run_listSort_of_none noneLeft, run_listSort_of_none noneRight,
    Repetitions.sort_of_strips stripsLeft, Repetitions.sort_of_strips stripsRight,
    alike.values expander (by decide), alike.output expander (by decide),
    alike.value expander (by decide)]

end Builtin

namespace FunctionTable

open Builtin

/-- The words that ask for repetitions to be removed, once or twice. -/
def strippingWords : List Text :=
  ["prestrip".toList, "poststrip".toList, "strip".toList]

theorem strips_of_mem_strippingWords {word : Text} (member : word ∈ strippingWords) :
    (Repetitions.ofText word).strips = true := by
  revert word
  decide

theorem splitNamed?_duplicates (text : Text) :
    listSortSignature.splitNamed? (namedArgument "duplicates" text) =
      some (plainParameter "duplicates", text) := rfl

/-- A call removes repetitions when the last argument about them is one of the words, and the
word keeps its meaning when it is expanded. -/
theorem strips_of_last {expander : Expander} {word : Text} (member : word ∈ strippingWords)
    (meaning :
      Repetitions.ofText (Reading.unescaped.value expander word) = Repetitions.ofText word)
    (before : List Text) {after : List Text}
    (last : listSortSignature.lastNamed? "duplicates".toList after = none) :
    (Repetitions.ofText ((listSortSignature.arrange
      (before ++ namedArgument "duplicates" word :: after)).value expander
        "duplicates".toList)).strips = true := by
  have value : (listSortSignature.arrange
      (before ++ namedArgument "duplicates" word :: after)).value expander
        "duplicates".toList = Reading.unescaped.value expander word :=
    Signature.value_arrange_last (splitNamed?_duplicates word) expander rfl rfl last
  rw [value, meaning]
  exact strips_of_mem_strippingWords member

/-- Removing repetitions, and selecting by membership, before sorting or after it.  A call of
`listsort` without a template and without a pattern gives the same text for each of the words
that remove repetitions, as long as the word keeps its meaning when it is expanded. -/
theorem sort_commutes_with_selection :
    (∀ (options : SortOptions) (values : ValueList),
      (values.distinct true).sort options = (values.sort options).distinct true) ∧
    (∀ (options : SortOptions) (members : ValueList) (caseSensitive : Bool)
      (whenIn whenOut fieldSeparator : Text) (values : ValueList),
      (values.sort options).filterBy (.testing members caseSensitive whenIn whenOut)
          fieldSeparator =
        (fun kept => kept.sort options) <$>
          values.filterBy (.testing members caseSensitive whenIn whenOut) fieldSeparator) ∧
    (∀ (expander : Expander) (before after : List Text),
      (∀ word ∈ strippingWords,
        Repetitions.ofText (Reading.unescaped.value expander word) = Repetitions.ofText word) →
      listSortSignature.lastNamed? "duplicates".toList after = none →
      (listSortSignature.arrange (before ++ after)).value expander "template".toList = [] →
      (listSortSignature.arrange (before ++ after)).value expander "pattern".toList = [] →
      ∀ first ∈ strippingWords, ∀ second ∈ strippingWords,
        AnsweredAlike expander ("listsort", before ++ namedArgument "duplicates" first :: after)
          ("listsort", before ++ namedArgument "duplicates" second :: after)) := by
  refine ⟨?distinct, ?selection, ?calls⟩
  case distinct => exact ValueList.sort_distinct
  case selection =>
    intro options members caseSensitive whenIn whenOut fieldSeparator values
    exact ValueList.filterBy_sort members caseSensitive whenIn whenOut fieldSeparator options
      values
  case calls =>
    intro expander before after meaning last template pattern first isFirst second isSecond
    have named := splitNamed?_duplicates second
    have noTemplate := Signature.value_arrange_insert named expander rfl
      (by decide : "duplicates".toList ≠ "template".toList) before after
    have noPattern := Signature.value_arrange_insert named expander rfl
      (by decide : "duplicates".toList ≠ "pattern".toList) before after
    have alike := Signature.alikeExcept_arrange named rfl (splitNamed?_duplicates first) before
      after
    exact answeredAlike_of_run rfl rfl (run_listSort_congr alike (noTemplate.trans template)
      (noPattern.trans pattern)
      (strips_of_last isSecond (meaning second isSecond) before last)
      (strips_of_last isFirst (meaning first isFirst) before last))

/-- Values that are equal as numbers, with an expander that leaves everything as it is. -/
theorem strips_alike_around_numeric_sort :
    AnsweredAlike (Expander.ofMarkup id)
      ("listsort", ["2, 1.0, 1, 2".toList, namedArgument "duplicates" "prestrip".toList,
        namedArgument "sortoptions" "numeric".toList])
      ("listsort", ["2, 1.0, 1, 2".toList, namedArgument "duplicates" "poststrip".toList,
        namedArgument "sortoptions" "numeric".toList]) :=
  sort_commutes_with_selection.2.2 (Expander.ofMarkup id) ["2, 1.0, 1, 2".toList]
    [namedArgument "sortoptions" "numeric".toList]
    (List.forall_mem_cons.mpr ⟨rfl, List.forall_mem_cons.mpr ⟨rfl,
      List.forall_mem_singleton.mpr rfl⟩⟩)
    (by decide) (by decide) (by decide) _ (by decide) _ (by decide)

end FunctionTable

end ListMarkup
