import ListMarkup.Builtin.LongForm
import ListMarkup.Proofs.Arguments.Reading
import ListMarkup.Proofs.ValueList.RoundTrip

/-!
# Parts of list functions

With the answers of an expander, what a list function does is a function of the values of its
arguments: the list that the call is about, the separator of the result, the words for or
against attention to case, and the stages around a transformation.  A function of the long
form presents what its work gives, and gives the default when the list is empty
(`Builtin.run_presented`).
-/

set_option autoImplicit false

namespace ListMarkup

namespace Arguments

variable (expander : Expander) (arguments : Arguments)

/-- The list that a call is about. -/
def values : ValueList :=
  ValueList.ofText (arguments.value expander "insep".toList)
    (arguments.value expander "list".toList)

/-- The separator of the result. -/
def resultSeparator : Text :=
  arguments.value expander "outsep".toList

/-- The stages around a transformation, which uses positions or does not. -/
def stages (usesPositions : Bool) : Stages :=
  let mode := SortMode.ofText (arguments.value expander "sortmode".toList)
  { repetitions := Repetitions.ofText (arguments.value expander "duplicates".toList)
    sortBefore := (mode.resolve usesPositions).1
    sortAfter := (mode.resolve usesPositions).2
    sortOptions := SortOptions.ofText (arguments.value expander "sortoptions".toList) }

/-- How the result of a call is presented. -/
def output : Output :=
  (Output.ofArguments arguments).run expander

end Arguments

namespace Arguments.AlikeExcept

variable {excepted : Text} {left right : Arguments} (alike : AlikeExcept excepted left right)
  (expander : Expander)

include alike

theorem values (other : excepted ∉ ["list".toList, "insep".toList]) :
    left.values expander = right.values expander := by
  simp only [List.mem_cons, List.not_mem_nil, or_false, not_or] at other
  unfold Arguments.values
  rw [alike.value expander (Ne.symm other.1), alike.value expander (Ne.symm other.2)]

/-- The parameters that say how a result is presented. -/
theorem output (other : excepted ∉ ["outconj".toList, "outsep".toList, "counttoken".toList,
      "intro".toList, "outro".toList, "default".toList]) :
    left.output expander = right.output expander := by
  have same : ∀ name ∈ ["outconj".toList, "outsep".toList, "counttoken".toList,
      "intro".toList, "outro".toList, "default".toList],
      left.value expander name = right.value expander name :=
    fun name member => alike.value expander fun equal => other (equal ▸ member)
  have conjunction : left.isGiven "outconj".toList = right.isGiven "outconj".toList :=
    alike.isGiven fun equal => other (equal ▸ List.mem_cons_self)
  simp only [List.forall_mem_cons] at same
  obtain ⟨first, second, third, fourth, fifth, sixth, -⟩ := same
  simp only [Arguments.output, Output.ofArguments, Expansion.run_bind, Expansion.run_pure,
    Arguments.run_get, first, second, third, fourth, fifth, sixth, conjunction]

end Arguments.AlikeExcept

namespace Output

/-- The presentation that only joins values. -/
def joining (separator : Text) : Output :=
  { separator, conjunction := none, countToken := [], intro := [], outro := [], default := [] }

theorem render_joining (separator : Text) (values : ValueList) :
    (joining separator).render values = values.toText separator none := by
  have same : ∀ text : Text, Text.replace [] values.count text = text := by
    intro text
    rw [Text.replace, Text.split, dif_neg (by simp), Text.join_singleton]
  unfold render joining
  split
  · rename_i empty
    rw [List.isEmpty_iff.mp empty]
    rfl
  · simp only [same, List.nil_append, List.append_nil]

end Output

namespace Builtin

variable {expander : Expander} (arguments : Arguments)

theorem run_givenList : (givenList arguments).run expander = arguments.values expander := by
  unfold givenList Arguments.list Arguments.values
  rw [Expansion.run_bind, Arguments.run_get]
  split
  · rename_i empty
    rw [List.isEmpty_iff.mp empty]
    rfl
  · rw [Expansion.run_bind, Arguments.run_get, Expansion.run_pure]

theorem run_joined (values : ValueList) :
    (joined arguments values).run expander =
      values.toText (arguments.resultSeparator expander) none := by
  rw [joined, Expansion.run_bind, Arguments.run_get, Expansion.run_pure, Arguments.resultSeparator]

theorem run_caseSensitivity (name : Text) :
    (caseSensitivity arguments name).run expander =
      asksForCase (arguments.value expander name) := by
  rw [caseSensitivity, Expansion.run_bind, Arguments.run_get, Expansion.run_pure]

theorem run_stages (usesPositions : Bool) :
    (Stages.ofArguments arguments usesPositions).run expander =
      arguments.stages expander usesPositions := by
  simp only [Stages.ofArguments, Expansion.run_bind, Arguments.run_get, Expansion.run_pure,
    Arguments.stages]

/-- What the work on a list gives is presented, and the default in place of an empty list. -/
theorem run_presented (work : ValueList → Expansion ValueList) :
    (presented arguments work).run expander =
      if (arguments.values expander).isEmpty then (arguments.output expander).default
      else (arguments.output expander).render
        ((work (arguments.values expander)).run expander) := by
  rw [presented, Expansion.run_bind, Expansion.run_bind, run_givenList, Arguments.output]
  split
  · rfl
  · rw [Expansion.run_bind, Expansion.run_pure]

end Builtin

end ListMarkup
