import ListMarkup.PairOperator
import ListMarkup.Proofs.ValueList.Fields
import Mathlib.Data.List.Infix

/-!
# The fields that a template gets of two values

A template that is called with a pair of values gets the fields of both.  The two values are
joined with the separator of fields, and the fields are those of the joined text.  These are the
fields of the first value followed by those of the second, unless the separator overlaps itself
and one occurrence of it begins in the last field of the first value and ends in the separator
that joins them; the fields are then cut too early (`PairOperator.calling_joined_fields`).  No
pair of values is cut so by a separator without a border, such as a single character.
-/

set_option autoImplicit false

namespace ListMarkup.PairOperator

/-- **A template gets the fields of the joined values.**  They are the fields of the first value
followed by those of the second if and only if no separator begins in the last field of the
first value before the separator that joins them.  They are so for all values if and only if no
beginning of the separator, other than the whole, is also its end. -/
theorem calling_joined_fields (name separator : Text) (notEmpty : separator ≠ []) :
    (∀ first second,
      (calling name).apply first second separator =
          Expansion.callTemplate
            { name, positional := fieldsOf separator (first ++ separator ++ second) none } ∧
        (fieldsOf separator (first ++ separator ++ second) none =
            fieldsOf separator first none ++ fieldsOf separator second none ↔
          Text.Apart separator ((fieldsOf separator first none).getLastD [])) ∧
        (Text.Apart separator ((fieldsOf separator first none).getLastD []) → ∀ place : Nat,
          (fieldsOf separator (first ++ separator ++ second) none)[
              (fieldsOf separator first none).length + place]? =
            (fieldsOf separator second none)[place]?)) ∧
    ((∀ first second,
        fieldsOf separator (first ++ separator ++ second) none =
          fieldsOf separator first none ++ fieldsOf separator second none) ↔
      ∀ border, border <+: separator → border <:+ separator → border ≠ [] →
        border = separator) := by
  simp only [fieldsOf_none notEmpty, List.append_assoc]
  refine ⟨fun first second => ⟨?call, Text.split_append_iff notEmpty first second, ?places⟩,
    Text.forall_split_append_iff notEmpty⟩
  case call =>
    simp [apply, notEmpty, Operator.apply, fieldsOf_none]
  case places =>
    intro apart place
    rw [(Text.split_append_iff notEmpty first second).mpr apart,
      List.getElem?_append_right (Nat.le_add_right _ _), Nat.add_sub_cancel_left]

/-- A separator of two different characters, where the first value ends in the first of them. -/
theorem calling_joined_fields_arrow :
    "->".toList ≠ [] ∧
      (calling "M".toList).apply "a->b-".toList "c".toList "->".toList =
        Expansion.callTemplate
          { name := "M".toList, positional := ["a".toList, "b-".toList, "c".toList] } := by
  have notEmpty : "->".toList ≠ [] := by decide
  obtain ⟨called, always⟩ := calling_joined_fields "M".toList "->".toList notEmpty
  have noBorder : ∀ border, border <+: "->".toList → border <:+ "->".toList → border ≠ [] →
      border = "->".toList := by
    intro border begins
    rw [← List.mem_inits] at begins
    revert border
    decide
  have first : fieldsOf "->".toList "a->b-".toList none = ["a".toList, "b-".toList] := by cbv
  have second : fieldsOf "->".toList "c".toList none = ["c".toList] := by cbv
  refine ⟨notEmpty, ?_⟩
  rw [(called "a->b-".toList "c".toList).1, always.mpr noBorder, first, second]
  rfl

/-- The separator `aa` is found in `xaaay` before the end of the first value `xa`. -/
theorem calling_overlapping_fields :
    (calling "M".toList).apply "xa".toList "y".toList "aa".toList =
        Expansion.callTemplate
          { name := "M".toList, positional := ["x".toList, "ay".toList] } ∧
      fieldsOf "aa".toList "xa".toList none ++ fieldsOf "aa".toList "y".toList none =
        ["xa".toList, "y".toList] := by
  have joined : fieldsOf "aa".toList "xaaay".toList none = ["x".toList, "ay".toList] := by cbv
  refine ⟨?_, by cbv⟩
  rw [← joined]
  rfl

end ListMarkup.PairOperator
