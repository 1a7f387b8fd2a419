import ListMarkup.Proofs.Number.Value
import ListMarkup.Proofs.ValueList.Stability

/-!
# Comparisons are total preorders

Sorting asks of a comparison that it is consistent: everything compares equal to itself, two
elements compare the other way round when they change places, and what does not come after an
element does not come after any element that this one does not come after
(`TotalPreorder`).

Values are compared by their folded forms or by the numbers they start with.  The comparison of
numbers is partial, because nothing compares to what is no number, and pairs that do not compare
would count as equal.  Such a pair would do damage: both 0 and 1 would be equal to it, and yet not
to one another.  It never comes about.  Every text is read as a number or an infinity, the zeros
of either sign have one value, and numbers compare by their values.  So all comparisons of values
are consistent, whatever their options, and so are the comparisons of values that stand under keys
(`comparisons_are_consistent`).
-/

set_option autoImplicit false

namespace ListMarkup

/-- A comparison that orders all elements, some of them perhaps equally. -/
structure TotalPreorder {α : Type} (comparison : α → α → Ordering) : Prop where
  itself : ∀ a, comparison a a = .eq
  turned : ∀ a b, comparison b a = (comparison a b).swap
  trans : ∀ a b c, comparison a b ≠ .gt → comparison b c ≠ .gt → comparison a c ≠ .gt

theorem totalPreorder_of_transCmp {α : Type} (comparison : α → α → Ordering)
    [Std.TransCmp comparison] : TotalPreorder comparison where
  itself _ := Std.ReflCmp.compare_self
  turned _ _ := Std.OrientedCmp.eq_swap
  trans a b c first second := by
    have firstLE := Ordering.ne_gt_iff_isLE.mp first
    have secondLE := Ordering.ne_gt_iff_isLE.mp second
    exact Ordering.ne_gt_iff_isLE.mpr (Std.TransCmp.isLE_trans firstLE secondLE)

-- What is no number counts as equal to 0 and to 1.
example : ¬ TotalPreorder fun left right : Binary64 => (left.compare? right).getD .eq := by
  intro order
  have one := order.trans ⟨false, 1⟩ ⟨false, Binary64.infiniteMagnitude + 1⟩ Binary64.zero
  exact absurd (one (by decide) (by decide)) (by decide)

/-- Two texts read as numbers always compare, and they compare as the values of the numbers. -/
theorem Text.compare?_numericValue (left right : Text) :
    left.numericValue.compare? right.numericValue =
      some (compare left.numericValue.toEReal right.numericValue.toEReal) :=
  Binary64.compare?_eq_compare left.isNaN_numericValue right.isNaN_numericValue

/-- **Comparisons of values are consistent.**  For all options the comparison of values is a
total preorder, and so is the comparison of values under keys for any two options.  A text is
never read as something that is no number, so that two texts that are compared as numbers do
compare, by value. -/
theorem comparisons_are_consistent :
    (∀ options : SortOptions, TotalPreorder options.order) ∧
      (∀ keyOrder : KeyOrder, TotalPreorder keyOrder.order) ∧
      (∀ text : Text, text.numericValue.isNaN = false) ∧
      ∀ left right : Text, left.numericValue.compare? right.numericValue =
        some (compare left.numericValue.toEReal right.numericValue.toEReal) := by
  refine ⟨?values, ?keys, ?numbers, ?byValue⟩
  case values =>
    intro options
    exact totalPreorder_of_transCmp options.order
  case keys =>
    intro keyOrder
    exact totalPreorder_of_transCmp keyOrder.order
  case numbers =>
    intro text
    exact text.isNaN_numericValue
  case byValue =>
    intro left right
    exact Text.compare?_numericValue left right

end ListMarkup
