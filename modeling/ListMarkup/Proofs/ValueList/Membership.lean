import ListMarkup.Builtin.ShortForm
import ListMarkup.Proofs.ValueList.Distinct
import ListMarkup.Proofs.ValueList.Selection
import Mathlib.Data.List.FinRange
import Mathlib.Data.List.TFAE

/-!
# What is in a list

Whether an item is in a list is asked in several ways: by searching for it, by asking for its
position, by testing it against a set, by looking whether it is a repetition when it is added
at the end, and by comparing it with the values in alphabetical order.  All of them look at
folded forms, so they answer alike (`ValueList.membership_tests_agree`).

Of the two selections by a set, one keeps the values at the places where the set includes
them, and the other one those at all other places.
-/

set_option autoImplicit false

namespace ListMarkup

/-- Values compare equal in alphabetical order, in either direction, when they have the same
folded form. -/
theorem SortOptions.order_eq_iff (caseSensitive descending : Bool) (left right : Text) :
    order { caseSensitive, descending } left right = .eq ↔
      Text.fold caseSensitive left = Text.fold caseSensitive right := by
  have ascending : ascendingOrder { caseSensitive, descending } left right =
      compare (Text.fold caseSensitive left) (Text.fold caseSensitive right) := rfl
  cases descending with
  | false => exact Std.compare_eq_iff_eq
  | true =>
      show (ascendingOrder _ left right).swap = .eq ↔ _
      rw [ascending, Ordering.swap_eq_eq, Std.compare_eq_iff_eq]

namespace ValueList

variable (values : ValueList) (item : Text) (caseSensitive : Bool)

theorem includes_iff :
    values.includes caseSensitive item = true ↔
      ∃ value ∈ values, Text.fold caseSensitive value = Text.fold caseSensitive item := by
  unfold includes Text.isItem
  simp only [List.any_eq_true, beq_iff_eq]

theorem isSome_find? : (values.find? item caseSensitive).isSome =
    values.includes caseSensitive item :=
  List.isSome_find?

/-- An item that is found has a position, however it is counted and from whichever end the
search starts. -/
theorem isSome_positionOf? (options : SearchOptions) :
    (values.positionOf? item options).isSome = values.includes options.caseSensitive item := by
  have placed : (values.positionOf? item options).isSome =
      (values.placeOf? item options).isSome := by
    unfold positionOf?
    cases values.placeOf? item options <;> rfl
  rw [placed, placeOf?]
  split
  · rw [Option.isSome_map, List.findIdx?_isSome, List.any_reverse]
    rfl
  · exact List.findIdx?_isSome

/-- An item at the end is left out when it repeats a value, and kept otherwise. -/
theorem distinct_concat :
    distinct (values ++ [item]) caseSensitive =
      values.distinct caseSensitive ++
        if values.includes caseSensitive item then [] else [item] := by
  induction values with
  | nil => rfl
  | cons value values ih =>
      have included : includes (value :: values) caseSensitive item =
          (Text.fold caseSensitive value == Text.fold caseSensitive item ||
            includes values caseSensitive item) := rfl
      rw [List.cons_append, distinct_cons, ih, distinct_cons, List.filter_append, included,
        List.cons_append]
      cases includes values caseSensitive item with
      | true => simp
      | false =>
          by_cases repeated : Text.fold caseSensitive value = Text.fold caseSensitive item
          · simp [repeated]
          · simp [repeated, Ne.symm repeated]

theorem distinct_concat_eq_iff :
    distinct (values ++ [item]) caseSensitive = values.distinct caseSensitive ↔
      values.includes caseSensitive item = true := by
  rw [distinct_concat, List.append_right_eq_self]
  cases values.includes caseSensitive item <;> simp

/-! ## Selection by a set -/

/-- A selection keeps the values at the places that are selected. -/
theorem filter_eq_places (keep : Text → Bool) :
    values.filter keep =
      ((List.finRange values.length).filter fun place => keep values[place]).map values.get := by
  conv_lhs => rw [← List.map_get_finRange values, List.filter_map]
  rfl

variable (members : ValueList) (fieldSeparator : Text)

theorem filterBy_keeping :
    values.filterBy (Builtin.keeping members caseSensitive) fieldSeparator =
      pure (values.filter (members.includes caseSensitive)) := by
  rw [Builtin.keeping, filterBy_testing]
  refine congrArg pure (List.filter_congr fun value _ => ?_)
  cases members.includes caseSensitive value <;> decide

theorem filterBy_removing :
    values.filterBy (Builtin.removing members caseSensitive) fieldSeparator =
      pure (values.filter fun value => !members.includes caseSensitive value) := by
  rw [Builtin.removing, filterBy_testing]
  refine congrArg pure (List.filter_congr fun value _ => ?_)
  cases members.includes caseSensitive value <;> decide

end ValueList

/-- **All ways to ask whether an item is in a list agree.**  Hence the values that are kept by a
set and those that are removed by it stand, in order, at complementary places: exactly those
of the values that are in the set, and exactly those of the values that are not. -/
theorem ValueList.membership_tests_agree :
    (∀ (values : ValueList) (item : Text)
        (caseSensitive fromEnd backwards descending : Bool),
      [(values.find? item caseSensitive).isSome = true,
        (values.positionOf? item { fromEnd, caseSensitive, backwards }).isSome = true,
        values.includes caseSensitive item = true,
        distinct (values ++ [item]) caseSensitive = values.distinct caseSensitive,
        ∃ value ∈ values, SortOptions.order { caseSensitive, descending } value item = .eq].TFAE) ∧
    ∀ (values members : ValueList) (caseSensitive : Bool) (fieldSeparator : Text),
      let places := List.finRange values.length
      let isInside := fun place : Fin values.length =>
        members.includes caseSensitive values[place]
      values.filterBy (Builtin.keeping members caseSensitive) fieldSeparator =
          pure ((places.filter isInside).map values.get) ∧
        values.filterBy (Builtin.removing members caseSensitive) fieldSeparator =
          pure ((places.filter fun place => !isInside place).map values.get) := by
  constructor
  · intro values item caseSensitive fromEnd backwards descending
    refine List.tfae_of_forall (values.includes caseSensitive item = true) _ fun answer isOne => ?_
    simp only [List.mem_cons, List.not_mem_nil, or_false] at isOne
    rcases isOne with rfl | rfl | rfl | rfl | rfl
    · rw [isSome_find?]
    · rw [isSome_positionOf?]
    · exact Iff.rfl
    · exact distinct_concat_eq_iff values item caseSensitive
    · simp only [SortOptions.order_eq_iff]
      exact (includes_iff values item caseSensitive).symm
  · intro values members caseSensitive fieldSeparator
    constructor
    · rw [filterBy_keeping, filter_eq_places]
    · rw [filterBy_removing, filter_eq_places]

end ListMarkup
