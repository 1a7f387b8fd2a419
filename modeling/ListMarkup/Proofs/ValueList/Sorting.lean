import ListMarkup.ValueList.Order
import Mathlib.Data.List.Sort

/-!
# Sorting as insertion

Every comparison of values compares keys, which are numbers or texts, so it is total and
transitive (`SortOptions.order`).  By such a comparison a stable sort is the same as inserting
one element after the other, each in front of the first one that it may stand before
(`sort_cons`).  What holds of one insertion into a list in order therefore holds of sorting;
in particular a selection may be made before sorting or after it (`sort_filter`).
-/

set_option autoImplicit false

namespace ListMarkup

variable {α : Type}

section Insertion

variable (r : α → α → Prop) [DecidableRel r] {a : α}

/-- An element is put in front of a list when it precedes all members. -/
theorem orderedInsert_of_forall {l : List α} (first : ∀ b ∈ l, r a b) :
    l.orderedInsert r a = a :: l := by
  cases l with
  | nil => rfl
  | cons b l => exact List.orderedInsert_cons_of_le r l (first b List.mem_cons_self)

/-- An element is put behind those that it does not precede. -/
theorem orderedInsert_append {before after : List α} (behind : ∀ b ∈ before, ¬ r a b)
    (inFront : ∀ b ∈ after, r a b) :
    (before ++ after).orderedInsert r a = before ++ a :: after := by
  induction before with
  | nil => exact orderedInsert_of_forall r inFront
  | cons b before ih =>
      have rest := ih fun c member => behind c (List.mem_cons_of_mem b member)
      rw [List.cons_append, List.orderedInsert_cons, if_neg (behind b List.mem_cons_self), rest,
        List.cons_append]

/-- An element that is not selected is as good as not inserted. -/
theorem filter_orderedInsert_of_not {keep : α → Bool} (dropped : ¬ keep a = true) (l : List α) :
    (l.orderedInsert r a).filter keep = l.filter keep := by
  rw [List.orderedInsert_eq_take_drop, List.filter_append, List.filter_cons_of_neg dropped,
    ← List.filter_append, List.takeWhile_append_dropWhile]

variable [IsTrans α r]

/-- A list in order falls into those that an element does not precede and those that it
precedes. -/
theorem exists_insertion_point (a : α) {l : List α} (inOrder : l.Pairwise r) :
    ∃ before after, l = before ++ after ∧ (∀ b ∈ before, ¬ r a b) ∧ ∀ b ∈ after, r a b := by
  induction l with
  | nil => exact ⟨[], [], rfl, by simp, by simp⟩
  | cons b l ih =>
      obtain ⟨least, rest⟩ := List.pairwise_cons.mp inOrder
      by_cases precedes : r a b
      · refine ⟨[], b :: l, rfl, by simp, fun c member => ?_⟩
        rcases List.mem_cons.mp member with rfl | later
        · exact precedes
        · exact trans_of r precedes (least c later)
      · obtain ⟨before, after, rfl, behind, inFront⟩ := ih rest
        exact ⟨b :: before, after, rfl, List.forall_mem_cons.mpr ⟨precedes, behind⟩, inFront⟩

/-- An element that is selected is inserted among those that are. -/
theorem filter_orderedInsert (keep : α → Bool) (kept : keep a = true) {l : List α}
    (inOrder : l.Pairwise r) :
    (l.orderedInsert r a).filter keep = (l.filter keep).orderedInsert r a := by
  obtain ⟨before, after, rfl, behind, inFront⟩ := exists_insertion_point r a inOrder
  rw [orderedInsert_append r behind inFront, List.filter_append, List.filter_append,
    List.filter_cons_of_pos kept,
    orderedInsert_append r (fun b member => behind b (List.mem_of_mem_filter member))
      (fun b member => inFront b (List.mem_of_mem_filter member))]

end Insertion

/-! ## Stable sorting by a comparison -/

section Comparison

variable (comparison : α → α → Ordering)

/-- An element may stand before another one. -/
abbrev Precedes (left right : α) : Prop :=
  (comparison left right).isLE = true

variable [Std.TransCmp comparison]

instance : Std.Refl (Precedes comparison) where
  refl _ := Std.ReflCmp.isLE_rfl

instance : IsTrans α (Precedes comparison) where
  trans _ _ _ := Std.TransCmp.isLE_trans

theorem isLE_or_isLE (left right : α) :
    ((comparison left right).isLE || (comparison right left).isLE) = true := by
  have turned : comparison left right = (comparison right left).swap := Std.OrientedCmp.eq_swap
  rw [turned]
  cases comparison right left <;> rfl

theorem pairwise_mergeSort_precedes (l : List α) :
    (l.mergeSort fun left right => (comparison left right).isLE).Pairwise
      (Precedes comparison) :=
  List.pairwise_mergeSort (fun _ _ _ => Std.TransCmp.isLE_trans) (isLE_or_isLE comparison) l

/-- A stable sort inserts the first element into what the others give. -/
theorem mergeSort_cons_eq_orderedInsert (a : α) (l : List α) :
    ((a :: l).mergeSort fun left right => (comparison left right).isLE) =
      (l.mergeSort fun left right => (comparison left right).isLE).orderedInsert
        (Precedes comparison) a := by
  obtain ⟨before, after, whole, rest, later⟩ :=
    List.mergeSort_cons (fun _ _ _ => Std.TransCmp.isLE_trans) (isLE_or_isLE comparison) a l
  have inOrder : (before ++ a :: after).Pairwise (Precedes comparison) :=
    whole ▸ pairwise_mergeSort_precedes comparison (a :: l)
  have inFront := (List.pairwise_cons.mp (List.pairwise_append.mp inOrder).2.1).1
  have behind : ∀ b ∈ before, ¬ Precedes comparison a b := by
    intro b member precedes
    have refused := later b member
    rw [precedes] at refused
    cases refused
  rw [whole, rest, orderedInsert_append (Precedes comparison) behind inFront]

end Comparison

/-! ## Sorting values -/

namespace SortOptions

variable (options : SortOptions)

instance : Std.TransCmp options.ascendingOrder := by
  by_cases numeric : options.numeric = true
  · have byNumber : options.ascendingOrder = compareOn fun value => value.numericValue.rank := by
      funext left right
      rw [ascendingOrder, if_pos numeric,
        Binary64.compare?_of_numbers left.isNaN_numericValue right.isNaN_numericValue]
      rfl
    rw [byNumber]
    infer_instance
  · have byText : options.ascendingOrder = compareOn (Text.fold options.caseSensitive) := by
      funext left right
      exact if_neg numeric
    rw [byText]
    infer_instance

instance : Std.TransCmp options.order := by
  by_cases descending : options.descending = true
  · have turned : options.order = fun left right => options.ascendingOrder right left := by
      funext left right
      rw [order, if_pos descending]
      exact Std.OrientedCmp.eq_swap.symm
    rw [turned]
    exact Std.TransCmp.opposite
  · have ascending : options.order = options.ascendingOrder := by
      funext left right
      exact if_neg descending
    rw [ascending]
    infer_instance

end SortOptions

namespace ValueList

variable (options : SortOptions)

theorem sort_nil : sort [] options = [] :=
  List.mergeSort_nil

theorem pairwise_sort (values : ValueList) :
    (values.sort options).Pairwise (Precedes options.order) :=
  pairwise_mergeSort_precedes options.order values

/-- Sorting inserts one value after the other. -/
theorem sort_cons (value : Text) (values : ValueList) :
    sort (value :: values) options =
      (values.sort options).orderedInsert (Precedes options.order) value :=
  mergeSort_cons_eq_orderedInsert options.order value values

/-- Values may be selected before sorting or after it. -/
theorem sort_filter (keep : Text → Bool) (values : ValueList) :
    sort (values.filter keep) options = (values.sort options).filter keep := by
  induction values with
  | nil => rw [List.filter_nil, sort_nil, List.filter_nil]
  | cons value values ih =>
      rw [sort_cons]
      by_cases kept : keep value = true
      · rw [List.filter_cons_of_pos kept, sort_cons, ih,
          filter_orderedInsert (Precedes options.order) keep kept (pairwise_sort options values)]
      · rw [List.filter_cons_of_neg kept, ih,
          filter_orderedInsert_of_not (Precedes options.order) kept]

end ValueList

end ListMarkup
