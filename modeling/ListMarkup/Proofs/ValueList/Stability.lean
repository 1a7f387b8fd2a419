import ListMarkup.Operator
import ListMarkup.Proofs.ValueList.Sorting
import Mathlib.Data.List.FinRange
import Mathlib.Data.List.NodupEquivFin

/-!
# Sorting is stable

Sorting rearranges the positions of a list: each position is taken once, the entries at them
come in order, and entries that compare equal come in the order in which they stood
(`Arranges`).  This holds of sorting by any total and transitive comparison
(`exists_arrangement`), since each insertion puts an element in front of those that it compares
equal to, and these stood behind it (`pairwise_mergeSort_stable`).

The comparison of values under keys is one of keys first and of values next, so it is total and
transitive as well (`KeyOrder.order`).  An operator gives each value its key before anything is
moved, which is why the key comes of the original position (`Operator.run_results`).
-/

set_option autoImplicit false

namespace ListMarkup

variable {α : Type} (comparison : α → α → Ordering)

/-- What is compared by something that belongs to it. -/
theorem transCmp_comap {β : Type} [Std.TransCmp comparison] (part : β → α) :
    Std.TransCmp fun left right => comparison (part left) (part right) where
  eq_swap := Std.OrientedCmp.eq_swap
  isLE_trans := Std.TransCmp.isLE_trans

/-- Elements among which nothing comes first. -/
theorem transCmp_eq : Std.TransCmp fun _ _ : α => Ordering.eq where
  eq_swap := rfl
  isLE_trans _ _ := rfl

/-- Keys are compared first, and values where keys compare equal. -/
theorem KeyOrder.order_eq (keyOrder : KeyOrder) :
    keyOrder.order = compareLex
      (fun left right => keyOrder.primary.order left.1 right.1)
      (fun left right =>
        (keyOrder.secondary.elim (fun _ _ => .eq) SortOptions.order) left.2 right.2) := by
  funext left right
  obtain ⟨primary, secondary⟩ := keyOrder
  rw [order, compareLex]
  cases primary.order left.1 right.1 <;> cases secondary <;> rfl

instance (keyOrder : KeyOrder) : Std.TransCmp keyOrder.order := by
  rw [keyOrder.order_eq]
  have byKey := transCmp_comap keyOrder.primary.order (Prod.fst : Text × Text → Text)
  have byValue : Std.TransCmp fun left right : Text × Text =>
      (keyOrder.secondary.elim (fun _ _ => .eq) SortOptions.order) left.2 right.2 := by
    cases keyOrder.secondary with
    | none => exact transCmp_eq
    | some secondary => exact transCmp_comap secondary.order Prod.snd
  infer_instance

/-- Sorting keeps the order of elements that compare equal. -/
theorem pairwise_mergeSort_stable [Std.TransCmp comparison] {earlier : α → α → Prop}
    {l : List α} (inOrder : l.Pairwise earlier) :
    (l.mergeSort fun left right => (comparison left right).isLE).Pairwise
      fun left right =>
        comparison left right ≠ .gt ∧ (comparison left right = .eq → earlier left right) := by
  induction l with
  | nil =>
      rw [List.mergeSort_nil]
      exact .nil
  | cons a l ih =>
      obtain ⟨first, rest⟩ := List.pairwise_cons.mp inOrder
      obtain ⟨before, after, sorted, behind, inFront⟩ :=
        exists_insertion_point (Precedes comparison) a (pairwise_mergeSort_precedes comparison l)
      have stable := ih rest
      rw [sorted, List.pairwise_append] at stable
      obtain ⟨stableBefore, stableAfter, across⟩ := stable
      rw [mergeSort_cons_eq_orderedInsert, sorted,
        orderedInsert_append (Precedes comparison) behind inFront, List.pairwise_append,
        List.pairwise_cons]
      have aFirst : ∀ b ∈ after,
          comparison a b ≠ .gt ∧ (comparison a b = .eq → earlier a b) := by
        intro b member
        have inList : b ∈ l := by
          rw [← List.mem_mergeSort, sorted]
          exact List.mem_append_right before member
        exact ⟨Ordering.ne_gt_iff_isLE.mpr (inFront b member), fun _ => first b inList⟩
      have aLast : ∀ b ∈ before,
          comparison b a ≠ .gt ∧ (comparison b a = .eq → earlier b a) := by
        intro b member
        have less : comparison b a = .lt := by
          apply Std.OrientedCmp.gt_iff_lt.mp
          simpa [Precedes] using behind b member
        simp [less]
      refine ⟨stableBefore, ⟨aFirst, stableAfter⟩, ?_⟩
      intro b inBefore c member
      rcases List.mem_cons.mp member with rfl | inAfter
      · exact aLast b inBefore
      · exact across b inBefore c inAfter

/-! ## Positions and keys -/

/-- The positions are taken in an order in which no entry is greater than a later one, and
entries that compare equal come in the order of their positions. -/
structure Arranges {count : Nat} (entry : Fin count → α) (place : Equiv.Perm (Fin count)) :
    Prop where
  inOrder : ∀ {first second : Fin count}, first < second →
    comparison (entry (place first)) (entry (place second)) ≠ .gt
  stable : ∀ {first second : Fin count}, first < second →
    comparison (entry (place first)) (entry (place second)) = .eq → place first < place second

/-- Sorting takes the positions in such an order. -/
theorem exists_arrangement [Std.TransCmp comparison] {count : Nat} (entry : Fin count → α) :
    ∃ place : Equiv.Perm (Fin count),
      ((List.ofFn entry).mergeSort fun left right => (comparison left right).isLE) =
          List.ofFn (entry ∘ place) ∧
        Arranges comparison entry place := by
  have byEntry := transCmp_comap comparison entry
  let places := (List.finRange count).mergeSort fun left right =>
    (comparison (entry left) (entry right)).isLE
  have every : places.Perm (List.finRange count) := List.mergeSort_perm _ _
  have length : places.length = count := every.length_eq.trans List.length_finRange
  have stable := pairwise_mergeSort_stable
    (fun left right => comparison (entry left) (entry right)) (List.pairwise_lt_finRange count)
  rw [List.pairwise_iff_get] at stable
  let place : Equiv.Perm (Fin count) := (finCongr length.symm).trans
    (List.Nodup.getEquivOfForallMemList places (every.nodup_iff.mpr (List.nodup_finRange count))
      fun position => every.mem_iff.mpr (List.mem_finRange position))
  refine ⟨place, ?_, fun before => (stable _ _ before).1, fun before => (stable _ _ before).2⟩
  calc ((List.ofFn entry).mergeSort fun left right => (comparison left right).isLE)
    _ = places.map entry := by
        rw [List.ofFn_eq_map]
        symm
        apply List.map_mergeSort
        intro left _ right _
        rfl
    _ = List.ofFn (entry ∘ place) := by
        apply List.ext_getElem
        · simp [length]
        · intro position _ _
          simp [place]

namespace Operator

variable (expander : Expander) (operator : Operator) (fieldSeparator : Text)

/-- The key of a value, which comes of its position counted from 1. -/
def key (values : ValueList) (position : Fin values.length) : Text :=
  (operator.applyValue (values.get position) fieldSeparator (some (position + 1))).run expander

/-- Every value stands beside its key. -/
theorem run_results (values : ValueList) :
    (operator.results fieldSeparator values).run expander =
      List.ofFn fun position =>
        (operator.key expander fieldSeparator values position, values.get position) := by
  rw [results, Expansion.run_mapM]
  apply List.ext_getElem
  · simp
  · intro position _ _
    simp [key]

end Operator

/-- **Sorting is stable.**  Sorting values by the keys that an operator gives them takes the
positions in an order in which no key is greater than a later one, values under equal keys come
in the order of a second comparison if there is one, and those which compare equal come as they
stood.  The same holds of sorting values by themselves, so sorting them again changes nothing. -/
theorem sorting_is_stable :
    (∀ (expander : Expander) (operator : Operator) (fieldSeparator : Text) (keyOrder : KeyOrder)
        (values : ValueList),
      ∃ place : Equiv.Perm (Fin values.length),
        (values.sortBy operator fieldSeparator keyOrder).run expander =
            List.ofFn (fun rank => values.get (place rank)) ∧
          Arranges keyOrder.order
            (fun position =>
              (operator.key expander fieldSeparator values position, values.get position))
            place) ∧
    (∀ (options : SortOptions) (values : ValueList),
      ∃ place : Equiv.Perm (Fin values.length),
        values.sort options = List.ofFn (fun rank => values.get (place rank)) ∧
          Arranges options.order values.get place) ∧
    (∀ (options : SortOptions) (values : ValueList),
      (values.sort options).sort options = values.sort options) := by
  refine ⟨?byKey, ?byValue, ?again⟩
  case byKey =>
    intro expander operator fieldSeparator keyOrder values
    obtain ⟨place, sorted, arranges⟩ := exists_arrangement keyOrder.order fun position =>
      (operator.key expander fieldSeparator values position, values.get position)
    refine ⟨place, ?_, arranges⟩
    rw [ValueList.sortBy, Expansion.run_bind, Expansion.run_pure, Operator.run_results,
      ValueList.sortPairs, sorted, List.map_ofFn]
    rfl
  case byValue =>
    intro options values
    obtain ⟨place, sorted, arranges⟩ := exists_arrangement options.order values.get
    rw [List.ofFn_get] at sorted
    exact ⟨place, sorted, arranges⟩
  case again =>
    intro options values
    exact List.mergeSort_of_pairwise (ValueList.pairwise_sort options values)

end ListMarkup
