import ListMarkup.Proofs.ValueList.Sorting
import ListMarkup.ValueList.Distinct

/-!
# First occurrences

Of the values that share a folded form only the first is kept, so the list without
repetitions is the first value followed by what is left of the others
(`ValueList.distinct_cons`).  Values that are equal compare equal, and among such values a
stable sort keeps their order.  Repetitions may therefore be removed before sorting or after
it (`ValueList.sort_distinct`), although values that differ may compare equal.
-/

set_option autoImplicit false

namespace ListMarkup

/-! ## Keys seen before -/

section Keys

variable {κ α : Type} [BEq κ]

theorem firstOccurrences_sublist (seen : List κ) (pairs : List (κ × α)) :
    (firstOccurrences seen pairs).Sublist (pairs.map Prod.snd) := by
  induction pairs generalizing seen with
  | nil => exact .slnil
  | cons pair pairs ih =>
      rw [firstOccurrences, List.map_cons]
      split
      · exact (ih seen).cons pair.2
      · exact (ih (pair.1 :: seen)).cons_cons pair.2

/-- Keys that have been seen before only leave their values out. -/
theorem firstOccurrences_seen [LawfulBEq κ] (key : α → κ) (seen : List κ) (values : List α) :
    firstOccurrences seen (values.map fun value => (key value, value)) =
      (firstOccurrences [] (values.map fun value => (key value, value))).filter
        fun value => !seen.contains (key value) := by
  induction values generalizing seen with
  | nil => rfl
  | cons value values ih =>
      have first : firstOccurrences [] ((value :: values).map fun value => (key value, value)) =
          value :: firstOccurrences [key value] (values.map fun value => (key value, value)) := rfl
      rw [first, ih [key value], List.map_cons, firstOccurrences]
      by_cases known : seen.contains (key value) = true
      · rw [if_pos known, ih seen, List.filter_cons_of_neg (by rw [known]; decide),
          List.filter_filter]
        refine List.filter_congr fun other _ => ?_
        by_cases same : key other = key value
        · rw [same, known]
          rfl
        · simp [same]
      · rw [if_neg known, ih (key value :: seen),
          List.filter_cons_of_pos (by rw [Bool.eq_false_iff.mpr known]; rfl), List.filter_filter]
        refine congrArg (value :: ·) (List.filter_congr fun other _ => ?_)
        simp [Bool.and_comm]

end Keys

namespace ValueList

variable (caseSensitive : Bool)

theorem distinct_sublist (values : ValueList) :
    (values.distinct caseSensitive).Sublist values := by
  have whole : (values.map fun value => (Text.fold caseSensitive value, value)).map Prod.snd =
      values := List.map_map.trans (List.map_id values)
  have kept := firstOccurrences_sublist []
    (values.map fun value => (Text.fold caseSensitive value, value))
  rwa [whole] at kept

/-- The first value is kept, and of the others what does not repeat it. -/
theorem distinct_cons (value : Text) (values : ValueList) :
    distinct (value :: values) caseSensitive =
      value :: (values.distinct caseSensitive).filter
        fun other => Text.fold caseSensitive other != Text.fold caseSensitive value := by
  have others := firstOccurrences_seen (Text.fold caseSensitive) [Text.fold caseSensitive value]
    values
  refine congrArg (value :: ·) (others.trans (List.filter_congr fun other _ => ?_))
  rw [List.contains_cons, List.contains_nil, Bool.or_false, bne]

/-- No two values that are kept have the same folded form. -/
theorem pairwise_distinct (values : ValueList) :
    (values.distinct caseSensitive).Pairwise
      fun left right => Text.fold caseSensitive right ≠ Text.fold caseSensitive left := by
  induction values with
  | nil => exact .nil
  | cons value values ih =>
      rw [distinct_cons]
      refine .cons (fun other member => ?_) (ih.filter _)
      have new := List.of_mem_filter member
      simpa using new

/-- A list without repetitions is kept whole. -/
theorem distinct_of_pairwise {values : ValueList}
    (apart : values.Pairwise
      fun left right => Text.fold caseSensitive right ≠ Text.fold caseSensitive left) :
    values.distinct caseSensitive = values := by
  induction values with
  | nil => rfl
  | cons value values ih =>
      obtain ⟨new, rest⟩ := List.pairwise_cons.mp apart
      rw [distinct_cons, ih rest, List.filter_eq_self.mpr]
      intro other member
      simpa using new other member

theorem distinct_distinct (values : ValueList) :
    (values.distinct caseSensitive).distinct caseSensitive = values.distinct caseSensitive :=
  distinct_of_pairwise caseSensitive (pairwise_distinct caseSensitive values)

/-! ## Exact repetitions, and sorting -/

/-- Exactly, a value repeats another one when it is the same. -/
theorem distinct_cons_exactly (value : Text) (values : ValueList) :
    distinct (value :: values) true =
      value :: (values.distinct true).filter (· != value) :=
  distinct_cons true value values

/-- Values may be selected before exact repetitions are removed or after it. -/
theorem filter_distinct (keep : Text → Bool) (values : ValueList) :
    (values.distinct true).filter keep = distinct (values.filter keep) true := by
  induction values with
  | nil => rfl
  | cons value values ih =>
      rw [distinct_cons_exactly]
      by_cases kept : keep value = true
      · rw [List.filter_cons_of_pos kept, List.filter_cons_of_pos kept, distinct_cons_exactly,
          List.filter_comm, ih]
      · rw [List.filter_cons_of_neg kept, List.filter_cons_of_neg kept, List.filter_filter, ← ih]
        apply List.filter_congr
        intro other _
        by_cases same : other = value
        · subst same
          simp [kept]
        · simp [same]

/-- Without exact repetitions a list holds the first occurrence of each of its values. -/
theorem distinct_eq_eraseDups (values : ValueList) :
    values.distinct true = values.eraseDups := by
  cases values with
  | nil => rfl
  | cons value values =>
      have shorter := List.length_filter_le (fun other => !other == value) values
      rw [distinct_cons_exactly, filter_distinct, List.eraseDups_cons, ← distinct_eq_eraseDups]
      rfl
termination_by values.length
decreasing_by
  rw [List.length_cons]
  omega

section Sorting

variable (options : SortOptions)

/-- A value may be inserted into a sorted list before repetitions are removed, or in place of
those that it makes. -/
theorem distinct_orderedInsert (value : Text) {values : ValueList}
    (inOrder : values.Pairwise (Precedes options.order)) :
    distinct (values.orderedInsert (Precedes options.order) value) true =
      ((values.distinct true).filter (· != value)).orderedInsert (Precedes options.order)
        value := by
  induction values with
  | nil => rfl
  | cons first values ih =>
      obtain ⟨least, rest⟩ := List.pairwise_cons.mp inOrder
      by_cases inFront : Precedes options.order value first
      · rw [List.orderedInsert_cons_of_le _ _ inFront, distinct_cons_exactly]
        refine (orderedInsert_of_forall _ fun other member => ?_).symm
        have original := (distinct_sublist true (first :: values)).subset
          (List.mem_of_mem_filter member)
        rcases List.mem_cons.mp original with rfl | later
        · exact inFront
        · exact trans_of (Precedes options.order) inFront (least other later)
      · have differs : first ≠ value := by
          rintro rfl
          exact inFront (refl_of (Precedes options.order) first)
        have kept : (distinct values true).Pairwise (Precedes options.order) :=
          rest.sublist (distinct_sublist true values)
        have inserted := filter_orderedInsert (Precedes options.order) (· != first)
          (bne_iff_ne.mpr differs.symm) (kept.filter (· != value))
        have staysFirst : (first != value) = true := bne_iff_ne.mpr differs
        calc distinct ((first :: values).orderedInsert (Precedes options.order) value) true
          _ = first :: (distinct (values.orderedInsert (Precedes options.order) value) true).filter
                (· != first) := by
              rw [List.orderedInsert_cons, if_neg inFront, distinct_cons_exactly]
          _ = first :: (((distinct values true).filter (· != value)).filter
                (· != first)).orderedInsert (Precedes options.order) value := by
              rw [ih rest, inserted]
          _ = ((first :: (distinct values true).filter (· != first)).filter
                (· != value)).orderedInsert (Precedes options.order) value := by
              rw [List.filter_cons, if_pos staysFirst, List.orderedInsert_cons, if_neg inFront,
                List.filter_comm]
          _ = ((distinct (first :: values) true).filter (· != value)).orderedInsert
                (Precedes options.order) value := by
              rw [distinct_cons_exactly]

/-- Repetitions may be removed before sorting or after it. -/
theorem sort_distinct (values : ValueList) :
    (values.distinct true).sort options = (values.sort options).distinct true := by
  induction values with
  | nil => rw [sort_nil]; exact sort_nil options
  | cons value values ih =>
      rw [distinct_cons_exactly, sort_cons, sort_filter, ih, sort_cons,
        distinct_orderedInsert options value (pairwise_sort options values)]

end Sorting

end ValueList

end ListMarkup
