import ListMarkup.Proofs.Merge.Cached

/-!
# Merging reaches a fixpoint

In the list that merging leaves, no value accepts a later one, so merging it again
changes nothing.  Merging takes at most one pass fewer than there are values
(`merge_reaches_fixpoint`).

A merged value is new text and may accept a value that was passed over before, so that
nothing is quiet on account of an earlier pass.  Quiet follows from the last pass alone:
a pass that shortens nothing has asked about every two values in the form in which they
are left.  Every other pass takes away at least one value, which bounds their number.
-/

set_option autoImplicit false

namespace ListMarkup

namespace PlainRule

variable {α : Type} (rule : PlainRule α)

/-- No value accepts a later one. -/
def Quiet (values : List α) : Prop :=
  values.Pairwise fun value later => rule.accepts value later = false

theorem quiet_of_length_le_one {values : List α} (few : values.length ≤ 1) :
    rule.Quiet values := by
  match values, few with
  | [], _ => exact .nil
  | [value], _ => exact List.pairwise_singleton _ value

/-- A value that accepts none of the others leaves them all. -/
theorem absorb_of_refused {value : α} {values : List α}
    (refused : ∀ later ∈ values, rule.accepts value later = false) :
    rule.absorb value values = (value, values) := by
  induction values with
  | nil => rfl
  | cons later rest ih =>
      obtain ⟨first, others⟩ := List.forall_mem_cons.mp refused
      rw [rule.absorb_refused first, ih others]

/-- A value that leaves as many others as there were accepts none of them. -/
theorem refused_of_length_absorb {value : α} {values : List α}
    (same : (rule.absorb value values).2.length = values.length) :
    ∀ later ∈ values, rule.accepts value later = false := by
  induction values with
  | nil => exact fun later member => absurd member List.not_mem_nil
  | cons later rest ih =>
      cases accepted : rule.accepts value later with
      | true =>
          rw [rule.absorb_accepted accepted, List.length_cons] at same
          have fewer := (rule.absorb_sublist (rule.combine value later) rest).length_le
          omega
      | false =>
          rw [rule.absorb_refused accepted, List.length_cons, List.length_cons] at same
          exact List.forall_mem_cons.mpr ⟨accepted, ih (Nat.succ_inj.mp same)⟩

/-- A pass leaves a quiet list as it is. -/
theorem sweep_of_quiet {values : List α} (quiet : rule.Quiet values) :
    rule.sweep values = values := by
  induction values with
  | nil => rw [sweep]
  | cons value rest ih =>
      obtain ⟨first, others⟩ := List.pairwise_cons.mp quiet
      rw [sweep, rule.absorb_of_refused first, ih others]

/-- A list that a pass does not shorten is quiet. -/
theorem quiet_of_length_sweep {values : List α}
    (same : (rule.sweep values).length = values.length) : rule.Quiet values := by
  induction values with
  | nil => exact .nil
  | cons value rest ih =>
      rw [sweep, List.length_cons, List.length_cons] at same
      -- Neither absorbing nor sweeping makes a list longer, so neither made this one shorter.
      have swept := rule.length_sweep_le (rule.absorb value rest).2
      have absorbed := (rule.absorb_sublist value rest).length_le
      have refused : ∀ later ∈ rest, rule.accepts value later = false :=
        rule.refused_of_length_absorb (by omega)
      rw [rule.absorb_of_refused refused] at same
      exact .cons refused (ih (Nat.succ_inj.mp same))

/-! ## Repeated passes -/

/-- What repeated passes leave is quiet. -/
theorem quiet_sweeps (passes : Nat) (values : List α) :
    rule.Quiet (rule.sweeps passes values).1 := by
  fun_induction sweeps rule passes values with
  | case1 passes values few => exact rule.quiet_of_length_le_one few
  | case2 passes values many unchanged =>
      have quiet := rule.quiet_of_length_sweep unchanged
      rwa [rule.sweep_of_quiet quiet]
  | case3 passes values many shortened ih => exact ih

/-- Repeated passes leave something of something. -/
theorem sweeps_ne_nil (passes : Nat) {values : List α} (notEmpty : values ≠ []) :
    (rule.sweeps passes values).1 ≠ [] := by
  fun_induction sweeps rule passes values with
  | case1 passes values few => exact notEmpty
  | case2 passes values many unchanged => exact rule.sweep_ne_nil notEmpty
  | case3 passes values many shortened ih => exact ih (rule.sweep_ne_nil notEmpty)

theorem passes_le_sweeps (passes : Nat) (values : List α) :
    passes ≤ (rule.sweeps passes values).2 := by
  fun_induction sweeps rule passes values with
  | case1 passes values few => exact Nat.le_refl _
  | case2 passes values many unchanged => exact Nat.le_succ _
  | case3 passes values many shortened ih => exact Nat.le_of_succ_le ih

/-- A list of more than one value takes a pass. -/
theorem passes_lt_sweeps (passes : Nat) {values : List α} (many : 2 ≤ values.length) :
    passes < (rule.sweeps passes values).2 := by
  rw [sweeps, if_neg (Nat.not_le.mpr many)]
  split
  · exact Nat.lt_succ_self _
  · exact rule.passes_le_sweeps (passes + 1) (rule.sweep values)

/-- Every pass but the last takes away a value. -/
theorem sweeps_le (passes : Nat) (values : List α) :
    (rule.sweeps passes values).2 ≤ passes + (values.length - 1) := by
  fun_induction sweeps rule passes values with
  | case1 passes values few => exact Nat.le_add_right _ _
  | case2 passes values many unchanged => dsimp only; omega
  | case3 passes values many shortened ih =>
      have shorter := Nat.lt_of_le_of_ne (rule.length_sweep_le values) shortened
      omega

/-- A list with no two values to merge takes no pass, and a quiet list one. -/
theorem sweeps_of_quiet (passes : Nat) {values : List α} (quiet : rule.Quiet values) :
    rule.sweeps passes values = (values, passes + if 1 < values.length then 1 else 0) := by
  rw [sweeps]
  by_cases few : values.length ≤ 1
  · rw [if_pos few, if_neg (Nat.not_lt.mpr few)]
    rfl
  · rw [if_neg few, rule.sweep_of_quiet quiet, dif_pos rfl, if_pos (Nat.not_le.mp few)]

end PlainRule

/-- **Merging reaches a fixpoint.**  A list of fewer than two values takes no pass and is
left as it is; a longer one takes at least one pass, and fewer passes than it has values.
In what is left no value accepts a later one, so merging again takes the one pass that
finds this out, if there are two values to compare, and leaves everything as it is. -/
theorem merge_reaches_fixpoint (rule : PlainRule Text) (values : ValueList) :
    let merged : Merged := Id.run (values.merge rule.silent)
    (values.length < 2 → merged.values = values ∧ merged.passes = 0) ∧
      (2 ≤ values.length →
        1 ≤ merged.passes ∧ merged.passes ≤ values.length - 1 ∧ merged.values ≠ []) ∧
      (merged.values.Pairwise fun value later => rule.accepts value later = false) ∧
      Id.run (merged.values.merge rule.silent) =
        ⟨merged.values, if 1 < merged.values.length then 1 else 0⟩ := by
  intro merged
  have plain : merged = ⟨(rule.sweeps 0 values).1, (rule.sweeps 0 values).2⟩ :=
    merge_silent rule values
  have quiet : rule.Quiet merged.values := by
    rw [plain]
    exact rule.quiet_sweeps 0 values
  refine ⟨fun few => ?_, fun many => ?_, quiet, ?_⟩
  · rw [plain, rule.sweeps_of_quiet 0 (rule.quiet_of_length_le_one (Nat.le_of_lt_succ few)),
      if_neg (Nat.not_lt.mpr (Nat.le_of_lt_succ few))]
    exact ⟨rfl, rfl⟩
  · have notEmpty : values ≠ [] := List.ne_nil_of_length_pos (Nat.lt_of_lt_of_le Nat.two_pos many)
    have bound := rule.sweeps_le 0 values
    rw [Nat.zero_add] at bound
    rw [plain]
    exact ⟨rule.passes_lt_sweeps 0 many, bound, rule.sweeps_ne_nil 0 notEmpty⟩
  · rw [merge_silent, rule.sweeps_of_quiet 0 quiet, Nat.zero_add]

end ListMarkup
