import ListMarkup.ValueList.Merge

/-!
# Merging without a cache

The same merge, said by recursion on the list.  A value absorbs those of the later
values that it accepts, each in the form it has by then, and passes over the others
(`PlainRule.absorb`).  A pass does so with every value that is left when its turn comes
(`PlainRule.sweep`), and passes are repeated while they shorten the list and more than
one value is left (`PlainRule.sweeps`).

Values may be of any type, so that what becomes of texts can be followed on something
that remembers where they came from.
-/

set_option autoImplicit false

namespace ListMarkup

/-- When two values merge, and into what, without effects. -/
structure PlainRule (α : Type) where
  accepts : α → α → Bool
  combine : α → α → α

namespace PlainRule

variable {α : Type} (rule : PlainRule α)

/-- The final form of a value that has met every value of a list, and those that it did
not absorb. -/
def absorb (value : α) : List α → α × List α
  | [] => (value, [])
  | later :: rest =>
    if rule.accepts value later then absorb (rule.combine value later) rest
    else
      let (final, kept) := absorb value rest
      (final, later :: kept)

theorem absorb_accepted {value later : α} (accepted : rule.accepts value later = true)
    (rest : List α) :
    rule.absorb value (later :: rest) = rule.absorb (rule.combine value later) rest := by
  rw [absorb, if_pos accepted]

theorem absorb_refused {value later : α} (refused : rule.accepts value later = false)
    (rest : List α) :
    rule.absorb value (later :: rest) =
      ((rule.absorb value rest).1, later :: (rule.absorb value rest).2) := by
  rw [absorb, if_neg (Bool.eq_false_iff.mp refused)]

/-- What is not absorbed stays in order. -/
theorem absorb_sublist (value : α) (values : List α) :
    (rule.absorb value values).2.Sublist values := by
  induction values generalizing value with
  | nil => exact .slnil
  | cons later rest ih =>
      cases accepted : rule.accepts value later with
      | true =>
          rw [rule.absorb_accepted accepted]
          exact (ih _).cons later
      | false =>
          rw [rule.absorb_refused accepted]
          exact (ih value).cons_cons later

/-- One pass. -/
def sweep : List α → List α
  | [] => []
  | value :: rest => (rule.absorb value rest).1 :: sweep (rule.absorb value rest).2
termination_by values => values.length
decreasing_by exact Nat.lt_succ_of_le (rule.absorb_sublist value rest).length_le

theorem length_sweep_le (values : List α) : (rule.sweep values).length ≤ values.length := by
  fun_induction sweep rule values with
  | case1 => exact Nat.le_refl _
  | case2 value rest ih =>
      exact Nat.succ_le_succ (Nat.le_trans ih (rule.absorb_sublist value rest).length_le)

/-- A pass leaves something of something. -/
theorem sweep_ne_nil {values : List α} (notEmpty : values ≠ []) : rule.sweep values ≠ [] := by
  cases values with
  | nil => exact absurd rfl notEmpty
  | cons value rest =>
      rw [sweep]
      exact List.cons_ne_nil _ _

/-- What further passes leave, after `passes` of them, and how many they are by then. -/
def sweeps (passes : Nat) (values : List α) : List α × Nat :=
  if values.length ≤ 1 then (values, passes)
  else if unchanged : (rule.sweep values).length = values.length then
    (rule.sweep values, passes + 1)
  else sweeps (passes + 1) (rule.sweep values)
termination_by values.length
decreasing_by exact Nat.lt_of_le_of_ne (rule.length_sweep_le values) unchanged

end PlainRule

end ListMarkup
