import ListMarkup.Proofs.Merge.Fixpoint
import ListMarkup.Proofs.ValueList.Distinct

/-!
# Merging by a shared key is grouping

When two values match if they have the same key, and combining them keeps the key, merging
makes groups.  The first value under a key absorbs all the others under it in one pass, since
its key stays the same while it absorbs them and the values between them are passed over.  The
first pass therefore leaves one value for each key, in the order in which the keys first occur
(`PlainRule.sweep_byKey`), and a second pass, if there is one, changes nothing
(`merge_groups_by_key`).
-/

set_option autoImplicit false

namespace ListMarkup

/-! ## Groups -/

namespace ValueList

/-- The values combined one after the other, from the first to the last. -/
def combined (combine : Text → Text → Text) (values : ValueList) : Text :=
  values.tail.foldl combine (values.headD [])

/-- The values under each key combined, in the order in which the keys first occur. -/
def grouped {κ : Type} [DecidableEq κ] (key : Text → κ) (combine : Text → Text → Text)
    (values : ValueList) : ValueList :=
  (values.map key).eraseDups.map fun shared =>
    combined combine (values.filter fun value => key value = shared)

/-- Under a single key everything is combined. -/
theorem grouped_of_const (combine : Text → Text → Text) {values : ValueList}
    (notEmpty : values ≠ []) :
    values.grouped (fun _ => ()) combine = [values.combined combine] := by
  obtain ⟨value, rest, rfl⟩ := List.exists_cons_of_ne_nil notEmpty
  simp [grouped, List.eraseDups_cons]

end ValueList

theorem nodup_eraseDups {κ : Type} [DecidableEq κ] (keys : List κ) : keys.eraseDups.Nodup := by
  cases keys with
  | nil => exact List.nodup_nil
  | cons key keys =>
      have shorter := List.length_filter_le (fun other => !other == key) keys
      rw [List.eraseDups_cons, List.nodup_cons]
      refine ⟨?_, nodup_eraseDups _⟩
      simp
termination_by keys.length
decreasing_by
  rw [List.length_cons]
  omega

/-- There is at most one first occurrence when all keys are the same. -/
theorem length_eraseDups_le_one_iff {κ : Type} [DecidableEq κ] (keys : List κ) :
    keys.eraseDups.length ≤ 1 ↔ ∀ first ∈ keys, ∀ second ∈ keys, first = second := by
  have distinct := nodup_eraseDups keys
  simp only [← @List.mem_eraseDups κ _ _ _ keys]
  match keys.eraseDups, distinct with
  | [], _ => simp
  | [key], _ => simp
  | first :: second :: rest, distinct =>
      have differ : first ≠ second := by
        rintro rfl
        simp at distinct
      constructor
      · intro few
        simp at few
      · intro same
        exact absurd (same first (by simp) second (by simp)) differ

namespace PlainRule

variable {κ : Type} [DecidableEq κ] (key : Text → κ) (combine : Text → Text → Text)

/-- Values merge when they have the same key. -/
def byKey : PlainRule Text where
  accepts left right := decide (key left = key right)
  combine := combine

/-- Lists in which nothing merges are those without two values under one key. -/
theorem quiet_byKey_iff {values : ValueList} :
    (byKey key combine).Quiet values ↔ (values.map key).Nodup := by
  rw [Quiet, List.Nodup, List.pairwise_map]
  simp [byKey]

variable {key combine}
  (keeps : ∀ left right, key left = key right → key (combine left right) = key left)
include keeps

omit [DecidableEq κ] in
/-- Combining values under one key keeps the key. -/
theorem key_foldl {value : Text} {values : ValueList}
    (same : ∀ later ∈ values, key later = key value) :
    key (values.foldl combine value) = key value := by
  induction values generalizing value with
  | nil => rfl
  | cons later rest ih =>
      obtain ⟨first, others⟩ := List.forall_mem_cons.mp same
      have kept := keeps value later first.symm
      rw [List.foldl_cons, ih (fun other member => (others other member).trans kept.symm), kept]

/-- A value absorbs the later values under its key and passes over all others. -/
theorem absorb_byKey (value : Text) (values : ValueList) :
    (byKey key combine).absorb value values =
      ((values.filter fun later => key later = key value).foldl combine value,
        values.filter fun later => !key later == key value) := by
  induction values generalizing value with
  | nil => rfl
  | cons later rest ih =>
      by_cases same : key later = key value
      · have accepted : (byKey key combine).accepts value later = true :=
          decide_eq_true same.symm
        have kept : key ((byKey key combine).combine value later) = key value :=
          keeps value later same.symm
        rw [absorb_accepted _ accepted, ih, kept, List.filter_cons_of_pos (by simpa using same),
          List.filter_cons_of_neg (by simpa using same), List.foldl_cons]
        rfl
      · have refused : (byKey key combine).accepts value later = false :=
          decide_eq_false fun shared => same shared.symm
        rw [absorb_refused _ refused, ih, List.filter_cons_of_neg (by simpa using same),
          List.filter_cons_of_pos (by simpa using same)]

/-- One pass makes the groups. -/
theorem sweep_byKey (values : ValueList) :
    (byKey key combine).sweep values = values.grouped key combine := by
  fun_induction sweep (byKey key combine) values with
  | case1 => rfl
  | case2 value rest ih =>
      rw [absorb_byKey keeps] at ih ⊢
      rw [ih, ValueList.grouped, ValueList.grouped, List.map_cons, List.eraseDups_cons,
        List.map_cons, List.filter_cons_of_pos (by simp), List.filter_map]
      congr 1
      apply List.map_congr_left
      intro shared member
      -- The groups of the other keys do not change when the first group is taken out.
      have other : shared ≠ key value := by
        rw [List.mem_eraseDups] at member
        obtain ⟨later, isLater, rfl⟩ := List.mem_map.mp member
        simpa using List.of_mem_filter isLater
      rw [List.filter_cons_of_neg (by simpa using other.symm), List.filter_filter]
      congr 1
      apply List.filter_congr
      intro later _
      by_cases same : key later = shared
      · simp [same, other]
      · simp [same]

/-- Each group has its key. -/
theorem map_key_grouped (values : ValueList) :
    (values.grouped key combine).map key = (values.map key).eraseDups := by
  rw [ValueList.grouped, List.map_map]
  refine (List.map_congr_left fun shared member => ?_).trans (List.map_id _)
  rw [List.mem_eraseDups] at member
  obtain ⟨value, isValue, rfl⟩ := List.mem_map.mp member
  show key (ValueList.combined combine _) = key value
  have under : ∀ other ∈ values.filter fun other => key other = key value,
      key other = key value :=
    fun other inGroup => by simpa using List.of_mem_filter inGroup
  cases group : values.filter fun other => key other = key value with
  | nil =>
      have inGroup : value ∈ values.filter fun other => key other = key value := by
        simpa using isValue
      rw [group] at inGroup
      cases inGroup
  | cons first rest =>
      rw [group] at under
      obtain ⟨firstUnder, restUnder⟩ := List.forall_mem_cons.mp under
      rw [ValueList.combined, List.tail_cons, List.headD_cons,
        key_foldl keeps fun later member => (restUnder later member).trans firstUnder.symm,
        firstUnder]

/-- Groups do not merge. -/
theorem quiet_grouped (values : ValueList) :
    (byKey key combine).Quiet (values.grouped key combine) := by
  rw [quiet_byKey_iff, map_key_grouped keeps]
  exact nodup_eraseDups (values.map key)

/-- Passes make the groups, and none is needed when no two values are there.  The first pass is
the last one when it changes nothing or leaves one group. -/
theorem sweeps_byKey (values : ValueList) :
    (byKey key combine).sweeps 0 values =
      (values.grouped key combine,
        if values.length < 2 then 0
        else if (values.map key).Nodup ∨
            ∀ first ∈ values, ∀ second ∈ values, key first = key second then 1
        else 2) := by
  have swept := sweep_byKey keeps values
  by_cases quiet : (byKey key combine).Quiet values
  · -- Nothing merges, so the list is its own groups.
    have same : values.grouped key combine = values := by
      rw [← swept, sweep_of_quiet _ quiet]
    rw [sweeps_of_quiet _ 0 quiet, same]
    rw [quiet_byKey_iff] at quiet
    by_cases few : values.length < 2
    · rw [if_pos few, if_neg (by omega)]
    · rw [if_neg few, if_pos (by omega), if_pos (Or.inl quiet)]
  · have many : ¬ values.length ≤ 1 := fun few => quiet (quiet_of_length_le_one _ few)
    have shortened : ¬ ((byKey key combine).sweep values).length = values.length :=
      fun unchanged => quiet (quiet_of_length_sweep _ unchanged)
    rw [sweeps, if_neg many, dif_neg shortened, swept,
      sweeps_of_quiet _ _ (quiet_grouped keeps values)]
    have groups : (values.grouped key combine).length ≤ 1 ↔
        ∀ first ∈ values, ∀ second ∈ values, key first = key second := by
      rw [← List.length_map key, map_key_grouped keeps, length_eraseDups_le_one_iff]
      simp
    rw [quiet_byKey_iff] at quiet
    have notFew : ¬ values.length < 2 := by omega
    rw [if_neg notFew]
    by_cases one : (values.grouped key combine).length ≤ 1
    · rw [if_neg (Nat.not_lt.mpr one), if_pos (Or.inr (groups.mp one))]
    · rw [if_pos (Nat.not_le.mp one), if_neg]
      rintro (nodup | same)
      · exact quiet nodup
      · exact one (groups.mpr same)

end PlainRule

/-! ## Merging -/

/-- **Merging by a shared key is grouping.**  When combining values that have the same key keeps
the key, merging the values that have the same key leaves one value for each key, in the order in
which the keys first occur: its values combined from the first to the last.  That takes no pass
for fewer than two values, one pass when all keys differ or all are the same, and two passes
otherwise.  When all values match, what is left is all of them combined, and when equal values
match and the first is kept, the values without repetitions. -/
theorem merge_groups_by_key :
    (∀ {κ : Type} [DecidableEq κ] (key : Text → κ) (combine : Text → Text → Text),
      (∀ left right, key left = key right → key (combine left right) = key left) →
      ∀ values : ValueList,
        (Id.run (values.merge (PlainRule.byKey key combine).silent)).values =
            values.grouped key combine ∧
          (Id.run (values.merge (PlainRule.byKey key combine).silent)).passes =
            if values.length < 2 then 0
            else if (values.map key).Nodup ∨
                ∀ first ∈ values, ∀ second ∈ values, key first = key second then 1
            else 2) ∧
    (∀ (combine : Text → Text → Text) (values : ValueList), values ≠ [] →
      (Id.run (values.merge (PlainRule.silent ⟨fun _ _ => true, combine⟩))).values =
        [values.combined combine]) ∧
    (∀ values : ValueList,
      (Id.run (values.merge
        (PlainRule.silent ⟨fun left right => decide (left = right), fun left _ => left⟩))).values =
          values.distinct true) := by
  refine ⟨?byKey, ?always, ?equal⟩
  case byKey =>
    intro κ _ key combine keeps values
    rw [merge_silent, PlainRule.sweeps_byKey keeps]
    exact ⟨rfl, rfl⟩
  case always =>
    intro combine values notEmpty
    have oneKey : (⟨fun _ _ => true, combine⟩ : PlainRule Text) =
        PlainRule.byKey (fun _ => ()) combine := by
      simp [PlainRule.byKey]
    rw [oneKey, merge_silent,
      @PlainRule.sweeps_byKey Unit _ (fun _ => ()) combine (fun _ _ _ => rfl) values]
    exact ValueList.grouped_of_const combine notEmpty
  case equal =>
    intro values
    have keeps : ∀ left right : Text, id left = id right → id left = id left := fun _ _ _ => rfl
    have ownKey : (⟨fun left right => decide (left = right), fun left _ => left⟩ :
        PlainRule Text) = PlainRule.byKey id fun left _ => left := rfl
    have first := PlainRule.map_key_grouped keeps values
    rw [List.map_id, List.map_id,
      lawful_beq_subsingleton (instBEqOfDecidableEq : BEq Text) List.instBEq] at first
    rw [ownKey, merge_silent, PlainRule.sweeps_byKey keeps, ValueList.distinct_eq_eraseDups]
    exact first

/-- Values with the same first character are put together. -/
theorem merge_groups_by_initial :
    (Id.run (ValueList.merge ["ax".toList, "by".toList, "az".toList, "bw".toList, "c".toList]
        (PlainRule.byKey List.head? List.append).silent)).values =
      ["axaz".toList, "bybw".toList, "c".toList] ∧
    (Id.run (ValueList.merge ["ax".toList, "by".toList, "az".toList, "bw".toList, "c".toList]
        (PlainRule.byKey List.head? List.append).silent)).passes = 2 := by
  have keeps : ∀ left right : Text, left.head? = right.head? →
      (left.append right).head? = left.head? := by
    intro left right same
    cases left with
    | nil => exact same.symm
    | cons c left => rfl
  obtain ⟨groups, passes⟩ := merge_groups_by_key.1 List.head? List.append keeps
    ["ax".toList, "by".toList, "az".toList, "bw".toList, "c".toList]
  exact ⟨groups.trans (by decide), passes.trans (by decide)⟩

end ListMarkup
