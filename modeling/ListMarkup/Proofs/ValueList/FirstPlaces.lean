import ListMarkup.Proofs.Builtin.Presented
import ListMarkup.Proofs.FunctionTable.Answers
import ListMarkup.Proofs.ValueList.Membership
import ListMarkup.Proofs.ValueList.Stability
import Mathlib.Data.Finset.Card
import Mathlib.Order.Fin.Basic

/-!
# The places at which keys occur for the first time

Removing repetitions walks a list once and remembers the keys that it has met.  What it keeps
are the values at the places at which no earlier place has the same key, be the value at the
earlier place kept or not (`firstOccurrences_ofFn`).  That is so whatever the keys are: the
values themselves, their lower case, or the results of an operator, which may depend on the
places (`ValueList.distinct_keeps_first_occurrences`).

No two of these places have the same key (`pairwise_firstPlaces`), and each key that occurs has
one of them (`exists_firstPlace`).  Hence there are as many values left as there are different
keys, and what has been freed of repetitions once may be freed of them again together with more
values.
-/

set_option autoImplicit false

namespace ListMarkup

/-! ## First places -/

section Places

variable {κ : Type} {count : Nat} (key : Fin count → κ)

/-- No earlier place has the same key. -/
def IsFirst (place : Fin count) : Prop :=
  ∀ earlier < place, key earlier ≠ key place

instance [DecidableEq κ] (place : Fin count) : Decidable (IsFirst key place) :=
  inferInstanceAs (Decidable (∀ earlier, earlier < place → key earlier ≠ key place))

theorem isFirst_zero (key : Fin (count + 1) → κ) : IsFirst key 0 :=
  fun earlier before => absurd before (Fin.not_lt_zero earlier)

/-- A later place is first when the very first place has another key and no place between has
the same one. -/
theorem isFirst_succ (key : Fin (count + 1) → κ) (place : Fin count) :
    IsFirst key place.succ ↔
      key 0 ≠ key place.succ ∧ IsFirst (fun later => key later.succ) place := by
  unfold IsFirst
  simp only [Fin.forall_fin_succ, Fin.succ_lt_succ_iff, Fin.succ_pos, forall_const]

variable [DecidableEq κ]

/-- The places at which a key occurs for the first time, in order. -/
def firstPlaces : List (Fin count) :=
  (List.finRange count).filter fun place => IsFirst key place

theorem mem_firstPlaces {place : Fin count} : place ∈ firstPlaces key ↔ IsFirst key place := by
  simp [firstPlaces, List.mem_filter]

/-- No two first places have the same key. -/
theorem pairwise_firstPlaces :
    (firstPlaces key).Pairwise fun earlier later => key earlier ≠ key later := by
  have inOrder : (firstPlaces key).Pairwise (· < ·) := (List.pairwise_lt_finRange count).filter _
  refine inOrder.imp_of_mem ?_
  intro earlier later _ isPlace before
  exact (mem_firstPlaces key).mp isPlace earlier before

/-- Each place has the key of a first place, which is not behind it. -/
theorem exists_firstPlace (place : Fin count) :
    ∃ first ∈ firstPlaces key, first ≤ place ∧ key first = key place := by
  induction place using WellFoundedLT.induction with
  | ind place ih =>
      by_cases isFirst : IsFirst key place
      · exact ⟨place, (mem_firstPlaces key).mpr isFirst, le_refl place, rfl⟩
      · unfold IsFirst at isFirst
        push Not at isFirst
        obtain ⟨earlier, before, same⟩ := isFirst
        obtain ⟨first, isPlace, notBehind, shared⟩ := ih earlier before
        exact ⟨first, isPlace, notBehind.trans before.le, shared.trans same⟩

end Places

/-! ## What is kept -/

section Kept

variable {κ α : Type} [DecidableEq κ] [BEq κ] [LawfulBEq κ] {count : Nat}

/-- The values that are kept stand at the first places of the keys that have not been seen. -/
theorem firstOccurrences_seen_ofFn (seen : List κ) (key : Fin count → κ)
    (value : Fin count → α) :
    firstOccurrences seen (List.ofFn fun place => (key place, value place)) =
      ((List.finRange count).filter fun place => key place ∉ seen ∧ IsFirst key place).map
        value := by
  induction count generalizing seen with
  | zero => rfl
  | succ count ih =>
      rw [List.ofFn_succ, firstOccurrences, List.finRange_succ, List.filter_cons]
      by_cases known : key 0 ∈ seen
      · rw [if_pos (List.contains_iff_mem.mpr known), ih, if_neg (by simp [known]),
          List.filter_map, List.map_map]
        refine congrArg (List.map _) (List.filter_congr fun place _ => ?_)
        have other : key place.succ ∉ seen → key 0 ≠ key place.succ := by
          intro new same
          exact new (same ▸ known)
        simp only [Function.comp_apply, isFirst_succ, decide_eq_decide]
        tauto
      · rw [if_neg (by simpa using known), ih, if_pos (by simp [known, isFirst_zero]),
          List.map_cons, List.filter_map, List.map_map]
        refine congrArg (value 0 :: List.map _ ·) (List.filter_congr fun place _ => ?_)
        simp only [Function.comp_apply, isFirst_succ, List.mem_cons, decide_eq_decide]
        tauto

/-- The values that are kept stand at the first places of their keys. -/
theorem firstOccurrences_ofFn (key : Fin count → κ) (value : Fin count → α) :
    firstOccurrences [] (List.ofFn fun place => (key place, value place)) =
      (firstPlaces key).map value := by
  rw [firstOccurrences_seen_ofFn, firstPlaces]
  simp

end Kept

namespace ValueList

variable (values : ValueList) (caseSensitive : Bool)

/-- Compared by themselves, the values at the first places of their folded forms are kept. -/
theorem distinct_eq_firstPlaces :
    values.distinct caseSensitive =
      (firstPlaces fun place => Text.fold caseSensitive (values.get place)).map values.get := by
  have keyed : (values.map fun value => (Text.fold caseSensitive value, value)) =
      List.ofFn fun place => (Text.fold caseSensitive (values.get place), values.get place) := by
    conv_lhs => rw [← List.ofFn_get values, List.map_ofFn]
    rfl
  rw [distinct, keyed, firstOccurrences_ofFn]

/-- Compared by the results of an operator, the values at the first places of the results are
kept. -/
theorem run_distinctBy (expander : Expander) (operator : Operator) (fieldSeparator : Text) :
    (values.distinctBy operator fieldSeparator).run expander =
      (firstPlaces (operator.key expander fieldSeparator values)).map values.get := by
  rw [distinctBy, Expansion.run_bind, Expansion.run_pure, Operator.run_results,
    firstOccurrences_ofFn]

/-- The folded forms of what is kept are those of the whole list. -/
theorem mem_map_fold_distinct (form : Text) :
    form ∈ (values.distinct caseSensitive).map (Text.fold caseSensitive) ↔
      form ∈ values.map (Text.fold caseSensitive) := by
  rw [List.mem_map, List.mem_map]
  constructor
  · rintro ⟨value, isKept, rfl⟩
    exact ⟨value, (distinct_sublist caseSensitive values).subset isKept, rfl⟩
  · rintro ⟨value, member, rfl⟩
    obtain ⟨place, rfl⟩ := List.get_of_mem member
    obtain ⟨first, isPlace, -, same⟩ :=
      exists_firstPlace (fun place => Text.fold caseSensitive (values.get place)) place
    refine ⟨values.get first, ?_, same⟩
    rw [distinct_eq_firstPlaces]
    exact List.mem_map_of_mem isPlace

/-- As many values are kept as there are different folded forms. -/
theorem length_distinct :
    (values.distinct caseSensitive).length =
      (values.map (Text.fold caseSensitive)).toFinset.card := by
  have apart : ((values.distinct caseSensitive).map (Text.fold caseSensitive)).Nodup :=
    List.pairwise_map.mpr ((pairwise_distinct caseSensitive values).imp Ne.symm)
  have same : ((values.distinct caseSensitive).map (Text.fold caseSensitive)).toFinset =
      (values.map (Text.fold caseSensitive)).toFinset := by
    ext form
    rw [List.mem_toFinset, List.mem_toFinset, mem_map_fold_distinct]
  rw [← same, List.toFinset_card_of_nodup apart, List.length_map]

/-- What has been freed of repetitions includes what the list includes. -/
theorem includes_distinct (item : Text) :
    (values.distinct caseSensitive).includes caseSensitive item =
      values.includes caseSensitive item := by
  have included := mem_map_fold_distinct values caseSensitive (Text.fold caseSensitive item)
  rw [List.mem_map, List.mem_map] at included
  rw [Bool.eq_iff_iff, includes_iff, includes_iff]
  exact included

/-- Repetitions may be removed from the first values before more are added. -/
theorem distinct_append (more : ValueList) :
    distinct (values ++ more) caseSensitive =
      distinct (values.distinct caseSensitive ++ more) caseSensitive := by
  induction more using List.reverseRecOn with
  | nil => rw [List.append_nil, List.append_nil, distinct_distinct]
  | append_singleton more item ih =>
      have included : includes (values ++ more) caseSensitive item =
          includes (values.distinct caseSensitive ++ more) caseSensitive item := by
        rw [includes, includes, List.any_append, List.any_append]
        exact congrArg (· || _) (includes_distinct values caseSensitive item).symm
      rw [← List.append_assoc, ← List.append_assoc, distinct_concat, distinct_concat, ih, included]

end ValueList

namespace Builtin

/-- How many different values the list of a call has, as the call looks at case. -/
def differentValues (expander : Expander) (arguments : Arguments) : Nat :=
  ((arguments.values expander).map
    (Text.fold (asksForCase (arguments.value expander "csoption".toList)))).toFinset.card

theorem run_countDistinct (expander : Expander) (arguments : Arguments) :
    (countDistinct arguments).run expander =
      Text.ofNat (differentValues expander arguments) := by
  rw [countDistinct, Expansion.run_bind, Expansion.run_bind, Expansion.run_pure, run_givenList,
    run_caseSensitivity, ValueList.count, ValueList.length_distinct, differentValues]

end Builtin

/-- **Of the values that share a key the first one is kept.**  What is kept of a list are the
values at the places at which no earlier place has the same key, in order, where the key is the
folded form of the value or what an operator gives for the value and its position.  No two of
these places have the same key, and every key that occurs is the key of one of them.

Hence repetitions are removed at once, the number of different values is the number of different
folded forms, and repetitions may be removed from a list before more values are added to it. -/
theorem ValueList.distinct_keeps_first_occurrences :
    (∀ (values : ValueList) (caseSensitive : Bool),
      values.distinct caseSensitive =
        (firstPlaces fun place => Text.fold caseSensitive (values.get place)).map values.get) ∧
    (∀ (expander : Expander) (operator : Operator) (fieldSeparator : Text) (values : ValueList),
      (values.distinctBy operator fieldSeparator).run expander =
        (firstPlaces (operator.key expander fieldSeparator values)).map values.get) ∧
    (∀ {count : Nat} (key : Fin count → Text),
      (firstPlaces key).Pairwise (fun earlier later => key earlier ≠ key later) ∧
        ∀ place, ∃ first ∈ firstPlaces key, first ≤ place ∧ key first = key place) ∧
    (∀ (values : ValueList) (caseSensitive : Bool),
      (values.distinct caseSensitive).distinct caseSensitive = values.distinct caseSensitive) ∧
    (∀ (expander : Expander) (given : List Text),
      FunctionTable.builtin.answer? expander "lstcntuniq" given =
        some (Text.ofNat
          (Builtin.differentValues expander (Builtin.countDistinctSignature.arrange given)))) ∧
    ∀ (values more : ValueList) (caseSensitive : Bool),
      distinct (values ++ more) caseSensitive =
        distinct (values.distinct caseSensitive ++ more) caseSensitive := by
  refine ⟨distinct_eq_firstPlaces, ?byKey, ?places, ?again, ?counted, ?joined⟩
  case byKey =>
    intro expander operator fieldSeparator values
    exact run_distinctBy values expander operator fieldSeparator
  case places =>
    intro count key
    exact ⟨pairwise_firstPlaces key, exists_firstPlace key⟩
  case again =>
    intro values caseSensitive
    exact distinct_distinct caseSensitive values
  case counted =>
    intro expander given
    have found : FunctionTable.builtin.find? "lstcntuniq".toList =
        some ⟨"lstcntuniq".toList, Builtin.countDistinctSignature, Builtin.countDistinct⟩ := rfl
    rw [FunctionTable.answer?, FunctionTable.call?, found]
    exact congrArg some (Builtin.run_countDistinct expander _)
  case joined =>
    intro values more caseSensitive
    exact distinct_append values caseSensitive more

end ListMarkup
