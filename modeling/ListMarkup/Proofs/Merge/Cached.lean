import ListMarkup.Proofs.Merge.Plain
import Mathlib.Data.List.Nodup

/-!
# The cache changes nothing

Merging in place with a cache gives what merging without one does, in as many passes,
and asks about no pair of texts twice (`merge_agrees`).

The rule is run in any monad that can note the pairs it is asked about.  `Settles` says
what a part of the run does from a cache that knows the answers for the pairs noted so
far: it notes pairs that are all new and all different, the cache knows the answers for
them afterwards, and the result does not depend on the cache.  Parts that settle can be
run one after the other, so the loops follow from asking once.
-/

set_option autoImplicit false

namespace ListMarkup

namespace PlainRule

/-- A rule that only answers. -/
def silent (rule : PlainRule Text) : MergeRule Id :=
  ⟨rule.accepts, rule.combine⟩

variable {m : Type → Type} [Monad m]

/-- A rule that notes every pair that it is asked about. -/
def noting (note : ValuePair → m Unit) (rule : PlainRule Text) : MergeRule m where
  accepts left right := do
    note ⟨left, right⟩
    pure (rule.accepts left right)
  combine left right := pure (rule.combine left right)

/-- A rule that writes down every pair that it is asked about. -/
def recording (rule : PlainRule Text) : MergeRule (StateM (List ValuePair)) :=
  rule.noting fun pair => modify (· ++ [pair])

end PlainRule

/-! ## Running with a cache -/

/-- A cache holds the answers for the pairs asked so far, and nothing else. -/
def MatchCache.Knows (rule : PlainRule Text) (asked : List ValuePair) (cache : MatchCache) :
    Prop :=
  ∀ pair : ValuePair,
    cache[pair]? = if pair ∈ asked then some (rule.accepts pair.left pair.right) else none

namespace MatchCache.Knows

theorem empty (rule : PlainRule Text) : Knows rule [] {} := by
  intro pair
  rw [if_neg List.not_mem_nil]
  exact Std.HashMap.getElem?_empty

theorem insert {rule : PlainRule Text} {asked : List ValuePair} {cache : MatchCache}
    (knows : Knows rule asked cache) (pair : ValuePair) :
    Knows rule (asked ++ [pair]) (cache.insert pair (rule.accepts pair.left pair.right)) := by
  intro other
  rw [Std.HashMap.getElem?_insert]
  by_cases same : pair = other
  · subst same
    rw [if_pos (beq_self_eq_true pair), if_pos (List.mem_append_right _ List.mem_cons_self)]
  · rw [if_neg (by simpa only [beq_iff_eq] using same), knows other]
    simp only [List.mem_append, List.mem_singleton, Ne.symm same, or_false]

end MatchCache.Knows

section

variable {m : Type → Type} [Monad m] [LawfulMonad m] (note : ValuePair → m Unit)
  (rule : PlainRule Text)

/-- From any cache a run comes to this result, and the pairs it asks about are new and
all different. -/
def Settles {β : Type} (run : StateT MatchCache m β) (result : β) : Prop :=
  ∀ (asked : List ValuePair) (cache : MatchCache), asked.Nodup → cache.Knows rule asked →
    ∃ (fresh : List ValuePair) (later : MatchCache),
      (asked ++ fresh).Nodup ∧ later.Knows rule (asked ++ fresh) ∧
        run.run cache = do
          forM fresh note
          pure (result, later)

namespace Settles

variable {note rule} {β γ : Type}

theorem pure (result : β) : Settles note rule (Pure.pure result) result := by
  intro asked cache nodup knows
  rw [← List.append_nil asked] at nodup knows
  refine ⟨[], cache, nodup, knows, ?_⟩
  rw [List.forM_nil, pure_bind, StateT.run_pure]

theorem bind {run : StateT MatchCache m β} {next : β → StateT MatchCache m γ} {first : β}
    {second : γ} (settles : Settles note rule run first)
    (settlesNext : Settles note rule (next first) second) :
    Settles note rule (run >>= next) second := by
  intro asked cache nodup knows
  obtain ⟨fresh, later, freshNodup, laterKnows, ran⟩ := settles asked cache nodup knows
  obtain ⟨fresh', last, lastNodup, lastKnows, ran'⟩ :=
    settlesNext (asked ++ fresh) later freshNodup laterKnows
  rw [List.append_assoc] at lastNodup lastKnows
  refine ⟨fresh ++ fresh', last, lastNodup, lastKnows, ?_⟩
  rw [StateT.run_bind, ran, bind_assoc, List.forM_append, bind_assoc]
  simp only [pure_bind, ran']

variable (note rule)

/-- A rule that notes what it is asked combines without asking. -/
theorem combine (left right : Text) :
    Settles note rule (liftM ((rule.noting note).combine left right))
      (rule.combine left right) := by
  intro asked cache nodup knows
  rw [← List.append_nil asked] at nodup knows
  refine ⟨[], cache, nodup, knows, ?_⟩
  rw [PlainRule.noting, List.forM_nil, pure_bind]
  exact pure_bind _ _

/-- The rule is asked only about a pair that the cache does not know. -/
theorem consult (left right : Text) :
    Settles note rule ((rule.noting note).consult left right) (rule.accepts left right) := by
  intro asked cache nodup knows
  -- A known pair is answered by the cache; any other is noted, and its answer kept.
  by_cases known : (⟨left, right⟩ : ValuePair) ∈ asked
  · rw [← List.append_nil asked] at nodup
    refine ⟨[], cache, nodup, by rwa [List.append_nil], ?_⟩
    have answer := knows ⟨left, right⟩
    rw [if_pos known] at answer
    simp [MergeRule.consult, answer]
  · refine ⟨[⟨left, right⟩], cache.insert ⟨left, right⟩ (rule.accepts left right),
      List.concat_eq_append ▸ nodup.concat known, knows.insert ⟨left, right⟩, ?_⟩
    have answer := knows ⟨left, right⟩
    rw [if_neg known] at answer
    simp [MergeRule.consult, answer, PlainRule.noting]

/-- The values that a value meets are absorbed or put back. -/
theorem absorb (place bound : Nat) (value : Text) (values : Array Text) (rest : List Text)
    (place_lt : place < values.size) (size_le : values.size + rest.length ≤ bound) :
    ∃ outcome : MergeRule.Absorbed place bound,
      outcome.final = (rule.absorb value rest).1 ∧
      outcome.values.toList = values.toList ++ (rule.absorb value rest).2 ∧
      Settles note rule
        ((rule.noting note).absorb place bound value values rest place_lt size_le) outcome := by
  induction rest generalizing value values with
  | nil =>
      rw [MergeRule.absorb]
      exact ⟨_, rfl, (List.append_nil _).symm, Settles.pure _⟩
  | cons later rest ih =>
      rw [MergeRule.absorb]
      cases accepted : rule.accepts value later with
      | true =>
          obtain ⟨outcome, final, kept, settles⟩ := ih (rule.combine value later) values place_lt
            (by rw [List.length_cons] at size_le; omega)
          rw [rule.absorb_accepted accepted]
          refine ⟨outcome, final, kept, (Settles.consult note rule value later).bind ?_⟩
          rw [if_pos accepted]
          exact (Settles.combine note rule value later).bind settles
      | false =>
          obtain ⟨outcome, final, kept, settles⟩ := ih value (values.push later)
            (by rw [Array.size_push]; omega)
            (by rw [List.length_cons] at size_le; rw [Array.size_push]; omega)
          rw [rule.absorb_refused accepted]
          rw [Array.toList_push, List.append_assoc] at kept
          refine ⟨outcome, final, kept, (Settles.consult note rule value later).bind ?_⟩
          rw [if_neg (Bool.eq_false_iff.mp accepted)]
          exact settles

/-- The list between two places of a walk: what is before the place, the final form of
the value there, and what it did not absorb. -/
theorem toList_set_absorbed {place bound : Nat} {values : Array Text}
    (inside : place < values.size) (absorbed : MergeRule.Absorbed place bound)
    {kept : List Text}
    (left : absorbed.values.toList = (values.shrink (place + 1)).toList ++ kept) :
    (absorbed.values.set place absorbed.final absorbed.place_lt).toList =
      values.toList.take place ++ [absorbed.final] ++ kept := by
  have before : (values.toList.take place).length = place :=
    List.length_take_of_le (Nat.le_of_lt inside)
  rw [Array.toList_set, left, Array.toList_shrink, List.take_succ_eq_append_getElem inside,
    List.append_assoc, List.set_append_right _ _ (Nat.le_of_eq before), before, Nat.sub_self,
    List.append_assoc]
  rfl

/-- A walk from a place on leaves what is before it and sweeps the rest. -/
theorem passFrom {bound : Nat} (place : Nat) (values : Array Text)
    (size_le : values.size ≤ bound) :
    ∃ outcome : { outcome : Array Text // outcome.size ≤ bound },
      outcome.val.toList =
        values.toList.take place ++ rule.sweep (values.toList.drop place) ∧
      Settles note rule ((rule.noting note).passFrom place values size_le) outcome := by
  rw [MergeRule.passFrom]
  split
  · rename_i inside
    obtain ⟨absorbed, final, kept, settles⟩ := Settles.absorb note rule place bound values[place]
      (values.shrink (place + 1)) (values.drop (place + 1)).toList
      (by rw [Array.size_shrink]; omega)
      (by rw [Array.length_toList, Array.size_shrink, Array.size_extract]; omega)
    have later_le : (absorbed.values.set place absorbed.final absorbed.place_lt).size ≤ bound := by
      rw [Array.size_set]
      exact absorbed.size_le
    obtain ⟨outcome, left, settlesLater⟩ := Settles.passFrom (place + 1) _ later_le
    refine ⟨outcome, ?_, settles.bind settlesLater⟩
    have before : (values.toList.take place ++ [absorbed.final]).length = place + 1 := by
      rw [List.length_append, List.length_take_of_le (Nat.le_of_lt inside), List.length_singleton]
    have after : (values.drop (place + 1)).toList = values.toList.drop (place + 1) := by
      rw [Array.toList_extract, List.extract_eq_take_drop]
      exact List.take_of_length_le (Nat.le_of_eq List.length_drop)
    rw [left, toList_set_absorbed inside absorbed kept, List.take_left' before,
      List.drop_left' before, List.drop_eq_getElem_cons inside, PlainRule.sweep, final, after,
      List.append_assoc]
    rfl
  · rename_i outside
    refine ⟨⟨values, size_le⟩, ?_, Settles.pure _⟩
    have atEnd : values.toList.length ≤ place := Nat.le_of_not_lt outside
    rw [List.take_of_length_le atEnd, List.drop_of_length_le atEnd, PlainRule.sweep,
      List.append_nil]
termination_by bound - place

/-- Passes are repeated as often, and leave as much, as without a cache. -/
theorem passesFrom (passes : Nat) (values : Array Text) :
    Settles note rule ((rule.noting note).passesFrom passes values)
      ⟨(rule.sweeps passes values.toList).1, (rule.sweeps passes values.toList).2⟩ := by
  rw [MergeRule.passesFrom, PlainRule.sweeps]
  rw [Array.length_toList]
  by_cases few : values.size ≤ 1
  · rw [if_pos few, if_pos few]
    exact Settles.pure _
  · rw [if_neg few, if_neg few]
    obtain ⟨⟨outcome, size_le⟩, left, settles⟩ :=
      Settles.passFrom note rule 0 values (Nat.le_refl _)
    rw [List.take_zero, List.nil_append, List.drop_zero] at left
    refine settles.bind ?_
    rw [← left, Array.length_toList]
    by_cases unchanged : outcome.size = values.size
    · simp only [dif_pos unchanged]
      exact Settles.pure _
    · simp only [dif_neg unchanged]
      exact Settles.passesFrom (passes + 1) outcome
termination_by values.size
decreasing_by exact Nat.lt_of_le_of_ne size_le unchanged

/-- A merge, with all the pairs that it asks about. -/
theorem merge (values : ValueList) :
    ∃ asked : List ValuePair, asked.Nodup ∧
      values.merge (rule.noting note) = (do
        forM asked note
        Pure.pure ⟨(rule.sweeps 0 values).1, (rule.sweeps 0 values).2⟩) := by
  obtain ⟨asked, cache, nodup, -, ran⟩ :=
    Settles.passesFrom note rule 0 values.toArray [] {} List.nodup_nil
      (MatchCache.Knows.empty rule)
  refine ⟨asked, nodup, ?_⟩
  rw [ValueList.merge, StateT.run'_eq, ran, map_bind]
  simp only [map_pure]

end Settles

end

/-! ## Merging -/

/-- Pairs that are noted by writing them down are there in the end. -/
theorem run_forM_recording (pairs written : List ValuePair) :
    (forM pairs fun pair => modify (· ++ [pair]) : StateM (List ValuePair) PUnit).run written =
      ((), written ++ pairs) := by
  induction pairs generalizing written with
  | nil => rw [List.forM_nil, List.append_nil]; rfl
  | cons pair pairs ih =>
      rw [List.forM_cons, StateT.run_bind]
      exact (ih (written ++ [pair])).trans (by rw [List.append_assoc]; rfl)

/-- Merging in place with a cache gives what merging without one does. -/
theorem merge_silent (rule : PlainRule Text) (values : ValueList) :
    Id.run (values.merge rule.silent) =
      ⟨(rule.sweeps 0 values).1, (rule.sweeps 0 values).2⟩ := by
  obtain ⟨asked, -, ran⟩ := Settles.merge (m := Id) (fun _ => Pure.pure ()) rule values
  exact ran

/-- **The cache changes nothing.**  Merging in place with a cache gives the values that
merging without one does, in as many passes.  No pair of texts is asked about twice in
the whole run. -/
theorem merge_agrees (rule : PlainRule Text) (values : ValueList) :
    Id.run (values.merge rule.silent) =
        ⟨(rule.sweeps 0 values).1, (rule.sweeps 0 values).2⟩ ∧
      ∃ asked : List ValuePair, asked.Nodup ∧
        (values.merge rule.recording).run [] =
          (⟨(rule.sweeps 0 values).1, (rule.sweeps 0 values).2⟩, asked) := by
  refine ⟨merge_silent rule values, ?_⟩
  obtain ⟨asked, nodup, ran⟩ := Settles.merge (m := StateM (List ValuePair))
    (fun pair => modify (· ++ [pair])) rule values
  refine ⟨asked, nodup, ?_⟩
  rw [PlainRule.recording, ran, StateT.run_bind, run_forM_recording]
  rfl

end ListMarkup
