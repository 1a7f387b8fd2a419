import ListMarkup.Proofs.Site.Counting

/-!
# Rendering ends

An expansion that is not at the limit counts one more for all that goes on in it, and a
called template is expanded at the count of its caller, so in a chain of expansions each of
which goes on inside the one before the counts rise (`Activity.Chain.rises`).  No expansion
begins above the limit.  A chain therefore holds no more expansions than there are counts up
to the limit, and fuel for that many is enough for every text and every site, also for
templates that call themselves or each other (`Site.render_terminates`).
-/

set_option autoImplicit false

namespace ListMarkup

namespace Activity

/-- An activity is one of some activities or goes on inside one of them. -/
inductive Within (activity : Activity) : List Activity → Prop where
  | here {activities : List Activity} (member : activity ∈ activities) :
      Within activity activities
  | inside {activities : List Activity} {outer : Activity} (member : outer ∈ activities)
      (within : Within activity outer.inside) : Within activity activities

/-- What is passed on to all that goes on inside holds of everything within. -/
theorem Within.holds {p : Activity → Prop}
    (passed : ∀ outer : Activity, p outer → ∀ inner ∈ outer.inside, p inner)
    {activity : Activity} {activities : List Activity} (within : activity.Within activities)
    (all : ∀ outer ∈ activities, p outer) : p activity := by
  induction within with
  | here member => exact all _ member
  | inside member _ ih => exact ih (passed _ (all _ member))

/-- Chains of expansions, the first within some activities and every later one within the
expansion before it.  Of each expansion the count is given with which it begins. -/
inductive Chain : List Activity → List Nat → Prop where
  | nil {activities : List Activity} : Chain activities []
  | cons {activities : List Activity} {counts : List Nat} {expansion : Activity}
      (isExpansion : expansion.kind = .expansion) (within : expansion.Within activities)
      (chain : Chain expansion.inside counts) : Chain activities (expansion.nesting :: counts)

/-! ## Counts between two bounds -/

/-- A regular activity whose count is between a lower bound and the limit. -/
structure Between (lower : Nat) (activity : Activity) : Prop where
  regular : activity.Regular
  lower_le : lower ≤ activity.nesting
  le_limit : activity.nesting ≤ maxNesting

/-- What goes on inside an expansion is counted one more. -/
theorem Between.inside_expansion {lower : Nat} {activity : Activity}
    (between : activity.Between lower) (isExpansion : activity.kind = .expansion) :
    ∀ inner ∈ activity.inside, inner.Between (activity.nesting + 1) := by
  obtain ⟨regular, _, _⟩ := between
  intro inner member
  cases regular with
  | capped full => exact absurd member List.not_mem_nil
  | expansion below counted regular =>
      obtain ⟨_, count⟩ := counted inner member
      refine ⟨regular inner member, Nat.le_of_eq count.symm, ?_⟩
      rw [count]
      exact below
  | invocation entered regular => exact ActivityKind.noConfusion isExpansion

/-- No count goes down on the way in. -/
theorem Between.inside {lower : Nat} {activity : Activity} (between : activity.Between lower) :
    ∀ inner ∈ activity.inside, inner.Between lower := by
  intro inner member
  obtain ⟨regular, lower_le, le_limit⟩ := between
  cases regular with
  | capped full => exact absurd member List.not_mem_nil
  | expansion below counted regular =>
      obtain ⟨_, count⟩ := counted inner member
      have bounds : lower ≤ inner.nesting ∧ inner.nesting ≤ maxNesting := by
        rw [count]
        exact ⟨Nat.le_succ_of_le lower_le, below⟩
      exact ⟨regular inner member, bounds.1, bounds.2⟩
  | invocation entered regular =>
      obtain ⟨_, _, count⟩ := entered inner member
      exact ⟨regular inner member, count ▸ lower_le, count ▸ le_limit⟩

/-- **Along a chain of nested expansions the counts rise, up to the limit.**  So a chain is no
longer than there are counts from its start to the limit. -/
theorem Chain.rises {activities : List Activity} {counts : List Nat}
    (chain : Chain activities counts) :
    ∀ {lower : Nat}, lower ≤ maxNesting + 1 →
      (∀ activity ∈ activities, activity.Between lower) →
        counts.Pairwise (· < ·) ∧ (∀ count ∈ counts, lower ≤ count ∧ count ≤ maxNesting) ∧
          lower + counts.length ≤ maxNesting + 1 := by
  induction chain with
  | nil =>
      intro lower lower_le _
      exact ⟨.nil, fun _ member => absurd member List.not_mem_nil, lower_le⟩
  | @cons activities counts expansion isExpansion within _ ih =>
      intro lower _ all
      have between : expansion.Between lower := within.holds (fun _ => Between.inside) all
      obtain ⟨lower_le, le_limit⟩ := And.intro between.lower_le between.le_limit
      obtain ⟨rising, bounds, short⟩ :=
        ih (Nat.succ_le_succ le_limit) (between.inside_expansion isExpansion)
      refine ⟨List.pairwise_cons.mpr ⟨fun count member => (bounds count member).1, rising⟩,
        List.forall_mem_cons.mpr ⟨⟨lower_le, le_limit⟩, fun count member => ?_⟩, ?_⟩
      · obtain ⟨above, below⟩ := bounds count member
        exact ⟨by omega, below⟩
      · rw [List.length_cons]
        omega

end Activity

namespace Site

open Activity (Chain)

/-- **Rendering ends, whatever the templates and functions of a site.**  Fuel for 101 nested
expansions is enough for every text, more fuel changes neither the result nor what goes on,
and no fuel gives another result.  Along any chain of nested expansions the counts rise and
stay at most 100, so a chain holds at most 101 expansions. -/
theorem render_terminates (site : Site) (text : Text) :
    ∃ activity : Activity,
      (∀ fuel, 101 ≤ fuel → (site.track fuel .outermost text).run {} =
        some (site.render text, { record := [activity] })) ∧
      (∀ fuel outcome, (site.track fuel .outermost text).run {} = some outcome →
        outcome = (site.render text, { record := [activity] })) ∧
      ∀ counts, Chain [activity] counts →
        counts.Pairwise (· < ·) ∧ (∀ count ∈ counts, count ≤ 100) ∧ counts.length ≤ 101 := by
  obtain ⟨activity, ⟨_, _, count⟩, regular, ran⟩ :=
    site.track_expandsTo 101 (show maxNesting - 0 < 101 by decide) .outermost text
  have enough : (site.track 101 .outermost text).run {} =
      some (site.render text, { record := [activity] }) := ran []
  refine ⟨activity, fun fuel more => site.track_mono more _ _ _ _ enough,
    fun fuel outcome some => ?_, fun counts chain => ?_⟩
  · have least := site.track_mono (Nat.le_max_left fuel 101) _ _ _ _ some
    have same := site.track_mono (Nat.le_max_right fuel 101) _ _ _ _ enough
    exact Option.some.inj (least.symm.trans same)
  · obtain ⟨rising, bounds, short⟩ := chain.rises (Nat.zero_le _)
      (List.forall_mem_singleton.mpr ⟨regular, Nat.zero_le _, count ▸ Nat.zero_le _⟩)
    refine ⟨rising, fun count member => (bounds count member).2, ?_⟩
    rwa [Nat.zero_add] at short

/-- The argument of a call is expanded inside the expansion of the text around the call. -/
example : ((track {} 2 .outermost "\x7b\x7b#uc:a\x7d\x7d".toList).run {}).map
    (fun outcome => (outcome.1, outcome.2.record.map fun activity =>
      (activity.nesting, activity.inside.map Activity.nesting))) =
      some ("A".toList, [(0, [1])]) := by
  decide +kernel

end Site

end ListMarkup
