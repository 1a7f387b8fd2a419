import ListMarkup.Proofs.Merge.Cached
import Mathlib.Data.List.FinRange

/-!
# Merging keeps every value

A value that merging leaves is what combining makes of a binary tree over positions of
the list.  The trees together use every position once, each inner node combines two
values that match, a tree begins with its first position, and the trees are in the order
of these (`merge_forest`).

The forest is grown by the merge itself: trees are merged as the texts they stand for
would be.  What a tree stands for commutes with every step, so the forest and the list
stay in agreement; and each step moves trees without losing any.
-/

set_option autoImplicit false

namespace ListMarkup

/-! ## Trees of positions -/

/-- How a value came about: it stands at a position of the list, or two values were
merged. -/
inductive MergeTree (count : Nat) where
  | leaf (position : Fin count)
  | merge (left right : MergeTree count)

namespace MergeTree

variable {count : Nat}

/-- The positions of a tree, from left to right. -/
def leaves : MergeTree count → List (Fin count)
  | .leaf position => [position]
  | .merge left right => left.leaves ++ right.leaves

/-- The leftmost position of a tree. -/
def leftmost : MergeTree count → Fin count
  | .leaf position => position
  | .merge left _ => left.leftmost

variable (rule : PlainRule Text) (values : Fin count → Text)

/-- The value that combining makes of a tree. -/
def value : MergeTree count → Text
  | .leaf position => values position
  | .merge left right => rule.combine left.value right.value

/-- Every inner node combines two values of which the first accepts the second. -/
def Accepted : MergeTree count → Prop
  | .leaf _ => True
  | .merge left right =>
      left.Accepted ∧ right.Accepted ∧
        rule.accepts (left.value rule values) (right.value rule values) = true

/-- A tree begins with its first position. -/
def Headed (tree : MergeTree count) : Prop :=
  ∀ position ∈ tree.leaves, tree.leftmost ≤ position

theorem Headed.leaf (position : Fin count) : Headed (.leaf position) := by
  intro other member
  rw [leaves, List.mem_singleton] at member
  exact Fin.ge_of_eq member

/-- Merging with a tree that begins later keeps the first position in front. -/
theorem Headed.merge {left right : MergeTree count} (headed : left.Headed)
    (later : right.Headed) (before : left.leftmost < right.leftmost) :
    Headed (.merge left right) := by
  intro position member
  rcases List.mem_append.mp member with inLeft | inRight
  · exact headed position inLeft
  · exact Fin.le_trans (Fin.le_of_lt before) (later position inRight)

/-- Trees merge when their values do. -/
def growing : PlainRule (MergeTree count) where
  accepts left right := rule.accepts (left.value rule values) (right.value rule values)
  combine := .merge

end MergeTree

namespace PlainRule

variable {count : Nat} (rule : PlainRule Text) (values : Fin count → Text)

open MergeTree (leaves leftmost growing)

theorem absorb_value (tree : MergeTree count) (forest : List (MergeTree count)) :
    rule.absorb (tree.value rule values) (forest.map (MergeTree.value rule values)) =
      (((growing rule values).absorb tree forest).1.value rule values,
        ((growing rule values).absorb tree forest).2.map (MergeTree.value rule values)) := by
  induction forest generalizing tree with
  | nil => rfl
  | cons later rest ih =>
      rw [List.map_cons]
      cases accepted : rule.accepts (tree.value rule values) (later.value rule values) with
      | true =>
          rw [rule.absorb_accepted accepted, (growing rule values).absorb_accepted accepted]
          exact ih (.merge tree later)
      | false =>
          rw [rule.absorb_refused accepted, (growing rule values).absorb_refused accepted, ih tree]
          rfl

theorem sweep_value (forest : List (MergeTree count)) :
    rule.sweep (forest.map (MergeTree.value rule values)) =
      ((growing rule values).sweep forest).map (MergeTree.value rule values) := by
  fun_induction sweep (growing rule values) forest with
  | case1 => rw [List.map_nil, sweep]
  | case2 tree rest ih => rw [List.map_cons, sweep, absorb_value, ih, List.map_cons]

/-- Merging values is merging the trees that they stand for. -/
theorem sweeps_value (passes : Nat) (forest : List (MergeTree count)) :
    (rule.sweeps passes (forest.map (MergeTree.value rule values))).1 =
      ((growing rule values).sweeps passes forest).1.map (MergeTree.value rule values) := by
  fun_induction sweeps (growing rule values) passes forest with
  | case1 passes forest few => rw [sweeps, if_pos (by rwa [List.length_map])]
  | case2 passes forest many unchanged =>
      rw [sweeps, if_neg (by rwa [List.length_map]), sweep_value,
        dif_pos (by rwa [List.length_map, List.length_map])]
  | case3 passes forest many shortened ih =>
      rw [sweeps, if_neg (by rwa [List.length_map]), sweep_value,
        dif_neg (by rwa [List.length_map, List.length_map]), ih]

/-! ## What merging keeps -/

theorem leaves_absorb (tree : MergeTree count) (forest : List (MergeTree count)) :
    ((((growing rule values).absorb tree forest).1 ::
        ((growing rule values).absorb tree forest).2).flatMap leaves).Perm
      ((tree :: forest).flatMap leaves) := by
  induction forest generalizing tree with
  | nil => exact .refl _
  | cons later rest ih =>
      cases accepted : (growing rule values).accepts tree later with
      | true =>
          have merged : (MergeTree.merge tree later :: rest).flatMap leaves =
              (tree :: later :: rest).flatMap leaves := by
            simp only [List.flatMap_cons, leaves, List.append_assoc]
          rw [absorb_accepted _ accepted, ← merged]
          exact ih (.merge tree later)
      | false =>
          rw [absorb_refused _ accepted]
          -- The tree that is passed over goes to the front and back again.
          refine ((List.Perm.swap _ _ _).flatMap_right leaves).trans ?_
          refine .trans ?_ ((List.Perm.swap _ _ _).flatMap_right leaves)
          exact (ih tree).append_left later.leaves

theorem leaves_sweep (forest : List (MergeTree count)) :
    (((growing rule values).sweep forest).flatMap leaves).Perm (forest.flatMap leaves) := by
  fun_induction sweep (growing rule values) forest with
  | case1 => exact .refl _
  | case2 tree rest ih =>
      refine .trans ?_ (rule.leaves_absorb values tree rest)
      rw [List.flatMap_cons, List.flatMap_cons]
      exact ih.append_left _

/-- Merging leaves every position in some tree. -/
theorem leaves_sweeps (passes : Nat) (forest : List (MergeTree count)) :
    (((growing rule values).sweeps passes forest).1.flatMap leaves).Perm
      (forest.flatMap leaves) := by
  fun_induction sweeps (growing rule values) passes forest with
  | case1 passes forest few => exact .refl _
  | case2 passes forest many unchanged => exact rule.leaves_sweep values forest
  | case3 passes forest many shortened ih => exact ih.trans (rule.leaves_sweep values forest)

/-- A tree keeps its leftmost position when it absorbs others. -/
theorem leftmost_absorb (tree : MergeTree count) (forest : List (MergeTree count)) :
    ((growing rule values).absorb tree forest).1.leftmost = tree.leftmost := by
  induction forest generalizing tree with
  | nil => rfl
  | cons later rest ih =>
      cases accepted : (growing rule values).accepts tree later with
      | true =>
          rw [absorb_accepted _ accepted]
          exact ih (.merge tree later)
      | false =>
          rw [absorb_refused _ accepted]
          exact ih tree

theorem leftmost_sweep (forest : List (MergeTree count)) :
    (((growing rule values).sweep forest).map leftmost).Sublist (forest.map leftmost) := by
  fun_induction sweep (growing rule values) forest with
  | case1 => exact .slnil
  | case2 tree rest ih =>
      rw [List.map_cons, List.map_cons, leftmost_absorb]
      exact (ih.trans (((growing rule values).absorb_sublist tree rest).map leftmost)).cons_cons _

/-- Trees that combine what matches and begin with their first positions, in the order
of these. -/
structure SoundForest (forest : List (MergeTree count)) : Prop where
  accepted : ∀ tree ∈ forest, tree.Accepted rule values
  headed : ∀ tree ∈ forest, tree.Headed
  ordered : (forest.map leftmost).Pairwise (· < ·)

namespace SoundForest

variable {rule values}

theorem sublist {forest fewer : List (MergeTree count)} (sound : SoundForest rule values forest)
    (sub : fewer.Sublist forest) : SoundForest rule values fewer :=
  ⟨fun tree member => sound.accepted tree (sub.mem member),
    fun tree member => sound.headed tree (sub.mem member),
    sound.ordered.sublist (sub.map leftmost)⟩

/-- The first two trees merged. -/
theorem merge {tree later : MergeTree count} {rest : List (MergeTree count)}
    (sound : SoundForest rule values (tree :: later :: rest))
    (accepted : (growing rule values).accepts tree later = true) :
    SoundForest rule values (.merge tree later :: rest) := by
  obtain ⟨acceptedTree, acceptedLater, acceptedRest⟩ : tree.Accepted rule values ∧
      later.Accepted rule values ∧ ∀ other ∈ rest, other.Accepted rule values := by
    simpa only [List.forall_mem_cons] using sound.accepted
  obtain ⟨headedTree, headedLater, headedRest⟩ : tree.Headed ∧ later.Headed ∧
      ∀ other ∈ rest, other.Headed := by
    simpa only [List.forall_mem_cons] using sound.headed
  have before : tree.leftmost < later.leftmost :=
    (List.pairwise_cons.mp sound.ordered).1 _ List.mem_cons_self
  refine ⟨List.forall_mem_cons.mpr ⟨⟨acceptedTree, acceptedLater, accepted⟩, acceptedRest⟩,
    List.forall_mem_cons.mpr ⟨headedTree.merge headedLater before, headedRest⟩, ?_⟩
  exact sound.ordered.sublist ((List.sublist_cons_self _ _).cons_cons _)

/-- A sound tree that has absorbed later ones is sound. -/
theorem absorb {tree : MergeTree count} {forest : List (MergeTree count)}
    (sound : SoundForest rule values (tree :: forest)) :
    SoundForest rule values [((growing rule values).absorb tree forest).1] := by
  induction forest generalizing tree with
  | nil => exact sound
  | cons later rest ih =>
      cases accepted : (growing rule values).accepts tree later with
      | true =>
          rw [absorb_accepted _ accepted]
          exact ih (sound.merge accepted)
      | false =>
          rw [absorb_refused _ accepted]
          exact ih (sound.sublist ((List.sublist_cons_self _ _).cons_cons _))

theorem sweep {forest : List (MergeTree count)} (sound : SoundForest rule values forest) :
    SoundForest rule values ((growing rule values).sweep forest) := by
  fun_induction PlainRule.sweep (growing rule values) forest with
  | case1 => exact sound
  | case2 tree rest ih =>
      have first := sound.absorb
      have others := ih (sound.sublist
        (((growing rule values).absorb_sublist tree rest).trans (List.sublist_cons_self _ _)))
      refine ⟨List.forall_mem_cons.mpr ⟨first.accepted _ List.mem_cons_self, others.accepted⟩,
        List.forall_mem_cons.mpr ⟨first.headed _ List.mem_cons_self, others.headed⟩, ?_⟩
      have swept := rule.leftmost_sweep values (tree :: rest)
      rw [PlainRule.sweep] at swept
      exact sound.ordered.sublist swept

/-- Merging keeps a forest sound. -/
theorem sweeps (passes : Nat) {forest : List (MergeTree count)}
    (sound : SoundForest rule values forest) :
    SoundForest rule values ((growing rule values).sweeps passes forest).1 := by
  fun_induction PlainRule.sweeps (growing rule values) passes forest with
  | case1 passes forest few => exact sound
  | case2 passes forest many unchanged => exact sound.sweep
  | case3 passes forest many shortened ih => exact ih sound.sweep

variable (rule values) in
/-- Before anything is merged every position is a tree. -/
theorem positions : SoundForest rule values ((List.finRange count).map .leaf) := by
  refine ⟨fun tree member => ?_, fun tree member => ?_, ?_⟩
  · obtain ⟨position, -, rfl⟩ := List.mem_map.mp member
    exact trivial
  · obtain ⟨position, -, rfl⟩ := List.mem_map.mp member
    exact MergeTree.Headed.leaf position
  · rw [List.map_map]
    exact (List.map_id _).symm ▸ List.pairwise_lt_finRange count

end SoundForest

end PlainRule

/-- **Merging loses nothing and repeats nothing.**  The values that it leaves are what
combining makes of trees that share out the positions of the list.  Inner nodes combine
values that match, each tree begins with its first position, and the trees are in the
order of these. -/
theorem merge_forest (rule : PlainRule Text) (values : ValueList) :
    ∃ forest : List (MergeTree values.length),
      forest.map (MergeTree.value rule values.get) = (Id.run (values.merge rule.silent)).values ∧
      (forest.flatMap MergeTree.leaves).Perm (List.finRange values.length) ∧
      (∀ tree ∈ forest, tree.Accepted rule values.get ∧
        ∀ position ∈ tree.leaves, tree.leftmost ≤ position) ∧
      forest.Pairwise fun first second => first.leftmost < second.leftmost := by
  have sound := (PlainRule.SoundForest.positions rule values.get).sweeps 0
  refine ⟨_, ?_, ?_, fun tree member =>
    ⟨sound.accepted tree member, sound.headed tree member⟩, List.pairwise_map.mp sound.ordered⟩
  · have start : (List.finRange values.length).map values.get = values :=
      List.map_get_finRange values
    rw [← PlainRule.sweeps_value, merge_silent, List.map_map]
    exact congrArg (fun values => (rule.sweeps 0 values).1) start
  · refine (rule.leaves_sweeps values.get 0 _).trans (.of_eq ?_)
    rw [List.flatMap_map]
    exact List.flatMap_singleton' _

end ListMarkup
