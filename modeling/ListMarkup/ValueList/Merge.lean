import Std.Data.HashMap
import ListMarkup.ValueList.Basic

/-!
# Merging values that match

A pass walks a list once.  The value at each place absorbs every later value that it
matches, in order, and is compared in its merged form with the values after that.
Passes are repeated while they shorten the list and more than one value is left.

The list is changed in place.  For each place the values after it are taken off the
list, and those that are not absorbed are put back one by one, so the list is shorter
after its walk by as many values as were absorbed.

Whether two values match may be expensive to find out, so each answer is kept under
the two texts and no pair of texts is asked about twice.  The rule may have effects
of its own, which happen in the order in which pairs are met.
-/

set_option autoImplicit false

namespace ListMarkup

/-- When two values merge, and into what. -/
structure MergeRule (m : Type → Type) where
  accepts : Text → Text → m Bool
  combine : Text → Text → m Text

/-- Two values in order. -/
structure ValuePair where
  left : Text
  right : Text
  deriving DecidableEq

/-- Pairs are hashed by the code points of both values. -/
instance : Hashable ValuePair where
  hash pair := mixHash (hash (pair.left.map Char.toNat)) (hash (pair.right.map Char.toNat))

/-- The answers found so far. -/
abbrev MatchCache := Std.HashMap ValuePair Bool

/-- What merging leaves, and in how many passes. -/
structure Merged where
  values : ValueList
  passes : Nat

namespace MergeRule

variable {m : Type → Type} [Monad m]

/-- Whether two values match, asked only when it is not known yet. -/
def consult (rule : MergeRule m) (left right : Text) : StateT MatchCache m Bool := do
  match (← get)[(⟨left, right⟩ : ValuePair)]? with
  | some known => pure known
  | none =>
    let accepted ← rule.accepts left right
    modify (·.insert ⟨left, right⟩ accepted)
    pure accepted

/-- What is left of a list when the value at a place has met all later ones: its final
form, and the list with those that it did not absorb put back. -/
structure Absorbed (place bound : Nat) where
  final : Text
  values : Array Text
  place_lt : place < values.size
  size_le : values.size ≤ bound

/-- Lets a value, which stands at a place, meet the values of `rest`.  The list holds
what is left of it up to there. -/
def absorb (rule : MergeRule m) (place bound : Nat) (value : Text) (values : Array Text) :
    (rest : List Text) → place < values.size → values.size + rest.length ≤ bound →
    StateT MatchCache m (Absorbed place bound)
  | [], place_lt, size_le => pure ⟨value, values, place_lt, size_le⟩
  | later :: rest, place_lt, size_le => do
    if ← rule.consult value later then
      let merged ← rule.combine value later
      rule.absorb place bound merged values rest place_lt
        (by rw [List.length_cons] at size_le; omega)
    else
      rule.absorb place bound value (values.push later) rest
        (by rw [Array.size_push]; omega)
        (by rw [List.length_cons] at size_le; rw [Array.size_push]; omega)

/-- One walk along the list, from a place on. -/
def passFrom (rule : MergeRule m) {bound : Nat} (place : Nat) (values : Array Text)
    (size_le : values.size ≤ bound) :
    StateT MatchCache m { outcome : Array Text // outcome.size ≤ bound } :=
  if inside : place < values.size then do
    let outcome ← rule.absorb place bound values[place]
      (values.shrink (place + 1)) (values.drop (place + 1)).toList
      (by rw [Array.size_shrink]; omega)
      (by rw [Array.length_toList, Array.size_shrink, Array.size_extract]; omega)
    rule.passFrom (place + 1) (outcome.values.set place outcome.final outcome.place_lt)
      (by rw [Array.size_set]; exact outcome.size_le)
  else pure ⟨values, size_le⟩
termination_by bound - place

/-- Further passes after `passes` of them. -/
def passesFrom (rule : MergeRule m) (passes : Nat) (values : Array Text) :
    StateT MatchCache m Merged :=
  if values.size ≤ 1 then pure ⟨values.toList, passes⟩
  else do
    let ⟨outcome, size_le⟩ ← rule.passFrom 0 values (Nat.le_refl _)
    if unchanged : outcome.size = values.size then pure ⟨outcome.toList, passes + 1⟩
    else rule.passesFrom (passes + 1) outcome
termination_by values.size
decreasing_by exact Nat.lt_of_le_of_ne size_le unchanged

end MergeRule

/-- Merges values until a pass changes nothing or one value is left. -/
def ValueList.merge {m : Type → Type} [Monad m] (values : ValueList) (rule : MergeRule m) :
    m Merged :=
  (rule.passesFrom 0 values.toArray).run' {}

end ListMarkup
