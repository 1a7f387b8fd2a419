import ListMarkup.Number.Binary64
import Mathlib.Algebra.Order.Field.Power
import Mathlib.Data.EReal.Basic
import Mathlib.Data.Int.ConditionallyCompleteOrder
import Mathlib.Tactic.Positivity
import Mathlib.Tactic.Ring

/-!
# The values of binary numbers

A magnitude stands for an exact quotient (`Binary64.size`).  The magnitudes on one level, which
are those with the same exponent, are evenly spaced, and so is the first one on the next level
(`size_on_level`).  So a greater magnitude always stands for a greater value (`size_strictMono`).
The magnitude of the infinities stands for the number that would come after the greatest finite
one.

With signs and infinities a binary number has a value among the extended reals, where both zeros
are the same.  Comparing numbers is comparing these values (`compare?_eq_compare`).
-/

set_option autoImplicit false

namespace ListMarkup

namespace Ratio

/-- The quotient as a rational number. -/
def toRat (ratio : Ratio) : ℚ :=
  (ratio.numerator : ℚ) / ratio.denominator

@[simp] theorem toRat_ofNat (number : Nat) : (ofNat number).toRat = number := by
  simp [ofNat, toRat]

theorem toRat_scale (ratio : Ratio) (base : Nat) (exponent : Int) :
    (ratio.scale base exponent).toRat = ratio.toRat * (base : ℚ) ^ exponent := by
  unfold scale toRat
  split
  · rename_i natural
    have exact : (base : ℚ) ^ exponent = (base : ℚ) ^ exponent.toNat := by
      rw [← zpow_natCast, Int.toNat_of_nonneg natural]
    simp only [Nat.pow_eq, Nat.cast_mul, Nat.cast_pow, exact]
    ring
  · rename_i negative
    have exact : (base : ℚ) ^ exponent = ((base : ℚ) ^ (-exponent).toNat)⁻¹ := by
      rw [← zpow_natCast, ← zpow_neg, Int.toNat_of_nonneg (by omega), neg_neg]
    simp only [Nat.pow_eq, Nat.cast_mul, Nat.cast_pow, exact, div_eq_mul_inv, mul_inv]
    ring

end Ratio

namespace Binary64

/-! ## What magnitudes stand for -/

/-- The exact value of a magnitude. -/
def size (magnitude : Nat) : ℚ :=
  (toRatio ⟨false, magnitude⟩).toRat

/-- How far the magnitudes on a level are from one another.  On the first level are those with
the two least exponents. -/
def unit (level : Nat) : ℚ :=
  2 ^ ((level : Int) - 1074)

theorem unit_pos (level : Nat) : 0 < unit level := by
  unfold unit
  positivity

theorem unit_succ (level : Nat) : unit (level + 1) = 2 * unit level := by
  have next : ((level + 1 : Nat) : Int) - 1074 = ((level : Int) - 1074) + 1 := by omega
  rw [unit, unit, next, zpow_add_one₀ two_ne_zero, mul_comm]

theorem size_eq (magnitude : Nat) :
    size magnitude =
      if magnitude / exponentStep = 0 then (magnitude % exponentStep : Nat) * unit 0
      else
        (magnitude % exponentStep + exponentStep : Nat) * unit (magnitude / exponentStep - 1) := by
  simp only [size, toRatio, Ratio.toRat_scale, Ratio.toRat_ofNat, parts]
  split
  · rfl
  · rename_i normal
    generalize magnitude / exponentStep = biased at normal ⊢
    have exponent : ((biased - 1 : Nat) : Int) - 1074 = (biased : Int) - 1075 := by omega
    rw [unit, exponent]
    rfl

/-- The magnitudes on a level, up to the first one on the next level, stand for multiples of its
unit. -/
theorem size_on_level {level significand : Nat} (below : significand ≤ 2 * exponentStep)
    (above : level = 0 ∨ exponentStep ≤ significand) :
    size (level * exponentStep + significand) = significand * unit level := by
  have positive : 0 < exponentStep := by decide
  rw [size_eq]
  by_cases small : significand < exponentStep
  · obtain rfl : level = 0 := by omega
    rw [Nat.zero_mul, Nat.zero_add, Nat.div_eq_of_lt small, if_pos rfl, Nat.mod_eq_of_lt small]
  · by_cases last : significand = 2 * exponentStep
    · have whole : level * exponentStep + significand = (level + 2) * exponentStep := by
        rw [last]
        ring
      rw [whole, Nat.mul_mod_left, Nat.mul_div_cancel _ positive, if_neg (by omega), Nat.zero_add,
        last, Nat.add_succ_sub_one, unit_succ]
      push_cast
      ring
    · obtain ⟨fraction, rfl⟩ := Nat.exists_eq_add_of_le (Nat.le_of_not_lt small)
      have whole : level * exponentStep + (exponentStep + fraction) =
          exponentStep * (level + 1) + fraction := by ring
      rw [whole, Nat.mul_add_mod, Nat.mod_eq_of_lt (by omega), Nat.mul_add_div positive,
        Nat.div_eq_of_lt (by omega), if_neg (by omega), Nat.add_zero, Nat.add_sub_cancel,
        Nat.add_comm fraction]

/-- Every magnitude is on a level. -/
theorem exists_level (magnitude : Nat) :
    ∃ level significand, magnitude = level * exponentStep + significand ∧
      significand < 2 * exponentStep ∧ (level = 0 ∨ exponentStep ≤ significand) := by
  have parts := Nat.div_add_mod' magnitude exponentStep
  have small : magnitude % exponentStep < exponentStep := Nat.mod_lt _ (by decide)
  cases biased : magnitude / exponentStep with
  | zero =>
      rw [biased] at parts
      exact ⟨0, magnitude % exponentStep, parts.symm, by omega, .inl rfl⟩
  | succ level =>
      rw [biased, Nat.succ_mul] at parts
      exact ⟨level, exponentStep + magnitude % exponentStep, by omega, by omega,
        .inr (Nat.le_add_right _ _)⟩

theorem size_strictMono : StrictMono size := by
  apply strictMono_nat_of_lt_succ
  intro magnitude
  obtain ⟨level, significand, rfl, below, above⟩ := exists_level magnitude
  rw [size_on_level below.le above, Nat.add_assoc,
    size_on_level below (above.imp_right Nat.le_succ_of_le)]
  have more : (significand : ℚ) < (significand + 1 : Nat) := by exact_mod_cast Nat.lt_succ_self _
  exact mul_lt_mul_of_pos_right more (unit_pos level)

@[simp] theorem size_zero : size 0 = 0 := by
  simp [size_eq]

theorem size_nonneg (magnitude : Nat) : 0 ≤ size magnitude := by
  rw [← size_zero]
  exact size_strictMono.monotone (Nat.zero_le magnitude)

/-! ## What numbers stand for -/

/-- The value of a number.  Both zeros have the same. -/
noncomputable def toEReal (number : Binary64) : EReal :=
  if number.isInfinite then if number.negative then ⊥ else ⊤
  else
    let value := if number.negative then -size number.magnitude else size number.magnitude
    ((value : ℝ) : EReal)

/-- The value of the finite numbers of a rank. -/
def rankSize (rank : Int) : ℚ :=
  if rank < 0 then -size rank.natAbs else size rank.natAbs

theorem rankSize_strictMono : StrictMono rankSize := by
  intro first second less
  unfold rankSize
  split
  · rename_i firstNegative
    split
    · exact neg_lt_neg (size_strictMono (by omega))
    · have positive : 0 < size first.natAbs := by
        rw [← size_zero]
        exact size_strictMono (by omega)
      exact (neg_neg_of_pos positive).trans_le (size_nonneg _)
  · rw [if_neg (by omega)]
    exact size_strictMono (by omega)

/-- The value of the numbers of a rank. -/
noncomputable def rankValue (rank : Int) : EReal :=
  if rank = infiniteMagnitude then ⊤
  else if rank = -infiniteMagnitude then ⊥
  else (((rankSize rank : ℚ) : ℝ) : EReal)

theorem rankValue_strictMonoOn :
    StrictMonoOn rankValue (Set.Icc (-(infiniteMagnitude : Int)) infiniteMagnitude) := by
  intro first firstWithin second secondWithin less
  have finite : rankSize first < rankSize second := rankSize_strictMono less
  have notGreatest : first ≠ infiniteMagnitude := ne_of_lt (less.trans_le secondWithin.2)
  have notLeast : second ≠ -infiniteMagnitude := ne_of_gt (firstWithin.1.trans_lt less)
  unfold rankValue
  rw [if_neg notGreatest, if_neg notLeast]
  split
  · split
    · exact bot_lt_top
    · exact EReal.bot_lt_coe _
  · split
    · exact EReal.coe_lt_top _
    · exact EReal.coe_lt_coe_iff.mpr (Rat.cast_lt.mpr finite)

theorem rank_mem_of_number {number : Binary64} (isNumber : number.isNaN = false) :
    number.rank ∈ Set.Icc (-(infiniteMagnitude : Int)) infiniteMagnitude := by
  rw [isNaN_eq_false_iff] at isNumber
  simp only [rank, Set.mem_Icc]
  split <;> omega

/-- The rank of a number decides its value. -/
theorem toEReal_eq {number : Binary64} (isNumber : number.isNaN = false) :
    number.toEReal = rankValue number.rank := by
  rw [isNaN_eq_false_iff] at isNumber
  have positive : 0 < infiniteMagnitude := by decide
  obtain ⟨negative, magnitude⟩ := number
  cases negative with
  | false =>
      have asRank : rankSize (magnitude : Int) = size magnitude := by simp [rankSize]
      have notLeast : (magnitude : Int) ≠ -infiniteMagnitude := by omega
      simp [toEReal, isInfinite, rank, rankValue, asRank, notLeast]
  | true =>
      have asRank : rankSize (-(magnitude : Int)) = -size magnitude := by
        rcases Nat.eq_zero_or_pos magnitude with rfl | more
        · simp [rankSize]
        · simp [rankSize, more]
      have notGreatest : -(magnitude : Int) ≠ infiniteMagnitude := by omega
      simp [toEReal, isInfinite, rank, rankValue, asRank, notGreatest]

/-- **Numbers compare by value.** -/
theorem compare?_eq_compare {left right : Binary64} (first : left.isNaN = false)
    (second : right.isNaN = false) :
    left.compare? right = some (compare left.toEReal right.toEReal) := by
  have byRank := rankValue_strictMonoOn.cmp_map_eq (rank_mem_of_number first)
    (rank_mem_of_number second)
  rw [compare?_of_numbers first second, toEReal_eq first, toEReal_eq second, ← cmp_eq_compare,
    ← cmp_eq_compare, byRank]

end Binary64

end ListMarkup
