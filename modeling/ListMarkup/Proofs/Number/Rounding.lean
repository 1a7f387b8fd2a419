import ListMarkup.Proofs.Number.Value
import Mathlib.Algebra.Order.Field.Basic
import Mathlib.Tactic.FieldSimp
import Mathlib.Tactic.Linarith

/-!
# Rounding to the nearest number

A quotient is rounded by taking a power of two as unit and rounding the multiple of it to an
integer.  The integer is the nearest one (`nearestInteger_roundHalfEven`).  The unit is chosen by
the exponent of the quotient (`floorLog2_bounds`), so that the quotient is on the level of
magnitudes with that unit.  The nearest magnitude is on this level too, because all others lie
beyond its ends, which are multiples of the unit themselves (`nearer_or_on_level`).  So the
nearest of all magnitudes is found, and of two that are equally near the even one
(`isNearest_nearestMagnitude`).

A decimal with a very large or a very small exponent is not computed at all.  What is taken for it
is nearest all the same (`isNearest_ofDecimal`).
-/

set_option autoImplicit false

namespace ListMarkup

namespace Ratio

/-- An integer is as near to a value as any other, and even when another one is as near. -/
structure NearestInteger (value : ℚ) (integer : Nat) : Prop where
  nearest : ∀ other : Nat, |value - integer| ≤ |value - other|
  even : ∀ other : Nat, other ≠ integer → |value - integer| = |value - other| → integer % 2 = 0

/-- Half a unit is near enough. -/
theorem nearestInteger_of_le_half {value : ℚ} {integer : Nat} (near : |value - integer| ≤ 1 / 2)
    (even : |value - integer| = 1 / 2 → integer % 2 = 0) : NearestInteger value integer := by
  have apart : ∀ other : Nat, other ≠ integer → 1 ≤ |(integer : ℚ) - other| := by
    intro other different
    have whole : (1 : Int) ≤ |(integer : Int) - other| := by
      apply Int.one_le_abs
      omega
    exact_mod_cast whole
  have between : ∀ other : Nat, |(integer : ℚ) - other| ≤ |value - integer| + |value - other| := by
    intro other
    have triangle := abs_sub_le (integer : ℚ) value other
    rwa [abs_sub_comm (integer : ℚ) value] at triangle
  refine ⟨?_, ?_⟩
  · intro other
    by_cases same : other = integer
    · rw [same]
    · linarith [apart other same, between other]
  · intro other different tie
    apply even
    linarith [apart other different, between other]

/-- Rounding does not go beyond an integer. -/
theorem NearestInteger.le_of_lt {value : ℚ} {integer bound : Nat}
    (nearest : NearestInteger value integer) (below : value < bound) : integer ≤ bound := by
  by_contra beyond
  have more : (bound : ℚ) < integer := by exact_mod_cast not_le.mp beyond
  have near := nearest.nearest bound
  rw [abs_sub_comm, abs_of_pos (by linarith), abs_sub_comm, abs_of_pos (by linarith)] at near
  linarith

theorem NearestInteger.ge_of_le {value : ℚ} {integer bound : Nat}
    (nearest : NearestInteger value integer) (above : bound ≤ value) : bound ≤ integer := by
  by_contra beyond
  have less : (integer : ℚ) < bound := by exact_mod_cast not_le.mp beyond
  have near := nearest.nearest bound
  rw [abs_of_pos (by linarith), abs_of_nonneg (by linarith)] at near
  linarith

/-- With at most a half above it, an integer is nearest. -/
theorem nearestInteger_below {quotient : Nat} {part : ℚ} (notNegative : 0 ≤ part)
    (half : 2 * part ≤ 1) (even : 2 * part = 1 → quotient % 2 = 0) :
    NearestInteger (quotient + part) quotient := by
  have distance : |(quotient : ℚ) + part - quotient| = part := by
    rw [add_sub_cancel_left, abs_of_nonneg notNegative]
  apply nearestInteger_of_le_half
  · linarith
  · intro tie
    exact even (by linarith)

/-- With at least a half above an integer, the next one is nearest. -/
theorem nearestInteger_above {quotient : Nat} {part : ℚ} (lessThanOne : part < 1)
    (half : 1 ≤ 2 * part) (even : 2 * part = 1 → (quotient + 1) % 2 = 0) :
    NearestInteger (quotient + part) (quotient + 1) := by
  have distance : |(quotient : ℚ) + part - (quotient + 1 : Nat)| = 1 - part := by
    rw [Nat.cast_succ, add_sub_add_left_eq_sub, abs_sub_comm, abs_of_pos (by linarith)]
  apply nearestInteger_of_le_half
  · linarith
  · intro tie
    exact even (by linarith)

/-- A quotient is the integer below it and a part of one. -/
theorem toRat_eq_add {ratio : Ratio} (positive : 0 < ratio.denominator) :
    ratio.toRat = (ratio.numerator / ratio.denominator : Nat) +
      ((ratio.numerator % ratio.denominator : Nat) : ℚ) / ratio.denominator := by
  have unit : (ratio.denominator : ℚ) ≠ 0 := by exact_mod_cast positive.ne'
  have parts := Nat.div_add_mod' ratio.numerator ratio.denominator
  rw [toRat, div_eq_iff unit, add_mul, div_mul_cancel₀ _ unit]
  exact_mod_cast parts.symm

/-- **Quotients are rounded to the nearest integer.** -/
theorem nearestInteger_roundHalfEven {ratio : Ratio} (positive : 0 < ratio.denominator) :
    NearestInteger ratio.toRat ratio.roundHalfEven := by
  have unit : (0 : ℚ) < ratio.denominator := by exact_mod_cast positive
  have less := Nat.mod_lt ratio.numerator positive
  rw [toRat_eq_add positive]
  simp only [roundHalfEven]
  generalize ratio.numerator / ratio.denominator = quotient
  generalize ratio.numerator % ratio.denominator = remainder at less ⊢
  have notNegative : 0 ≤ (remainder : ℚ) / ratio.denominator := by positivity
  have lessThanOne : (remainder : ℚ) / ratio.denominator < 1 := by
    rw [div_lt_one unit]
    exact_mod_cast less
  -- Comparing the double remainder with the denominator is comparing the part with a half.
  have twice : 2 * ((remainder : ℚ) / ratio.denominator) =
      (2 * remainder : Nat) / ratio.denominator := by
    rw [Nat.cast_mul, Nat.cast_two, mul_div_assoc]
  split
  · rename_i small
    have half : 2 * ((remainder : ℚ) / ratio.denominator) < 1 := by
      rw [twice, div_lt_one unit]
      exact_mod_cast small
    exact nearestInteger_below notNegative half.le fun tie => absurd tie half.ne
  · split
    · rename_i great
      have half : 1 < 2 * ((remainder : ℚ) / ratio.denominator) := by
        rw [twice, one_lt_div unit]
        exact_mod_cast great
      exact nearestInteger_above lessThanOne half.le fun tie => absurd tie half.ne'
    · have exact : 2 * remainder = ratio.denominator := by omega
      have half : 2 * ((remainder : ℚ) / ratio.denominator) = 1 := by
        rw [twice, exact, div_self unit.ne']
      rcases Nat.mod_two_eq_zero_or_one quotient with even | odd
      · rw [even, Nat.add_zero]
        exact nearestInteger_below notNegative half.le fun _ => even
      · rw [odd]
        exact nearestInteger_above lessThanOne half.ge fun _ => by omega

/-! ## The exponent of a quotient -/

theorem denominator_scale_pos {ratio : Ratio} (positive : 0 < ratio.denominator) {base : Nat}
    (basePositive : 0 < base) (exponent : Int) : 0 < (ratio.scale base exponent).denominator := by
  unfold scale
  split
  · exact positive
  · exact Nat.mul_pos positive (Nat.pow_pos basePositive)

theorem one_le_toRat_iff {ratio : Ratio} (positive : 0 < ratio.denominator) :
    1 ≤ ratio.toRat ↔ ratio.denominator ≤ ratio.numerator := by
  have unit : (0 : ℚ) < ratio.denominator := by exact_mod_cast positive
  rw [toRat, one_le_div unit, Nat.cast_le]

/-- An estimate that is right or by one too great is corrected. -/
theorem floorLogFrom_bounds {ratio : Ratio} (positive : 0 < ratio.denominator) {base : Nat}
    (basePositive : 0 < base) {estimate : Int} (above : (base : ℚ) ^ (estimate - 1) ≤ ratio.toRat)
    (below : ratio.toRat < (base : ℚ) ^ (estimate + 1)) :
    (base : ℚ) ^ ratio.floorLogFrom base estimate ≤ ratio.toRat ∧
      ratio.toRat < (base : ℚ) ^ (ratio.floorLogFrom base estimate + 1) := by
  have power : (0 : ℚ) < (base : ℚ) ^ estimate := by positivity
  have decided : (ratio.scale base (-estimate)).denominator ≤
      (ratio.scale base (-estimate)).numerator ↔ (base : ℚ) ^ estimate ≤ ratio.toRat := by
    rw [← one_le_toRat_iff (denominator_scale_pos positive basePositive _), toRat_scale, zpow_neg,
      ← div_eq_mul_inv, one_le_div power]
  simp only [floorLogFrom, decided]
  split
  · rename_i reached
    exact ⟨reached, below⟩
  · rename_i missed
    rw [sub_add_cancel]
    exact ⟨above, not_le.mp missed⟩

theorem log2_bounds {number : Nat} (notZero : number ≠ 0) :
    (2 : ℚ) ^ (number.log2 : Int) ≤ number ∧ (number : ℚ) < 2 ^ ((number.log2 : Int) + 1) := by
  constructor
  · exact_mod_cast Nat.log2_self_le notZero
  · exact_mod_cast (Nat.lt_log2_self : number < 2 ^ (number.log2 + 1))

/-- A positive quotient lies between a power of two and the next one. -/
theorem floorLog2_bounds {ratio : Ratio} (positive : 0 < ratio.denominator)
    (notZero : ratio.numerator ≠ 0) :
    (2 : ℚ) ^ ratio.floorLog2 ≤ ratio.toRat ∧ ratio.toRat < 2 ^ (ratio.floorLog2 + 1) := by
  have unit : (0 : ℚ) < ratio.denominator := by exact_mod_cast positive
  obtain ⟨numeratorAbove, numeratorBelow⟩ := log2_bounds notZero
  obtain ⟨denominatorAbove, denominatorBelow⟩ := log2_bounds positive.ne'
  -- The exponents of the numerator and of the denominator leave two exponents possible.
  apply floorLogFrom_bounds positive two_pos
  · calc (2 : ℚ) ^ ((ratio.numerator.log2 : Int) - ratio.denominator.log2 - 1)
      _ = 2 ^ (ratio.numerator.log2 : Int) / 2 ^ ((ratio.denominator.log2 : Int) + 1) := by
          rw [← zpow_sub₀ two_ne_zero, sub_sub]
      _ ≤ ratio.toRat := div_le_div₀ (by positivity) numeratorAbove unit denominatorBelow.le
  · calc ratio.toRat
      _ < 2 ^ ((ratio.numerator.log2 : Int) + 1) / 2 ^ (ratio.denominator.log2 : Int) :=
          div_lt_div₀ numeratorBelow denominatorAbove (by positivity) (by positivity)
      _ = 2 ^ ((ratio.numerator.log2 : Int) - ratio.denominator.log2 + 1) := by
          rw [← zpow_sub₀ two_ne_zero, sub_add_eq_add_sub]

end Ratio

namespace Binary64

/-! ## Nearest magnitudes -/

/-- A magnitude is as near to a value as any other one, and even when another one is as near.
The infinite one stands for the number that would come after the greatest finite one. -/
structure IsNearest (value : ℚ) (magnitude : Nat) : Prop where
  le : magnitude ≤ infiniteMagnitude
  nearest : ∀ other ≤ infiniteMagnitude, |value - size magnitude| ≤ |value - size other|
  even : ∀ other ≤ infiniteMagnitude, other ≠ magnitude →
    |value - size magnitude| = |value - size other| → magnitude % 2 = 0

theorem IsNearest.not_lt {value : ℚ} {first second : Nat} (nearestFirst : IsNearest value first)
    (nearestSecond : IsNearest value second) : ¬ first < second := by
  intro less
  have order := size_strictMono less
  by_cases next : second = first + 1
  · -- Both are equally near, so both would have to be even.
    have tie := le_antisymm (nearestFirst.nearest second nearestSecond.le)
      (nearestSecond.nearest first nearestFirst.le)
    have firstEven := nearestFirst.even second nearestSecond.le less.ne' tie
    have secondEven := nearestSecond.even first nearestFirst.le less.ne tie.symm
    omega
  · -- The next one after the first lies between them and is nearer than one of them.
    have after := size_strictMono (Nat.lt_succ_self first)
    have before : size (first + 1) < size second := size_strictMono (by omega)
    have within : first + 1 ≤ infiniteMagnitude := by
      have bounded := nearestSecond.le
      omega
    have fromFirst := nearestFirst.nearest (first + 1) within
    have fromSecond := nearestSecond.nearest (first + 1) within
    rcases le_total value (size (first + 1)) with low | high
    · rw [abs_sub_comm, abs_of_pos (by linarith), abs_sub_comm, abs_of_nonneg (by linarith)]
        at fromSecond
      linarith
    · rw [abs_of_pos (by linarith), abs_of_nonneg (by linarith)] at fromFirst
      linarith

/-- Only one magnitude is nearest. -/
theorem IsNearest.unique {value : ℚ} {first second : Nat} (nearestFirst : IsNearest value first)
    (nearestSecond : IsNearest value second) : first = second :=
  Nat.le_antisymm (Nat.not_lt.mp (nearestSecond.not_lt nearestFirst))
    (Nat.not_lt.mp (nearestFirst.not_lt nearestSecond))

/-- A value that is at least the infinite one is infinite. -/
theorem isNearest_infinite {value : ℚ} (great : size infiniteMagnitude ≤ value) :
    IsNearest value infiniteMagnitude where
  le := Nat.le_refl _
  nearest other within := by
    have smaller := size_strictMono.monotone within
    rw [abs_of_nonneg (by linarith), abs_of_nonneg (by linarith)]
    linarith
  even _ _ _ _ := by decide

/-- A value that is less than half the least positive one is nearest to zero. -/
theorem isNearest_zero {value : ℚ} (notNegative : 0 ≤ value) (small : 2 * value < size 1) :
    IsNearest value 0 where
  le := Nat.zero_le _
  nearest other _ := by
    rcases Nat.eq_zero_or_pos other with rfl | positive
    · exact le_rfl
    · have atLeast := size_strictMono.monotone (Nat.succ_le_of_lt positive)
      rw [size_zero, sub_zero, abs_of_nonneg notNegative, abs_sub_comm, abs_of_nonneg]
      · linarith
      · linarith
  even _ _ _ _ := rfl

/-- A magnitude lies before a level, beyond it or on it. -/
theorem level_cases (level other : Nat) :
    (level ≠ 0 ∧ other < level * exponentStep + exponentStep) ∨
      level * exponentStep + 2 * exponentStep < other ∨
      ∃ integer ≤ 2 * exponentStep, (level = 0 ∨ exponentStep ≤ integer) ∧
        other = level * exponentStep + integer := by
  by_cases beyond : level * exponentStep + 2 * exponentStep < other
  · exact .inr (.inl beyond)
  · by_cases first : level = 0
    · subst first
      exact .inr (.inr ⟨other, by omega, .inl rfl, by omega⟩)
    · by_cases before : other < level * exponentStep + exponentStep
      · exact .inl ⟨first, before⟩
      · exact .inr (.inr ⟨other - level * exponentStep, by omega, .inr (by omega), by omega⟩)

/-- On a level, distances are multiples of distances from integers. -/
theorem distance_on_level (scaled : ℚ) {level integer : Nat} (below : integer ≤ 2 * exponentStep)
    (above : level = 0 ∨ exponentStep ≤ integer) :
    |scaled * unit level - size (level * exponentStep + integer)| =
      |scaled - integer| * unit level := by
  rw [size_on_level below above, ← sub_mul, abs_mul, abs_of_pos (unit_pos level)]

/-! A value on a level, as a multiple of the unit, with the integer nearest to the multiple. -/

section Level

variable {scaled : ℚ} {level significand : Nat}
  (rounded : Ratio.NearestInteger scaled significand)
  (above : level = 0 ∨ (exponentStep : Nat) ≤ scaled) (below : scaled < (2 * exponentStep : Nat))

include rounded above below

theorem distance_rounded :
    |scaled * unit level - size (level * exponentStep + significand)| =
      |scaled - significand| * unit level :=
  distance_on_level scaled (rounded.le_of_lt below)
    (above.imp_right fun above => rounded.ge_of_le above)

/-- On the level no magnitude is nearer than the one of the nearest integer. -/
theorem distance_rounded_le {integer : Nat} (notAbove : integer ≤ 2 * exponentStep)
    (notBelow : level = 0 ∨ exponentStep ≤ integer) :
    |scaled * unit level - size (level * exponentStep + significand)| ≤
      |scaled * unit level - size (level * exponentStep + integer)| := by
  rw [distance_rounded rounded above below, distance_on_level scaled notAbove notBelow]
  exact mul_le_mul_of_nonneg_right (rounded.nearest integer) (unit_pos level).le

/-- Any other magnitude is farther away, or on the level as well. -/
theorem nearer_or_on_level (other : Nat) :
    |scaled * unit level - size (level * exponentStep + significand)| <
        |scaled * unit level - size other| ∨
      ∃ integer : Nat, other = level * exponentStep + integer ∧
        |scaled * unit level - size other| = |scaled - integer| * unit level := by
  have positive := unit_pos level
  rcases level_cases level other with
    ⟨notFirst, before⟩ | after | ⟨integer, notAbove, notBelow, rfl⟩
  · -- The first magnitude on the level lies between the other one and the value.
    left
    have edge : size (level * exponentStep + exponentStep) = _ :=
      size_on_level (by omega) (.inr le_rfl)
    have less := size_strictMono before
    have inside : exponentStep * unit level ≤ scaled * unit level :=
      mul_le_mul_of_nonneg_right (above.resolve_left notFirst) positive.le
    refine (distance_rounded_le rounded above below (by omega) (.inr le_rfl)).trans_lt ?_
    rw [abs_of_nonneg (by linarith), abs_of_pos (by linarith)]
    linarith
  · -- The first magnitude on the next level lies between the value and the other one.
    left
    have edge : size (level * exponentStep + 2 * exponentStep) = _ :=
      size_on_level le_rfl (.inr (by omega))
    have more := size_strictMono after
    have inside : scaled * unit level < (2 * exponentStep : Nat) * unit level :=
      mul_lt_mul_of_pos_right below positive
    refine (distance_rounded_le rounded above below le_rfl (.inr (by omega))).trans_lt ?_
    rw [abs_sub_comm, abs_of_pos (by linarith), abs_sub_comm, abs_of_pos (by linarith)]
    linarith
  · exact .inr ⟨integer, rfl, distance_on_level scaled notAbove notBelow⟩

theorem nearest_of_rounded (other : Nat) :
    |scaled * unit level - size (level * exponentStep + significand)| ≤
      |scaled * unit level - size other| := by
  rcases nearer_or_on_level rounded above below other with nearer | ⟨integer, -, there⟩
  · exact nearer.le
  · rw [distance_rounded rounded above below, there]
    exact mul_le_mul_of_nonneg_right (rounded.nearest integer) (unit_pos level).le

theorem even_of_rounded {other : Nat} (different : other ≠ level * exponentStep + significand)
    (tie : |scaled * unit level - size (level * exponentStep + significand)| =
      |scaled * unit level - size other|) :
    (level * exponentStep + significand) % 2 = 0 := by
  rcases nearer_or_on_level rounded above below other with nearer | ⟨integer, rfl, there⟩
  · exact absurd tie nearer.ne
  · rw [distance_rounded rounded above below, there] at tie
    have significandEven := rounded.even integer (by omega)
      (mul_right_cancel₀ (unit_pos level).ne' tie)
    have stepEven : exponentStep % 2 = 0 := by decide
    simp [Nat.add_mod, Nat.mul_mod, stepEven, significandEven]

/-- The magnitude of the nearest integer, or the infinite one before it, is nearest. -/
theorem isNearest_of_rounded :
    IsNearest (scaled * unit level)
      (min infiniteMagnitude (level * exponentStep + significand)) := by
  have nearest := nearest_of_rounded rounded above below
  rcases Nat.lt_or_ge infiniteMagnitude (level * exponentStep + significand) with infinite | finite
  · rw [Nat.min_eq_left infinite.le]
    apply isNearest_infinite
    have near := nearest infiniteMagnitude
    have order := size_strictMono infinite
    by_contra less
    rw [not_le] at less
    rw [abs_sub_comm, abs_of_pos (by linarith), abs_sub_comm, abs_of_pos (by linarith)] at near
    linarith
  · rw [Nat.min_eq_right finite]
    exact ⟨finite, fun other _ => nearest other,
      fun _ _ different tie => even_of_rounded rounded above below different tie⟩

end Level

/-- The level that is chosen by the exponent of a value is the one that the value is on. -/
theorem level_of_log {value : ℚ} {log : Int} (above : (2 : ℚ) ^ log ≤ value)
    (below : value < 2 ^ (log + 1)) {level : Nat}
    (chosen : max (-1074) (log - 52) = (level : Int) - 1074) :
    (level = 0 ∨ (exponentStep : Nat) ≤ value / unit level) ∧
      value / unit level < (2 * exponentStep : Nat) := by
  have positive := unit_pos level
  have step : (exponentStep : ℚ) = 2 ^ (52 : Int) := by norm_num [exponentStep]
  rw [le_div_iff₀ positive, div_lt_iff₀ positive, Nat.cast_mul, Nat.cast_two, step, unit,
    mul_assoc, ← zpow_add₀ two_ne_zero, ← zpow_one_add₀ two_ne_zero]
  constructor
  · rcases Nat.eq_zero_or_pos level with first | later
    · exact .inl first
    · have exponent : 52 + ((level : Int) - 1074) = log := by omega
      rw [exponent]
      exact .inr above
  · exact below.trans_le (zpow_le_zpow_right₀ one_le_two (by omega))

/-- **Rounding gives the nearest number.** -/
theorem isNearest_nearestMagnitude {ratio : Ratio} (positive : 0 < ratio.denominator) :
    IsNearest ratio.toRat (nearestMagnitude ratio) := by
  by_cases zero : ratio.numerator = 0
  · have none : ratio.toRat = 0 := by simp [Ratio.toRat, zero]
    have least : 0 < size 1 := by
      rw [← size_zero]
      exact size_strictMono Nat.zero_lt_one
    rw [nearestMagnitude, if_pos zero, none]
    exact isNearest_zero le_rfl (by linarith)
  · obtain ⟨above, below⟩ := Ratio.floorLog2_bounds positive zero
    rw [nearestMagnitude, if_neg zero]
    dsimp only
    generalize chosen : max (-1074) (ratio.floorLog2 - 52) = exponent
    obtain ⟨level, rfl⟩ : ∃ level : Nat, exponent = (level : Int) - 1074 :=
      ⟨(exponent + 1074).toNat, by omega⟩
    have rounded := Ratio.nearestInteger_roundHalfEven
      (Ratio.denominator_scale_pos positive two_pos (-((level : Int) - 1074)))
    have scaled : (ratio.scale 2 (-((level : Int) - 1074))).toRat = ratio.toRat / unit level := by
      rw [Ratio.toRat_scale, zpow_neg, Nat.cast_two, ← div_eq_mul_inv, unit]
    rw [scaled] at rounded
    obtain ⟨start, finish⟩ := level_of_log above below chosen
    have nearest := isNearest_of_rounded rounded start finish
    rw [div_mul_cancel₀ _ (unit_pos level).ne'] at nearest
    have whole : ((level : Int) - 1074 + 1074).toNat = level := by omega
    rwa [whole]

/-! ## Decimals -/

theorem lt_pow_length_toDigits (digits : Nat) : digits < 10 ^ (Nat.toDigits 10 digits).length :=
  (Nat.length_toDigits_le_iff (by decide) Nat.length_toDigits_pos).mp le_rfl

theorem pow_length_toDigits_le {digits : Nat} (notZero : digits ≠ 0) :
    10 ^ ((Nat.toDigits 10 digits).length - 1) ≤ digits := by
  have positive : 0 < (Nat.toDigits 10 digits).length := Nat.length_toDigits_pos
  by_contra less
  rcases Nat.eq_zero_or_pos ((Nat.toDigits 10 digits).length - 1) with one | more
  · rw [one] at less
    omega
  · have shorter := (Nat.length_toDigits_le_iff (by decide) more).mpr (not_le.mp less)
    omega

theorem size_one : size 1 = 2 ^ (-1074 : Int) := by
  have block : size (0 * exponentStep + 1) = _ := size_on_level (by decide) (.inl rfl)
  simpa [unit] using block

theorem size_infiniteMagnitude : size infiniteMagnitude = 2 ^ (1024 : Int) := by
  have block : size (2046 * exponentStep + exponentStep) = _ :=
    size_on_level (by decide) (.inr le_rfl)
  have same : 2046 * exponentStep + exponentStep = infiniteMagnitude := by decide
  have step : (exponentStep : ℚ) = 2 ^ (52 : Int) := by norm_num [exponentStep]
  rw [← same, block, step, unit, ← zpow_add₀ two_ne_zero]
  norm_num

theorem two_mul_lt_size_one : 2 * (10 : ℚ) ^ (-324 : Int) < size 1 := by
  rw [size_one, zpow_neg, zpow_neg, ← div_eq_mul_inv, div_lt_iff₀ (by positivity), inv_mul_eq_div,
    lt_div_iff₀ (by positivity)]
  exact_mod_cast (by decide +kernel : 2 * 2 ^ 1074 < 10 ^ 324)

theorem size_infiniteMagnitude_le : size infiniteMagnitude ≤ (10 : ℚ) ^ (309 : Int) := by
  rw [size_infiniteMagnitude]
  exact_mod_cast (by decide +kernel : 2 ^ 1024 ≤ 10 ^ 309)

/-- **Decimals are read as the nearest number.** -/
theorem isNearest_ofDecimal (negative : Bool) (digits : Nat) (exponent : Int) :
    IsNearest (digits * 10 ^ exponent) (ofDecimal negative digits exponent).magnitude := by
  have power : (0 : ℚ) < 10 ^ exponent := by positivity
  unfold ofDecimal
  dsimp only
  split
  · rename_i low
    have below : (digits : ℚ) * 10 ^ exponent ≤ 10 ^ (-324 : Int) := by
      rcases low with rfl | low
      · rw [Nat.cast_zero, zero_mul]
        positivity
      · calc (digits : ℚ) * 10 ^ exponent
          _ ≤ 10 ^ (Nat.toDigits 10 digits).length * 10 ^ exponent := by
              gcongr
              exact_mod_cast (lt_pow_length_toDigits digits).le
          _ = 10 ^ (((Nat.toDigits 10 digits).length : Int) + exponent) := by
              rw [zpow_add₀ (by norm_num), zpow_natCast]
          _ ≤ 10 ^ (-324 : Int) := zpow_le_zpow_right₀ (by norm_num) low
    have small := two_mul_lt_size_one
    exact isNearest_zero (by positivity) (by linarith)
  · rename_i notLow
    obtain ⟨notZero, -⟩ := not_or.mp notLow
    split
    · rename_i high
      apply isNearest_infinite
      calc size infiniteMagnitude
        _ ≤ 10 ^ (309 : Int) := size_infiniteMagnitude_le
        _ ≤ 10 ^ (((Nat.toDigits 10 digits).length : Int) - 1 + exponent) :=
            zpow_le_zpow_right₀ (by norm_num) high
        _ = 10 ^ ((Nat.toDigits 10 digits).length - 1) * 10 ^ exponent := by
            have positive : 0 < (Nat.toDigits 10 digits).length := Nat.length_toDigits_pos
            rw [zpow_add₀ (by norm_num), ← zpow_natCast, Nat.cast_sub positive, Nat.cast_one]
        _ ≤ digits * 10 ^ exponent := by
            gcongr
            exact_mod_cast pow_length_toDigits_le notZero
    · have positive : 0 < ((Ratio.ofNat digits).scale 10 exponent).denominator :=
        Ratio.denominator_scale_pos Nat.zero_lt_one (by decide) exponent
      have nearest := isNearest_nearestMagnitude positive
      rwa [Ratio.toRat_scale, Ratio.toRat_ofNat, Nat.cast_ofNat] at nearest

end Binary64

end ListMarkup
