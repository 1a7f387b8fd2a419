import ListMarkup.Number.Ratio

/-!
# Binary floating-point numbers

The 64-bit binary numbers, kept as a sign and the remaining 63 bits read as a
natural number.  That number grows with the absolute value, so order is order of
integers; what lies above the infinities is not a number, and nothing compares to
it.  Every operation computes an exact quotient of natural numbers and rounds it
once: to the nearest number, and to the even one of two neighbours that are equally
near.
-/

set_option autoImplicit false

namespace ListMarkup

/-- A 64-bit binary number: its sign, and its exponent and fraction bits. -/
structure Binary64 where
  negative : Bool
  magnitude : Nat
  deriving DecidableEq

namespace Binary64

/-- The magnitude that one step of the exponent takes, the 52nd power of two. -/
def exponentStep : Nat := 0x10000000000000

/-- The magnitude of the infinities, which is above all finite ones. -/
def infiniteMagnitude : Nat := 2047 * exponentStep

/-- Zero without a sign. -/
def zero : Binary64 := ⟨false, 0⟩

/-- Whether a number is one of the two infinities. -/
def isInfinite (number : Binary64) : Bool :=
  number.magnitude == infiniteMagnitude

/-- Whether this is no number: its magnitude lies above the infinities. -/
def isNaN (number : Binary64) : Bool :=
  infiniteMagnitude < number.magnitude

/-- The number with the sign turned. -/
def neg (number : Binary64) : Binary64 :=
  { number with negative := !number.negative }

/-- The magnitude nearest to a quotient.  The unit is a power of two whose exponent
leaves 53 binary digits and does not fall below -1074. -/
def nearestMagnitude (ratio : Ratio) : Nat :=
  if ratio.numerator = 0 then 0
  else
    let exponent := max (-1074) (ratio.floorLog2 - 52)
    let significand := (ratio.scale 2 (-exponent)).roundHalfEven
    min infiniteMagnitude ((exponent + 1074).toNat * exponentStep + significand)

/-- The significand and the exponent of two of a finite number. -/
def parts (number : Binary64) : Nat × Int :=
  let biased : Nat := number.magnitude / exponentStep
  let fraction : Nat := number.magnitude % exponentStep
  if biased = 0 then (fraction, -1074)
  else (fraction + exponentStep, (biased : Int) - 1075)

/-- The absolute value of a finite number. -/
def toRatio (number : Binary64) : Ratio :=
  (Ratio.ofNat number.parts.1).scale 2 number.parts.2

/-- The number nearest to a natural number. -/
def ofNat (number : Nat) : Binary64 :=
  ⟨false, nearestMagnitude (Ratio.ofNat number)⟩

/-- The number nearest to a number of digits times a power of ten.  A value of at least
`1e309` is beyond all finite numbers, and one below `1e-324` is nearest to zero. -/
def ofDecimal (negative : Bool) (digits : Nat) (exponent : Int) : Binary64 :=
  let length : Int := (Nat.toDigits 10 digits).length
  let magnitude :=
    if digits = 0 ∨ length + exponent ≤ -324 then 0
    else if 309 ≤ length - 1 + exponent then infiniteMagnitude
    else nearestMagnitude ((Ratio.ofNat digits).scale 10 exponent)
  ⟨negative, magnitude⟩

/-- The number nearest to a product of finite numbers. -/
def mul (left right : Binary64) : Binary64 :=
  ⟨left.negative != right.negative, nearestMagnitude (left.toRatio.mul right.toRatio)⟩

/-- The number nearest to a quotient of finite numbers, the second not zero. -/
def div (left right : Binary64) : Binary64 :=
  ⟨left.negative != right.negative, nearestMagnitude (left.toRatio.div right.toRatio)⟩

/-- An integer that orders the numbers by value; both zeros are 0. -/
def rank (number : Binary64) : Int :=
  if number.negative then -(number.magnitude : Int) else number.magnitude

/-- How two numbers compare by value.  What is no number compares to nothing. -/
def compare? (left right : Binary64) : Option Ordering :=
  if left.isNaN || right.isNaN then none else some (compare left.rank right.rank)

/-- The number's 64-bit word. -/
def word (number : Binary64) : Nat :=
  (if number.negative then 2048 * exponentStep else 0) + number.magnitude

/-! ## Only numbers are computed -/

theorem isNaN_eq_false_iff {number : Binary64} :
    number.isNaN = false ↔ number.magnitude ≤ infiniteMagnitude := by
  simp [isNaN]

theorem compare?_of_numbers {left right : Binary64} (first : left.isNaN = false)
    (second : right.isNaN = false) :
    left.compare? right = some (compare left.rank right.rank) := by
  simp [compare?, first, second]

theorem nearestMagnitude_le (ratio : Ratio) : nearestMagnitude ratio ≤ infiniteMagnitude := by
  unfold nearestMagnitude
  split
  · exact Nat.zero_le _
  · exact Nat.min_le_left _ _

theorem isNaN_ofDecimal (negative : Bool) (digits : Nat) (exponent : Int) :
    (ofDecimal negative digits exponent).isNaN = false := by
  rw [isNaN_eq_false_iff]
  simp only [ofDecimal]
  split
  · exact Nat.zero_le _
  · split
    · exact Nat.le_refl _
    · exact nearestMagnitude_le _

end Binary64

end ListMarkup
