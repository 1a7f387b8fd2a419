/-!
# Quotients of natural numbers

Exact quotients, scaled by powers and rounded once at the end.
-/

set_option autoImplicit false

namespace ListMarkup

/-- A numerator over a denominator that is not zero. -/
structure Ratio where
  numerator : Nat
  denominator : Nat

namespace Ratio

/-- A natural number as a quotient. -/
def ofNat (number : Nat) : Ratio := ⟨number, 1⟩

/-- A quotient times a power, whose exponent may be negative. -/
def scale (ratio : Ratio) (base : Nat) (exponent : Int) : Ratio :=
  if 0 ≤ exponent then ⟨ratio.numerator * Nat.pow base exponent.toNat, ratio.denominator⟩
  else ⟨ratio.numerator, ratio.denominator * Nat.pow base (-exponent).toNat⟩

/-- The product of two quotients. -/
def mul (left right : Ratio) : Ratio :=
  ⟨left.numerator * right.numerator, left.denominator * right.denominator⟩

/-- The quotient of two quotients, the second not zero. -/
def div (left right : Ratio) : Ratio :=
  ⟨left.numerator * right.denominator, left.denominator * right.numerator⟩

/-- The integer nearest to a quotient; of two equally near ones the even one. -/
def roundHalfEven (ratio : Ratio) : Nat :=
  let quotient := ratio.numerator / ratio.denominator
  let excess := 2 * (ratio.numerator % ratio.denominator)
  if excess < ratio.denominator then quotient
  else if ratio.denominator < excess then quotient + 1
  else quotient + quotient % 2

/-- The exponent of the largest power that is at most a positive quotient, where
`estimate` is that exponent or one more. -/
def floorLogFrom (ratio : Ratio) (base : Nat) (estimate : Int) : Int :=
  let scaled := ratio.scale base (-estimate)
  if scaled.denominator ≤ scaled.numerator then estimate else estimate - 1

/-- The exponent of the largest power of two that is at most a positive quotient. -/
def floorLog2 (ratio : Ratio) : Int :=
  ratio.floorLogFrom 2 ((ratio.numerator.log2 : Int) - ratio.denominator.log2)

/-- The exponent of the largest power of ten that is at most a positive quotient. -/
def floorLog10 (ratio : Ratio) : Int :=
  let length (number : Nat) : Int := (Nat.toDigits 10 number).length
  ratio.floorLogFrom 10 (length ratio.numerator - length ratio.denominator)

end Ratio

end ListMarkup
