import ListMarkup.Number.Binary64
import ListMarkup.Text.Basic

/-!
# The shortest decimal that reads back

A number is written with the fewest decimal digits that are nearer to it than to any
other number.  For one digit, two digits and so on the two neighbours of the number
on that decimal grid are tried; the first grid with a neighbour that reads back
decides, and of two such neighbours the nearer is taken.

All quantities are exact.  A finite number that is not zero is a multiple of a
quarter of its unit, and so are the ends of the interval of values that round to it.
-/

set_option autoImplicit false

namespace ListMarkup

/-- Digits and the power of ten they are multiplied by. -/
structure ScaledDigits where
  digits : Nat
  exponent : Int

namespace Binary64

/-- The values that round to a number: its lower end, itself and its upper end, as
multiples of one over `denominator`, and whether the ends belong to it. -/
structure RoundingInterval where
  lower : Nat
  value : Nat
  upper : Nat
  denominator : Nat
  closed : Bool

/-- The interval of the values that round to a positive finite number.  Below a power of
two the numbers lie twice as close as above it. -/
def roundingInterval (number : Binary64) : RoundingInterval :=
  let (significand, exponent) := number.parts
  let quarter := (Ratio.ofNat 1).scale 2 (exponent - 2)
  let below := if significand = exponentStep ∧ -1074 < exponent then 1 else 2
  { lower := (4 * significand - below) * quarter.numerator
    value := 4 * significand * quarter.numerator
    upper := (4 * significand + 2) * quarter.numerator
    denominator := quarter.denominator
    closed := significand % 2 == 0 }

/-- The neighbour on the grid of a power of ten that reads back as the value of an
interval, if there is one. -/
def gridPoint? (interval : RoundingInterval) (exponent : Int) : Option ScaledDigits :=
  let grid := (⟨1, interval.denominator⟩ : Ratio).scale 10 (-exponent)
  let factor := grid.numerator
  let step := grid.denominator
  let inside (digits : Nat) : Bool :=
    let point := digits * step
    if interval.closed then
      interval.lower * factor ≤ point && point ≤ interval.upper * factor
    else interval.lower * factor < point && point < interval.upper * factor
  let value := interval.value * factor
  let below := value / step
  let toBelow := value - below * step
  let toAbove := (below + 1) * step - value
  let belowIsNearer := toBelow < toAbove || (toBelow == toAbove && below % 2 == 0)
  match inside below, inside (below + 1) with
  | true, true => some ⟨if belowIsNearer then below else below + 1, exponent⟩
  | true, false => some ⟨below, exponent⟩
  | false, true => some ⟨below + 1, exponent⟩
  | false, false => none

/-- The shortest decimal that reads back as a positive finite number; 17 digits are
always enough. -/
def shortest (number : Binary64) : ScaledDigits :=
  let interval := number.roundingInterval
  let top := (⟨interval.value, interval.denominator⟩ : Ratio).floorLog10
  ((List.range 17).findSome? fun (count : Nat) => gridPoint? interval (top - count)).getD
    ⟨0, 0⟩

end Binary64

/-- Digits without the zeros at their end, and how many those were. -/
def dropTrailingZeros (digits : Text) : Text × Nat :=
  let zeros := digits.reverse.takeWhile (· == '0')
  (digits.take (digits.length - zeros.length), zeros.length)

/-- An exponent of ten with its sign. -/
def exponentText (exponent : Int) : Text :=
  ['e', if exponent < 0 then '-' else '+'] ++ Text.ofNat exponent.natAbs

/-- Digits with the point after the first `1 + exponent` of them.  Between `1e-5` and
`1e16` they are written out with at least one digit after the point, beyond that with
an exponent of ten. -/
def placePoint (digits : Text) (exponent : Int) : Text :=
  if exponent < -5 ∨ 15 < exponent then
    let fraction := digits.tail
    digits.take 1 ++ (if fraction.isEmpty then [] else '.' :: fraction) ++ exponentText exponent
  else if exponent < 0 then
    ['0', '.'] ++ List.replicate (exponent.natAbs - 1) '0' ++ digits
  else
    let wholeLength := exponent.toNat + 1
    let fraction := digits.drop wholeLength
    digits.take wholeLength ++ List.replicate (wholeLength - digits.length) '0' ++ ['.'] ++
      (if fraction.isEmpty then ['0'] else fraction)

/-- A finite number in its shortest decimal form. -/
def Text.ofBinary64 (number : Binary64) : Text :=
  let unsigned :=
    if number.magnitude = 0 then ['0', '.', '0']
    else
      let scaled := number.shortest
      let (digits, zeros) := dropTrailingZeros (Text.ofNat scaled.digits)
      placePoint digits (scaled.exponent + zeros + digits.length - 1)
  if number.negative then '-' :: unsigned else unsigned

end ListMarkup
