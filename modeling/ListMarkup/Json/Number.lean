import ListMarkup.Json.Reader
import ListMarkup.Text.Integer

/-!
# JSON numbers

A number without a point and an exponent is an integer when it fits into 64 bits;
every other number is read as floating point.  Up to 64 bits of digits are kept, and
the power of ten is applied afterwards by one multiplication or division, or by
several when it is out of the range of a single factor, so the last digit may differ
from the nearest number.
-/

set_option autoImplicit false

namespace ListMarkup.Json

/-- A number as it was read. -/
inductive Number where
  | integer (value : Int)
  | float (value : Binary64)

/-- The number as a value that was found. -/
def Number.found : Number → Found
  | .integer value => .integer value
  | .float value => .float value

namespace Reader

/-- Whether a natural number fits into 64 bits. -/
def fitsWord (number : Nat) : Bool :=
  number < 2 * Text.int64Bound

/-- Adds digits to a significand as long as it fits into 64 bits.  The second number
counts the digits added. -/
def addDigits : Nat → Text → Nat × Nat
  | significand, [] => (significand, 0)
  | significand, digit :: digits =>
    let longer := 10 * significand + (digit.toNat - '0'.toNat)
    if fitsWord longer then
      let (final, count) := addDigits longer digits
      (final, count + 1)
    else (significand, 0)

/-- The power of ten nearest to an exponent of at most 308. -/
def powerOfTen (exponent : Nat) : Binary64 :=
  Binary64.ofDecimal false 1 exponent

/-- A number divided by `10 ^ exponent`, in steps of at most 308 places. -/
def scaleDown (number : Binary64) (exponent : Nat) : Binary64 :=
  if exponent ≤ 308 then number.div (powerOfTen exponent)
  else if number.magnitude = 0 then number
  else scaleDown (number.div (powerOfTen 308)) (exponent - 308)
termination_by exponent

/-- The number `significand * 10 ^ exponent` with a sign. -/
def scaled (negative : Bool) (significand : Nat) (exponent : Int) : Reader Number := do
  let number := Binary64.ofNat significand
  let signed (number : Binary64) : Number := .float { number with negative := negative }
  if exponent < 0 then pure (signed (scaleDown number exponent.natAbs))
  else if number.magnitude = 0 then pure (signed number)
  else if 308 < exponent then failHere .numberOutOfRange
  else
    let product := number.mul (powerOfTen exponent.toNat)
    if product.isInfinite then failHere .numberOutOfRange else pure (signed product)

/-! ## The parts of a number -/

/-- The digits of an exponent that fit into a signed 32-bit number: their value, and
whether all of them fit. -/
def exponentValue : Nat → Text → Nat × Nat × Bool
  | value, [] => (value, 0, true)
  | value, digit :: digits =>
    let longer := 10 * value + (digit.toNat - '0'.toNat)
    if longer < 0x80000000 then
      let (final, count, complete) := exponentValue longer digits
      (final, count + 1, complete)
    else (value, 1, false)

/-- An exponent, of which the mark is next, and the number it makes. -/
def exponentPart (negative : Bool) (significand : Nat) (exponent : Int) : Reader Number := do
  skip
  let minus ←
    match ← peek with
    | some '+' => do
      skip
      pure false
    | some '-' => do
      skip
      pure true
    | _ => pure false
  match ← peek with
  | none => failHere .endInValue
  | some c =>
    if !c.isDigit then failAtNext .invalidNumber
    else
      let cursor ← get
      let digits ← takeWhile Char.isDigit
      let (value, count, complete) := exponentValue 0 digits
      if complete then
        scaled negative significand (if minus then exponent - value else exponent + value)
      else if significand ≠ 0 ∧ !minus then
        failAt .numberOutOfRange (cursor.position.afterBytes count cursor.rest)
      else pure (.float ⟨negative, 0⟩)

/-- The digits after the point, which is next, and the number they make. -/
def fractionPart (negative : Bool) (significand : Nat) (exponent : Int) : Reader Number := do
  skip
  let digits ← takeWhile Char.isDigit
  if digits.isEmpty then
    match ← peek with
    | none => failAtNext .endInValue
    | some _ => failAtNext .invalidNumber
  else
    let (significand, count) := addDigits significand digits
    match ← peek with
    | some 'e' | some 'E' => exponentPart negative significand (exponent - count)
    | _ => scaled negative significand (exponent - count)

/-- What follows the digits before the point, and the number they make. -/
def afterWhole (negative : Bool) (significand : Nat) (exponent : Int) : Reader Number := do
  match ← peek with
  | some '.' => fractionPart negative significand exponent
  | some 'e' | some 'E' => exponentPart negative significand exponent
  | _ =>
    if exponent ≠ 0 then scaled negative significand exponent
    else if !negative then pure (.integer significand)
    else if significand = 0 ∨ Text.int64Bound < significand then
      pure (.float (Binary64.ofNat significand).neg)
    else pure (.integer (-(significand : Int)))

/-- A number, whose sign is taken. -/
def number (negative : Bool) : Reader Number := do
  match ← peek with
  | none => failHere .endInValue
  | some '0' =>
    skip
    match ← peek with
    | some c => if c.isDigit then failAtNext .invalidNumber else afterWhole negative 0 0
    | none => afterWhole negative 0 0
  | some c =>
    if c.isDigit then
      let digits ← takeWhile Char.isDigit
      let (significand, count) := addDigits 0 digits
      afterWhole negative significand (digits.length - count)
    else failAtNext .invalidNumber

end Reader

end ListMarkup.Json
