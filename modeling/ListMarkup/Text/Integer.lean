import ListMarkup.Text.Basic

/-!
# Integers of 64 bits

An integer is written as an optional sign followed by ASCII digits, and has to fit into
64 bits.  Numbers that are computed from integers have to fit as well, or else stop at
the greatest or the least integer.
-/

set_option autoImplicit false

namespace ListMarkup.Text

/-- The number that a run of ASCII digits stands for. -/
def decimalValue (digits : Text) : Nat :=
  digits.foldl (fun value digit => 10 * value + (digit.toNat - '0'.toNat)) 0

/-- Reads a nonempty run of ASCII digits. -/
def natural? (text : Text) : Option Nat :=
  if text.isEmpty || !text.all Char.isDigit then none else some (decimalValue text)

/-- The smallest natural number that does not fit into a signed integer of 64 bits. -/
def int64Bound : Nat := 0x8000000000000000

/-- Whether an integer fits into 64 bits. -/
def fitsInt64 (number : Int) : Bool :=
  -(int64Bound : Int) ≤ number && number < int64Bound

/-- A number, if it fits into 64 bits. -/
def int64? (number : Int) : Option Int :=
  if fitsInt64 number then some number else none

/-- The sum of two integers, or the integer nearest to it when it does not fit. -/
def saturatingSum (left right : Int) : Int :=
  max (-(int64Bound : Int)) (min (left + right) (int64Bound - 1))

/-- Reads a signed 64-bit integer. -/
def integer? (text : Text) : Option Int :=
  let number : Option Int :=
    match text with
    | '-' :: digits => (natural? digits).map fun value => -(value : Int)
    | '+' :: digits => (natural? digits).map fun value => (value : Int)
    | digits => (natural? digits).map fun value => (value : Int)
  number.filter fitsInt64

end ListMarkup.Text
