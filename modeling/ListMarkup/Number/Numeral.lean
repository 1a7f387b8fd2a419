import ListMarkup.Number.Binary64
import ListMarkup.Text.Integer
import ListMarkup.Unicode.DecimalDigit

/-!
# Leading numerals

The numeric reading of a value is the number it starts with, after white space,
or 0 when it starts with none.  A numeral is an optional sign, digits with an
optional point and optional further digits or a point and digits, and an optional
exponent.  The digits may be those of any script, but only numerals in ASCII
digits have a value other than 0.
-/

set_option autoImplicit false

namespace ListMarkup

/-- A numeral taken apart. -/
structure Numeral where
  /-- Nothing, a plus or a minus. -/
  sign : Text
  whole : Text
  /-- The digits after the point, when there is a point. -/
  fraction : Option Text
  /-- The mark with its sign, and the digits of the exponent. -/
  exponent : Option (Text × Text)

namespace Numeral

open Unicode (isDecimalDigit)

/-- A sign at the start of text, and what follows it. -/
def takeSign : Text → Text × Text
  | '+' :: rest => (['+'], rest)
  | '-' :: rest => (['-'], rest)
  | rest => ([], rest)

/-- The digits at the start of text, and what follows them. -/
def takeDigits (text : Text) : Text × Text :=
  text.span isDecimalDigit

/-- The digits before and after the point, and what follows them.  One of the two
runs is not empty. -/
def takeSignificand (text : Text) : Option (Text × Option Text × Text) :=
  match takeDigits text with
  | ([], '.' :: rest) =>
    match takeDigits rest with
    | ([], _) => none
    | (fraction, after) => some ([], some fraction, after)
  | ([], _) => none
  | (whole, '.' :: rest) =>
    let (fraction, after) := takeDigits rest
    some (whole, some fraction, after)
  | (whole, after) => some (whole, none, after)

/-- An exponent at the start of text.  A mark without digits is none. -/
def takeExponent : Text → Option (Text × Text)
  | mark :: rest =>
    if mark = 'e' ∨ mark = 'E' then
      let (sign, afterSign) := takeSign rest
      match takeDigits afterSign with
      | ([], _) => none
      | (digits, _) => some (mark :: sign, digits)
    else none
  | [] => none

/-- The longest numeral at the start of text. -/
def leading? (text : Text) : Option Numeral :=
  let (sign, afterSign) := takeSign text
  (takeSignificand afterSign).map fun (whole, fraction, after) =>
    { sign, whole, fraction, exponent := takeExponent after }

/-! ## What a numeral is written as and worth -/

/-- The numeral as it is written. -/
def toText (numeral : Numeral) : Text :=
  numeral.sign ++ numeral.whole ++
    (match numeral.fraction with
      | some digits => '.' :: digits
      | none => []) ++
    (match numeral.exponent with
      | some (mark, digits) => mark ++ digits
      | none => [])

/-- The power of ten that the exponent names. -/
def scale (numeral : Numeral) : Int :=
  match numeral.exponent with
  | some ([_, '-'], digits) => -(Text.decimalValue digits : Int)
  | some (_, digits) => Text.decimalValue digits
  | none => 0

/-- The value of a numeral in ASCII digits, and 0 for any other. -/
def value (numeral : Numeral) : Binary64 :=
  if numeral.toText.all (·.toNat < 128) then
    let fraction := numeral.fraction.getD []
    Binary64.ofDecimal (numeral.sign == ['-']) (Text.decimalValue (numeral.whole ++ fraction))
      (numeral.scale - fraction.length)
  else Binary64.zero

end Numeral

/-- The numeric reading of text: the value of the numeral it starts with, or 0. -/
def Text.numericValue (text : Text) : Binary64 :=
  match Numeral.leading? text.trimStart with
  | some numeral => numeral.value
  | none => Binary64.zero

/-- Every text is read as a number. -/
theorem Text.isNaN_numericValue (text : Text) : text.numericValue.isNaN = false := by
  unfold numericValue
  split
  · unfold Numeral.value
    split
    · exact Binary64.isNaN_ofDecimal _ _ _
    · rfl
  · rfl

end ListMarkup
