import ListMarkup.Proofs.Number.Numeral
import ListMarkup.Proofs.Number.Rounding

/-!
# The values of numerals

A numeral in ASCII digits has an exact value (`Numeral.size`), and it is read as the binary number
nearest to that value, with the sign that is written, so that a negative zero is told from a
positive one.  A numeral with digits of another script is read as 0, whatever it would be worth
(`Numeral.readAs_value`).
-/

set_option autoImplicit false

namespace ListMarkup

open Unicode (isDecimalDigit)

namespace Text

theorem foldl_decimal (digits : Text) (start : Nat) :
    digits.foldl (fun value digit => 10 * value + (digit.toNat - '0'.toNat)) start =
      start * 10 ^ digits.length + decimalValue digits := by
  unfold decimalValue
  induction digits generalizing start with
  | nil => simp
  | cons digit digits ih =>
      rw [List.foldl_cons, List.foldl_cons, ih, ih (10 * 0 + _), List.length_cons]
      ring

/-- Digits that are followed by others count by as many powers of ten more. -/
theorem decimalValue_append (first second : Text) :
    decimalValue (first ++ second) =
      decimalValue first * 10 ^ second.length + decimalValue second := by
  rw [decimalValue, List.foldl_append, foldl_decimal second]
  rfl

end Text

namespace Numeral

/-- All digits are those of ASCII. -/
def HasAsciiDigits (numeral : Numeral) : Prop :=
  ∀ c ∈ numeral.toText, isDecimalDigit c = true → c.isDigit = true

/-- The exact absolute value of a numeral in ASCII digits. -/
def size (numeral : Numeral) : ℚ :=
  let fraction := numeral.fraction.getD []
  (Text.decimalValue numeral.whole + Text.decimalValue fraction / 10 ^ fraction.length) *
    10 ^ numeral.scale

/-- What a number has to do with the numeral that it is read from.  With ASCII digits it is the
number nearest to the value, and it has the sign of the numeral even where it is zero.  With other
digits it is 0. -/
structure ReadAs (numeral : Numeral) (number : Binary64) : Prop where
  sign : numeral.HasAsciiDigits → (number.negative = true ↔ numeral.sign = ['-'])
  nearest : numeral.HasAsciiDigits → Binary64.IsNearest numeral.size number.magnitude
  otherDigits : ¬ numeral.HasAsciiDigits → number = Binary64.zero

/-- All that a numeral holds besides digits is ASCII. -/
theorem ascii_of_mem_toText {numeral : Numeral} (wellFormed : numeral.WellFormed) {c : Char}
    (member : c ∈ numeral.toText) (noDigit : ¬ isDecimalDigit c = true) : c.toNat < 128 := by
  obtain ⟨isSign, ⟨digits, fractionDigits, -⟩, isExponent⟩ := wellFormed
  have sign : ∀ {run : Text}, IsSign run → c ∈ run → c.toNat < 128 := by
    rintro _ (rfl | rfl | rfl) inside
    · exact absurd inside List.not_mem_nil
    · obtain rfl := List.mem_singleton.mp inside
      decide
    · obtain rfl := List.mem_singleton.mp inside
      decide
  rw [toText_eq, List.mem_append, List.mem_append, List.mem_append] at member
  rcases member with inSign | inWhole | inFraction | inExponent
  · exact sign isSign inSign
  · exact absurd (digits c inWhole) noDigit
  · cases fraction : numeral.fraction with
    | none => simp [fraction, pointed] at inFraction
    | some run =>
        rw [fraction, pointed] at inFraction
        rcases List.mem_cons.mp inFraction with rfl | inRun
        · decide
        · exact absurd (fractionDigits run fraction c inRun) noDigit
  · cases exponent : numeral.exponent with
    | none => simp [exponent, marked] at inExponent
    | some parts =>
        obtain ⟨⟨letter, run, isLetter, isSign, isMark⟩, areDigits, -⟩ := isExponent parts exponent
        rw [exponent, marked, isMark] at inExponent
        rcases List.mem_append.mp inExponent with inMark | inDigits
        · rcases List.mem_cons.mp inMark with rfl | inRun
          · rcases isLetter with rfl | rfl <;> decide
          · exact sign isSign inRun
        · exact absurd (areDigits c inDigits) noDigit

theorem hasAsciiDigits_iff {numeral : Numeral} (wellFormed : numeral.WellFormed) :
    numeral.HasAsciiDigits ↔ numeral.toText.all (·.toNat < 128) = true := by
  simp only [HasAsciiDigits, List.all_eq_true, decide_eq_true_eq]
  constructor
  · intro ascii c member
    by_cases digit : isDecimalDigit c = true
    · have range : 48 ≤ c.toNat ∧ c.toNat ≤ 57 := by
        simpa [Char.isDigit, UInt32.le_iff_toNat_le] using ascii c member digit
      omega
    · exact ascii_of_mem_toText wellFormed member digit
  · intro ascii c member digit
    rwa [isDecimalDigit, if_pos (ascii c member)] at digit

/-- **Numerals are read as the nearest numbers.** -/
theorem readAs_value {numeral : Numeral} (wellFormed : numeral.WellFormed) :
    numeral.ReadAs numeral.value := by
  have decides := hasAsciiDigits_iff wellFormed
  refine ⟨?sign, ?nearest, ?otherDigits⟩
  case sign =>
    intro ascii
    rw [value, if_pos (decides.mp ascii)]
    exact beq_iff_eq
  case nearest =>
    intro ascii
    rw [value, if_pos (decides.mp ascii)]
    have nearest := Binary64.isNearest_ofDecimal (numeral.sign == ['-'])
      (Text.decimalValue (numeral.whole ++ numeral.fraction.getD []))
      (numeral.scale - (numeral.fraction.getD []).length)
    have exact : (Text.decimalValue (numeral.whole ++ numeral.fraction.getD []) : ℚ) *
        10 ^ (numeral.scale - ((numeral.fraction.getD []).length : Int)) = numeral.size := by
      rw [Text.decimalValue_append, size, zpow_sub₀ (by norm_num), zpow_natCast]
      push_cast
      field_simp
    rwa [exact] at nearest
  case otherDigits =>
    intro other
    rw [value, if_neg (decides.not.mp other)]

/-- A numeral is read as one number only. -/
theorem ReadAs.unique {numeral : Numeral} {first second : Binary64}
    (readFirst : numeral.ReadAs first) (readSecond : numeral.ReadAs second) : first = second := by
  by_cases ascii : numeral.HasAsciiDigits
  · have sign : first.negative = second.negative := by
      rw [Bool.eq_iff_iff, readFirst.sign ascii, readSecond.sign ascii]
    have magnitude := (readFirst.nearest ascii).unique (readSecond.nearest ascii)
    obtain ⟨negative, size⟩ := first
    exact congr (congrArg Binary64.mk sign) magnitude
  · rw [readFirst.otherDigits ascii, readSecond.otherDigits ascii]

end Numeral

end ListMarkup
