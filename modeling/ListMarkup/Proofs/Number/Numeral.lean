import ListMarkup.Number.Numeral
import ListMarkup.Proofs.Text.Trimming
import Mathlib.Data.List.Infix

/-!
# Numerals as they are written

A numeral is a sign or none, digits with an optional point and further digits or a point and
digits, and an exponent or none (`Numeral.WellFormed`).  Reading takes one part after the other,
and each part as far as it goes.  What is written as a numeral is read back (`leading?_toText`),
so a text is written as at most one numeral (`eq_of_toText`).

A text that starts with any numeral is read as one that is at least as long (`leading?_longest`).
The parts come one after the other, so this is not seen part by part: where a shorter numeral has
ended, its exponent may have to be given up for more digits.  But a longer significand goes on
with a digit or the point, and no exponent starts with these.
-/

set_option autoImplicit false

namespace ListMarkup

open Unicode (isDecimalDigit isWhiteSpace)

/-- Ranges that have no code point in common. -/
def Unicode.rangesApart (first second : List (Nat × Nat)) : Bool :=
  first.all fun range => second.all fun other =>
    Nat.blt range.2 other.1 || Nat.blt other.2 range.1

theorem Unicode.withinRanges_of_apart {first second : List (Nat × Nat)}
    (apart : rangesApart first second = true) {point : Nat}
    (inside : withinRanges first point = true) : withinRanges second point = false := by
  simp only [withinRanges, List.any_eq_true, List.any_eq_false, Bool.and_eq_true,
    decide_eq_true_eq] at inside ⊢
  obtain ⟨range, member, above, below⟩ := inside
  intro other otherMember
  have missed := List.all_eq_true.mp (List.all_eq_true.mp apart range member) other otherMember
  simp only [Bool.or_eq_true, Nat.blt_eq] at missed
  omega

/-- No digit of any script is white space. -/
theorem isWhiteSpace_of_isDecimalDigit {c : Char} (digit : isDecimalDigit c = true) :
    isWhiteSpace c = false := by
  unfold isDecimalDigit at digit
  split at digit
  · exact Text.isWhiteSpace_of_isDigit digit
  · exact Unicode.withinRanges_of_apart (by decide +kernel) digit

namespace Numeral

/-- A run of digits. -/
def Digits (run : Text) : Prop :=
  ∀ c ∈ run, isDecimalDigit c = true

/-- Text that does not go on with a digit. -/
def Stops (text : Text) : Prop :=
  ∀ c ∈ text.head?, isDecimalDigit c = false

theorem Digits.append {first second : Text} (firstDigits : Digits first)
    (secondDigits : Digits second) : Digits (first ++ second) :=
  List.forall_mem_append.mpr ⟨firstDigits, secondDigits⟩

theorem takeWhile_append {run rest : Text} (digits : Digits run) (stops : Stops rest) :
    (run ++ rest).takeWhile isDecimalDigit = run := by
  have none : rest.takeWhile isDecimalDigit = [] := by
    cases rest with
    | nil => rfl
    | cons c rest =>
        have refused : isDecimalDigit c = false := stops c rfl
        simp [refused]
  rw [List.takeWhile_append_of_pos digits, none, List.append_nil]

theorem takeDigits_append {run rest : Text} (digits : Digits run) (stops : Stops rest) :
    takeDigits (run ++ rest) = (run, rest) := by
  have before := takeWhile_append digits stops
  have whole := List.takeWhile_append_dropWhile (p := isDecimalDigit) (l := run ++ rest)
  rw [before, List.append_cancel_left_eq] at whole
  rw [takeDigits, List.span_eq_takeWhile_dropWhile, before, whole]

/-- The digits at the start of a text and what comes after them. -/
theorem exists_digits (text : Text) :
    ∃ run rest, text = run ++ rest ∧ Digits run ∧ Stops rest := by
  refine ⟨text.takeWhile isDecimalDigit, text.dropWhile isDecimalDigit,
    List.takeWhile_append_dropWhile.symm, fun c member => List.mem_takeWhile_imp member, ?_⟩
  intro c first
  have stopped := List.head?_dropWhile_not isDecimalDigit text
  rw [first] at stopped
  exact stopped

/-! ## The parts of a numeral -/

/-- Nothing, a plus or a minus. -/
def IsSign (run : Text) : Prop :=
  run = [] ∨ run = ['+'] ∨ run = ['-']

/-- Digits with an optional point and optional further digits, or a point and digits. -/
structure IsSignificand (whole : Text) (fraction : Option Text) : Prop where
  wholeDigits : Digits whole
  fractionDigits : ∀ digits ∈ fraction, Digits digits
  someDigit : whole ≠ [] ∨ ∃ digits ∈ fraction, digits ≠ []

/-- A mark with a sign or none, and digits. -/
structure IsExponent (mark digits : Text) : Prop where
  isMark : ∃ letter sign, (letter = 'e' ∨ letter = 'E') ∧ IsSign sign ∧ mark = letter :: sign
  areDigits : Digits digits
  someDigit : digits ≠ []

/-- The parts are what they are meant to be. -/
structure WellFormed (numeral : Numeral) : Prop where
  sign : IsSign numeral.sign
  significand : IsSignificand numeral.whole numeral.fraction
  exponent : ∀ exponent ∈ numeral.exponent, IsExponent exponent.1 exponent.2

/-- The point and the digits after it, when there is a point. -/
def pointed : Option Text → Text
  | some digits => '.' :: digits
  | none => []

/-- The mark and the digits of the exponent, when there is one. -/
def marked : Option (Text × Text) → Text
  | some (mark, digits) => mark ++ digits
  | none => []

/-- Digits stop at the point as well. -/
theorem stops_pointed (fraction : Option Text) {rest : Text} (stops : Stops rest) :
    Stops (pointed fraction ++ rest) := by
  cases fraction with
  | none => exact stops
  | some fraction =>
      rintro c ⟨⟩
      decide

theorem toText_eq (numeral : Numeral) :
    numeral.toText =
      numeral.sign ++ (numeral.whole ++ (pointed numeral.fraction ++ marked numeral.exponent)) := by
  obtain ⟨sign, whole, fraction, exponent⟩ := numeral
  simp only [toText, List.append_assoc]
  rfl

/-! ## Taking the sign and the significand -/

theorem isSign_takeSign (text : Text) : IsSign (takeSign text).1 := by
  unfold takeSign
  split
  · exact .inr (.inl rfl)
  · exact .inr (.inr rfl)
  · exact .inl rfl

theorem takeSign_concat (text : Text) : (takeSign text).1 ++ (takeSign text).2 = text := by
  unfold takeSign
  split <;> rfl

theorem takeSign_append {sign : Text} (isSign : IsSign sign) {c : Char}
    (other : isDecimalDigit c = true ∨ c = '.') (rest : Text) :
    takeSign (sign ++ c :: rest) = (sign, c :: rest) := by
  rcases isSign with rfl | rfl | rfl
  · unfold takeSign
    split
    · rename_i same
      obtain ⟨rfl, -⟩ := List.cons.inj same
      exact absurd other (by decide)
    · rename_i same
      obtain ⟨rfl, -⟩ := List.cons.inj same
      exact absurd other (by decide)
    · rfl
  · rfl
  · rfl

/-- A significand starts with a digit or with the point. -/
theorem IsSignificand.head {whole : Text} {fraction : Option Text}
    (significand : IsSignificand whole fraction) (rest : Text) :
    ∃ c others, whole ++ (pointed fraction ++ rest) = c :: others ∧
      (isDecimalDigit c = true ∨ c = '.') := by
  obtain ⟨digits, -, someDigit⟩ := significand
  cases whole with
  | cons c whole => exact ⟨c, _, rfl, .inl (digits c List.mem_cons_self)⟩
  | nil =>
      cases fraction with
      | some fraction => exact ⟨'.', _, rfl, .inr rfl⟩
      | none => simp at someDigit

theorem takeSign_significand {sign whole : Text} {fraction : Option Text} (isSign : IsSign sign)
    (significand : IsSignificand whole fraction) (rest : Text) :
    takeSign (sign ++ (whole ++ (pointed fraction ++ rest))) =
      (sign, whole ++ (pointed fraction ++ rest)) := by
  obtain ⟨c, others, begins, digitOrPoint⟩ := significand.head rest
  rw [begins]
  exact takeSign_append isSign digitOrPoint others

/-- A numeral does not start with white space. -/
theorem head_toText {numeral : Numeral} (wellFormed : numeral.WellFormed) (rest : Text) :
    ∃ c others, numeral.toText ++ rest = c :: others ∧ isWhiteSpace c = false := by
  obtain ⟨isSign, significand, -⟩ := wellFormed
  obtain ⟨c, others, begins, digitOrPoint⟩ := significand.head (marked numeral.exponent ++ rest)
  have written : numeral.toText ++ rest = numeral.sign ++ c :: others := by
    rw [← begins]
    simp only [toText_eq, List.append_assoc]
  rw [written]
  rcases isSign with none | plus | minus
  · refine ⟨c, others, by rw [none, List.nil_append], ?_⟩
    rcases digitOrPoint with digit | rfl
    · exact isWhiteSpace_of_isDecimalDigit digit
    · decide
  · exact ⟨'+', c :: others, by rw [plus]; rfl, by decide⟩
  · exact ⟨'-', c :: others, by rw [minus]; rfl, by decide⟩

theorem takeSignificand_append {whole : Text} {fraction : Option Text}
    (significand : IsSignificand whole fraction) {rest : Text} (stops : Stops rest)
    (noPoint : fraction = none → ∀ c ∈ rest.head?, c ≠ '.') :
    takeSignificand (whole ++ (pointed fraction ++ rest)) = some (whole, fraction, rest) := by
  obtain ⟨digits, fractionDigits, someDigit⟩ := significand
  have stopsBefore := stops_pointed fraction stops
  cases fraction with
  | some fraction =>
      have after := takeDigits_append (fractionDigits fraction rfl) stops
      have before : takeDigits (whole ++ (pointed (some fraction) ++ rest)) =
          (whole, '.' :: (fraction ++ rest)) := takeDigits_append digits stopsBefore
      cases whole with
      | cons c whole => simp only [takeSignificand, before, after]
      | nil =>
          cases fraction with
          | cons d fraction => simp only [takeSignificand, before, after]
          | nil => simp at someDigit
  | none =>
      have before : takeDigits (whole ++ (pointed none ++ rest)) = (whole, rest) :=
        takeDigits_append digits stops
      cases whole with
      | nil => simp at someDigit
      | cons c whole =>
          cases rest with
          | nil => simp only [takeSignificand, before]
          | cons d rest =>
              have other : d ≠ '.' := noPoint rfl d rfl
              unfold takeSignificand
              rw [before]
              simp [other]

/-- The point and its digits at the start of a text, when there is a point, and what comes after
them. -/
theorem exists_pointed {text : Text} (stops : Stops text) :
    ∃ fraction after, text = pointed fraction ++ after ∧
      (∀ digits ∈ fraction, Digits digits) ∧ Stops after ∧
      (fraction = none → ∀ c ∈ after.head?, c ≠ '.') := by
  by_cases point : text.head? = some '.'
  · obtain ⟨later, rfl⟩ := List.head?_eq_some_iff.mp point
    obtain ⟨run, after, rfl, digits, stopsAfter⟩ := exists_digits later
    refine ⟨some run, after, rfl, ?_, stopsAfter, by simp⟩
    rintro _ ⟨⟩
    exact digits
  · refine ⟨none, text, rfl, by simp, stops, ?_⟩
    rintro - c first rfl
    exact point first

/-- Without a digit before or after the point nothing is taken. -/
theorem takeSignificand_of_none {fraction : Option Text} (noDigit : ∀ digits ∈ fraction, digits = [])
    {rest : Text} (stops : Stops rest) (noPoint : fraction = none → ∀ c ∈ rest.head?, c ≠ '.') :
    takeSignificand (pointed fraction ++ rest) = none := by
  have digits : Digits [] := by simp [Digits]
  have stopsBefore := stops_pointed fraction stops
  have after : takeDigits rest = ([], rest) := takeDigits_append digits stops
  cases fraction with
  | some fraction =>
      obtain rfl := noDigit fraction rfl
      have before : takeDigits (pointed (some []) ++ rest) = ([], '.' :: rest) :=
        takeDigits_append digits stopsBefore
      simp only [takeSignificand, before, after]
  | none =>
      cases rest with
      | nil => rfl
      | cons c rest =>
          have other : c ≠ '.' := noPoint rfl c rfl
          unfold takeSignificand
          rw [pointed, List.nil_append, after]
          simp [other]

/-- Either there is no significand to take, or one is taken and what comes after it does not go
on with it. -/
theorem takeSignificand_cases (text : Text) :
    takeSignificand text = none ∨ ∃ whole fraction after, IsSignificand whole fraction ∧
      text = whole ++ (pointed fraction ++ after) ∧ Stops after ∧
      (fraction = none → ∀ c ∈ after.head?, c ≠ '.') ∧
      takeSignificand text = some (whole, fraction, after) := by
  obtain ⟨whole, rest, rfl, digits, stops⟩ := exists_digits text
  obtain ⟨fraction, after, rfl, fractionDigits, stopsAfter, noPoint⟩ := exists_pointed stops
  by_cases someDigit : whole ≠ [] ∨ ∃ digits ∈ fraction, digits ≠ []
  · have significand : IsSignificand whole fraction := ⟨digits, fractionDigits, someDigit⟩
    exact .inr ⟨whole, fraction, after, significand, rfl, stopsAfter, noPoint,
      takeSignificand_append significand stopsAfter noPoint⟩
  · obtain ⟨empty, noDigit⟩ := not_or.mp someDigit
    obtain rfl := not_not.mp empty
    have none : ∀ digits ∈ fraction, digits = [] := by
      intro run member
      by_contra notEmpty
      exact noDigit ⟨run, member, notEmpty⟩
    exact .inl (takeSignificand_of_none none stopsAfter noPoint)

/-- A significand at the start of a text is taken whole, or more than it.  More goes on with a
digit or with the point. -/
theorem takeSignificand_longest {whole : Text} {fraction : Option Text}
    (significand : IsSignificand whole fraction) (rest : Text) :
    ∃ whole' fraction' more after, rest = more ++ after ∧
      takeSignificand (whole ++ (pointed fraction ++ rest)) = some (whole', fraction', after) ∧
      whole' ++ pointed fraction' = whole ++ pointed fraction ++ more ∧
      ∀ c ∈ more.head?, isDecimalDigit c = true ∨ c = '.' := by
  obtain ⟨digits, fractionDigits, someDigit⟩ := significand
  obtain ⟨more, after, rfl, moreDigits, stops⟩ := exists_digits rest
  have head : ∀ c ∈ more.head?, isDecimalDigit c = true ∨ c = '.' :=
    fun c first => .inl (moreDigits c (List.mem_of_mem_head? first))
  cases fraction with
  | some fraction =>
      have longer : IsSignificand whole (some (fraction ++ more)) := by
        refine ⟨digits, ?_, someDigit.imp_right ?_⟩
        · rintro _ ⟨⟩
          exact (fractionDigits fraction rfl).append moreDigits
        · rintro ⟨_, ⟨⟩, notEmpty⟩
          exact ⟨_, rfl, List.append_ne_nil_of_left_ne_nil notEmpty more⟩
      have taken := takeSignificand_append longer stops (by simp)
      refine ⟨whole, some (fraction ++ more), more, after, rfl, ?_, ?_, head⟩
      · simpa [pointed] using taken
      · simp [pointed]
  | none =>
      -- What is taken besides is more digits, and then a point with digits.
      have notEmpty : whole ≠ [] := by simpa using someDigit
      obtain ⟨later, after, rfl, laterDigits, stopsAfter, noPoint⟩ := exists_pointed stops
      have longer : IsSignificand (whole ++ more) later :=
        ⟨digits.append moreDigits, laterDigits,
          .inl (List.append_ne_nil_of_left_ne_nil notEmpty more)⟩
      have taken := takeSignificand_append longer stopsAfter noPoint
      refine ⟨whole ++ more, later, more ++ pointed later, after, by simp, ?_, ?_, ?_⟩
      · simpa [pointed] using taken
      · simp [pointed]
      · intro c first
        cases more with
        | cons d more => exact head c (by simpa using first)
        | nil =>
            cases later with
            | none => simp [pointed] at first
            | some later => exact .inr (by simpa [pointed] using first.symm)

/-! ## Taking the exponent -/

theorem takeExponent_append {mark digits : Text} (exponent : IsExponent mark digits) {rest : Text}
    (stops : Stops rest) : takeExponent (mark ++ (digits ++ rest)) = some (mark, digits) := by
  obtain ⟨⟨letter, sign, isLetter, isSign, rfl⟩, areDigits, someDigit⟩ := exponent
  cases digits with
  | nil => exact absurd rfl someDigit
  | cons c digits =>
      have afterSign : takeSign (sign ++ (c :: digits ++ rest)) = (sign, c :: digits ++ rest) :=
        takeSign_append isSign (.inl (areDigits c List.mem_cons_self)) _
      have afterDigits := takeDigits_append areDigits stops
      simp only [List.cons_append, takeExponent, if_pos isLetter] at afterSign afterDigits ⊢
      rw [afterSign]
      simp only [afterDigits]

/-- What is taken as an exponent is one at the start of the text. -/
theorem isExponent_of_take {text mark digits : Text}
    (taken : takeExponent text = some (mark, digits)) :
    IsExponent mark digits ∧ ∃ rest, text = mark ++ (digits ++ rest) ∧ Stops rest := by
  cases text with
  | nil => simp [takeExponent] at taken
  | cons letter text =>
      have isSign := isSign_takeSign text
      have concat := takeSign_concat text
      simp only [takeExponent] at taken
      generalize takeSign text = signed at isSign concat taken
      obtain ⟨sign, afterSign⟩ := signed
      obtain ⟨run, rest, rfl, areDigits, stops⟩ := exists_digits afterSign
      simp only [takeDigits_append areDigits stops] at taken
      split at taken
      · rename_i isLetter
        cases run with
        | nil => simp at taken
        | cons c run =>
            obtain ⟨rfl, rfl⟩ : letter :: sign = mark ∧ c :: run = digits := by simpa using taken
            refine ⟨⟨⟨letter, sign, isLetter, isSign, rfl⟩, areDigits, List.cons_ne_nil c run⟩,
              rest, ?_, stops⟩
            rw [← concat]
            rfl
      · simp at taken

/-- An exponent at the start of a text is taken whole, or with more digits. -/
theorem takeExponent_more {mark digits : Text} (isExponent : IsExponent mark digits)
    (rest : Text) :
    ∃ more, takeExponent (mark ++ (digits ++ rest)) = some (mark, digits ++ more) := by
  obtain ⟨isMark, areDigits, someDigit⟩ := isExponent
  obtain ⟨more, after, rfl, moreDigits, stops⟩ := exists_digits rest
  have longer : IsExponent mark (digits ++ more) :=
    ⟨isMark, areDigits.append moreDigits, List.append_ne_nil_of_left_ne_nil someDigit more⟩
  have taken := takeExponent_append longer stops
  rw [List.append_assoc] at taken
  exact ⟨more, taken⟩

theorem takeExponent_longest {exponent : Option (Text × Text)}
    (isExponent : ∀ parts ∈ exponent, IsExponent parts.1 parts.2) (rest : Text) :
    (marked exponent).length ≤ (marked (takeExponent (marked exponent ++ rest))).length := by
  cases exponent with
  | none => exact Nat.zero_le _
  | some parts =>
      obtain ⟨more, taken⟩ := takeExponent_more (isExponent parts rfl) rest
      rw [marked, List.append_assoc, taken]
      simp only [marked, List.length_append]
      omega

/-- An exponent does not start with a digit or with the point. -/
theorem head_marked {exponent : Option (Text × Text)}
    (isExponent : ∀ parts ∈ exponent, IsExponent parts.1 parts.2) {c : Char}
    (first : c ∈ (marked exponent).head?) : ¬ (isDecimalDigit c = true ∨ c = '.') := by
  cases exponent with
  | none => simp [marked] at first
  | some parts =>
      obtain ⟨⟨letter, sign, isLetter, -, isMark⟩, -, -⟩ := isExponent parts rfl
      obtain rfl : letter = c := by simpa [marked, isMark] using first
      rcases isLetter with rfl | rfl <;> decide

/-! ## Reading a numeral -/

/-- What is read is a numeral that the text starts with. -/
theorem wellFormed_of_leading? {text : Text} {numeral : Numeral}
    (read : leading? text = some numeral) :
    numeral.WellFormed ∧ numeral.toText <+: text := by
  have isSign := isSign_takeSign text
  have concat := takeSign_concat text
  simp only [leading?] at read
  generalize takeSign text = signed at isSign concat read
  obtain ⟨sign, afterSign⟩ := signed
  rcases takeSignificand_cases afterSign with
    none | ⟨whole, fraction, after, significand, rfl, -, -, taken⟩
  · simp [none] at read
  · rw [taken] at read
    obtain rfl := Option.some.inj read
    have isExponent : ∀ parts ∈ takeExponent after, IsExponent parts.1 parts.2 :=
      fun _ taken => (isExponent_of_take taken).1
    have starts : marked (takeExponent after) <+: after := by
      cases taken : takeExponent after with
      | none => exact List.nil_prefix
      | some parts =>
          obtain ⟨-, rest, rfl, -⟩ := isExponent_of_take taken
          exact ⟨rest, List.append_assoc _ _ _⟩
    refine ⟨⟨isSign, significand, isExponent⟩, ?_⟩
    rw [← concat, toText_eq]
    exact (List.prefix_append_right_inj _).mpr ((List.prefix_append_right_inj _).mpr
      ((List.prefix_append_right_inj _).mpr starts))

/-- A numeral is read back as it was written. -/
theorem leading?_toText {numeral : Numeral} (wellFormed : numeral.WellFormed) :
    leading? numeral.toText = some numeral := by
  obtain ⟨isSign, significand, isExponent⟩ := wellFormed
  have afterSign := takeSign_significand isSign significand (marked numeral.exponent)
  have stops : Stops (marked numeral.exponent) := by
    intro d first
    simpa using (not_or.mp (head_marked isExponent first)).1
  have taken : takeSignificand
      (numeral.whole ++ (pointed numeral.fraction ++ marked numeral.exponent)) =
        some (numeral.whole, numeral.fraction, marked numeral.exponent) := by
    apply takeSignificand_append significand stops
    intro _ d first
    exact (not_or.mp (head_marked isExponent first)).2
  have exponent : takeExponent (marked numeral.exponent) = numeral.exponent := by
    cases written : numeral.exponent with
    | none => rfl
    | some parts =>
        have noMore : Stops [] := by simp [Stops]
        have read := takeExponent_append (isExponent parts written) noMore
        rwa [List.append_nil] at read
  simp only [toText_eq, leading?, afterSign, taken, Option.map_some, exponent]

/-- A text is written as at most one numeral. -/
theorem eq_of_toText {first second : Numeral} (firstWellFormed : first.WellFormed)
    (secondWellFormed : second.WellFormed) (same : first.toText = second.toText) :
    first = second := by
  have readBack := leading?_toText firstWellFormed
  rw [same, leading?_toText secondWellFormed] at readBack
  exact (Option.some.inj readBack).symm

/-- A text that starts with a numeral is read as one that is at least as long. -/
theorem leading?_longest {numeral : Numeral} (wellFormed : numeral.WellFormed) (rest : Text) :
    ∃ longer, leading? (numeral.toText ++ rest) = some longer ∧
      numeral.toText.length ≤ longer.toText.length := by
  obtain ⟨isSign, significand, isExponent⟩ := wellFormed
  have afterSign := takeSign_significand isSign significand (marked numeral.exponent ++ rest)
  obtain ⟨whole, fraction, more, after, split, taken, longer, goesOn⟩ :=
    takeSignificand_longest significand (marked numeral.exponent ++ rest)
  refine ⟨⟨numeral.sign, whole, fraction, takeExponent after⟩, ?_, ?_⟩
  · simp only [toText_eq, List.append_assoc, leading?, afterSign, taken, Option.map_some]
  · have lengths := congrArg List.length longer
    simp only [List.length_append] at lengths
    simp only [toText_eq, List.length_append]
    cases more with
    | nil =>
        -- Both significands end at the same place.
        have exponents := takeExponent_longest isExponent rest
        rw [split, List.nil_append] at exponents
        simp only [List.length_nil] at lengths
        omega
    | cons d more =>
        -- The shorter one has no exponent, because the longer one goes on there.
        have noExponent : marked numeral.exponent = [] := by
          cases written : marked numeral.exponent with
          | nil => rfl
          | cons e others =>
              rw [written] at split
              obtain ⟨rfl, -⟩ := List.cons.inj split
              exact absurd (goesOn e rfl) (head_marked isExponent (by rw [written]; rfl))
        rw [noExponent]
        simp only [List.length_nil]
        omega

end Numeral

end ListMarkup
