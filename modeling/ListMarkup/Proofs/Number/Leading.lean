import ListMarkup.Proofs.Number.Decimal
import ListMarkup.Proofs.Text.Shape

/-!
# The numeral at the start of a text

White space and a numeral are a shape of runs (`Numeral.shape`).  What is found of it at the start
of a text is decided by preferences: rather a sign than none, rather digits first than a point,
rather an exponent than none, and as many digits as there are.  That each choice takes what it can
does not make the whole run the longest one.  But here it is: a choice that may be given up later,
such as a mark of an exponent without digits or a sign without a number, leaves nothing that the
other choices could take instead.

The numeric reading of text takes one part of a numeral after the other and never goes back.  It
finds the same run, so it reads the longest numeral that the text starts with
(`Text.numericValue_of_longest_numeral`).
-/

set_option autoImplicit false

namespace ListMarkup

open Unicode (isDecimalDigit isWhiteSpace)

namespace Numeral

/-! ## The shape of numerals -/

/-- The shape of a sign or none. -/
def signShape : Shape :=
  .optional (.one fun c => c = '+' ∨ c = '-')

/-- The shape of a point and what may follow it. -/
def pointedShape (digits : Shape) : Shape :=
  .andThen (.one fun c => c = '.') digits

/-- The shape of digits with an optional point and optional further digits, or else of a point
and digits. -/
def significandShape : Shape :=
  .orElse
    (.andThen (.atLeastOne isDecimalDigit) (.optional (pointedShape (.many isDecimalDigit))))
    (pointedShape (.atLeastOne isDecimalDigit))

/-- The shape of an exponent. -/
def exponentShape : Shape :=
  .andThen (.one fun c => c = 'e' ∨ c = 'E') (.andThen signShape (.atLeastOne isDecimalDigit))

/-- The shape of a numeral, with white space before it. -/
def shape : Shape :=
  .andThen (.many isWhiteSpace)
    (.andThen signShape (.andThen significandShape (.optional exponentShape)))

theorem matches_signShape {run : Text} : signShape.Matches run ↔ IsSign run := by
  rw [signShape, Shape.matches_optional]
  simp only [Shape.Matches, IsSign, decide_eq_true_eq, or_and_right, exists_or, exists_eq_left]

theorem matches_significandShape {run : Text} :
    significandShape.Matches run ↔
      ∃ whole fraction, IsSignificand whole fraction ∧ run = whole ++ pointed fraction := by
  simp only [significandShape, pointedShape, Shape.Matches, Shape.matches_optional,
    Shape.matches_atLeastOne, decide_eq_true_eq, exists_eq_left]
  constructor
  · rintro (⟨whole, after, ⟨notEmpty, digits⟩, fraction, rfl⟩ |
      ⟨point, after, rfl, ⟨notEmpty, digits⟩, rfl⟩)
    · rcases fraction with rfl | ⟨point, after, rfl, fractionDigits, rfl⟩
      · exact ⟨whole, none, ⟨digits, by simp, .inl notEmpty⟩, rfl⟩
      · refine ⟨whole, some after, ⟨digits, ?_, .inl notEmpty⟩, rfl⟩
        rintro _ ⟨⟩
        exact fractionDigits
    · refine ⟨[], some after, ⟨by simp [Digits], ?_, .inr ⟨after, rfl, notEmpty⟩⟩, rfl⟩
      rintro _ ⟨⟩
      exact digits
  · rintro ⟨whole, fraction, ⟨digits, fractionDigits, someDigit⟩, rfl⟩
    by_cases empty : whole = []
    · obtain ⟨after, rfl, notEmpty⟩ := someDigit.resolve_left (not_not.mpr empty)
      subst empty
      exact .inr ⟨['.'], after, rfl, ⟨notEmpty, fractionDigits after rfl⟩, rfl⟩
    · refine .inl ⟨whole, pointed fraction, ⟨empty, digits⟩, ?_, rfl⟩
      cases fraction with
      | none => exact .inl rfl
      | some after => exact .inr ⟨['.'], after, rfl, fractionDigits after rfl, rfl⟩

theorem matches_exponentShape {run : Text} :
    exponentShape.Matches run ↔ ∃ mark digits, IsExponent mark digits ∧ run = mark ++ digits := by
  simp only [exponentShape, Shape.Matches, matches_signShape, Shape.matches_atLeastOne,
    decide_eq_true_eq]
  constructor
  · rintro ⟨_, _, ⟨letter, isLetter, rfl⟩, ⟨sign, digits, isSign, ⟨notEmpty, areDigits⟩, rfl⟩, rfl⟩
    exact ⟨letter :: sign, digits, ⟨⟨letter, sign, isLetter, isSign, rfl⟩, areDigits, notEmpty⟩,
      rfl⟩
  · rintro ⟨_, digits, ⟨⟨letter, sign, isLetter, isSign, rfl⟩, areDigits, notEmpty⟩, rfl⟩
    exact ⟨[letter], sign ++ digits, ⟨letter, isLetter, rfl⟩,
      ⟨sign, digits, isSign, ⟨notEmpty, areDigits⟩, rfl⟩, rfl⟩

/-- A run has the shape just if it is white space and a numeral. -/
theorem matches_shape {run : Text} :
    shape.Matches run ↔ ∃ (before : Text) (numeral : Numeral),
      Text.Blank before ∧ numeral.WellFormed ∧ run = before ++ numeral.toText := by
  simp only [shape, Shape.Matches, Shape.matches_optional, matches_signShape,
    matches_significandShape, matches_exponentShape]
  constructor
  · rintro ⟨before, _, blank, ⟨sign, _, isSign, ⟨_, after, ⟨whole, fraction, significand, rfl⟩,
      exponent, rfl⟩, rfl⟩, rfl⟩
    rcases exponent with rfl | ⟨mark, digits, isExponent, rfl⟩
    · exact ⟨before, ⟨sign, whole, fraction, none⟩, blank, ⟨isSign, significand, by simp⟩,
        by simp [toText_eq, marked]⟩
    · refine ⟨before, ⟨sign, whole, fraction, some (mark, digits)⟩, blank,
        ⟨isSign, significand, ?_⟩, by simp [toText_eq, marked]⟩
      rintro _ ⟨⟩
      exact isExponent
  · rintro ⟨before, ⟨sign, whole, fraction, exponent⟩, blank, ⟨isSign, significand, isExponent⟩,
      rfl⟩
    refine ⟨before, _, blank, ⟨sign, _, isSign, ⟨_, marked exponent,
      ⟨whole, fraction, significand, rfl⟩, ?_, rfl⟩, rfl⟩, by simp [toText_eq]⟩
    cases exponent with
    | none => exact .inl rfl
    | some parts => exact .inr ⟨parts.1, parts.2, isExponent parts rfl, rfl⟩

/-! ## The numeral that is found -/

theorem first?_signShape (text : Text) : signShape.first? text = some (takeSign text).1 := by
  rw [signShape, Shape.first?_optional]
  unfold takeSign
  split
  · rfl
  · rfl
  · rename_i notPlus notMinus
    cases text with
    | nil => rfl
    | cons c rest =>
        have other : ¬ (c = '+' ∨ c = '-') := by
          rintro (rfl | rfl)
          · exact notPlus rest rfl
          · exact notMinus rest rfl
        simp [Shape.first?, Shape.runs, other]

theorem first?_digits {run rest : Text} (digits : Digits run) (stops : Stops rest) :
    (Shape.atLeastOne isDecimalDigit).first? (run ++ rest) =
      if run = [] then none else some run := by
  rw [Shape.first?_atLeastOne, takeWhile_append digits stops]

theorem first?_optional_pointedShape {fraction : Option Text}
    (fractionDigits : ∀ digits ∈ fraction, Digits digits) {rest : Text} (stops : Stops rest)
    (noPoint : fraction = none → ∀ c ∈ rest.head?, c ≠ '.') :
    (Shape.optional (pointedShape (.many isDecimalDigit))).first? (pointed fraction ++ rest) =
      some (pointed fraction) := by
  rw [Shape.first?_optional, pointedShape]
  cases fraction with
  | some after =>
      rw [pointed, List.cons_append, Shape.first?_one_andThen, Shape.first?_many,
        takeWhile_append (fractionDigits after rfl) stops]
      rfl
  | none =>
      cases rest with
      | nil => rfl
      | cons c rest =>
          have other : c ≠ '.' := noPoint rfl c rfl
          rw [pointed, List.nil_append, Shape.first?_one_andThen]
          simp [other]

theorem first?_significandShape {whole : Text} {fraction : Option Text}
    (significand : IsSignificand whole fraction) {rest : Text} (stops : Stops rest)
    (noPoint : fraction = none → ∀ c ∈ rest.head?, c ≠ '.') :
    significandShape.first? (whole ++ (pointed fraction ++ rest)) =
      some (whole ++ pointed fraction) := by
  obtain ⟨digits, fractionDigits, someDigit⟩ := significand
  have wholeFound := first?_digits digits (stops_pointed fraction stops)
  rw [significandShape, Shape.first?_orElse]
  by_cases empty : whole = []
  · obtain ⟨after, rfl, notEmpty⟩ := someDigit.resolve_left (not_not.mpr empty)
    rw [if_pos empty] at wholeFound
    rw [Shape.first?_andThen_of_none _ wholeFound, empty, Option.none_or, pointed,
      List.nil_append, List.cons_append, pointedShape, Shape.first?_one_andThen,
      first?_digits (fractionDigits after rfl) stops, if_neg notEmpty]
    rfl
  · rw [if_neg empty] at wholeFound
    have pointFound := first?_optional_pointedShape fractionDigits stops noPoint
    rw [Shape.first?_andThen wholeFound pointFound, Option.some_or]

theorem first?_exponentShape {mark digits : Text} (isExponent : IsExponent mark digits)
    {rest : Text} (stops : Stops rest) :
    exponentShape.first? (mark ++ (digits ++ rest)) = some (mark ++ digits) := by
  obtain ⟨⟨letter, sign, isLetter, isSign, rfl⟩, areDigits, someDigit⟩ := isExponent
  obtain ⟨c, others, rfl⟩ := List.exists_cons_of_ne_nil someDigit
  have taken := takeSign_append isSign (.inl (areDigits c List.mem_cons_self)) (others ++ rest)
  have signFound : signShape.first? (sign ++ (c :: others ++ rest)) = some sign := by
    rw [first?_signShape, List.cons_append, taken]
  have digitsFound := first?_digits areDigits stops
  rw [if_neg someDigit] at digitsFound
  rw [exponentShape, List.cons_append, Shape.first?_one_andThen,
    Shape.first?_andThen signFound digitsFound]
  simp [isLetter]

/-- A mark without digits is no exponent, whichever way it is taken. -/
theorem first?_exponentShape_of_none {text : Text} (absent : takeExponent text = none) :
    exponentShape.first? text = none := by
  cases found : exponentShape.first? text with
  | none => rfl
  | some run =>
      obtain ⟨⟨rest, rfl⟩, fits⟩ := Shape.mem_runs_iff.mp (Shape.mem_runs_of_first? found)
      obtain ⟨mark, digits, isExponent, rfl⟩ := matches_exponentShape.mp fits
      obtain ⟨more, taken⟩ := takeExponent_more isExponent rest
      rw [List.append_assoc, taken] at absent
      cases absent

theorem first?_optional_exponentShape (text : Text) :
    (Shape.optional exponentShape).first? text = some (marked (takeExponent text)) := by
  rw [Shape.first?_optional]
  cases taken : takeExponent text with
  | some parts =>
      obtain ⟨isExponent, rest, rfl, stops⟩ := isExponent_of_take taken
      rw [first?_exponentShape isExponent stops]
      rfl
  | none =>
      rw [first?_exponentShape_of_none taken]
      rfl

theorem takeWhile_append_trimStart (text : Text) :
    text.takeWhile isWhiteSpace ++ text.trimStart = text :=
  List.takeWhile_append_dropWhile

theorem blank_takeWhile (text : Text) : Text.Blank (text.takeWhile isWhiteSpace) :=
  fun _ member => List.mem_takeWhile_imp member

/-- What is found is white space and the numeral that is read. -/
theorem first?_shape {text : Text} {numeral : Numeral}
    (read : leading? text.trimStart = some numeral) :
    shape.first? text = some (text.takeWhile isWhiteSpace ++ numeral.toText) := by
  have spaces := takeWhile_append_trimStart text
  have spacesFound := Shape.first?_many isWhiteSpace text
  have concat := takeSign_concat text.trimStart
  have signFound := first?_signShape text.trimStart
  simp only [leading?] at read
  generalize takeSign text.trimStart = signed at concat signFound read
  generalize text.takeWhile isWhiteSpace = before at spaces spacesFound ⊢
  obtain ⟨sign, afterSign⟩ := signed
  rcases takeSignificand_cases afterSign with
    none | ⟨whole, fraction, after, significand, rfl, stops, noPoint, taken⟩
  · simp [none] at read
  · rw [taken] at read
    obtain rfl := Option.some.inj read
    have significandFound := first?_significandShape significand stops noPoint
    dsimp only at concat signFound
    rw [← List.append_assoc whole] at significandFound concat
    have unsigned := Shape.first?_andThen significandFound (first?_optional_exponentShape after)
    rw [← concat] at signFound spaces
    have signed := Shape.first?_andThen signFound unsigned
    rw [← spaces] at spacesFound ⊢
    rw [shape, Shape.first?_andThen spacesFound signed, toText_eq]
    simp only [List.append_assoc]

theorem trimStart_append_toText {before : Text} (blank : Text.Blank before) {numeral : Numeral}
    (wellFormed : numeral.WellFormed) (rest : Text) :
    (before ++ (numeral.toText ++ rest)).trimStart = numeral.toText ++ rest := by
  obtain ⟨c, others, begins, notBlank⟩ := head_toText wellFormed rest
  rw [Text.trimStart_padded blank, begins]
  exact List.dropWhile_cons_of_neg (by simp [notBlank])

/-- Where a text starts with a numeral, one that is at least as long is read. -/
theorem leading?_of_matches {text run : Text} (starts : run <+: text) (fits : shape.Matches run) :
    ∃ numeral, leading? text.trimStart = some numeral ∧
      run.length ≤ (text.takeWhile isWhiteSpace ++ numeral.toText).length := by
  obtain ⟨before, numeral, blank, wellFormed, rfl⟩ := matches_shape.mp fits
  obtain ⟨rest, rfl⟩ := starts
  rw [List.append_assoc]
  have trimmed := trimStart_append_toText blank wellFormed rest
  have lengths := congrArg List.length
    (takeWhile_append_trimStart (before ++ (numeral.toText ++ rest)))
  obtain ⟨longer, read, longest⟩ := leading?_longest wellFormed rest
  rw [← trimmed] at read
  refine ⟨longer, read, ?_⟩
  rw [trimmed] at lengths
  simp only [List.length_append] at lengths ⊢
  omega

/-- What is found is a longest run. -/
theorem longestStart_of_leading? {text : Text} {numeral : Numeral}
    (read : leading? text.trimStart = some numeral) :
    shape.LongestStart text (text.takeWhile isWhiteSpace ++ numeral.toText) := by
  obtain ⟨wellFormed, starts⟩ := wellFormed_of_leading? read
  refine ⟨?_, ?_, ?_⟩
  · have whole := (List.prefix_append_right_inj (text.takeWhile isWhiteSpace)).mpr starts
    rwa [takeWhile_append_trimStart] at whole
  · exact matches_shape.mpr ⟨_, numeral, blank_takeWhile text, wellFormed, rfl⟩
  · intro other otherStarts fits
    obtain ⟨longer, readLonger, longest⟩ := leading?_of_matches otherStarts fits
    rw [read] at readLonger
    obtain rfl := Option.some.inj readLonger
    exact longest

/-- Where no numeral is read, no run at the start matches. -/
theorem not_matches_of_leading? {text : Text} (absent : leading? text.trimStart = none) {run : Text}
    (starts : run <+: text) : ¬ shape.Matches run := by
  intro fits
  obtain ⟨numeral, read, -⟩ := leading?_of_matches starts fits
  rw [absent] at read
  cases read

/-- Where no numeral is read, none is found. -/
theorem first?_shape_of_none {text : Text} (absent : leading? text.trimStart = none) :
    shape.first? text = none := by
  cases found : shape.first? text with
  | none => rfl
  | some run =>
      obtain ⟨starts, fits⟩ := Shape.mem_runs_iff.mp (Shape.mem_runs_of_first? found)
      exact absurd fits (not_matches_of_leading? absent starts)

end Numeral

/-! ## The numeric reading of text -/

/-- White space before a numeral does not count. -/
theorem Text.numericValue_numeral {before : Text} (blank : Blank before) {numeral : Numeral}
    (wellFormed : numeral.WellFormed) :
    numericValue (before ++ numeral.toText) = numeral.value := by
  have trimmed := Numeral.trimStart_append_toText blank wellFormed []
  rw [List.append_nil] at trimmed
  rw [numericValue, trimmed, Numeral.leading?_toText wellFormed]

/-- **The numeric reading of a text is that of the longest numeral it starts with.**  Where a text
starts with white space and a numeral, what is found is the longest such run.  Without the white
space it is written as just one numeral, the text is read as this numeral is, and the run by
itself is read alike.  Where a text does not start so, nothing is found and the text is read
as 0. -/
theorem Text.numericValue_of_longest_numeral (text : Text) :
    (Numeral.shape.first? text = none ∧ (∀ run, run <+: text → ¬ Numeral.shape.Matches run) ∧
        text.numericValue = Binary64.zero) ∨
      ∃ (run : Text) (numeral : Numeral),
        Numeral.shape.first? text = some run ∧
          (∀ other : Text, Numeral.shape.LongestStart text other ↔ other = run) ∧
          (∀ other : Numeral,
            other.WellFormed ∧ other.toText = run.trimStart ↔ other = numeral) ∧
          (∀ number : Binary64, numeral.ReadAs number ↔ number = text.numericValue) ∧
          run.numericValue = text.numericValue := by
  cases read : Numeral.leading? text.trimStart with
  | none =>
      have zero : text.numericValue = Binary64.zero := by rw [numericValue, read]
      exact .inl ⟨Numeral.first?_shape_of_none read,
        fun _ starts => Numeral.not_matches_of_leading? read starts, zero⟩
  | some numeral =>
      right
      obtain ⟨wellFormed, -⟩ := Numeral.wellFormed_of_leading? read
      have blank := Numeral.blank_takeWhile text
      have value : text.numericValue = numeral.value := by rw [numericValue, read]
      refine ⟨text.takeWhile isWhiteSpace ++ numeral.toText, numeral, Numeral.first?_shape read,
        ?longest, ?numeral, ?value, ?alone⟩
      case longest =>
        have longest := Numeral.longestStart_of_leading? read
        intro other
        constructor
        · intro otherLongest
          exact otherLongest.unique longest
        · rintro rfl
          exact longest
      case numeral =>
        have trimmed := Numeral.trimStart_append_toText blank wellFormed []
        rw [List.append_nil] at trimmed
        rw [trimmed]
        intro other
        constructor
        · rintro ⟨otherWellFormed, same⟩
          exact Numeral.eq_of_toText otherWellFormed wellFormed same
        · rintro rfl
          exact ⟨wellFormed, rfl⟩
      case value =>
        have readAs := Numeral.readAs_value wellFormed
        rw [value]
        intro number
        constructor
        · intro readNumber
          exact readNumber.unique readAs
        · rintro rfl
          exact readAs
      case alone => rw [value, numericValue_numeral blank wellFormed]

-- A point needs no digits after it, but an exponent does.
example : Numeral.shape.first? " -3.e+kg".toList = some " -3.".toList := by
  decide +kernel

end ListMarkup
