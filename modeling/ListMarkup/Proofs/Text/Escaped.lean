import ListMarkup.Proofs.Text.Trimming
import ListMarkup.Text.Escaped
import Mathlib.Data.Bool.AllAny
import Mathlib.Data.List.Induction

/-!
# Escaping character by character

Escaping leaves the sequences of a text as they are.  In a text without sequences, which is
one that unescaping does not change, every character is escaped on its own
(`escape_eq_flatMap`), and unescaping gives the text back whatever comes after it
(`unescape_flatMap_written`).

Text that is to survive trimming between the two must not begin or end with white space
that is not escaped (`Escapable`); then what it is escaped as is not trimmed (`Escapable.read`).
-/

set_option autoImplicit false

namespace ListMarkup.Text

open Unicode (isWhiteSpace)

/-- A code stands for its character, and is no white space. -/
theorem code?_spec {c code : Char} (coded : code? c = some code) :
    meaning? code = some [c] ∧ isWhiteSpace code = false := by
  unfold code? at coded
  split at coded <;> cases coded <;> exact ⟨rfl, by decide⟩

/-- The characters that separate values. -/
def valueDelimiters : Text := ['\n', ' ', '[', ']', '<', '>', '=', '|']

/-- The characters that separate values have codes. -/
theorem code?_ne_none {c : Char} (delimiter : c ∈ valueDelimiters) : code? c ≠ none :=
  (List.all_iff_forall_prop (p := fun c => code? c ≠ none)).mp (by decide) c delimiter

/-- A character as it is written where it belongs to no sequence. -/
def written (c : Char) : Text :=
  match code? c with
  | some code => ['\\', code]
  | none => if c = '\\' then ['\\', '\\'] else [c]

/-- A character is written by its code, twice, or as it is. -/
theorem written_cases (c : Char) :
    (∃ code, code? c = some code ∧ written c = ['\\', code]) ∨
      (c = '\\' ∧ written c = ['\\', '\\']) ∨
        (code? c = none ∧ c ≠ '\\' ∧ written c = [c]) := by
  cases coded : code? c with
  | some code => exact .inl ⟨code, rfl, by rw [written, coded]⟩
  | none =>
      by_cases backslash : c = '\\'
      · exact .inr (.inl ⟨backslash, by rw [backslash]; rfl⟩)
      · exact .inr (.inr ⟨rfl, backslash, by rw [written, coded]; exact if_neg backslash⟩)

theorem written_ne_nil (c : Char) : written c ≠ [] := by
  rcases written_cases c with ⟨_, _, same⟩ | ⟨_, same⟩ | ⟨_, _, same⟩ <;>
    exact same ▸ List.cons_ne_nil _ _

theorem escape_cons {c : Char} (notBackslash : c ≠ '\\') (rest : Text) :
    escape (c :: rest) = written c ++ escape rest := by
  have single : escape (c :: rest) =
      match code? c with
      | some code => '\\' :: code :: escape rest
      | none => c :: escape rest :=
    escape.eq_4 c rest (fun same _ => notBackslash same) (fun _ _ same _ => notBackslash same)
  rcases written_cases c with ⟨code, coded, same⟩ | ⟨backslash, _⟩ | ⟨coded, _, same⟩
  · rw [single, coded, same]
    rfl
  · exact absurd backslash notBackslash
  · rw [single, coded, same]
    rfl

theorem unescape_cons {c : Char} (notBackslash : c ≠ '\\') (rest : Text) :
    unescape (c :: rest) = c :: unescape rest := by
  rw [unescape]
  · exact fun same _ => notBackslash same
  · exact fun _ _ same _ => notBackslash same

/-- Text without backslashes has no escapes to undo. -/
theorem unescape_eq_self {text : Text} (noBackslash : '\\' ∉ text) : unescape text = text := by
  induction text with
  | nil => rfl
  | cons c text ih =>
      simp only [List.mem_cons, not_or] at noBackslash
      obtain ⟨notBackslash, later⟩ := noBackslash
      rw [unescape_cons (Ne.symm notBackslash), ih later]

/-- A character is read back from what it is written as. -/
theorem unescape_written (c : Char) (rest : Text) :
    unescape (written c ++ rest) = c :: unescape rest := by
  rcases written_cases c with ⟨code, coded, same⟩ | ⟨backslash, same⟩ | ⟨_, notBackslash, same⟩
  · rw [same, List.cons_append, List.singleton_append, unescape, (code?_spec coded).1]
    rfl
  · rw [same, backslash]
    rfl
  · rw [same]
    exact unescape_cons notBackslash rest

/-- Text whose characters are each escaped is read back, whatever comes after it. -/
theorem unescape_flatMap_written (text rest : Text) :
    unescape (text.flatMap written ++ rest) = text ++ unescape rest := by
  induction text with
  | nil => rfl
  | cons c text ih =>
      rw [List.flatMap_cons, List.append_assoc, unescape_written, ih, List.cons_append]

/-- Escaped text ends as its last character is written. -/
theorem getLast?_flatMap_written (before : Text) (c : Char) :
    ((before ++ [c]).flatMap written).getLast? = (written c).getLast? := by
  rw [List.flatMap_append, List.flatMap_singleton,
    List.getLast?_append_of_ne_nil _ (written_ne_nil c)]

/-! ## Sequences and characters alone

Escaping looks one character ahead and unescaping has a backslash in hand.  They take the same
steps all the same, over a sequence or over a character alone: after a backslash alone comes no
backslash, so the character that unescaping passes over with it is alone as well. -/

/-- A character that does not start a sequence with the text after it. -/
def Alone (c : Char) (rest : Text) : Prop :=
  c = '\\' → ∀ code ∈ rest.head?, meaning? code = none

/-- Text is empty, or begins with a sequence or with a character alone. -/
theorem sequence_induction {motive : Text → Prop} (nil : motive [])
    (sequence : ∀ code literal rest, meaning? code = some literal → motive rest →
      motive ('\\' :: code :: rest))
    (alone : ∀ c rest, Alone c rest → motive rest → motive (c :: rest)) (text : Text) :
    motive text := by
  induction text using List.twoStepInduction with
  | nil => exact nil
  | singleton c => exact alone c [] (fun _ _ first => nomatch first) nil
  | cons_cons c code rest ihRest ihCode =>
      by_cases starts : c = '\\' ∧ (meaning? code).isSome = true
      · obtain ⟨rfl, known⟩ := starts
        obtain ⟨literal, means⟩ := Option.isSome_iff_exists.mp known
        exact sequence code literal rest means ihRest
      · refine alone c (code :: rest) (fun backslash next first => ?_) (ihCode code)
        cases first
        exact Option.not_isSome_iff_eq_none.mp fun known => starts ⟨backslash, known⟩

theorem escape_sequence {code : Char} {literal : Text} (means : meaning? code = some literal)
    (rest : Text) : escape ('\\' :: code :: rest) = '\\' :: code :: escape rest := by
  rw [escape, means]
  rfl

theorem unescape_sequence {code : Char} {literal : Text} (means : meaning? code = some literal)
    (rest : Text) : unescape ('\\' :: code :: rest) = literal ++ unescape rest := by
  rw [unescape, means]

/-- A character alone is written on its own. -/
theorem escape_alone {c : Char} {rest : Text} (alone : Alone c rest) :
    escape (c :: rest) = written c ++ escape rest := by
  by_cases backslash : c = '\\'
  · subst backslash
    cases rest with
    | nil => rfl
    | cons code rest =>
        rw [escape, alone rfl code rfl]
        rfl
  · exact escape_cons backslash rest

/-- A character alone is kept. -/
theorem unescape_alone {c : Char} {rest : Text} (alone : Alone c rest) :
    unescape (c :: rest) = c :: unescape rest := by
  by_cases backslash : c = '\\'
  · subst backslash
    cases rest with
    | nil => rfl
    | cons code rest =>
        have means := alone rfl code rfl
        have notBackslash : code ≠ '\\' := by
          rintro rfl
          cases means
        rw [unescape, means, unescape_cons notBackslash]
  · exact unescape_cons backslash rest

/-- No sequence stands for more than one character. -/
theorem length_meaning?_le {code : Char} {literal : Text} (means : meaning? code = some literal) :
    literal.length ≤ 1 := by
  unfold meaning? at means
  split at means <;> cases means <;> decide

/-- Unescaping makes no text longer. -/
theorem length_unescape_le (text : Text) : (unescape text).length ≤ text.length := by
  induction text using sequence_induction with
  | nil => exact Nat.le_refl 0
  | sequence code literal rest means ih =>
      have short := length_meaning?_le means
      rw [unescape_sequence means]
      simp only [List.length_append, List.length_cons]
      omega
  | alone c rest alone ih =>
      rw [unescape_alone alone]
      exact Nat.succ_le_succ ih

/-- **In a text without sequences every character is escaped on its own.** -/
theorem escape_eq_flatMap {text : Text} (unescaped : unescape text = text) :
    escape text = text.flatMap written := by
  induction text using sequence_induction with
  | nil => rfl
  | sequence code literal rest means _ =>
      -- A sequence would make the text shorter.
      have short := length_meaning?_le means
      have shorter := length_unescape_le rest
      have length := congrArg List.length unescaped
      rw [unescape_sequence means] at length
      simp only [List.length_append, List.length_cons] at length
      omega
  | alone c rest alone ih =>
      rw [unescape_alone alone] at unescaped
      rw [escape_alone alone, ih (List.tail_eq_of_cons_eq unescaped), List.flatMap_cons]

/-! ## Text that survives trimming -/

/-- Text that neither contains a sequence nor begins or ends with white space other than
spaces and newlines. -/
structure Escapable (text : Text) : Prop where
  unescaped : unescape text = text
  begins : ∀ c ∈ text.head?, isWhiteSpace c = true → c = ' ' ∨ c = '\n'
  ends : ∀ c ∈ text.getLast?, isWhiteSpace c = true → c = ' ' ∨ c = '\n'

/-- Whether a character at one end is no white space, or white space with a code. -/
def decidableEnd : (last : Option Char) →
    Decidable (∀ c ∈ last, isWhiteSpace c = true → c = ' ' ∨ c = '\n')
  | none => .isTrue fun _ member => nomatch member
  | some c =>
    decidable_of_iff (isWhiteSpace c = true → c = ' ' ∨ c = '\n')
      ⟨fun coded _ same => Option.some.inj same ▸ coded, fun all => all c rfl⟩

instance (text : Text) : Decidable (Escapable text) :=
  have := decidableEnd text.head?
  have := decidableEnd text.getLast?
  decidable_of_iff
    (unescape text = text ∧
      (∀ c ∈ text.head?, isWhiteSpace c = true → c = ' ' ∨ c = '\n') ∧
        ∀ c ∈ text.getLast?, isWhiteSpace c = true → c = ' ' ∨ c = '\n')
    ⟨fun ⟨unescaped, begins, ends⟩ => ⟨unescaped, begins, ends⟩,
      fun ⟨unescaped, begins, ends⟩ => ⟨unescaped, begins, ends⟩⟩

/-- Spaces and newlines are written without white space. -/
theorem isWhiteSpace_of_mem_written {c d : Char}
    (escaped : isWhiteSpace c = true → c = ' ' ∨ c = '\n') (member : d ∈ written c) :
    isWhiteSpace d = false := by
  rcases written_cases c with ⟨code, coded, same⟩ | ⟨_, same⟩ | ⟨plain, _, same⟩
  · simp only [same, List.mem_cons, List.not_mem_nil, or_false] at member
    rcases member with rfl | rfl
    · decide
    · exact (code?_spec coded).2
  · simp only [same, List.mem_cons, List.not_mem_nil, or_false] at member
    rcases member with rfl | rfl <;> decide
  · rw [same, List.mem_singleton] at member
    rw [member, Bool.eq_false_iff]
    intro isSpace
    rcases escaped isSpace with rfl | rfl <;> cases plain

/-- Escapable text is written with no white space at its start. -/
theorem isWhiteSpace_head {text : Text} (escapable : Escapable text) :
    ∀ d ∈ (text.flatMap written).head?, isWhiteSpace d = false := by
  intro d first
  cases text with
  | nil => cases first
  | cons c text =>
      rw [List.flatMap_cons, List.head?_append_of_ne_nil _ (written_ne_nil c)] at first
      exact isWhiteSpace_of_mem_written (escapable.begins c rfl) (List.mem_of_mem_head? first)

/-- Escapable text is written with no white space at its end. -/
theorem isWhiteSpace_last {text : Text} (escapable : Escapable text) :
    ∀ d ∈ (text.flatMap written).getLast?, isWhiteSpace d = false := by
  intro d last
  rcases List.eq_nil_or_concat' text with rfl | ⟨before, c, rfl⟩
  · cases last
  · have ends := escapable.ends c List.getLast?_concat
    rw [getLast?_flatMap_written] at last
    exact isWhiteSpace_of_mem_written ends (List.mem_of_getLast? last)

/-- **What is escaped for trimming is not trimmed, and is unescaped to the text.** -/
theorem Escapable.read {text : Text} (escapable : Escapable text) :
    (escape text).trim = escape text ∧ unescape (escape text) = text := by
  have eachAlone := escape_eq_flatMap escapable.unescaped
  constructor
  · rw [eachAlone]
    exact trim_eq_self (isWhiteSpace_head escapable) (isWhiteSpace_last escapable)
  · have back := unescape_flatMap_written text []
    rwa [List.append_nil, unescape, List.append_nil, ← eachAlone] at back

end ListMarkup.Text
