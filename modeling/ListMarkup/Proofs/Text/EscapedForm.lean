import ListMarkup.Proofs.Text.Escaped

/-!
# The form of escaped text

What escaping gives has a form that can be seen without knowing the text that was escaped:
characters that need no escape, and sequences (`Escaped`).  Text of this form is left as it is,
and escaping leads to it without a change of what the text stands for.  So escaping is a normal
form for all text, also for text with sequences in it (`escape_normalizes`).

It does not make unescaping give the text back.  Sequences that are in a text already are not
escaped again, so unescaping undoes them too, and a text is given back only if it has none.
-/

set_option autoImplicit false

namespace ListMarkup.Text

/-- Text made of sequences, and of characters that are no backslash and have no code. -/
inductive Escaped : Text → Prop where
  | nil : Escaped []
  | plain {c : Char} {rest : Text} (noCode : code? c = none) (notBackslash : c ≠ '\\')
      (later : Escaped rest) : Escaped (c :: rest)
  | sequence {code : Char} {literal rest : Text} (means : meaning? code = some literal)
      (later : Escaped rest) : Escaped ('\\' :: code :: rest)

/-- No code separates values. -/
theorem code_not_mem {code : Char} {literal : Text} (means : meaning? code = some literal) :
    code ∉ valueDelimiters := by
  unfold meaning? at means
  split at means <;> cases means <;> decide

namespace Escaped

theorem append {first later : Text} (escaped : Escaped first) (escapedLater : Escaped later) :
    Escaped (first ++ later) := by
  induction escaped with
  | nil => exact escapedLater
  | plain noCode notBackslash _ ih => exact .plain noCode notBackslash ih
  | sequence means _ ih => exact .sequence means ih

/-- What a character is written as is escaped. -/
theorem ofWritten (c : Char) : Escaped (written c) := by
  rcases written_cases c with ⟨code, coded, same⟩ | ⟨_, same⟩ | ⟨noCode, notBackslash, same⟩
  · exact same ▸ .sequence (code?_spec coded).1 .nil
  · exact same ▸ .sequence rfl .nil
  · exact same ▸ .plain noCode notBackslash .nil

/-- Text whose characters are each escaped is escaped. -/
theorem flatMap_written (text : Text) : Escaped (text.flatMap written) := by
  induction text with
  | nil => exact .nil
  | cons c text ih =>
      rw [List.flatMap_cons]
      exact (ofWritten c).append ih

/-- Escaped text is left as it is. -/
theorem escape_eq_self {text : Text} (escaped : Escaped text) : escape text = text := by
  induction escaped with
  | nil => rfl
  | @plain c rest noCode notBackslash _ ih =>
      have single : written c = [c] := by
        rw [written, noCode]
        exact if_neg notBackslash
      rw [escape_cons notBackslash, single, ih, List.singleton_append]
  | sequence means _ ih => rw [escape_sequence means, ih]

/-- No character that separates values is in escaped text. -/
theorem not_mem {text : Text} (escaped : Escaped text) {delimiter : Char}
    (separates : delimiter ∈ valueDelimiters) : delimiter ∉ text := by
  have notBackslash : delimiter ≠ '\\' := by
    rintro rfl
    exact absurd separates (by decide)
  induction escaped with
  | nil => exact List.not_mem_nil
  | @plain c rest noCode _ _ ih =>
      have other : delimiter ≠ c := fun same => code?_ne_none separates (same ▸ noCode)
      exact List.not_mem_cons_of_ne_of_not_mem other ih
  | @sequence code literal rest means _ ih =>
      have notCode : delimiter ≠ code := fun same => code_not_mem means (same ▸ separates)
      exact List.not_mem_cons_of_ne_of_not_mem notBackslash
        (List.not_mem_cons_of_ne_of_not_mem notCode ih)

end Escaped

/-! ## Escaping -/

/-- Escaping gives escaped text. -/
theorem escaped_escape (text : Text) : Escaped (escape text) := by
  induction text using sequence_induction with
  | nil => exact .nil
  | sequence code literal rest means ih =>
      rw [escape_sequence means]
      exact .sequence means ih
  | alone c rest alone ih =>
      rw [escape_alone alone]
      exact (Escaped.ofWritten c).append ih

/-- Escaping does not change what a text stands for. -/
theorem unescape_escape (text : Text) : unescape (escape text) = unescape text := by
  induction text using sequence_induction with
  | nil => rfl
  | sequence code literal rest means ih =>
      rw [escape_sequence means, unescape_sequence means, ih, unescape_sequence means]
  | alone c rest alone ih =>
      rw [escape_alone alone, unescape_written, ih, unescape_alone alone]

/-- Nothing else than the empty text is escaped as the empty text. -/
theorem escape_eq_nil_iff (text : Text) : escape text = [] ↔ text = [] := by
  refine ⟨fun empty => ?_, fun empty => by rw [empty, escape]⟩
  induction text using sequence_induction with
  | nil => rfl
  | sequence code literal rest means _ =>
      rw [escape_sequence means] at empty
      cases empty
  | alone c rest alone _ =>
      rw [escape_alone alone] at empty
      exact absurd (List.append_eq_nil_iff.mp empty).1 (written_ne_nil c)

/-- The texts that escaping leaves as they are. -/
theorem escape_eq_self_iff (text : Text) : escape text = text ↔ Escaped text :=
  ⟨fun same => same ▸ escaped_escape text, Escaped.escape_eq_self⟩

/-- **Escaping changes no meaning and is a normal form.**  Escaped text stands for what the
text stands for and is not escaped again; the texts that are left as they are, are those made
of sequences and of characters without a code.  Unescaping gives a text back just if there is
nothing to undo in the text itself, as in every text without a backslash. -/
theorem escape_normalizes (text : Text) :
    unescape (escape text) = unescape text ∧
      escape (escape text) = escape text ∧
      (escape text = text ↔ Escaped text) ∧
      (unescape (escape text) = text ↔ unescape text = text) ∧
      ('\\' ∉ text → unescape text = text) := by
  refine ⟨unescape_escape text, (escaped_escape text).escape_eq_self, escape_eq_self_iff text,
    ?_, unescape_eq_self⟩
  rw [unescape_escape]

/-- Backslashes before a code, before another character and at the end. -/
example : escape "\\_\\x\\ \\".toList = "\\_\\\\x\\\\\\_\\\\".toList ∧
    unescape "\\_\\\\x\\\\\\_\\\\".toList = " \\x\\ \\".toList ∧
      unescape "\\_\\x\\ \\".toList = " \\x\\ \\".toList := by
  decide

end ListMarkup.Text
