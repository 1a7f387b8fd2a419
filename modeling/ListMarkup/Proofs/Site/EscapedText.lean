import ListMarkup.Proofs.Site.Rendering
import ListMarkup.Proofs.Text.EscapedForm

/-!
# Escaped text is no markup

Escaping leaves no bracket and no pipe in a text, and every brace in what it gives is the code
of a sequence, with a backslash before it.  So escaped text is inert (`Markup.Inert.escaped`):
wherever a text comes from, and whatever sequences are in it already, it may be escaped and put
into markup as text (`Site.escaped_text_is_no_markup`).

This is said of escaped text on its own.  It may end in a brace, which is read together with
braces after it.
-/

set_option autoImplicit false

namespace ListMarkup

open Markup (Inert parse parse_of_inert)
open Text (Escaped escape escaped_escape escape_eq_nil_iff valueDelimiters)

namespace Markup

/-- The two kinds of braces. -/
def braces : Text := ['\x7b', '\x7d']

/-- A code is a brace, or means nothing in markup. -/
theorem code_markup {code : Char} {literal : Text} (means : Text.meaning? code = some literal) :
    (code = '\x7b' ∨ code = '\x7d') ∨ (code ∉ Token.delimiters ∧ code ≠ '|') := by
  unfold Text.meaning? at means
  split at means <;> cases means <;> decide

/-- What means something in markup has a code. -/
theorem plain_of_code? {c : Char} (plain : Text.code? c = none) :
    c ∉ Token.delimiters ∧ c ≠ '|' := by
  have coded : ∀ c ∈ '|' :: Token.delimiters, Text.code? c ≠ none :=
    List.all_iff_forall_prop.mp (by decide)
  exact ⟨fun delimiter => coded c (List.mem_cons_of_mem _ delimiter) plain,
    fun same => coded c (same ▸ List.mem_cons_self) plain⟩

namespace Inert

/-- Inert text stays inert with escaped text before it. -/
theorem escaped {text rest : Text} (escaped : Escaped text) (inert : Inert rest) :
    Inert (text ++ rest) := by
  induction escaped with
  | nil => exact inert
  | plain noCode _ _ ih =>
      obtain ⟨noDelimiter, notPipe⟩ := plain_of_code? noCode
      exact .plain noDelimiter notPipe ih
  | sequence means _ ih =>
      rcases code_markup means with isBrace | ⟨noDelimiter, notPipe⟩
      · exact .brace isBrace ih
      · exact .plain (by decide) (by decide) (.plain noDelimiter notPipe ih)

/-- What a text is escaped as is inert. -/
theorem escape (text : Text) : Inert text.escape :=
  List.append_nil text.escape ▸ Inert.nil.escaped (escaped_escape text)

/-! ## Braces in inert text -/

/-- A backslash stands right before every brace of inert text. -/
theorem backslash_before {text before after : Text} {c : Char} (inert : Inert text)
    (cut : text = before ++ c :: after) (isBrace : c ∈ braces) :
    before.getLast? = some '\\' := by
  have delimiter : c ∈ Token.delimiters := List.mem_append_left ['[', ']'] isBrace
  induction inert generalizing before with
  | nil => exact absurd cut.symm (List.append_ne_nil_of_right_ne_nil _ (List.cons_ne_nil _ _))
  | plain noDelimiter _ _ ih =>
      cases before with
      | nil =>
          cases cut
          exact absurd delimiter noDelimiter
      | cons d before =>
          have last := ih (List.tail_eq_of_cons_eq cut)
          rw [List.getLast?_cons, last]
          rfl
  | brace _ _ ih =>
      match before with
      | [] =>
          cases cut
          exact absurd isBrace (by decide)
      | [d] =>
          cases cut
          rfl
      | d :: e :: before =>
          have last := ih (List.tail_eq_of_cons_eq (List.tail_eq_of_cons_eq cut))
          rw [List.getLast?_cons_cons, List.getLast?_cons, last]
          rfl

/-- No two braces of inert text are next to each other. -/
theorem braces_apart {text before after : Text} {c d : Char} (inert : Inert text)
    (cut : text = before ++ c :: d :: after) : ¬ (c ∈ braces ∧ d ∈ braces) := by
  rintro ⟨isBrace, isBraceToo⟩
  have moved : text = before ++ [c] ++ d :: after := by
    rw [cut, List.append_assoc, List.singleton_append]
  have last := inert.backslash_before moved isBraceToo
  rw [List.getLast?_concat] at last
  cases last
  exact absurd isBrace (by decide)

end Inert

end Markup

/-- **Escaped text is no markup.**  It holds none of the characters that separate values; a
backslash stands right before every brace, so that no two braces are next to each other; it is
read as text, in one piece; and every site renders it as it is. -/
theorem Site.escaped_text_is_no_markup (text : Text) :
    (∀ c ∈ valueDelimiters, c ∉ escape text) ∧
      (∀ before c after, escape text = before ++ c :: after → c ∈ Markup.braces →
        before.getLast? = some '\\') ∧
      (∀ before c d after, escape text = before ++ c :: d :: after →
        ¬ (c ∈ Markup.braces ∧ d ∈ Markup.braces)) ∧
      parse (escape text) = (if text = [] then [] else [.text (escape text)]) ∧
      ∀ site : Site, site.render (escape text) = escape text := by
  have inert := Inert.escape text
  refine ⟨fun c separates => (escaped_escape text).not_mem separates,
    fun before c after cut isBrace => inert.backslash_before cut isBrace,
    fun before c d after cut => inert.braces_apart cut, ?_,
    fun site => site.expand_of_inert inert maxNesting .outermost⟩
  rw [parse_of_inert inert]
  split
  · rename_i empty
    rw [empty]
    rfl
  · rename_i notEmpty
    obtain ⟨c, rest, shape⟩ := List.exists_cons_of_ne_nil (mt (escape_eq_nil_iff text).mp notEmpty)
    rw [shape]
    rfl

end ListMarkup
