import ListMarkup.Proofs.Text.Separator

/-!
# Replacing a token

Replacing a token goes through a text from left to right: it puts the replacement where the
token begins and keeps every other character (`replace_append`, `replace_cons`).  What the
replacement holds is not looked at.  A token of one character is therefore replaced character
by character (`replace_singleton`).
-/

set_option autoImplicit false

namespace ListMarkup.Text

variable {token : Text} (notEmpty : token ≠ []) (replacement : Text)

theorem replace_of_none {text : Text} (absent : cut? token text = none) :
    replace token replacement text = text := by
  rw [replace, split_of_none absent, join_singleton]

include notEmpty

theorem replace_of_cut? {text before after : Text}
    (found : cut? token text = some (before, after)) :
    replace token replacement text = before ++ replacement ++ replace token replacement after := by
  rw [replace, split_of_cut? notEmpty found, join_cons _ _ (split_ne_nil token after),
    ← replace, List.append_assoc]

/-- A token is replaced where it stands. -/
theorem replace_append (rest : Text) :
    replace token replacement (token ++ rest) =
      replacement ++ replace token replacement rest := by
  have found : cut? token ([] ++ (token ++ rest)) = some ([], rest) :=
    Apart.cut? notEmpty (Apart.of_forall notEmpty fun c member => absurd member List.not_mem_nil)
      rest
  exact replace_of_cut? notEmpty replacement found

/-- A character at which no token begins is kept. -/
theorem replace_cons {c : Char} {rest : Text} (noPrefix : ¬ token <+: c :: rest) :
    replace token replacement (c :: rest) = c :: replace token replacement rest := by
  have cut := cut?_cons noPrefix
  cases found : cut? token rest with
  | none =>
      rw [found] at cut
      rw [replace_of_none replacement found, replace_of_none replacement cut]
  | some halves =>
      obtain ⟨before, after⟩ := halves
      rw [found] at cut
      rw [replace_of_cut? notEmpty replacement found, replace_of_cut? notEmpty replacement cut]
      rfl

omit notEmpty

/-- A token of one character is replaced character by character. -/
theorem replace_singleton (token : Char) (replacement text : Text) :
    replace [token] replacement text =
      text.flatMap fun c => if token = c then replacement else [c] := by
  have notEmpty : [token] ≠ [] := List.cons_ne_nil token []
  induction text with
  | nil => exact replace_of_none replacement ((cut?_eq_none_iff notEmpty).mpr (by simp))
  | cons c rest ih =>
      rw [List.flatMap_cons, ← ih]
      by_cases same : token = c
      · subst same
        rw [if_pos rfl]
        exact replace_append notEmpty replacement rest
      · rw [if_neg same]
        apply replace_cons notEmpty replacement
        intro begins
        exact same (List.cons_prefix_cons.mp begins).1

end ListMarkup.Text
