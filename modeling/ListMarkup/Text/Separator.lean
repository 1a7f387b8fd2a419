import ListMarkup.Text.Basic

/-!
# Cutting text at a separator

Occurrences of a separator are found from left to right and do not overlap.  An
empty separator occurs nowhere for the purpose of splitting.  Splitting and
joining are inverse in one direction: joining the pieces gives the text back.
-/

set_option autoImplicit false

namespace ListMarkup.Text

/-- The text after a separator with which a text begins. -/
def after? : (separator : Text) → Text → Option Text
  | [], text => some text
  | _ :: _, [] => none
  | s :: separator, c :: text => if s = c then after? separator text else none

/-- The text before the first occurrence of the separator and the text after it. -/
def cut? (separator : Text) : Text → Option (Text × Text)
  | [] => if separator.isEmpty then some ([], []) else none
  | c :: rest =>
    match after? separator (c :: rest) with
    | some after => some ([], after)
    | none => (cut? separator rest).map fun (before, after) => (c :: before, after)

theorem eq_append_of_after? {separator text rest : Text}
    (found : after? separator text = some rest) : text = separator ++ rest := by
  induction separator generalizing text with
  | nil => simpa only [after?, Option.some.injEq, List.nil_append] using found
  | cons s separator ih =>
    cases text with
    | nil => simp only [after?, reduceCtorEq] at found
    | cons c text =>
      simp only [after?] at found
      split at found
      · rename_i same
        rw [ih found, same, List.cons_append]
      · cases found

/-- A cut takes out one occurrence of the separator and nothing else. -/
theorem eq_append_of_cut? {separator text before after : Text}
    (found : cut? separator text = some (before, after)) :
    text = before ++ (separator ++ after) := by
  induction text generalizing before with
  | nil =>
    simp only [cut?] at found
    split at found
    · rename_i blank
      cases found
      simpa using blank
    · cases found
  | cons c text ih =>
    simp only [cut?] at found
    split at found
    · rename_i rest leading
      cases found
      simpa only [List.nil_append] using eq_append_of_after? leading
    · obtain ⟨⟨before', after'⟩, cut, same⟩ := Option.map_eq_some_iff.1 found
      cases same
      rw [ih cut, List.cons_append]

theorem length_lt_of_cut? {separator text before after : Text} (nonempty : separator ≠ [])
    (found : cut? separator text = some (before, after)) : after.length < text.length := by
  have positive := List.length_pos_iff.2 nonempty
  have shape := congrArg List.length (eq_append_of_cut? found)
  simp only [List.length_append] at shape
  omega

/-- The pieces of text between the occurrences of a separator. -/
def split (separator text : Text) : List Text :=
  if nonempty : separator ≠ [] then
    match found : cut? separator text with
    | some (before, after) =>
      have := length_lt_of_cut? nonempty found
      before :: split separator after
    | none => [text]
  else [text]
termination_by text.length

/-- The pieces that at most `cuts` cuts leave; the last piece keeps every later
occurrence of the separator. -/
def splitAtMost (separator : Text) : Nat → Text → List Text
  | 0, text => [text]
  | cuts + 1, text =>
    match cut? separator text with
    | some (before, after) => before :: splitAtMost separator cuts after
    | none => [text]

/-- The pieces with the separator between any two neighbours. -/
def join (separator : Text) (pieces : List Text) : Text :=
  separator.intercalate pieces

/-- Text in which every occurrence of a token is replaced.  An empty token
occurs nowhere. -/
def replace (token replacement text : Text) : Text :=
  join replacement (split token text)

end ListMarkup.Text
