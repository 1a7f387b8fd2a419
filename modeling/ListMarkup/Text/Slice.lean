import ListMarkup.Text.Basic

/-!
# Text by offsets

An offset into a text counts the bytes before it in UTF-8.  A slice exists only when
its ends are in order, neither lies past the end of the text, and neither lies inside
a character.
-/

set_option autoImplicit false

namespace ListMarkup.Text

/-- How many bytes a text has in UTF-8. -/
def byteLength (text : Text) : Nat :=
  text.foldr (fun c bytes => c.utf8Size + bytes) 0

/-- The text between two offsets of an encoded text. -/
def slice? (encoded : String) (start stop : Nat) : Option Text :=
  if start ≤ stop ∧ (⟨start⟩ : String.Pos.Raw).IsValid encoded ∧
      (⟨stop⟩ : String.Pos.Raw).IsValid encoded then
    some (String.Pos.Raw.extract encoded ⟨start⟩ ⟨stop⟩).toList
  else none

/-- What is left of a number after another is taken away.  Nothing is when there is
not enough. -/
def difference? (whole part : Nat) : Option { rest : Nat // whole = rest + part } :=
  if enough : part ≤ whole then some ⟨whole - part, (Nat.sub_add_cancel enough).symm⟩ else none

end ListMarkup.Text
