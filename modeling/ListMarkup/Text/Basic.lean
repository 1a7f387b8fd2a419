import ListMarkup.Unicode.WhiteSpace

/-!
# Text

Text is a list of characters, so that every function on it is ordinary
recursion on lists.  Trimming removes the white space at both ends; numbers are
written in decimal.
-/

set_option autoImplicit false

namespace ListMarkup

/-- A run of Unicode characters. -/
abbrev Text := List Char

namespace Text

open Unicode (isWhiteSpace)

/-- Text without the white space at its start. -/
def trimStart (text : Text) : Text :=
  text.dropWhile isWhiteSpace

/-- Text without the white space at its end. -/
def trimEnd (text : Text) : Text :=
  (text.reverse.dropWhile isWhiteSpace).reverse

/-- Text without the white space at both ends. -/
def trim (text : Text) : Text :=
  trimEnd (trimStart text)

/-- The maximal runs of characters that are not white space. -/
def words : Text → List Text
  | [] => []
  | c :: rest =>
    if isWhiteSpace c then words rest
    else
      match rest, words rest with
      | next :: _, word :: others =>
        if isWhiteSpace next then [c] :: word :: others else (c :: word) :: others
      | _, others => [c] :: others

/-- A natural number in decimal. -/
def ofNat (number : Nat) : Text :=
  Nat.toDigits 10 number

/-- An integer in decimal, with a minus sign when it is negative. -/
def ofInt (number : Int) : Text :=
  if number < 0 then '-' :: ofNat number.natAbs else ofNat number.natAbs

end Text

end ListMarkup
