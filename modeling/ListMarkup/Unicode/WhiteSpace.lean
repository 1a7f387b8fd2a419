import ListMarkup.Unicode.CodePoint

/-!
# White space

The 25 characters with the Unicode property White_Space.  Zero-width spaces, the
byte order mark and the information separators are not among them.
-/

namespace ListMarkup.Unicode

set_option autoImplicit false

/-- The code points with the property White_Space, as ascending closed ranges. -/
def whiteSpaceRanges : List (Nat × Nat) :=
  [(0x9, 0xD), (0x20, 0x20), (0x85, 0x85), (0xA0, 0xA0), (0x1680, 0x1680), (0x2000, 0x200A),
   (0x2028, 0x2029), (0x202F, 0x202F), (0x205F, 0x205F), (0x3000, 0x3000)]

/-- Whether a character is white space. -/
def isWhiteSpace (c : Char) : Bool :=
  withinRanges whiteSpaceRanges c.toNat

end ListMarkup.Unicode
