import ListMarkup.Json.Reader

/-!
# JSON strings

A string ends at the next quote that is not escaped.  Characters outside the basic
plane may be written as a pair of surrogates; half a pair is refused.
-/

set_option autoImplicit false

namespace ListMarkup.Json.Reader

/-- What a backslash and one character stand for, four hexadecimal digits apart. -/
def simpleEscape? : Char → Option Char
  | '"' => some '"'
  | '\\' => some '\\'
  | '/' => some '/'
  | 'b' => some '\x08'
  | 'f' => some '\x0c'
  | 'n' => some '\n'
  | 'r' => some '\r'
  | 't' => some '\t'
  | _ => none

/-- The value of a hexadecimal digit. -/
def hexDigit? (c : Char) : Option Nat :=
  if '0' ≤ c ∧ c ≤ '9' then some (c.toNat - '0'.toNat)
  else if 'a' ≤ c ∧ c ≤ 'f' then some (c.toNat - 'a'.toNat + 10)
  else if 'A' ≤ c ∧ c ≤ 'F' then some (c.toNat - 'A'.toNat + 10)
  else none

/-- The number that hexadecimal digits stand for. -/
def hexValue? (digits : Text) : Option Nat :=
  digits.foldlM (fun value digit => (hexDigit? digit).map fun next => 16 * value + next) 0

/-- The number of bytes that a text takes. -/
def byteLength (text : Text) : Nat :=
  text.foldl (fun length c => length + c.utf8Size) 0

/-- Takes four hexadecimal digits.  The four bytes that should be digits are looked at
together. -/
def hexEscape : Reader Nat := do
  let cursor ← get
  match hexValue? (cursor.rest.take 4) with
  | some value =>
    if cursor.rest.length < 4 then failAfterBytes .endInString (byteLength cursor.rest)
    else
      set (⟨cursor.rest.drop 4, cursor.position.afterText (cursor.rest.take 4)⟩ : Cursor)
      pure value
  | none =>
    if byteLength cursor.rest < 4 then failAfterBytes .endInString (byteLength cursor.rest)
    else failAfterBytes .invalidEscape 4

/-- Takes a character that has to come next in a pair of surrogates. -/
def pairCharacter (expected : Char) : Reader Unit := do
  match ← peek with
  | none => failHere .endInString
  | some c => if c = expected then skip else failAtNext .unfinishedSurrogatePair

/-- The character of an escape with hexadecimal digits, of which the `u` is taken. -/
def codePointEscape : Reader Char := do
  let first ← hexEscape
  if 0xDC00 ≤ first ∧ first ≤ 0xDFFF then failHere .loneSurrogate
  else if 0xD800 ≤ first ∧ first ≤ 0xDBFF then
    pairCharacter '\\'
    pairCharacter 'u'
    let second ← hexEscape
    if 0xDC00 ≤ second ∧ second ≤ 0xDFFF then
      pure (Char.ofNat ((first - 0xD800) * 0x400 + (second - 0xDC00) + 0x10000))
    else failHere .loneSurrogate
  else pure (Char.ofNat first)

/-- The character of an escape, of which the backslash is taken. -/
def escapedChar : Reader Char := do
  match ← peek with
  | none => failHere .endInString
  | some 'u' =>
    skip
    codePointEscape
  | some c =>
    match simpleEscape? c with
    | some literal =>
      skip
      pure literal
    | none => failAtNext .invalidEscape

/-- One more character of a string, whose characters so far are given last first. -/
def stringStep (reversed : Text) : Reader (Option Text) := do
  match ← peek with
  | none => failHere .endInString
  | some '"' =>
    skip
    pure none
  | some '\\' =>
    skip
    let c ← escapedChar
    pure (some (c :: reversed))
  | some c =>
    if c.toNat < 32 then failAtNext .controlCharacter
    else
      skip
      pure (some (c :: reversed))

/-- A string, of which the opening quote is taken. -/
def stringBody : Reader Text := do
  let reversed ← iterate stringStep []
  pure reversed.reverse

end ListMarkup.Json.Reader
