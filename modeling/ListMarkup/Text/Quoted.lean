import ListMarkup.Text.Basic
import ListMarkup.Unicode.Unprintable

/-!
# Text between quotes

Two ways to put text between double quotes: for a reader of messages, where every
character that cannot be shown is named by its code point, and as a JSON string.
-/

set_option autoImplicit false

namespace ListMarkup.Text

/-- A number in lower-case hexadecimal. -/
def ofNatHex (number : Nat) : Text :=
  Nat.toDigits 16 number

/-- A character as it stands in a quoted message. -/
def quotedChar (c : Char) : Text :=
  match c with
  | '\t' => ['\\', 't']
  | '\r' => ['\\', 'r']
  | '\n' => ['\\', 'n']
  | '\x00' => ['\\', '0']
  | '"' => ['\\', '"']
  | '\\' => ['\\', '\\']
  | c =>
    if Unicode.isUnprintable c then ['\\', 'u', '\x7b'] ++ ofNatHex c.toNat ++ ['\x7d'] else [c]

/-- Text as it is quoted in a message. -/
def quoted (text : Text) : Text :=
  '"' :: text.flatMap quotedChar ++ ['"']

/-- A character as it stands in a JSON string. -/
def jsonChar (c : Char) : Text :=
  match c with
  | '"' => ['\\', '"']
  | '\\' => ['\\', '\\']
  | '\x08' => ['\\', 'b']
  | '\x0c' => ['\\', 'f']
  | '\n' => ['\\', 'n']
  | '\r' => ['\\', 'r']
  | '\t' => ['\\', 't']
  | c =>
    if c.toNat < 32 then
      let digits := ofNatHex c.toNat
      ['\\', 'u'] ++ List.replicate (4 - digits.length) '0' ++ digits
    else [c]

/-- Text as a JSON string. -/
def jsonString (text : Text) : Text :=
  '"' :: text.flatMap jsonChar ++ ['"']

end ListMarkup.Text
