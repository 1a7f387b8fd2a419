import ListMarkup.Number.Shortest
import ListMarkup.Text.Quoted

/-!
# What can be wrong with JSON text

A fault has a cause and a position.  Lines count from 1; a column is the number of
bytes, in UTF-8, since the start of its line.
-/

set_option autoImplicit false

namespace ListMarkup.Json

/-- A place between two bytes of a text. -/
structure Position where
  line : Nat
  column : Nat

namespace Position

/-- Before the first character. -/
def start : Position := ⟨1, 0⟩

/-- The position after one more character. -/
def afterChar (position : Position) (c : Char) : Position :=
  if c = '\n' then ⟨position.line + 1, 0⟩
  else ⟨position.line, position.column + c.utf8Size⟩

/-- The position after all characters of a text. -/
def afterText (position : Position) (text : Text) : Position :=
  text.foldl afterChar position

/-- The position after so many bytes of a text, or at its end when it has fewer.  It
may lie inside a character. -/
def afterBytes (position : Position) : (count : Nat) → Text → Position
  | 0, _ => position
  | _, [] => position
  | count + 1, c :: rest =>
    if c.utf8Size ≤ count + 1 then
      (position.afterChar c).afterBytes (count + 1 - c.utf8Size) rest
    else ⟨position.line, position.column + (count + 1)⟩

end Position

/-! ## Causes -/

/-- A value that was found where another kind was expected. -/
inductive Found where
  | null
  | boolean (value : Bool)
  | integer (value : Int)
  | float (value : Binary64)
  | string (value : Text)
  | list
  | object

namespace Found

/-- A found value in the words of a message. -/
def describe : Found → Text
  | .null => "null".toList
  | .boolean true => "boolean \x60true\x60".toList
  | .boolean false => "boolean \x60false\x60".toList
  | .integer value => "integer \x60".toList ++ Text.ofInt value ++ "\x60".toList
  | .float value => "floating point \x60".toList ++ Text.ofBinary64 value ++ "\x60".toList
  | .string value => "string ".toList ++ value.quoted
  | .list => "sequence".toList
  | .object => "map".toList

end Found

/-- Why a text was refused. -/
inductive Cause where
  | endInList
  | endInObject
  | endInString
  | endInValue
  | expectedColon
  | expectedCommaOrListEnd
  | expectedCommaOrObjectEnd
  | expectedKeyword
  | expectedValue
  | invalidEscape
  | invalidNumber
  | numberOutOfRange
  | controlCharacter
  | keyIsNoString
  | loneSurrogate
  | unfinishedSurrogatePair
  | trailingComma
  | trailingCharacters
  | wrongType (found : Found) (expected : Text)
  | wrongValue (found : Found) (expected : Text)
  | unknownField (name : Text) (expected : Text)
  | duplicateField (name : Text)

/-- Text between backquotes. -/
def backquoted (text : Text) : Text :=
  '\x60' :: text ++ ['\x60']

/-- A cause in words. -/
def Cause.message : Cause → Text
  | .endInList => "EOF while parsing a list".toList
  | .endInObject => "EOF while parsing an object".toList
  | .endInString => "EOF while parsing a string".toList
  | .endInValue => "EOF while parsing a value".toList
  | .expectedColon => "expected \x60:\x60".toList
  | .expectedCommaOrListEnd => "expected \x60,\x60 or \x60]\x60".toList
  | .expectedCommaOrObjectEnd => "expected \x60,\x60 or \x60\x7d\x60".toList
  | .expectedKeyword => "expected ident".toList
  | .expectedValue => "expected value".toList
  | .invalidEscape => "invalid escape".toList
  | .invalidNumber => "invalid number".toList
  | .numberOutOfRange => "number out of range".toList
  | .controlCharacter =>
    "control character (\\u0000-\\u001F) found while parsing a string".toList
  | .keyIsNoString => "key must be a string".toList
  | .loneSurrogate => "lone leading surrogate in hex escape".toList
  | .unfinishedSurrogatePair => "unexpected end of hex escape".toList
  | .trailingComma => "trailing comma".toList
  | .trailingCharacters => "trailing characters".toList
  | .wrongType found expected =>
    "invalid type: ".toList ++ found.describe ++ ", expected ".toList ++ expected
  | .wrongValue found expected =>
    "invalid value: ".toList ++ found.describe ++ ", expected ".toList ++ expected
  | .unknownField name expected =>
    "unknown field ".toList ++ backquoted name ++ ", expected ".toList ++ expected
  | .duplicateField name => "duplicate field ".toList ++ backquoted name

/-- A cause at a position. -/
structure Fault where
  cause : Cause
  position : Position

end ListMarkup.Json
