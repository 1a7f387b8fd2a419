import ListMarkup.ValueList.Basic

/-!
# Filling in patterns

A pattern is text that holds tokens.  Replacement is literal, and a token is not
looked for in what its own replacement has put in.  Tokens are replaced one after
the other, the index token first, so that an index or a field may spell a later
token that is then replaced.
-/

set_option autoImplicit false

namespace ListMarkup.Pattern

/-- The pattern with the index in place of its token, when there is an index. -/
def withIndex (pattern indexToken : Text) (index : Option Nat) : Text :=
  match index with
  | some index => Text.replace indexToken (Text.ofNat index) pattern
  | none => pattern

/-- The pattern with each field in place of its token, from the first token to the
last.  A token without a field stands for the empty text. -/
def withFields : List Text → List Text → Text → Text
  | [], _, pattern => pattern
  | token :: tokens, fields, pattern =>
    withFields tokens fields.tail (Text.replace token (fields.headD []) pattern)

/-- The pattern with an index and with fields. -/
def fill (pattern indexToken : Text) (index : Option Nat) (tokens fields : List Text) : Text :=
  withFields tokens fields (withIndex pattern indexToken index)

/-- The pattern with an index and with a whole value in place of one token.  The
empty pattern stands for the value. -/
def fillValue (pattern indexToken : Text) (index : Option Nat) (token value : Text) : Text :=
  if pattern.isEmpty then value
  else Text.replace token value (withIndex pattern indexToken index)

/-- The pattern with an index and with the fields of a value, of which there are at
most as many as tokens.  The empty pattern stands for the value. -/
def fillFieldsOf (pattern indexToken : Text) (index : Option Nat) (tokens : List Text)
    (fieldSeparator value : Text) : Text :=
  if pattern.isEmpty then value
  else fill pattern indexToken index tokens (fieldsOf fieldSeparator value (some tokens.length))

/-- The pattern with the fields of two values, those of the first before those of
the second. -/
def fillTwo (pattern : Text) (firstTokens first secondTokens second : List Text) : Text :=
  withFields secondTokens second (withFields firstTokens first pattern)

end ListMarkup.Pattern
