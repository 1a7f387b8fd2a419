import ListMarkup.Text.Slice

/-!
# Tokens of markup

Markup is cut into runs of braces, double brackets, pipes and the text between
them.  Nothing is left out: the tokens of a text, written one after the other, are
the text.
-/

set_option autoImplicit false

namespace ListMarkup.Markup

/-- A piece of markup with a meaning of its own. -/
inductive Token where
  /-- A maximal run of opening braces. -/
  | openBraces (count : Nat)
  /-- A maximal run of closing braces. -/
  | closeBraces (count : Nat)
  /-- Two opening brackets. -/
  | openLink
  /-- Two closing brackets. -/
  | closeLink
  | pipe
  | text (run : Text)
  deriving DecidableEq

/-- Two opening brackets. -/
def linkOpening : Text := ['[', '[']

/-- Two closing brackets. -/
def linkClosing : Text := [']', ']']

/-- Opening braces. -/
def openingBraces (count : Nat) : Text := List.replicate count '\x7b'

/-- Closing braces. -/
def closingBraces (count : Nat) : Text := List.replicate count '\x7d'

namespace Token

/-- A token as it is written. -/
def source : Token → Text
  | .openBraces count => openingBraces count
  | .closeBraces count => closingBraces count
  | .openLink => linkOpening
  | .closeLink => linkClosing
  | .pipe => ['|']
  | .text run => run

/-- The tokens with an opening brace before them. -/
def consOpenBrace : List Token → List Token
  | .openBraces count :: tokens => .openBraces (count + 1) :: tokens
  | tokens => .openBraces 1 :: tokens

/-- The tokens with a closing brace before them. -/
def consCloseBrace : List Token → List Token
  | .closeBraces count :: tokens => .closeBraces (count + 1) :: tokens
  | tokens => .closeBraces 1 :: tokens

/-- The tokens with a character without meaning before them. -/
def consPlain (c : Char) : List Token → List Token
  | .text run :: tokens => .text (c :: run) :: tokens
  | tokens => .text [c] :: tokens

/-- The tokens of a text.  Brackets pair from left to right. -/
def ofText : Text → List Token
  | [] => []
  | '[' :: '[' :: rest => .openLink :: ofText rest
  | ']' :: ']' :: rest => .closeLink :: ofText rest
  | c :: rest =>
    if c = '\x7b' then consOpenBrace (ofText rest)
    else if c = '\x7d' then consCloseBrace (ofText rest)
    else if c = '|' then .pipe :: ofText rest
    else consPlain c (ofText rest)

/-- Tokens from an offset on, each with the offset at which it starts. -/
def located : (start : Nat) → List Token → List (Nat × Token)
  | _, [] => []
  | start, token :: tokens =>
    (start, token) :: located (start + Text.byteLength token.source) tokens

end Token

end ListMarkup.Markup
