import ListMarkup.Json.Fault

/-!
# Reading JSON text from left to right

A reader takes characters from the front of what is left of a text and either gives a
value or refuses the text.  A fault is placed where reading has come to, or one byte
further on when it is the next byte that is at fault.
-/

set_option autoImplicit false

namespace ListMarkup.Json

/-- What is left of a text, and where that begins. -/
structure Cursor where
  rest : Text
  position : Position

/-- A computation that reads from the front of a text. -/
abbrev Reader := StateT Cursor (Except Fault)

namespace Reader

variable {α σ : Type}

/-- Refuses the text at a position. -/
def failAt (cause : Cause) (position : Position) : Reader α :=
  throw ⟨cause, position⟩

/-- Refuses the text so many bytes after the place where reading has come to. -/
def failAfterBytes (cause : Cause) (count : Nat) : Reader α := do
  let cursor ← get
  failAt cause (cursor.position.afterBytes count cursor.rest)

/-- Refuses the text where reading has come to. -/
def failHere (cause : Cause) : Reader α :=
  failAfterBytes cause 0

/-- Refuses the text because of its next byte. -/
def failAtNext (cause : Cause) : Reader α :=
  failAfterBytes cause 1

/-- The next character, which is not taken. -/
def peek : Reader (Option Char) := do
  let cursor ← get
  pure cursor.rest.head?

/-- Takes the next character. -/
def skip : Reader Unit :=
  modify fun cursor =>
    match cursor.rest with
    | [] => cursor
    | c :: rest => ⟨rest, cursor.position.afterChar c⟩

/-- Takes the characters of a class. -/
def takeWhile (inClass : Char → Bool) : Reader Text := do
  let cursor ← get
  let (taken, rest) := cursor.rest.span inClass
  set (⟨rest, cursor.position.afterText taken⟩ : Cursor)
  pure taken

/-- Whether a character is blank in JSON. -/
def isBlank (c : Char) : Bool :=
  c = ' ' || c = '\n' || c = '\t' || c = '\r'

/-- Takes blank characters, and gives the character after them, which is not taken. -/
def peekAfterBlanks : Reader (Option Char) := do
  let _ ← takeWhile isBlank
  peek

/-- Repeats a step until it gives no new state, at most `fuel` times. -/
def iterateFor (step : σ → Reader (Option σ)) : (fuel : Nat) → σ → Reader σ
  | 0, state => pure state
  | fuel + 1, state => do
    match ← step state with
    | some state => iterateFor step fuel state
    | none => pure state

/-- Repeats a step until it gives no new state.  Every step but the last takes a
character, so there are no more steps than characters left, and one. -/
def iterate (step : σ → Reader (Option σ)) (state : σ) : Reader σ := do
  let cursor ← get
  iterateFor step (cursor.rest.length + 1) state

end Reader

end ListMarkup.Json
