import ListMarkup.Json.Number
import ListMarkup.Json.String

/-!
# Expecting JSON values

Each reader here expects a value of one kind.  A value of another kind is read as far
as it can be told what it is, and refused after that; lists and objects are refused
before they are entered.
-/

set_option autoImplicit false

namespace ListMarkup.Json.Reader

/-- Takes the characters of a keyword. -/
def keyword : Text → Reader Unit
  | [] => pure ()
  | expected :: rest => do
    match ← peek with
    | none => failHere .endInValue
    | some c =>
      if c = expected then
        skip
        keyword rest
      else failAtNext .expectedKeyword

/-- The value that is next, as far as it is needed to tell what it is. -/
def found : Reader Found := do
  match ← peek with
  | some 'n' =>
    keyword "null".toList
    pure .null
  | some 't' =>
    keyword "true".toList
    pure (.boolean true)
  | some 'f' =>
    keyword "false".toList
    pure (.boolean false)
  | some '-' =>
    skip
    let value ← number true
    pure value.found
  | some '"' =>
    skip
    let value ← stringBody
    pure (.string value)
  | some '[' => pure .list
  | some '\x7b' => pure .object
  | some c =>
    if c.isDigit then
      let value ← number false
      pure value.found
    else failAtNext .expectedValue
  | none => failAtNext .expectedValue

/-- Refuses the value that is next. -/
def refuse {α : Type} (expected : Text) : Reader α := do
  let value ← found
  failHere (.wrongType value expected)

/-- A string. -/
def text : Reader Text := do
  match ← peekAfterBlanks with
  | none => failAtNext .endInValue
  | some '"' =>
    skip
    stringBody
  | some _ => refuse "a string".toList

/-- A natural number of 64 bits. -/
def natural : Reader Nat := do
  let expected := "usize".toList
  let accept (value : Number) : Reader Nat :=
    match value with
    | .integer (.ofNat value) => pure value
    | .integer value => failHere (.wrongValue (.integer value) expected)
    | .float value => failHere (.wrongType (.float value) expected)
  match ← peekAfterBlanks with
  | none => failAtNext .endInValue
  | some '-' =>
    skip
    accept (← number true)
  | some c => if c.isDigit then accept (← number false) else refuse expected

/-! ## Objects and lists -/

/-- The key of the next entry of an object, or nothing at its end, which is not
taken. -/
def nextKey (first : Bool) : Reader (Option Text) := do
  match ← peekAfterBlanks with
  | none => failAtNext .endInObject
  | some '\x7d' => pure none
  | some c =>
    if first then
      if c = '"' then
        skip
        return some (← stringBody)
      else failAtNext .keyIsNoString
    else if c = ',' then
      skip
      match ← peekAfterBlanks with
      | some '"' =>
        skip
        return some (← stringBody)
      | some '\x7d' => failAtNext .trailingComma
      | some _ => failAtNext .keyIsNoString
      | none => failAtNext .endInValue
    else failAtNext .expectedCommaOrObjectEnd

/-- Takes the colon after a key. -/
def colon : Reader Unit := do
  match ← peekAfterBlanks with
  | some ':' => skip
  | some _ => failAtNext .expectedColon
  | none => failAtNext .endInObject

/-- Takes the end of an object. -/
def objectEnd : Reader Unit := do
  match ← peekAfterBlanks with
  | some '\x7d' => skip
  | some ',' => failAtNext .trailingComma
  | some _ => failAtNext .trailingCharacters
  | none => failAtNext .endInObject

/-- Whether a list has a next element; its end is not taken. -/
def hasNextElement (first : Bool) : Reader Bool := do
  match ← peekAfterBlanks with
  | none => failAtNext .endInList
  | some ']' => pure false
  | some c =>
    if first then pure true
    else if c = ',' then
      skip
      match ← peekAfterBlanks with
      | some ']' => failAtNext .trailingComma
      | some _ => pure true
      | none => failAtNext .endInValue
    else failAtNext .expectedCommaOrListEnd

/-- Takes the end of a list. -/
def listEnd : Reader Unit := do
  match ← peekAfterBlanks with
  | some ']' => skip
  | some ',' =>
    skip
    match ← peekAfterBlanks with
    | some ']' => failAtNext .trailingComma
    | _ => failAtNext .trailingCharacters
  | some _ => failAtNext .trailingCharacters
  | none => failAtNext .endInList

/-- An object whose values are strings, as entries in the order of their names.  The
last of several entries of a name counts. -/
def textEntry (entries : List (Text × Text)) (first : Bool) :
    Reader (Option (List (Text × Text))) := do
  match ← nextKey first with
  | none => pure none
  | some name =>
    colon
    let value ← text
    pure (some (insertEntry name value entries))
where
  /-- Puts an entry at its place, instead of one of the same name. -/
  insertEntry (name value : Text) : List (Text × Text) → List (Text × Text)
    | [] => [(name, value)]
    | (other, otherValue) :: entries =>
      match compare name other with
      | .lt => (name, value) :: (other, otherValue) :: entries
      | .eq => (name, value) :: entries
      | .gt => (other, otherValue) :: insertEntry name value entries

/-- An object whose values are strings, of which the opening brace is taken, up to its
end, which is taken. -/
def textMapBody : Reader (List (Text × Text)) := do
  let (entries, _) ←
    iterate (fun (entries, first) => do
        return (← textEntry entries first).map fun entries => (entries, false))
      (([], true) : List (Text × Text) × Bool)
  objectEnd
  pure entries

/-- An object whose values are strings. -/
def textMap : Reader (List (Text × Text)) := do
  match ← peekAfterBlanks with
  | none => failAtNext .endInValue
  | some '\x7b' =>
    skip
    textMapBody
  | some _ => refuse "a map".toList

/-- Nothing but blanks up to the end of the text. -/
def textEnd : Reader Unit := do
  match ← peekAfterBlanks with
  | none => pure ()
  | some _ => failAtNext .trailingCharacters

end ListMarkup.Json.Reader
