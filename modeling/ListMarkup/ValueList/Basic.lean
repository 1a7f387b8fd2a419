import ListMarkup.Text.Escaped
import ListMarkup.Text.Separator

/-!
# Lists of values

A list of values is written as text with a separator.  Reading a list cuts it at
the separator, trims the pieces, leaves out blank ones and undoes the escapes of
the others, so a value may hold anything, the separator included.  With the empty
separator every character is a value of its own.
-/

set_option autoImplicit false

namespace ListMarkup

/-- Values in order. -/
abbrev ValueList := List Text

namespace ValueList

/-- The pieces of a written list before trimming. -/
def pieces (separator text : Text) : List Text :=
  if separator.isEmpty then text.map ([·]) else Text.split separator text

/-- Reads a list that is written with a separator. -/
def ofText (separator text : Text) : ValueList :=
  if text.isEmpty then []
  else
    let trimmed := (pieces separator text).map Text.trim
    (trimmed.filter fun piece => !piece.isEmpty).map Text.unescape

/-- Writes a list with a separator between neighbours.  A conjunction, when there
is one, takes the place of the last separator. -/
def toText (values : ValueList) (separator : Text) (conjunction : Option Text) : Text :=
  match conjunction, values.getLast? with
  | some conjunction, some last =>
    if values.length ≤ 1 then last
    else Text.join separator values.dropLast ++ conjunction ++ last
  | _, _ => Text.join separator values

/-- The number of values, in decimal. -/
def count (values : ValueList) : Text :=
  Text.ofNat values.length

/-- The list with a value at its end, unless that value is empty. -/
def append (values : ValueList) (value : Text) : ValueList :=
  if value.isEmpty then values else values ++ [value]

/-- The list with a value at its start, unless that value is empty. -/
def prepend (values : ValueList) (value : Text) : ValueList :=
  if value.isEmpty then values else value :: values

end ValueList

/-- The fields of one value, cut at a separator.  With a limit there are at most
that many fields and at least one, and the last keeps what is left.  The empty
separator leaves the value whole. -/
def fieldsOf (separator value : Text) (limit : Option Nat) : List Text :=
  if separator.isEmpty then [value]
  else
    match limit with
    | some limit => Text.splitAtMost separator (limit - 1) value
    | none => Text.split separator value

end ListMarkup
