import ListMarkup.Text.Basic
import ListMarkup.Unicode.CaseMapping
import ListMarkup.Unicode.Cased

/-!
# Upper and lower case of text

Both mappings are the full Unicode ones, so text may grow.  Lowering looks at the
neighbours of one letter only: a capital sigma at the end of a word becomes the
final small sigma.  Comparison that ignores the case of ASCII letters leaves all
other characters as they are.
-/

set_option autoImplicit false

namespace ListMarkup.Text

open Unicode

/-- Whether the first character that is not case-ignorable is a cased letter. -/
def startsCased (text : Text) : Bool :=
  match text.dropWhile isCaseIgnorable with
  | c :: _ => isCased c
  | [] => false

/-- The lower case of text that stands after `before`, which is given nearest
character first. -/
def lowerAfter (before : Text) : Text → Text
  | [] => []
  | c :: rest =>
    let lowered :=
      if c = 'Σ' then
        if startsCased before && !startsCased rest then ['ς'] else ['σ']
      else lowerChar c
    lowered ++ lowerAfter (c :: before) rest

/-- Text in lower case. -/
def lower (text : Text) : Text :=
  lowerAfter [] text

/-- Text in upper case. -/
def upper (text : Text) : Text :=
  text.flatMap upperChar

/-- Text with its first character in upper case. -/
def capitalize : Text → Text
  | [] => []
  | c :: rest => upperChar c ++ rest

/-- The form in which values are compared: as they are, or in lower case when
case does not matter. -/
def fold (caseSensitive : Bool) (text : Text) : Text :=
  if caseSensitive then text else lower text

/-- Equality up to the case of the letters A to Z. -/
def equalsIgnoringAsciiCase (left right : Text) : Bool :=
  left.map Char.toLower == right.map Char.toLower

end ListMarkup.Text
