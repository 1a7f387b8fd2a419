import ListMarkup.Text.Case

/-!
# Option keywords

Options are given as words separated by white space.  Each family of options has
a table of keywords, and a keyword changes the options read so far, so that a
later word prevails over an earlier one.  Case does not matter, and words that are
not in the table are passed over.
-/

set_option autoImplicit false

namespace ListMarkup

/-- The keywords of one family of options, each with the change it makes. -/
abbrev Keywords (Options : Type) := List (Text × (Options → Options))

namespace Keywords

variable {Options : Type}

/-- The options after one word. -/
def read (keywords : Keywords Options) (options : Options) (word : Text) : Options :=
  match keywords.lookup word.lower with
  | some change => change options
  | none => options

/-- The options that all words of a text give, starting from `initial`. -/
def decode (keywords : Keywords Options) (initial : Options) (text : Text) : Options :=
  text.words.foldl keywords.read initial

end Keywords

/-- The words for and against attention to case. -/
def caseKeywords : Keywords Bool :=
  [("cs".toList, fun _ => true), ("ncs".toList, fun _ => false)]

/-- Whether the words of a text ask for attention to case. -/
def asksForCase (text : Text) : Bool :=
  caseKeywords.decode false text

end ListMarkup
