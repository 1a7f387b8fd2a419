import ListMarkup.Builtin.ShortForm
import ListMarkup.Proofs.Text.Trimming
import ListMarkup.Proofs.ValueList.RoundTrip
import Mathlib.Data.List.Infix

/-!
# Lists in normal form

Values are normal for a separator when reading a list written with it could have given them
from text without escapes: they are not empty, not to be trimmed, and hold neither the
separator nor a backslash (`Normal`).  A list of normal values is read back from the text that
it is written as, also with white space on either side of every separator, if the separator
holds no white space and has no border (`Text.Unmistakable`).  White space cannot be mistaken
for a separator then, and a separator that begins in a value would overlap the one after it.

Reading any text without backslashes gives normal values, so reading and writing it again
changes nothing more, and functions that write and read lists with the separators that are
used by default pass each other the values that they mean
(`ValueList.ofText_toText_of_normal`).
-/

set_option autoImplicit false

namespace ListMarkup

open Unicode (isWhiteSpace)
open Text (Blank unescape)

/-- A separator without white space, no end of which is also its beginning. -/
structure Text.Unmistakable (separator : Text) : Prop where
  notEmpty : separator ≠ []
  noWhiteSpace : ∀ c ∈ separator, isWhiteSpace c = false
  noBorder : ∀ border, border <+: separator → border <:+ separator → border ≠ [] →
    border = separator

instance (separator : Text) : Decidable separator.Unmistakable :=
  decidable_of_iff
    (separator ≠ [] ∧ (separator.all fun c => isWhiteSpace c = false) = true ∧
      ∀ border ∈ separator.inits, border <:+ separator → border ≠ [] → border = separator)
    ⟨fun ⟨notEmpty, noWhiteSpace, noBorder⟩ =>
        ⟨notEmpty, List.all_iff_forall_prop.mp noWhiteSpace,
          fun border begins => noBorder border ((List.mem_inits _ _).mpr begins)⟩,
      fun ⟨notEmpty, noWhiteSpace, noBorder⟩ =>
        ⟨notEmpty, List.all_iff_forall_prop.mpr noWhiteSpace,
          fun border begins => noBorder border ((List.mem_inits _ _).mp begins)⟩⟩

/-- A character that is not white space is a separator without border. -/
theorem Text.unmistakable_singleton {c : Char} (noWhiteSpace : isWhiteSpace c = false) :
    Unmistakable [c] where
  notEmpty := List.cons_ne_nil c []
  noWhiteSpace := List.forall_mem_singleton.mpr noWhiteSpace
  noBorder _ begins _ some :=
    begins.eq_of_length_le (List.length_pos_iff.mpr some)

namespace ValueList

/-- A value as reading a list gives it from text without escapes. -/
structure Normal (separator value : Text) : Prop where
  notEmpty : value ≠ []
  trimmed : value.trim = value
  noSeparator : ¬ separator <:+: value
  noBackslash : '\\' ∉ value

instance (separator value : Text) : Decidable (Normal separator value) :=
  decidable_of_iff
    (value ≠ [] ∧ value.trim = value ∧ ¬ separator <:+: value ∧ '\\' ∉ value)
    ⟨fun ⟨notEmpty, trimmed, noSeparator, noBackslash⟩ =>
        ⟨notEmpty, trimmed, noSeparator, noBackslash⟩,
      fun ⟨notEmpty, trimmed, noSeparator, noBackslash⟩ =>
        ⟨notEmpty, trimmed, noSeparator, noBackslash⟩⟩

/-- Text that is not there has no values, so reading may look at it like at any other. -/
theorem ofText_eq (separator text : Text) :
    ofText separator text =
      (((pieces separator text).map Text.trim).filter fun piece => !piece.isEmpty).map
        unescape := by
  cases text with
  | nil =>
      cases separator with
      | nil => rfl
      | cons s separator =>
          have whole := (Text.cut?_eq_none_iff (List.cons_ne_nil s separator)).mpr
            (List.infix_nil.not.mpr (List.cons_ne_nil s separator))
          rw [pieces, if_neg (by simp), Text.split_of_none whole]
          rfl
  | cons c text => rw [ofText, if_neg (by simp)]

/-- Reading leaves nothing out of pieces that are not blank. -/
theorem ofText_of_trimmed {separator text : Text} {values : ValueList}
    (trimmed : (pieces separator text).map Text.trim = values)
    (filled : ∀ value ∈ values, value ≠ []) : ofText separator text = values.map unescape := by
  have kept : values.filter (fun piece => !piece.isEmpty) = values :=
    List.filter_eq_self.mpr fun value member => by simpa using filled value member
  rw [ofText_eq, trimmed, kept]

/-! ## Separators between values -/

/-- A text without white space that does not occur in another one does not occur there with
white space in front either. -/
theorem absent_of_blank_append {separator : Text} (notEmpty : separator ≠ [])
    (noWhiteSpace : ∀ c ∈ separator, isWhiteSpace c = false) {before text : Text}
    (blank : Blank before) (absent : ¬ separator <:+: text) :
    ¬ separator <:+: before ++ text := by
  induction before with
  | nil => exact absent
  | cons c before ih =>
      obtain ⟨isSpace, rest⟩ := List.forall_mem_cons.mp blank
      rw [List.cons_append, List.infix_cons_iff, not_or]
      refine ⟨fun begins => ?_, ih rest⟩
      obtain ⟨s, separator, rfl⟩ := List.exists_cons_of_ne_nil notEmpty
      obtain ⟨same, -⟩ := List.cons_prefix_cons.mp begins
      have visible := noWhiteSpace s List.mem_cons_self
      rw [same, isSpace] at visible
      cases visible

section Separator

variable {separator : Text} (distinct : separator.Unmistakable)

include distinct

/-- White space around a value makes no separator. -/
theorem absent_padded {before after text : Text} (blankBefore : Blank before)
    (blankAfter : Blank after) (absent : ¬ separator <:+: text) :
    ¬ separator <:+: before ++ (text ++ after) := by
  refine absent_of_blank_append distinct.notEmpty distinct.noWhiteSpace blankBefore ?_
  -- The same from the other end.
  rw [← List.reverse_infix, List.reverse_append]
  refine absent_of_blank_append (by simpa using distinct.notEmpty) ?_ ?_
    (List.reverse_infix.not.mpr absent)
  · exact fun c member => distinct.noWhiteSpace c (List.mem_reverse.mp member)
  · exact fun c member => blankAfter c (List.mem_reverse.mp member)

variable {before after : Text} (blankBefore : Blank before) (blankAfter : Blank after)

include blankBefore blankAfter

/-- Normal values are split where they were joined, and what is then around them is trimmed. -/
theorem trim_split_join (values : ValueList) :
    ∀ {lead value : Text}, Blank lead → (∀ normal ∈ value :: values, Normal separator normal) →
      (Text.split separator (lead ++
          Text.join (before ++ separator ++ after) (value :: values))).map Text.trim =
        value :: values := by
  induction values with
  | nil =>
      intro lead value blank normal
      obtain ⟨_, trimmed, absent, _⟩ := normal value List.mem_cons_self
      have noSeparator := absent_padded distinct blank Text.blank_nil absent
      have padded := Text.trim_padded blank Text.blank_nil value
      rw [List.append_nil] at noSeparator padded
      rw [Text.join_singleton,
        Text.split_of_none ((Text.cut?_eq_none_iff distinct.notEmpty).mpr noSeparator),
        List.map_singleton, padded, trimmed]
  | cons next values ih =>
      intro lead value blank normal
      obtain ⟨here, later⟩ := List.forall_mem_cons.mp normal
      obtain ⟨_, trimmed, absent, _⟩ := here
      have apart : Text.Apart separator (lead ++ (value ++ before)) :=
        .of_noBorder distinct.noBorder (absent_padded distinct blank blankBefore absent)
      have cut := apart.cut? distinct.notEmpty
        (after ++ Text.join (before ++ separator ++ after) (next :: values))
      have seam : lead ++ Text.join (before ++ separator ++ after) (value :: next :: values) =
          lead ++ (value ++ before) ++ (separator ++
            (after ++ Text.join (before ++ separator ++ after) (next :: values))) := by
        rw [Text.join_cons _ _ (List.cons_ne_nil next values)]
        simp only [List.append_assoc]
      rw [seam, Text.split_of_cut? distinct.notEmpty cut, List.map_cons,
        Text.trim_padded blank blankBefore, trimmed, ih blankAfter later]

/-- Normal values are read back from the list that they are written as. -/
theorem ofText_toText_padded {values : ValueList}
    (normal : ∀ value ∈ values, Normal separator value) :
    ofText separator (toText values (before ++ separator ++ after) none) = values := by
  rw [toText_none]
  cases values with
  | nil => rfl
  | cons value values =>
      have trimmed := trim_split_join distinct blankBefore blankAfter values Text.blank_nil normal
      have cut : pieces separator (Text.join (before ++ separator ++ after) (value :: values)) =
          Text.split separator (Text.join (before ++ separator ++ after) (value :: values)) :=
        if_neg (by simpa using distinct.notEmpty)
      rw [ofText_of_trimmed (cut ▸ trimmed) fun value member => (normal value member).notEmpty]
      refine (List.map_congr_left fun value member => ?_).trans (List.map_id _)
      exact Text.unescape_eq_self (normal value member).noBackslash

end Separator

/-! ## Writing and reading -/

/-- What is read from a text without backslashes is normal. -/
theorem normal_of_mem_ofText {separator : Text} (notEmpty : separator ≠ []) {text value : Text}
    (noBackslash : '\\' ∉ text) (member : value ∈ ofText separator text) :
    Normal separator value := by
  rw [ofText_eq, pieces, if_neg (by simpa using notEmpty)] at member
  obtain ⟨trimmed, kept, same⟩ := List.mem_map.mp member
  obtain ⟨isTrimmed, filled⟩ := List.mem_filter.mp kept
  obtain ⟨piece, isPiece, rfl⟩ := List.mem_map.mp isTrimmed
  obtain ⟨part, absent⟩ := Text.mem_split notEmpty isPiece
  have inPiece := Text.trim_inside piece
  have plain : '\\' ∉ piece.trim := fun inside =>
    noBackslash ((inPiece.trans part).subset inside)
  rw [Text.unescape_eq_self plain] at same
  rw [← same]
  exact ⟨by simpa using filled, Text.trim_trim piece, fun inside => absent (inside.trans inPiece),
    plain⟩

/-- Without a separator every character is a value, unless it is white space. -/
theorem ofText_nil (text : Text) :
    ofText [] text = (text.filter fun c => !isWhiteSpace c).map ([·]) := by
  rw [ofText_eq]
  show (((text.map ([·])).map Text.trim).filter fun piece => !piece.isEmpty).map unescape = _
  induction text with
  | nil => rfl
  | cons c text ih =>
      rw [List.map_cons, List.map_cons]
      by_cases blank : isWhiteSpace c = true
      · have white : Blank [c] := List.forall_mem_singleton.mpr blank
        have trimmed : Text.trim [c] = [] := Text.trim_padded white Text.blank_nil []
        rw [trimmed, List.filter_cons_of_neg (by simp), ih,
          List.filter_cons_of_neg (by simp [blank])]
      · have trimmed : Text.trim [c] = [c] :=
          Text.trim_eq_self (by simpa using blank) (by simpa using blank)
        rw [trimmed, List.filter_cons_of_pos (by simp), List.map_cons, ih,
          List.filter_cons_of_pos (by simpa using blank), List.map_cons]
        cases Decidable.em (c = '\\') with
        | inl same => rw [same]; rfl
        | inr other => rw [Text.unescape_cons other]; rfl

/-- Characters written without a separator are read back. -/
theorem ofText_toText_nil (text : Text) :
    ofText [] (toText (ofText [] text) [] none) = ofText [] text := by
  rw [toText_none, ofText_nil text, Text.join_singletons, ofText_nil, List.filter_filter]
  simp only [Bool.and_self]

/-- **Writing and reading lists are inverse to each other on normal values.**  With white space
on either side of the separator or without it, normal values are read back from what they are
written as.  Any text without backslashes has normal values, so reading it, writing the values
and reading them again gives the same values, and writing them once more the same text.  This
holds for the separators that functions use by default, and for lists without a separator
whatever the text. -/
theorem ofText_toText_of_normal {separator : Text} (distinct : separator.Unmistakable) :
    (∀ before after, Blank before → Blank after →
      (∀ values, (∀ value ∈ values, Normal separator value) →
        ofText separator (toText values (before ++ separator ++ after) none) = values) ∧
      ∀ text, '\\' ∉ text →
        let rewritten := fun text =>
          toText (ofText separator text) (before ++ separator ++ after) none
        ofText separator (rewritten text) = ofText separator text ∧
          rewritten (rewritten text) = rewritten text) ∧
    (∀ text, '\\' ∉ text → ∀ value ∈ ofText separator text, Normal separator value) ∧
    (∀ c, isWhiteSpace c = false → Text.Unmistakable [c]) ∧
    (∀ values, (∀ value ∈ values, Normal Builtin.separatorParameter.default value) →
      ofText Builtin.separatorParameter.default
        (toText values Builtin.resultSeparatorParameter.default none) = values) ∧
    ∀ text, ofText [] (toText (ofText [] text) [] none) = ofText [] text := by
  have normal : ∀ text, '\\' ∉ text → ∀ value ∈ ofText separator text,
      Normal separator value :=
    fun text noBackslash value => normal_of_mem_ofText distinct.notEmpty noBackslash
  refine ⟨fun before after blankBefore blankAfter => ⟨fun values => ?_, fun text plain => ?_⟩,
    normal, fun c => Text.unmistakable_singleton, fun values areNormal => ?_, ofText_toText_nil⟩
  · exact ofText_toText_padded distinct blankBefore blankAfter
  · have back := ofText_toText_padded distinct blankBefore blankAfter (normal text plain)
    exact ⟨back, congrArg (fun values => toText values _ none) back⟩
  · have comma : Text.Unmistakable [','] := Text.unmistakable_singleton (by decide)
    have space : Blank [' '] := by decide
    exact ofText_toText_padded comma Text.blank_nil space areNormal

/-- Values that begin and end like the separator, next to it or with white space between. -/
theorem ofText_toText_of_arrows :
    Text.Unmistakable "->".toList ∧
      (∀ value ∈ ["a-".toList, ">b".toList, "-".toList], Normal "->".toList value) ∧
      ofText "->".toList "a-->>b->-".toList = ["a-".toList, ">b".toList, "-".toList] ∧
      ofText "->".toList "a- ->\n>b ->\n-".toList = ["a-".toList, ">b".toList, "-".toList] := by
  have arrow : Text.Unmistakable "->".toList := by decide
  have normal : ∀ value ∈ ["a-".toList, ">b".toList, "-".toList], Normal "->".toList value := by
    decide
  have written := (ofText_toText_of_normal arrow).1
  exact ⟨arrow, normal, (written [] [] Text.blank_nil Text.blank_nil).1 _ normal,
    (written [' '] ['\n'] (by decide) (by decide)).1 _ normal⟩

end ValueList

end ListMarkup
