import ListMarkup.Proofs.Text.EscapedForm
import ListMarkup.Proofs.Text.Separator
import ListMarkup.ValueList.Basic

/-!
# Lists read back as they were written

Escaped values may stand next to any separator that is made of the characters that escaping
takes out of them.  A list of escaped values is then split where it was joined, the pieces
are not trimmed, none of them is blank, and unescaping them gives the values
(`ValueList.ofText_toText_escape`).
-/

set_option autoImplicit false

namespace ListMarkup.ValueList

open Text (Escapable escape unescape valueDelimiters)

/-- A list without a conjunction is joined by its separator. -/
theorem toText_none (values : ValueList) (separator : Text) :
    values.toText separator none = Text.join separator values := by
  rw [toText]
  exact fun _ _ same => nomatch same

/-- Reading leaves nothing out of pieces that are neither trimmed nor blank. -/
theorem ofText_of_pieces {separator text : Text} (notEmpty : text ≠ [])
    (kept : ∀ piece ∈ pieces separator text, piece.trim = piece ∧ piece ≠ []) :
    ofText separator text = (pieces separator text).map unescape := by
  have trimmed : (pieces separator text).map Text.trim = pieces separator text :=
    (List.map_congr_left fun piece member => (kept piece member).1).trans (List.map_id _)
  have filled : (pieces separator text).filter (fun piece => !piece.isEmpty) =
      pieces separator text :=
    List.filter_eq_self.mpr fun piece member => by simpa using (kept piece member).2
  rw [ofText, if_neg (by simpa using notEmpty), trimmed]
  exact congrArg (List.map unescape) filled

/-- **Escaped values are read back from any list that they are written in.**  The separator
may be any text made of newlines, spaces and `[ ] < > = |`. -/
theorem ofText_toText_escape {separator : Text} (notEmpty : separator ≠ [])
    (delimiters : ∀ c ∈ separator, c ∈ valueDelimiters) {values : ValueList}
    (escapable : ∀ value ∈ values, value ≠ [] ∧ Escapable value) :
    ofText separator (toText (values.map escape) separator none) = values := by
  rw [toText_none]
  cases values with
  | nil => rfl
  | cons value others =>
      have apart : ∀ piece ∈ (value :: others).map escape, ∀ c ∈ piece, c ∉ separator := by
        intro piece member c inPiece inSeparator
        obtain ⟨value, isValue, rfl⟩ := List.mem_map.mp member
        exact (Text.escaped_escape value).not_mem (delimiters c inSeparator) inPiece
      have cut : pieces separator (Text.join separator ((value :: others).map escape)) =
          (value :: others).map escape := by
        rw [pieces, if_neg (by simpa using notEmpty)]
        exact Text.split_join notEmpty (List.cons_ne_nil _ _) apart
      have kept : ∀ piece ∈ (value :: others).map escape, piece.trim = piece ∧ piece ≠ [] := by
        intro piece member
        obtain ⟨value, isValue, rfl⟩ := List.mem_map.mp member
        obtain ⟨filled, carried⟩ := escapable value isValue
        exact ⟨carried.read.1, mt (Text.escape_eq_nil_iff value).mp filled⟩
      have written : Text.join separator ((value :: others).map escape) ≠ [] :=
        Text.join_ne_nil separator (kept _ List.mem_cons_self).2 _
      rw [ofText_of_pieces written (by rwa [cut]), cut, List.map_map]
      refine (List.map_congr_left fun value isValue => ?_).trans (List.map_id _)
      exact (escapable value isValue).2.read.2

/-- Values that begin or end with spaces, newlines and backslashes. -/
theorem ofText_toText_escape_spaced :
    ∃ values : ValueList,
      values = [" k = v ".toList, "\\x\\".toList, "]]\n".toList, "=".toList] ∧
        toText (values.map escape) " =".toList none =
          "\\_k\\_\\e\\_v\\_ =\\\\x\\\\ =\\)\\)\\n =\\e".toList ∧
        ofText " =".toList (toText (values.map escape) " =".toList none) = values :=
  ⟨_, rfl, by decide,
    ofText_toText_escape (by decide) (List.all_iff_forall_prop.mp (by decide)) (by decide)⟩

end ListMarkup.ValueList
