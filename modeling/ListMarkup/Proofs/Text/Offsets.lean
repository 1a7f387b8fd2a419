import ListMarkup.Text.Slice
import Mathlib.Data.String.Basic

/-!
# Slices of text that is known in parts

The offset at the end of a first part is the number of its bytes, so the slice between
the two ends of a middle part is that part (`slice?_middle`).  Every offset that reading
uses is the end of a known part of the text, which is why no slice it takes is missing.
-/

set_option autoImplicit false

namespace ListMarkup.Text

@[simp] theorem byteLength_nil : byteLength [] = 0 := rfl

@[simp] theorem byteLength_cons (c : Char) (text : Text) :
    byteLength (c :: text) = c.utf8Size + byteLength text := rfl

@[simp] theorem byteLength_append (first later : Text) :
    byteLength (first ++ later) = byteLength first + byteLength later := by
  induction first with
  | nil => rw [List.nil_append, byteLength_nil, Nat.zero_add]
  | cons c first ih => rw [List.cons_append, byteLength_cons, ih, byteLength_cons, Nat.add_assoc]

theorem byteLength_pos {text : Text} (nonempty : text ≠ []) : 0 < byteLength text := by
  cases text with
  | nil => exact absurd rfl nonempty
  | cons c rest =>
      rw [byteLength_cons]
      exact Nat.add_pos_left c.utf8Size_pos _

theorem byteLength_replicate {c : Char} (small : c.utf8Size = 1) (count : Nat) :
    byteLength (List.replicate count c) = count := by
  induction count with
  | zero => rfl
  | succ count ih => rw [List.replicate_succ, byteLength_cons, ih, small, Nat.add_comm]

/-- An encoded text has as many bytes as its text. -/
theorem utf8ByteSize_ofList (text : Text) :
    (String.ofList text).utf8ByteSize = byteLength text := by
  rw [String.utf8ByteSize_ofList]
  induction text with
  | nil => rfl
  | cons c rest ih => rw [String.utf8Len_cons, ih, byteLength_cons, Nat.add_comm]

theorem isValid_end (first later : Text) :
    (⟨byteLength first⟩ : String.Pos.Raw).IsValid (String.ofList (first ++ later)) := by
  rw [String.Pos.Raw.isValid_ofList]
  exact ⟨first.length, by rw [List.take_left, utf8ByteSize_ofList]⟩

/-- The slice between the ends of a middle part is that part. -/
theorem slice?_middle (first middle later : Text) :
    slice? (String.ofList (first ++ (middle ++ later))) (byteLength first)
      (byteLength first + byteLength middle) = some middle := by
  have ends : (⟨byteLength first + byteLength middle⟩ : String.Pos.Raw).IsValid
      (String.ofList (first ++ (middle ++ later))) := by
    have := isValid_end (first ++ middle) later
    rwa [byteLength_append, List.append_assoc] at this
  rw [slice?, if_pos ⟨Nat.le_add_right _ _, isValid_end _ _, ends⟩]
  have extracted := String.extract_of_valid first middle later
  rw [← String.utf8ByteSize_ofList, ← String.utf8ByteSize_ofList, utf8ByteSize_ofList,
    utf8ByteSize_ofList, List.append_assoc] at extracted
  rw [extracted, String.toList_ofList]

/-- What is left when a part is taken from the whole. -/
theorem difference?_of_eq {whole rest part : Nat} (exact : whole = rest + part) :
    difference? whole part = some ⟨rest, exact⟩ := by
  subst exact
  rw [difference?, dif_pos (Nat.le_add_left _ _)]
  exact congrArg some (Subtype.ext (Nat.add_sub_cancel _ _))

/-- Something is left when the whole is at least as large as the part. -/
theorem difference?_of_le {whole part : Nat} (enough : part ≤ whole) :
    difference? whole part = some ⟨whole - part, (Nat.sub_add_cancel enough).symm⟩ :=
  difference?_of_eq _

end ListMarkup.Text
