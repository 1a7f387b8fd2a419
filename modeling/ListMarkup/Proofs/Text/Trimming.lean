import ListMarkup.Text.Basic
import Mathlib.Data.List.Basic
import Mathlib.Data.List.TakeWhile

/-!
# Trimming

Trimming takes white space off both ends of a text and nothing else.  What is left is a part
of the text (`trim_inside`) that neither begins nor ends with white space, so it is not trimmed
again (`trim_trim`), and white space around a text makes no difference to it (`trim_padded`).
Numerals hold no white space at all (`trim_ofNat`).
-/

set_option autoImplicit false

namespace ListMarkup.Text

open Unicode (isWhiteSpace)

/-- Text of white space only. -/
def Blank (text : Text) : Prop :=
  ∀ c ∈ text, isWhiteSpace c = true

instance (text : Text) : Decidable (Blank text) :=
  decidable_of_iff (text.all isWhiteSpace = true) List.all_eq_true

theorem blank_nil : Blank [] :=
  fun _ member => absurd member List.not_mem_nil

theorem trimEnd_eq (text : Text) : trimEnd text = (trimStart text.reverse).reverse := rfl

theorem trimStart_padded {before : Text} (blank : Blank before) (text : Text) :
    trimStart (before ++ text) = trimStart text :=
  List.dropWhile_append_of_pos blank

theorem trimEnd_padded (text : Text) {after : Text} (blank : Blank after) :
    trimEnd (text ++ after) = trimEnd text := by
  have turned : Blank after.reverse := fun c member => blank c (List.mem_reverse.mp member)
  rw [trimEnd_eq, List.reverse_append, trimStart_padded turned, trimEnd_eq]

/-- White space at the end stays there when the start is trimmed, unless nothing else is
left. -/
theorem trimStart_append (text after : Text) :
    trimStart (text ++ after) =
      if trimStart text = [] then trimStart after else trimStart text ++ after := by
  unfold trimStart
  rw [List.dropWhile_append]
  simp only [List.isEmpty_iff]

theorem head?_trimStart (text : Text) :
    ∀ c ∈ (trimStart text).head?, isWhiteSpace c = false := by
  intro c first
  have stopped := List.head?_dropWhile_not isWhiteSpace text
  rw [← trimStart, first] at stopped
  exact stopped

/-! ## Both ends -/

/-- White space around a text makes no difference. -/
theorem trim_padded {before after : Text} (blankBefore : Blank before) (blankAfter : Blank after)
    (text : Text) : trim (before ++ (text ++ after)) = trim text := by
  rw [trim, trimStart_padded blankBefore, trimStart_append, trim]
  split
  · rename_i nothing
    have blank := trimStart_padded blankAfter []
    rw [List.append_nil] at blank
    rw [nothing, blank]
    rfl
  · exact trimEnd_padded _ blankAfter

/-- White space that begins after a text is all that is trimmed at its end. -/
theorem trimEnd_append {run : Text} (notEmpty : run ≠ [])
    (ends : ∀ c ∈ run.getLast?, isWhiteSpace c = false) (after : Text) :
    trimEnd (run ++ after) = run ++ trimEnd after := by
  obtain ⟨before, c, rfl⟩ := (List.eq_nil_or_concat' run).resolve_left notEmpty
  have stays : isWhiteSpace c = false := ends c List.getLast?_concat
  have kept : trimStart (before ++ [c]).reverse = (before ++ [c]).reverse := by
    rw [List.reverse_concat, trimStart, List.dropWhile_cons_of_neg (by simp [stays])]
  rw [trimEnd_eq, List.reverse_append, trimStart_append, trimEnd_eq]
  split
  · rename_i nothing
    rw [kept, List.reverse_reverse, nothing, List.reverse_nil, List.append_nil]
  · rw [List.reverse_append, List.reverse_reverse]

/-- Trimming takes white space off both ends. -/
theorem exists_padding (text : Text) :
    ∃ before after, Blank before ∧ Blank after ∧ text = before ++ (trim text ++ after) := by
  have blank : ∀ run : Text, Blank (run.takeWhile isWhiteSpace) :=
    fun _ _ member => List.mem_takeWhile_imp member
  refine ⟨text.takeWhile isWhiteSpace,
    ((trimStart text).reverse.takeWhile isWhiteSpace).reverse, blank text,
    fun c member => blank _ c (List.mem_reverse.mp member), ?_⟩
  rw [trim, trimEnd, ← List.reverse_append, List.takeWhile_append_dropWhile,
    List.reverse_reverse, trimStart, List.takeWhile_append_dropWhile]

theorem trimEnd_starts (text : Text) : trimEnd text <+: text := by
  rw [trimEnd_eq, ← List.reverse_suffix, List.reverse_reverse]
  exact List.dropWhile_suffix isWhiteSpace

/-- What trimming leaves is a part of the text. -/
theorem trim_inside (text : Text) : trim text <:+: text := by
  have start : trimStart text <:+ text := List.dropWhile_suffix isWhiteSpace
  exact (trimEnd_starts (trimStart text)).isInfix.trans start.isInfix

/-- Text between characters that are not white space is not trimmed. -/
theorem trim_eq_self {text : Text} (begins : ∀ c ∈ text.head?, isWhiteSpace c = false)
    (ends : ∀ c ∈ text.getLast?, isWhiteSpace c = false) : trim text = text := by
  have kept : ∀ run : Text, (∀ c ∈ run.head?, isWhiteSpace c = false) →
      run.dropWhile isWhiteSpace = run := by
    intro run first
    cases run with
    | nil => rfl
    | cons c run => exact List.dropWhile_cons_of_neg (by simp [first c rfl])
  rw [trim, trimStart, kept text begins, trimEnd, kept text.reverse (by simpa using ends),
    List.reverse_reverse]

theorem head?_trim (text : Text) : ∀ c ∈ (trim text).head?, isWhiteSpace c = false := by
  intro c first
  obtain ⟨rest, whole⟩ := trimEnd_starts (trimStart text)
  refine head?_trimStart text c ?_
  rw [← whole]
  exact List.mem_head?_append_of_mem_head? first

theorem getLast?_trim (text : Text) : ∀ c ∈ (trim text).getLast?, isWhiteSpace c = false := by
  intro c last
  rw [trim, trimEnd_eq, List.getLast?_reverse] at last
  exact head?_trimStart _ c last

/-- Trimming twice is trimming once. -/
theorem trim_trim (text : Text) : trim (trim text) = trim text :=
  trim_eq_self (head?_trim text) (getLast?_trim text)

theorem isDigit_of_mem_ofNat {number : Nat} {c : Char} (member : c ∈ ofNat number) :
    c.isDigit = true :=
  Nat.isDigit_of_mem_toDigits (by decide) (by decide) member

theorem isWhiteSpace_of_isDigit {c : Char} (digit : c.isDigit = true) :
    isWhiteSpace c = false := by
  have range : 48 ≤ c.toNat ∧ c.toNat ≤ 57 := by
    simpa [Char.isDigit, UInt32.le_iff_toNat_le] using digit
  simp only [isWhiteSpace, Unicode.withinRanges, Unicode.whiteSpaceRanges, List.any_eq_false,
    List.forall_mem_cons]
  grind

/-- A numeral is not trimmed. -/
theorem trim_ofNat (number : Nat) : trim (ofNat number) = ofNat number :=
  trim_eq_self
    (fun _ first => isWhiteSpace_of_isDigit (isDigit_of_mem_ofNat (List.mem_of_mem_head? first)))
    (fun _ last => isWhiteSpace_of_isDigit (isDigit_of_mem_ofNat (List.mem_of_getLast? last)))

end ListMarkup.Text
