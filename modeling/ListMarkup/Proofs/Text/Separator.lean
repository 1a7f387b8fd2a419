import ListMarkup.Text.Separator
import Mathlib.Data.List.Basic

/-!
# Splitting what was joined

A separator is found at the end of a piece, and not before, when no occurrence of it begins
inside the piece (`Apart`).  That is so when the piece holds no character of the separator,
and then splitting gives the pieces back (`split_join`).  It is also so when the piece holds no
occurrence of the separator and the separator has no border, which would let an occurrence
begin in the piece and end in the separator after it (`Apart.of_noBorder`).

What splitting gives are parts of the text without the separator (`mem_split`).  Two texts with
the separator between them are split like each of them by itself exactly when the last piece of
the first one is apart (`split_append_iff`), and any two texts are so exactly when the separator
has no border (`forall_split_append_iff`).

Cutting stops after so many cuts, and what is left then is not looked at.  It is the pieces that
further cuts would give, joined again (`splitAtMost_eq`).
-/

set_option autoImplicit false

namespace ListMarkup.Text

/-! ## Where the separator is found -/

theorem after?_append (separator rest : Text) :
    after? separator (separator ++ rest) = some rest := by
  induction separator with
  | nil => rfl
  | cons s separator ih => rw [List.cons_append, after?, if_pos rfl, ih]

theorem after?_eq_none_iff {separator text : Text} :
    after? separator text = none ↔ ¬ separator <+: text := by
  constructor
  · rintro absent ⟨rest, rfl⟩
    cases absent.symm.trans (after?_append separator rest)
  · intro noPrefix
    cases found : after? separator text with
    | none => rfl
    | some rest => exact absurd ⟨rest, (eq_append_of_after? found).symm⟩ noPrefix

/-- A character at which no separator begins belongs to what is before the separator. -/
theorem cut?_cons {separator : Text} {c : Char} {rest : Text}
    (noPrefix : ¬ separator <+: c :: rest) :
    cut? separator (c :: rest) =
      (cut? separator rest).map fun (before, after) => (c :: before, after) := by
  rw [cut?, after?_eq_none_iff.mpr noPrefix]

/-- A text is cut unless the separator does not occur in it. -/
theorem cut?_eq_none_iff {separator : Text} (notEmpty : separator ≠ []) {text : Text} :
    cut? separator text = none ↔ ¬ separator <:+: text := by
  induction text with
  | nil => simp [cut?, notEmpty]
  | cons c text ih =>
      rw [List.infix_cons_iff, not_or, ← ih, ← after?_eq_none_iff, cut?]
      cases after? separator (c :: text) with
      | none => simp
      | some rest => simp

/-- When the separator comes right after the piece, no occurrence of it begins inside the
piece, whatever comes later. -/
def Apart (separator piece : Text) : Prop :=
  ∀ tail, tail ≠ [] → tail <:+ piece → ∀ rest, ¬ separator <+: tail ++ (separator ++ rest)

/-- A piece that holds no character of the separator. -/
theorem Apart.of_forall {separator : Text} (notEmpty : separator ≠ []) {piece : Text}
    (foreign : ∀ c ∈ piece, c ∉ separator) : Apart separator piece := by
  intro tail some suffix rest begins
  obtain ⟨s, separator, rfl⟩ := List.exists_cons_of_ne_nil notEmpty
  obtain ⟨c, tail, rfl⟩ := List.exists_cons_of_ne_nil some
  obtain ⟨same, -⟩ := List.cons_prefix_cons.mp begins
  exact foreign c (suffix.subset List.mem_cons_self) (same ▸ List.mem_cons_self)

/-- A piece that holds no occurrence of a separator whose beginning is nowhere its end. -/
theorem Apart.of_noBorder {separator : Text}
    (noBorder : ∀ border, border <+: separator → border <:+ separator → border ≠ [] →
      border = separator)
    {piece : Text} (absent : ¬ separator <:+: piece) : Apart separator piece := by
  intro tail some suffix rest begins
  rcases List.prefix_or_prefix_of_prefix begins (List.prefix_append tail _) with inside | across
  · exact absent (inside.isInfix.trans suffix.isInfix)
  · -- The occurrence begins in the piece and ends in the separator, or right before it.
    obtain ⟨border, rfl⟩ := across
    rw [List.prefix_append_right_inj] at begins
    by_cases none : border = []
    · rw [none, List.append_nil] at absent
      exact absent suffix.isInfix
    · have overlaps : border <+: tail ++ border :=
        List.prefix_of_prefix_length_le begins (List.prefix_append _ rest)
          (by rw [List.length_append]; exact Nat.le_add_left _ _)
      have whole := noBorder border overlaps (List.suffix_append tail border) none
      exact some (List.self_eq_append_left.mp whole)

/-- The separator does not occur in such a piece. -/
theorem Apart.absent {separator : Text} (notEmpty : separator ≠ []) {piece : Text}
    (apart : Apart separator piece) : ¬ separator <:+: piece := by
  rintro ⟨before, after, rfl⟩
  refine apart (separator ++ after) (List.append_ne_nil_of_left_ne_nil notEmpty after) ?_ []
    (List.append_assoc separator after _ ▸ List.prefix_append separator _)
  rw [List.append_assoc]
  exact List.suffix_append before _

/-- The separator is found where such a piece ends. -/
theorem Apart.cut? {separator : Text} (notEmpty : separator ≠ []) {piece : Text}
    (apart : Apart separator piece) (rest : Text) :
    cut? separator (piece ++ (separator ++ rest)) = some (piece, rest) := by
  induction piece with
  | nil =>
      have found := after?_append separator rest
      obtain ⟨s, separator, rfl⟩ := List.exists_cons_of_ne_nil notEmpty
      rw [List.nil_append, List.cons_append, Text.cut?, ← List.cons_append, found]
  | cons c piece ih =>
      have noPrefix := apart (c :: piece) (List.cons_ne_nil c piece) (List.suffix_refl _) rest
      have later : Apart separator piece := fun tail some suffix =>
        apart tail some (suffix.trans (List.suffix_cons c piece))
      rw [List.cons_append] at noPrefix ⊢
      rw [cut?_cons noPrefix, ih later]
      rfl

/-- Whether a separator begins before one that comes after a text does not depend on what
follows that one. -/
theorem prefix_append_append_iff {separator tail rest : Text} :
    separator <+: tail ++ (separator ++ rest) ↔ separator <+: tail ++ separator := by
  have joint : tail ++ separator <+: tail ++ (separator ++ rest) := by
    rw [← List.append_assoc]
    exact List.prefix_append _ rest
  constructor
  · intro begins
    apply List.prefix_of_prefix_length_le begins joint
    simp
  · intro begins
    exact begins.trans joint

/-- No occurrence of the separator begins before the one at which a text is cut. -/
theorem Apart.of_cut? {separator text before after : Text} (notEmpty : separator ≠ [])
    (found : Text.cut? separator text = some (before, after)) : Apart separator before := by
  induction text generalizing before with
  | nil =>
      rw [Text.cut?, if_neg (by simpa using notEmpty)] at found
      cases found
  | cons c text ih =>
      have whole := eq_append_of_cut? found
      rw [Text.cut?] at found
      split at found
      · cases found
        intro tail some suffix
        exact absurd (List.suffix_nil.mp suffix) some
      · rename_i noPrefix
        obtain ⟨⟨before', after'⟩, rest, same⟩ := Option.map_eq_some_iff.mp found
        cases same
        intro tail some suffix following begins
        rcases List.suffix_cons_iff.mp suffix with rfl | inside
        · rw [prefix_append_append_iff] at begins
          apply after?_eq_none_iff.mp noPrefix
          rw [whole, prefix_append_append_iff]
          exact begins
        · exact ih rest tail some inside following begins

/-- The separator does not occur in what is before its first occurrence. -/
theorem absent_of_cut? {separator text before after : Text} (notEmpty : separator ≠ [])
    (found : cut? separator text = some (before, after)) : ¬ separator <:+: before :=
  (Apart.of_cut? notEmpty found).absent notEmpty

/-! ## Joining and splitting -/

theorem join_singleton (separator piece : Text) : join separator [piece] = piece :=
  List.intercalate_singleton

/-- A piece is joined to the others by the separator. -/
theorem join_cons (separator piece : Text) {pieces : List Text} (some : pieces ≠ []) :
    join separator (piece :: pieces) = piece ++ (separator ++ join separator pieces) := by
  rw [join, List.intercalate_cons_of_ne_nil some, List.append_assoc, ← join]

/-- Joined text holds the first piece. -/
theorem join_ne_nil (separator : Text) {piece : Text} (notEmpty : piece ≠ [])
    (pieces : List Text) : join separator (piece :: pieces) ≠ [] := by
  by_cases alone : pieces = []
  · rwa [alone, join_singleton]
  · rw [join_cons _ _ alone]
    exact List.append_ne_nil_of_left_ne_nil notEmpty _

/-- Characters joined by nothing. -/
theorem join_singletons (text : Text) : join [] (text.map ([·])) = text := by
  induction text with
  | nil => rfl
  | cons c text ih =>
      by_cases alone : text = []
      · rw [alone, List.map_singleton, join_singleton]
      · rw [List.map_cons, join_cons _ _ (by simpa using alone), ih]
        rfl

theorem split_of_cut? {separator text before after : Text} (notEmpty : separator ≠ [])
    (found : cut? separator text = some (before, after)) :
    split separator text = before :: split separator after := by
  rw [split, dif_pos notEmpty]
  split
  · rename_i found'
    cases found.symm.trans found'
    rfl
  · rename_i none
    cases found.symm.trans none

theorem split_of_none {separator text : Text} (absent : cut? separator text = none) :
    split separator text = [text] := by
  rw [split]
  split
  · split
    · rename_i found
      cases absent.symm.trans found
    · rfl
  · rfl

theorem split_ne_nil (separator text : Text) : split separator text ≠ [] := by
  rw [split]
  split
  · split <;> exact List.cons_ne_nil _ _
  · exact List.cons_ne_nil _ _

/-- **Pieces that hold no character of the separator are split as they were joined.** -/
theorem split_join {separator : Text} (notEmpty : separator ≠ []) {pieces : List Text}
    (some : pieces ≠ []) (apart : ∀ piece ∈ pieces, ∀ c ∈ piece, c ∉ separator) :
    split separator (join separator pieces) = pieces := by
  induction pieces with
  | nil => exact absurd rfl some
  | cons piece pieces ih =>
      obtain ⟨foreign, later⟩ := List.forall_mem_cons.mp apart
      have here := Apart.of_forall notEmpty foreign
      cases pieces with
      | nil =>
          rw [join_singleton]
          exact split_of_none ((cut?_eq_none_iff notEmpty).mpr (here.absent notEmpty))
      | cons next pieces =>
          rw [join_cons _ _ (List.cons_ne_nil _ _),
            split_of_cut? notEmpty (here.cut? notEmpty _), ih (List.cons_ne_nil _ _) later]

/-- What splitting gives are parts of the text in which the separator does not occur. -/
theorem mem_split {separator : Text} (notEmpty : separator ≠ []) {text piece : Text}
    (member : piece ∈ split separator text) : piece <:+: text ∧ ¬ separator <:+: piece := by
  cases found : cut? separator text with
  | none =>
      rw [split_of_none found, List.mem_singleton] at member
      rw [member]
      exact ⟨List.infix_rfl, (cut?_eq_none_iff notEmpty).mp found⟩
  | some halves =>
      obtain ⟨before, after⟩ := halves
      have whole := eq_append_of_cut? found
      have shorter := length_lt_of_cut? notEmpty found
      rw [split_of_cut? notEmpty found] at member
      rcases List.mem_cons.mp member with rfl | later
      · rw [whole]
        exact ⟨(List.prefix_append _ _).isInfix, absent_of_cut? notEmpty found⟩
      · obtain ⟨part, absent⟩ := mem_split notEmpty later
        refine ⟨part.trans ?_, absent⟩
        rw [whole]
        exact ((List.suffix_append _ after).trans (List.suffix_append _ _)).isInfix
termination_by text.length

/-- **Splitting at the joint.**  Two texts with a separator between them are split like each of
them by itself if and only if no occurrence of the separator begins in the last piece of the
first text and ends in the separator after it. -/
theorem split_append_iff {separator : Text} (notEmpty : separator ≠ []) (first second : Text) :
    split separator (first ++ (separator ++ second)) =
        split separator first ++ split separator second ↔
      Apart separator ((split separator first).getLastD []) := by
  cases found : cut? separator first with
  | none =>
      rw [split_of_none found]
      constructor
      · intro same
        cases joined : cut? separator (first ++ (separator ++ second)) with
        | none =>
            rw [split_of_none joined] at same
            exact absurd (List.cons.inj same).2.symm (split_ne_nil separator second)
        | some halves =>
            rw [split_of_cut? notEmpty joined] at same
            obtain ⟨before, -⟩ := List.cons.inj same
            rw [List.getLastD_cons, List.getLastD_nil, ← before]
            exact Apart.of_cut? notEmpty joined
      · intro apart
        exact split_of_cut? notEmpty (apart.cut? notEmpty second)
  | some halves =>
      obtain ⟨before, after⟩ := halves
      have shorter := length_lt_of_cut? notEmpty found
      have apart := Apart.of_cut? notEmpty found
      have joined : cut? separator (first ++ (separator ++ second)) =
          some (before, after ++ (separator ++ second)) := by
        rw [eq_append_of_cut? found, List.append_assoc, List.append_assoc]
        exact apart.cut? notEmpty _
      have last : (before :: split separator after).getLastD [] =
          (split separator after).getLastD [] := by
        obtain ⟨piece, pieces, some⟩ := List.exists_cons_of_ne_nil (split_ne_nil separator after)
        rw [some, List.getLastD_cons, List.getLastD_cons, List.getLastD_cons]
      rw [split_of_cut? notEmpty found, split_of_cut? notEmpty joined, last,
        ← split_append_iff notEmpty after second, List.cons_append, List.cons.injEq]
      simp
termination_by first.length

theorem getLastD_split_mem (separator text : Text) :
    (split separator text).getLastD [] ∈ split separator text := by
  obtain ⟨piece, pieces, some⟩ := List.exists_cons_of_ne_nil (split_ne_nil separator text)
  rw [some, List.getLastD_cons]
  exact List.getLastD_mem_cons

/-- Any two texts are split so exactly when no beginning of the separator, other than the whole,
is also its end. -/
theorem forall_split_append_iff {separator : Text} (notEmpty : separator ≠ []) :
    (∀ first second, split separator (first ++ (separator ++ second)) =
        split separator first ++ split separator second) ↔
      ∀ border, border <+: separator → border <:+ separator → border ≠ [] →
        border = separator := by
  constructor
  · rintro joined border begins ⟨start, rfl⟩ some
    -- What is before the border makes the separator begin too early.
    obtain ⟨rest, same⟩ := begins
    by_contra proper
    have startNotEmpty : start ≠ [] := by
      rintro rfl
      exact proper rfl
    have absent : cut? (start ++ border) start = none := by
      rw [cut?_eq_none_iff notEmpty]
      intro occurs
      have shorter := occurs.length_le
      rw [List.length_append] at shorter
      have positive := List.length_pos_iff.mpr some
      omega
    have apart := (split_append_iff notEmpty start []).mp (joined start [])
    rw [split_of_none absent] at apart
    refine apart start startNotEmpty (List.suffix_refl start) [] ?_
    rw [prefix_append_append_iff]
    exact ⟨rest, by rw [List.append_assoc, same]⟩
  · intro noBorder first second
    rw [split_append_iff notEmpty]
    exact Apart.of_noBorder noBorder (mem_split notEmpty (getLastD_split_mem separator first)).2

/-! ## Splitting with a limit -/

/-- Joining the pieces of a text gives it back. -/
theorem join_split {separator : Text} (notEmpty : separator ≠ []) (text : Text) :
    join separator (split separator text) = text := by
  cases found : cut? separator text with
  | none => rw [split_of_none found, join_singleton]
  | some halves =>
      obtain ⟨before, after⟩ := halves
      have shorter := length_lt_of_cut? notEmpty found
      rw [split_of_cut? notEmpty found, join_cons _ _ (split_ne_nil separator after),
        join_split notEmpty after, ← eq_append_of_cut? found]
termination_by text.length

/-- After so many cuts, or as many as there are, the further pieces are left joined. -/
theorem splitAtMost_eq {separator : Text} (notEmpty : separator ≠ []) (cuts : Nat)
    (text : Text) :
    splitAtMost separator cuts text =
      (split separator text).take (min cuts ((split separator text).length - 1)) ++
        [join separator
          ((split separator text).drop (min cuts ((split separator text).length - 1)))] := by
  induction cuts generalizing text with
  | zero =>
      rw [splitAtMost, Nat.zero_min, List.take_zero, List.drop_zero, List.nil_append,
        join_split notEmpty]
  | succ cuts ih =>
      rw [splitAtMost]
      cases found : cut? separator text with
      | none =>
          rw [split_of_none found, List.length_singleton, Nat.sub_self, Nat.min_zero,
            List.take_zero, List.drop_zero, List.nil_append, join_singleton]
      | some halves =>
          obtain ⟨before, after⟩ := halves
          have positive := List.length_pos_iff.mpr (split_ne_nil separator after)
          have oneMore : min (cuts + 1) ((split separator after).length + 1 - 1) =
              min cuts ((split separator after).length - 1) + 1 := by omega
          rw [split_of_cut? notEmpty found, List.length_cons, oneMore, List.take_succ_cons,
            List.drop_succ_cons, List.cons_append, ← ih after]

/-- Joining the pieces gives the text back, wherever cutting stopped. -/
theorem join_splitAtMost {separator : Text} (notEmpty : separator ≠ []) (cuts : Nat)
    (text : Text) : join separator (splitAtMost separator cuts text) = text := by
  induction cuts generalizing text with
  | zero => rw [splitAtMost, join_singleton]
  | succ cuts ih =>
      rw [splitAtMost]
      cases found : cut? separator text with
      | none => rw [join_singleton]
      | some halves =>
          obtain ⟨before, after⟩ := halves
          have some : splitAtMost separator cuts after ≠ [] := by
            rw [splitAtMost_eq notEmpty]
            exact List.append_ne_nil_of_right_ne_nil _ (List.cons_ne_nil _ _)
          rw [join_cons _ _ some, ih after, ← eq_append_of_cut? found]

end ListMarkup.Text
