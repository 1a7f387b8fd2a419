import ListMarkup.Text.Basic
import Mathlib.Data.List.Basic

/-!
# Texts under names and under numbers

Texts are kept under names in lists in which the first entry of a name counts.  Reversing such a
list makes the last one count (`lookup_reverse_eq_some_iff`), and an entry for a name that may
be there already is as good as an entry at the end (`lookup_unless_present`).

Some texts have a number for a name, written in decimal.  A key is then first looked for among
the names and after that among the numbers (`Bound`).  No two numbers are written alike, so the
entries of the numbers may stand in any order (`Numbers.lookup_append_eq_some_iff`).
-/

set_option autoImplicit false

namespace ListMarkup

theorem lookup_cons_eq (entries : List (Text × Text)) (name other text : Text) :
    List.lookup name ((other, text) :: entries) =
      (if other = name then some text else none).or (entries.lookup name) := by
  by_cases same : other = name
  · rw [same, List.lookup_cons_self, if_pos rfl, Option.some_or]
  · rw [List.lookup_cons, if_neg same, Option.none_or, beq_false_of_ne (Ne.symm same)]

/-- What is there already stays. -/
theorem lookup_unless_present (entries : List (Text × Text)) (other name text : Text) :
    List.lookup name
        (if (entries.lookup other).isSome then entries else (other, text) :: entries) =
      (entries.lookup name).or (if other = name then some text else none) := by
  split
  · rename_i present
    by_cases same : other = name
    · obtain ⟨old, isOld⟩ := Option.isSome_iff_exists.mp present
      rw [← same, isOld, Option.some_or]
    · rw [if_neg same, Option.or_none]
  · rename_i absent
    rw [lookup_cons_eq]
    by_cases same : other = name
    · rw [← same, Option.not_isSome_iff_eq_none.mp absent, Option.none_or, Option.or_none]
    · rw [if_neg same, Option.none_or, Option.or_none]

/-- Looking up in reversed texts finds the last one. -/
theorem lookup_reverse_eq_some_iff {named : List (Text × Text)} {key text : Text} :
    named.reverse.lookup key = some text ↔
      ∃ before after, named = before ++ (key, text) :: after ∧ ∀ later ∈ after, later.1 ≠ key := by
  rw [List.lookup_eq_some_iff]
  constructor
  · rintro ⟨after, before, cut, first⟩
    refine ⟨before.reverse, after.reverse, ?_, fun later member => ?_⟩
    · rw [← List.reverse_reverse named, cut]
      simp
    · have other := first later (List.mem_reverse.mp member)
      exact (bne_iff_ne.mp other).symm
  · rintro ⟨before, after, rfl, last⟩
    refine ⟨after.reverse, before.reverse, by simp, fun later member => ?_⟩
    exact bne_iff_ne.mpr (last later (List.mem_reverse.mp member)).symm

theorem lookup_reverse_eq_none_iff {named : List (Text × Text)} {key : Text} :
    named.reverse.lookup key = none ↔ ∀ other ∈ named, other.1 ≠ key := by
  rw [List.lookup_eq_none_iff]
  simp only [List.mem_reverse, bne_iff_ne, ne_comm]

/-! ## Numbers -/

theorem Text.ofNat_injective : Function.Injective Text.ofNat := by
  intro first second same
  have read := congrArg (fun digits => Nat.ofDigitChars 10 digits 0) same
  simpa only [Text.ofNat, Nat.ofDigitChars_ten_toDigits] using read

/-- Texts under the numbers of their places, in any order. -/
structure Numbers (numbered : List Text) (pairs : List (Text × Text)) : Prop where
  mem_iff : ∀ key text, (key, text) ∈ pairs ↔
    ∃ place, key = Text.ofNat (place + 1) ∧ numbered[place]? = some text

theorem numbers_mapIdx (numbered : List Text) :
    Numbers numbered (numbered.mapIdx fun place text => (Text.ofNat (place + 1), text)) := by
  refine ⟨fun key text => ?_⟩
  rw [List.mem_mapIdx]
  constructor
  · rintro ⟨place, inside, same⟩
    cases same
    exact ⟨place, rfl, List.getElem?_eq_getElem inside⟩
  · rintro ⟨place, rfl, found⟩
    obtain ⟨inside, same⟩ := List.getElem?_eq_some_iff.mp found
    exact ⟨place, inside, by rw [same]⟩

/-- What is bound under a key by texts under names and by texts under numbers from 1 on. -/
inductive Bound (named : List (Text × Text)) (numbered : List Text) (key : Text) : Text → Prop where
  /-- The last text with the key as its name. -/
  | ofName {before after : List (Text × Text)} {text : Text}
      (cut : named = before ++ (key, text) :: after) (last : ∀ later ∈ after, later.1 ≠ key) :
      Bound named numbered key text
  /-- The text whose number is written as the key, which is no name. -/
  | ofNumber {place : Nat} {text : Text} (noName : ∀ other ∈ named, other.1 ≠ key)
      (number : key = Text.ofNat (place + 1)) (found : numbered[place]? = some text) :
      Bound named numbered key text

namespace Numbers

variable {numbered : List Text} {pairs : List (Text × Text)} (numbers : Numbers numbered pairs)

include numbers

theorem reverse : Numbers numbered pairs.reverse :=
  ⟨fun key text => List.mem_reverse.trans (numbers.mem_iff key text)⟩

theorem lookup_eq_some_iff {key text : Text} :
    pairs.lookup key = some text ↔
      ∃ place, key = Text.ofNat (place + 1) ∧ numbered[place]? = some text := by
  rw [← numbers.mem_iff]
  have member : ∀ text, pairs.lookup key = some text → (key, text) ∈ pairs := by
    intro text found
    obtain ⟨before, after, rfl, -⟩ := List.lookup_eq_some_iff.mp found
    exact List.mem_append_right before List.mem_cons_self
  refine ⟨member text, fun isMember => ?_⟩
  cases found : pairs.lookup key with
  | none =>
      have other := List.lookup_eq_none_iff.mp found _ isMember
      exact absurd rfl (bne_iff_ne.mp other)
  | some second =>
      obtain ⟨place, number, here⟩ := (numbers.mem_iff _ _).mp isMember
      obtain ⟨place', number', there⟩ := (numbers.mem_iff _ _).mp (member second found)
      have same : place = place' :=
        Nat.succ.inj (Text.ofNat_injective (number.symm.trans number'))
      subst same
      exact there.symm.trans here

/-- Texts under names, the last one first, and then texts under numbers bind what they should. -/
theorem lookup_append_eq_some_iff {named : List (Text × Text)} {key text : Text} :
    (named.reverse ++ pairs).lookup key = some text ↔ Bound named numbered key text := by
  rw [List.lookup_append, Option.or_eq_some_iff, lookup_reverse_eq_some_iff,
    lookup_reverse_eq_none_iff, numbers.lookup_eq_some_iff]
  constructor
  · rintro (⟨before, after, cut, last⟩ | ⟨noName, place, number, found⟩)
    · exact .ofName cut last
    · exact .ofNumber noName number found
  · rintro (⟨cut, last⟩ | ⟨noName, number, found⟩)
    · exact .inl ⟨_, _, cut, last⟩
    · exact .inr ⟨noName, _, number, found⟩

end Numbers

end ListMarkup
