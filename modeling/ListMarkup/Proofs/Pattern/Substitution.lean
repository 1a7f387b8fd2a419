import ListMarkup.Pattern
import ListMarkup.Proofs.Text.Replacement
import Mathlib.Data.List.Nodup
import Mathlib.Data.List.TakeDrop

/-!
# Replacing tokens in turn

A pattern is filled by replacing its tokens one after the other.  The text in which a token is
replaced already holds the fields of the tokens before it, so a field meets every later token,
and a token that is spelled in a field is replaced there as well.

For tokens of one character this is the same as replacing all of them at once (`substitute`),
not by the fields as they are given but by what the fields come to when the later tokens are
replaced in them (`settledFields`).  The given fields are put in as they are, in every pattern,
if and only if no later token changes any of them (`Undisturbed`), which is so when no field
holds a later token (`undisturbed_of_foreign`).  Two sets of fields are filled in like one set,
the first before the second.  The main statement is `fields_replaced_in_turn`.
-/

set_option autoImplicit false

namespace ListMarkup.Pattern

/-- The pattern with every character that stands for a text replaced by it.  What is put in is
not looked at. -/
def substitute (textFor? : Char → Option Text) (pattern : Text) : Text :=
  pattern.flatMap fun c => (textFor? c).getD [c]

/-- The field of a character that is a token, which is empty for a token without a field. -/
def fieldFor? (tokens : List Char) (fields : List Text) (c : Char) : Option Text :=
  (tokens.idxOf? c).map fun place => fields.getD place []

theorem substitute_cons (textFor? : Char → Option Text) (c : Char) (pattern : Text) :
    substitute textFor? (c :: pattern) = (textFor? c).getD [c] ++ substitute textFor? pattern :=
  List.flatMap_cons

theorem substitute_singleton (textFor? : Char → Option Text) (c : Char) :
    substitute textFor? [c] = (textFor? c).getD [c] :=
  List.flatMap_singleton _ _

/-- A pattern in which nothing stands for a text stays as it is. -/
theorem substitute_of_none {textFor? : Char → Option Text} {pattern : Text}
    (none : ∀ c ∈ pattern, textFor? c = none) : substitute textFor? pattern = pattern := by
  induction pattern with
  | nil => rfl
  | cons c pattern ih =>
      obtain ⟨first, others⟩ := List.forall_mem_cons.mp none
      rw [substitute_cons, first, ih others]
      rfl

theorem fieldFor?_nil (fields : List Text) (c : Char) : fieldFor? [] fields c = none := by
  rw [fieldFor?, List.idxOf?_nil, Option.map_none]

theorem fieldFor?_cons (token : Char) (tokens : List Char) (fields : List Text) (c : Char) :
    fieldFor? (token :: tokens) fields c =
      if token = c then some (fields.headD []) else fieldFor? tokens fields.tail c := by
  rw [fieldFor?, List.idxOf?_cons]
  by_cases same : token = c
  · cases fields <;> simp [same]
  · cases fields <;> simp [same, fieldFor?, Function.comp_def]

theorem fieldFor?_eq_none {tokens : List Char} {c : Char} (foreign : c ∉ tokens)
    (fields : List Text) : fieldFor? tokens fields c = none := by
  rw [fieldFor?, List.idxOf?_eq_none_iff.mpr foreign, Option.map_none]

theorem fieldFor?_getElem {tokens : List Char} (distinct : tokens.Nodup) (fields : List Text)
    {place : Nat} (inside : place < tokens.length) :
    fieldFor? tokens fields tokens[place] = some (fields.getD place []) := by
  have found : tokens.idxOf? tokens[place] = some place := by
    refine List.idxOf?_eq_some_iff.mpr ⟨inside, rfl, fun earlier before same => ?_⟩
    have equal := (List.Nodup.getElem_inj_iff distinct).mp same
    omega
  rw [fieldFor?, found, Option.map_some]

/-! ## Replacing one token after the other -/

/-- What the fields come to when the later tokens are replaced in each of them, which these are
by what their own fields come to. -/
def settledFields : List Char → List Text → List Text
  | [], _ => []
  | _ :: tokens, fields =>
    substitute (fieldFor? tokens (settledFields tokens fields.tail)) (fields.headD []) ::
      settledFields tokens fields.tail

/-- No later token changes any field. -/
def Undisturbed (tokens : List Char) (fields : List Text) : Prop :=
  ∀ place < tokens.length, (settledFields tokens fields).getD place [] = fields.getD place []

instance (tokens : List Char) (fields : List Text) : Decidable (Undisturbed tokens fields) :=
  inferInstanceAs (Decidable (∀ place < tokens.length, _))

/-- Replacing the tokens in turn puts in what the fields come to. -/
theorem withFields_eq_substitute (tokens : List Char) (fields : List Text) (pattern : Text) :
    withFields (tokens.map ([·])) fields pattern =
      substitute (fieldFor? tokens (settledFields tokens fields)) pattern := by
  induction tokens generalizing fields pattern with
  | nil => exact (substitute_of_none fun c _ => fieldFor?_nil [] c).symm
  | cons token tokens ih =>
      rw [List.map_cons, withFields, ih, Text.replace_singleton, substitute, List.flatMap_assoc,
        substitute, settledFields]
      congr 1
      funext c
      rw [fieldFor?_cons]
      by_cases same : token = c
      · rw [if_pos same, if_pos same]
        rfl
      · rw [if_neg same, if_neg same]
        exact substitute_singleton _ c

theorem takeD_succ_fields (fields : List Text) (count : Nat) :
    fields.takeD (count + 1) [] = fields.headD [] :: fields.tail.takeD count [] := by
  rw [List.takeD_succ, List.headD_eq_head?_getD]

/-- Two sets of fields are one, in which the first set has a field for each of its tokens. -/
theorem withFields_append (firstTokens secondTokens first second : List Text) (pattern : Text) :
    withFields (firstTokens ++ secondTokens) (first.takeD firstTokens.length [] ++ second)
        pattern =
      withFields secondTokens second (withFields firstTokens first pattern) := by
  induction firstTokens generalizing first pattern with
  | nil => rfl
  | cons token tokens ih =>
      rw [List.cons_append, List.length_cons, takeD_succ_fields, List.cons_append, withFields,
        withFields, List.headD_cons, List.tail_cons, ih]

theorem fieldFor?_append (firstTokens secondTokens : List Char) (first second : List Text)
    (c : Char) :
    fieldFor? (firstTokens ++ secondTokens) (first.takeD firstTokens.length [] ++ second) c =
      (fieldFor? firstTokens first c).or (fieldFor? secondTokens second c) := by
  induction firstTokens generalizing first with
  | nil => rw [fieldFor?_nil]; rfl
  | cons token tokens ih =>
      rw [List.cons_append, fieldFor?_cons, fieldFor?_cons, List.length_cons, takeD_succ_fields,
        List.cons_append, List.headD_cons, List.tail_cons, ih]
      by_cases same : token = c
      · rw [if_pos same, if_pos same]
        rfl
      · rw [if_neg same, if_neg same]

/-! ## Filling patterns -/

/-- The fields come to themselves in every pattern if and only if no later token changes
them. -/
theorem substitute_settledFields_iff {tokens : List Char} (distinct : tokens.Nodup)
    (fields : List Text) :
    (∀ pattern, substitute (fieldFor? tokens (settledFields tokens fields)) pattern =
        substitute (fieldFor? tokens fields) pattern) ↔
      Undisturbed tokens fields := by
  constructor
  · intro same place inside
    -- A pattern of one token is replaced by its field.
    have here := same [tokens[place]]
    rwa [substitute_singleton, substitute_singleton, fieldFor?_getElem distinct _ inside,
      fieldFor?_getElem distinct _ inside, Option.getD_some, Option.getD_some] at here
  · intro undisturbed pattern
    congr 1
    funext c
    by_cases member : c ∈ tokens
    · obtain ⟨place, inside, rfl⟩ := List.getElem_of_mem member
      rw [fieldFor?_getElem distinct _ inside, fieldFor?_getElem distinct _ inside,
        undisturbed place inside]
    · rw [fieldFor?_eq_none member, fieldFor?_eq_none member]

/-- Fields are not changed when no token is held by a field before its own. -/
theorem undisturbed_of_foreign {tokens : List Char} {fields : List Text}
    (foreign : ∀ place, (inside : place < tokens.length) →
      ∀ field ∈ fields.take place, tokens[place] ∉ field) :
    Undisturbed tokens fields := by
  induction tokens generalizing fields with
  | nil =>
      intro place inside
      exact absurd inside (Nat.not_lt_zero place)
  | cons token tokens ih =>
      have first : substitute (fieldFor? tokens (settledFields tokens fields.tail))
          (fields.headD []) = fields.headD [] := by
        apply substitute_of_none
        intro c member
        apply fieldFor?_eq_none
        intro isToken
        obtain ⟨place, within, rfl⟩ := List.getElem_of_mem isToken
        cases fields with
        | nil => cases member
        | cons field fields =>
            exact foreign (place + 1) (Nat.succ_lt_succ within) field List.mem_cons_self member
      have others : Undisturbed tokens fields.tail := by
        apply ih
        intro place within field member
        apply foreign (place + 1) (Nat.succ_lt_succ within)
        cases fields with
        | nil => simp at member
        | cons _ fields => exact List.mem_cons_of_mem _ member
      intro place inside
      rw [settledFields, first]
      cases place with
      | zero => cases fields <;> rfl
      | succ place =>
          rw [List.getD_cons_succ, others place (Nat.lt_of_succ_lt_succ inside)]
          cases fields <;> rfl

/-- The field of `x` holds the later token `y`. -/
example : ¬ Undisturbed "xy".toList ["y".toList, "b".toList] := by decide

theorem fill_eq_substitute (tokens : List Char) (fields : List Text) (pattern : Text) :
    fill pattern [] none (tokens.map ([·])) fields =
      substitute (fieldFor? tokens (settledFields tokens fields)) pattern :=
  withFields_eq_substitute tokens fields pattern

/-- Two sets of fields are filled in like one. -/
theorem fillTwo_eq_substitute (firstTokens secondTokens : List Char) (first second : List Text)
    (pattern : Text) :
    fillTwo pattern (firstTokens.map ([·])) first (secondTokens.map ([·])) second =
      substitute (fieldFor? (firstTokens ++ secondTokens)
        (settledFields (firstTokens ++ secondTokens)
          (first.takeD firstTokens.length [] ++ second))) pattern := by
  rw [fillTwo, ← withFields_append, List.length_map, ← List.map_append, withFields_eq_substitute]

/-- **Tokens are replaced in turn.**  Filling a pattern puts in what the fields come to when the
later tokens are replaced in them.  The fields are put in as they are, in every pattern, if and
only if no later token changes any of them.  With two sets of fields the tokens of the second
set are later than all of the first. -/
theorem fields_replaced_in_turn (firstTokens secondTokens : List Char)
    (first second : List Text) (distinct : (firstTokens ++ secondTokens).Nodup) :
    (∀ pattern, fill pattern [] none (firstTokens.map ([·])) first =
      substitute (fieldFor? firstTokens (settledFields firstTokens first)) pattern) ∧
    ((∀ pattern, fill pattern [] none (firstTokens.map ([·])) first =
        substitute (fieldFor? firstTokens first) pattern) ↔
      Undisturbed firstTokens first) ∧
    (∀ pattern,
      fillTwo pattern (firstTokens.map ([·])) first (secondTokens.map ([·])) second =
        substitute (fieldFor? (firstTokens ++ secondTokens)
          (settledFields (firstTokens ++ secondTokens)
            (first.takeD firstTokens.length [] ++ second))) pattern) ∧
    ((∀ pattern,
        fillTwo pattern (firstTokens.map ([·])) first (secondTokens.map ([·])) second =
          substitute
            (fun c => (fieldFor? firstTokens first c).or (fieldFor? secondTokens second c))
            pattern) ↔
      Undisturbed (firstTokens ++ secondTokens)
        (first.takeD firstTokens.length [] ++ second)) := by
  refine ⟨fill_eq_substitute firstTokens first, ?one,
    fillTwo_eq_substitute firstTokens secondTokens first second, ?two⟩
  case one =>
    simp only [fill_eq_substitute]
    exact substitute_settledFields_iff distinct.of_append_left first
  case two =>
    simp only [fillTwo_eq_substitute, ← fieldFor?_append]
    exact substitute_settledFields_iff distinct _

/-- A field may hold the tokens before its own, also those of the first set. -/
theorem earlier_tokens_stay :
    fill "y/x".toList [] none (("xy".toList).map ([·])) ["x".toList, "[x]".toList] =
        "[x]/x".toList ∧
      fillTwo "y/x+z".toList (("xy".toList).map ([·])) ["x".toList, "[x]".toList]
        (("z".toList).map ([·])) ["xyz".toList] = "[x]/x+xyz".toList := by
  obtain ⟨-, one, -, two⟩ := fields_replaced_in_turn "xy".toList "z".toList
    ["x".toList, "[x]".toList] ["xyz".toList] (by decide)
  exact ⟨one.mpr (undisturbed_of_foreign (by decide)) "y/x".toList,
    two.mpr (undisturbed_of_foreign (by decide)) "y/x+z".toList⟩

/-- A field that spells a later token is changed. -/
theorem later_tokens_replaced :
    fill "x".toList [] none (("xy".toList).map ([·])) ["y".toList, "b".toList] = "b".toList ∧
      substitute (fieldFor? "xy".toList ["y".toList, "b".toList]) "x".toList = "y".toList ∧
      fillTwo "a+b".toList (("a".toList).map ([·])) ["b".toList] (("b".toList).map ([·]))
        ["2".toList] = "2+2".toList ∧
      substitute (fun c => (fieldFor? "a".toList ["b".toList] c).or
        (fieldFor? "b".toList ["2".toList] c)) "a+b".toList = "b+2".toList := by
  refine ⟨?_, by decide, ?_, by decide⟩
  · rw [fill_eq_substitute]
    decide
  · rw [fillTwo_eq_substitute]
    decide

end ListMarkup.Pattern
