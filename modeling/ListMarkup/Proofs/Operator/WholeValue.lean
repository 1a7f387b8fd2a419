import ListMarkup.Proofs.ValueList.Fields
import ListMarkup.Proofs.ValueList.Selection

/-!
# Whole values and their fields

An operator can be given a value whole, and then it takes shortcuts: a pattern with one token
does not look for fields, a pattern without tokens does not use any, and the empty pattern
stands for the value.  Or it can be given the fields of the value, as many as it can use.

A pattern that is not empty is filled in the same way from a value and from its fields, however
many tokens it has, whatever the tokens are and whatever separates the fields
(`Operator.applyValue_filling`).  The empty pattern stands for the whole value in one case and
for the first field in the other, so with tokens for two fields or more it tells apart every
value that has two fields.  It is the only such operator, and those are the only such values
(`Operator.applyValue_eq_apply_iff`).
-/

set_option autoImplicit false

namespace ListMarkup

/-- With two fields or more allowed, the first field is the whole value just if the separator
does not occur in it or is empty. -/
theorem headD_fieldsOf_eq_iff (separator value : Text) {limit : Nat} (two : 2 ≤ limit) :
    (fieldsOf separator value (some limit)).headD [] = value ↔
      separator = [] ∨ ¬ separator <:+: value := by
  by_cases empty : separator = []
  · exact ⟨fun _ => .inl empty, fun _ => by rw [fieldsOf, empty]; rfl⟩
  · obtain ⟨cuts, more⟩ : ∃ cuts, limit - 1 = cuts + 1 := ⟨limit - 2, by omega⟩
    rw [fieldsOf_some empty, more, or_iff_right empty, ← Text.cut?_eq_none_iff empty,
      Text.splitAtMost]
    cases found : Text.cut? separator value with
    | none => exact ⟨fun _ => rfl, fun _ => rfl⟩
    | some halves =>
        obtain ⟨before, after⟩ := halves
        refine ⟨fun whole => absurd ?_ empty, fun absent => absurd absent (Option.some_ne_none _)⟩
        have cut := Text.eq_append_of_cut? found
        rw [List.headD_cons] at whole
        rw [whole, List.self_eq_append_right] at cut
        exact (List.append_eq_nil_iff.mp cut).1

namespace Operator

/-- An operator does not have tokens for several fields and no pattern to put them into. -/
def WritesFields : Operator → Prop
  | .filling pattern _ tokens => 2 ≤ tokens.length → pattern ≠ []
  | .calling _ => True
  | .testing _ _ _ _ => True

instance : DecidablePred WritesFields
  | .filling pattern _ tokens => inferInstanceAs (Decidable (2 ≤ tokens.length → pattern ≠ []))
  | .calling _ => inferInstanceAs (Decidable True)
  | .testing _ _ _ _ => inferInstanceAs (Decidable True)

section Filling

variable {pattern : Text} (indexToken : Text) (tokens : List Text) (value separator : Text)
  (index : Option Nat)

/-- A pattern is filled from a value as from its fields, by shortcuts when it has one token or
none. -/
theorem applyValue_filling (notEmpty : pattern ≠ []) :
    (filling pattern indexToken tokens).applyValue value separator index =
      (filling pattern indexToken tokens).apply
        (fieldsOf separator value (some (max tokens.length 1))) index := by
  have filled : pattern.isEmpty = false := by simpa using notEmpty
  simp only [applyValue, apply, filled, Bool.false_eq_true, if_false]
  match tokens with
  | [] => simp only [Pattern.fillFieldsOf, filled, Bool.false_eq_true, if_false, Pattern.fill,
      Pattern.withFields]
  | [token] =>
      have whole : (fieldsOf separator value (some (max [token].length 1))).headD [] = value :=
        headD_fieldsOf_one separator value
      simp only [Pattern.fillValue, filled, Bool.false_eq_true, if_false, Pattern.fill,
        Pattern.withFields, whole]
  | first :: second :: others =>
      have limit : max (first :: second :: others).length 1 =
          (first :: second :: others).length := by
        simp only [List.length_cons]
        omega
      simp only [Pattern.fillFieldsOf, filled, Bool.false_eq_true, if_false, limit]

/-- The empty pattern stands for the value, or else for the first of its fields. -/
theorem applyValue_empty_iff :
    (filling [] indexToken tokens).applyValue value separator index =
        (filling [] indexToken tokens).apply
          (fieldsOf separator value (some (max tokens.length 1))) index ↔
      tokens.length < 2 ∨ separator = [] ∨ ¬ separator <:+: value := by
  have answers : (filling [] indexToken tokens).applyValue value separator index =
        (filling [] indexToken tokens).apply
          (fieldsOf separator value (some (max tokens.length 1))) index ↔
      (fieldsOf separator value (some (max tokens.length 1))).headD [] = value :=
    ⟨fun same => (Expansion.done.inj same).symm, fun same => congrArg Expansion.done same.symm⟩
  rw [answers]
  by_cases few : tokens.length < 2
  · rw [Nat.max_eq_right (by omega)]
    exact ⟨fun _ => .inl few, fun _ => headD_fieldsOf_one separator value⟩
  · rw [or_iff_right few]
    exact headD_fieldsOf_eq_iff separator value (by omega)

end Filling

/-! ## All operators -/

variable (operator : Operator) (value separator : Text) (index : Option Nat)

/-- A value and its fields come to the same unless the pattern is empty, has tokens for several
fields and meets a value of several fields. -/
theorem applyValue_eq_apply_iff :
    operator.applyValue value separator index =
        operator.apply (fieldsOf separator value operator.fieldLimit) index ↔
      operator.WritesFields ∨ separator = [] ∨ ¬ separator <:+: value := by
  cases operator with
  | filling pattern indexToken tokens =>
      by_cases empty : pattern = []
      · subst empty
        have writes : (filling [] indexToken tokens).WritesFields ↔ tokens.length < 2 := by
          simp [WritesFields]
        rw [writes]
        exact applyValue_empty_iff indexToken tokens value separator index
      · exact ⟨fun _ => .inl fun _ => empty,
          fun _ => applyValue_filling indexToken tokens value separator index empty⟩
  | calling name => exact ⟨fun _ => .inl trivial, fun _ => rfl⟩
  | testing members caseSensitive whenIn whenOut => exact ⟨fun _ => .inl trivial, fun _ => rfl⟩

variable {operator}

/-- **An operator does with a value what it does with the fields of the value.**  Unless it has
tokens for several fields and an empty pattern, both are one computation.  So with every
expander, also with one whose answers have effects, they come to the same and make the same
requests in the same order. -/
theorem applyValue_splits (writes : operator.WritesFields) :
    let fields := fieldsOf separator value operator.fieldLimit
    (∀ (m : Type → Type) [Monad m] (expander : Request → m Text),
      (operator.applyValue value separator index).runM expander =
        (operator.apply fields index).runM expander) ∧
      ∀ expander : Expander,
        (operator.applyValue value separator index).run expander =
            (operator.apply fields index).run expander ∧
          (operator.applyValue value separator index).requests expander =
            (operator.apply fields index).requests expander := by
  intro fields
  have same : operator.applyValue value separator index = operator.apply fields index :=
    (operator.applyValue_eq_apply_iff value separator index).mpr (.inl writes)
  rw [same]
  exact ⟨fun _ _ _ => rfl, fun _ => ⟨rfl, rfl⟩⟩

/-- A pattern with three tokens, one of them empty, and a value of four fields. -/
theorem applyValue_splits_row :
    let operator := filling "#. b(a)".toList "#".toList ["a".toList, [], "b".toList]
    let expander := Expander.ofMarkup fun text => '<' :: text ++ ['>']
    operator.WritesFields ∧
      (operator.applyValue "x-y-z-w".toList "-".toList (some 2)).run expander =
        "<2. z-w(x)>".toList ∧
      (operator.applyValue "x-y-z-w".toList "-".toList (some 2)).requests expander =
        [.markup "2. z-w(x)".toList] := by
  intro operator expander
  have writes : operator.WritesFields := by decide
  have fields : fieldsOf "-".toList "x-y-z-w".toList operator.fieldLimit =
      ["x".toList, "y".toList, "z-w".toList] := by decide
  have filled : Pattern.fill "#. b(a)".toList "#".toList (some 2) ["a".toList, [], "b".toList]
      ["x".toList, "y".toList, "z-w".toList] = "2. z-w(x)".toList := by decide +kernel
  have applied : operator.apply ["x".toList, "y".toList, "z-w".toList] (some 2) =
      Expansion.expand "2. z-w(x)".toList := congrArg Expansion.expandUnescaped filled
  obtain ⟨-, alike⟩ := applyValue_splits "x-y-z-w".toList "-".toList (some 2) writes
  obtain ⟨result, requests⟩ := alike expander
  rw [fields, applied] at result requests
  exact ⟨writes, result, requests⟩

/-- The empty pattern stands for the whole value, and else for the first of two fields. -/
example (expander : Expander) :
    let operator := filling [] [] ["a".toList, "b".toList]
    (operator.applyValue "x-y".toList "-".toList none).run expander = "x-y".toList ∧
      (operator.apply (fieldsOf "-".toList "x-y".toList operator.fieldLimit) none).run expander =
        "x".toList :=
  ⟨rfl, rfl⟩

end Operator

end ListMarkup
