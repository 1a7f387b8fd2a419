import ListMarkup.Proofs.Text.Separator
import ListMarkup.ValueList.Basic

/-!
# The fields of a value

The fields of a value are the pieces between separators.  A limit on their number stops the
cutting early: the first fields are the same as without the limit, and the last one holds all
further fields as they are joined in the value (`fieldsOf_limited`).  So nothing is lost, even
when what is left begins inside an occurrence of the separator that overlaps an earlier one.
-/

set_option autoImplicit false

namespace ListMarkup

section

variable {separator : Text} (notEmpty : separator ≠ []) (value : Text)

include notEmpty

/-- Fields are the pieces between separators. -/
theorem fieldsOf_none : fieldsOf separator value none = Text.split separator value := by
  rw [fieldsOf, if_neg (by simpa using notEmpty)]

/-- A limit is one more than the number of cuts. -/
theorem fieldsOf_some (limit : Nat) :
    fieldsOf separator value (some limit) = Text.splitAtMost separator (limit - 1) value := by
  rw [fieldsOf, if_neg (by simpa using notEmpty)]

/-- The fields after the last cut are left joined. -/
theorem fieldsOf_some_eq (limit : Nat) :
    let whole := fieldsOf separator value none
    fieldsOf separator value (some limit) =
      whole.take (min (limit - 1) (whole.length - 1)) ++
        [Text.join separator (whole.drop (min (limit - 1) (whole.length - 1)))] := by
  intro whole
  have isWhole : whole = Text.split separator value := fieldsOf_none notEmpty value
  rw [fieldsOf_some notEmpty, isWhole]
  exact Text.splitAtMost_eq notEmpty (limit - 1) value

theorem length_fieldsOf_some (limit : Nat) :
    (fieldsOf separator value (some limit)).length =
      min (max limit 1) (fieldsOf separator value none).length := by
  have positive : 0 < (fieldsOf separator value none).length := by
    rw [fieldsOf_none notEmpty]
    exact List.length_pos_iff.mpr (Text.split_ne_nil separator value)
  rw [fieldsOf_some_eq notEmpty, List.length_append, List.length_take, List.length_singleton]
  omega

end

/-- **A limit on the number of fields.**  The fields joined are the value.  There are as many
fields as without the limit, or as many as the limit allows, and always one.  All but the last
are fields without the limit, in which the separator does not occur, and the last is made of the
other fields joined. -/
theorem fieldsOf_limited {separator : Text} (notEmpty : separator ≠ []) (value : Text)
    (limit : Nat) :
    Text.join separator (fieldsOf separator value (some limit)) = value ∧
      let whole := fieldsOf separator value none
      let fields := fieldsOf separator value (some limit)
      fields.length = min (max limit 1) whole.length ∧
      (∀ field ∈ fields.dropLast, ¬ separator <:+: field) ∧
      fields.dropLast = whole.take (fields.length - 1) ∧
      fields.getLast? = some (Text.join separator (whole.drop (fields.length - 1))) := by
  have joined : Text.join separator (fieldsOf separator value (some limit)) = value := by
    rw [fieldsOf_some notEmpty, Text.join_splitAtMost notEmpty]
  refine ⟨joined, ?_⟩
  intro whole fields
  have number : fields.length = min (max limit 1) whole.length :=
    length_fieldsOf_some notEmpty value limit
  have shape : fields = whole.take (fields.length - 1) ++
      [Text.join separator (whole.drop (fields.length - 1))] := by
    have cuts : fields.length - 1 = min (limit - 1) (whole.length - 1) := by omega
    rw [cuts]
    exact fieldsOf_some_eq notEmpty value limit
  have first : fields.dropLast = whole.take (fields.length - 1) := by
    conv_lhs => rw [shape, List.dropLast_concat]
  refine ⟨number, ?apart, first, ?last⟩
  case apart =>
    intro field member
    rw [first] at member
    have isField : field ∈ Text.split separator value :=
      fieldsOf_none notEmpty value ▸ List.mem_of_mem_take member
    exact (Text.mem_split notEmpty isField).2
  case last => conv_lhs => rw [shape, List.getLast?_concat]

/-- Two fields of `xaaayaaz`, cut at `aa`, of which the last one begins inside an occurrence of
the separator that overlaps the one before it. -/
theorem fieldsOf_limited_overlapping :
    "aa".toList ≠ [] ∧
      (fieldsOf "aa".toList "xaaayaaz".toList (some 2)).length = 2 ∧
      (fieldsOf "aa".toList "xaaayaaz".toList (some 2)).dropLast = ["x".toList] ∧
      (fieldsOf "aa".toList "xaaayaaz".toList (some 2)).getLast? = some "ayaaz".toList ∧
      Text.join "aa".toList (fieldsOf "aa".toList "xaaayaaz".toList (some 2)) =
        "xaaayaaz".toList := by
  have notEmpty : "aa".toList ≠ [] := by decide
  have whole : fieldsOf "aa".toList "xaaayaaz".toList none =
      ["x".toList, "ay".toList, "z".toList] := by cbv
  obtain ⟨joined, number, -, first, last⟩ := fieldsOf_limited notEmpty "xaaayaaz".toList 2
  rw [whole] at number first last
  have two : (fieldsOf "aa".toList "xaaayaaz".toList (some 2)).length = 2 := number
  rw [two] at first last
  exact ⟨notEmpty, two, first, last, joined⟩

end ListMarkup
