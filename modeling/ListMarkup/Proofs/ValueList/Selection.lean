import ListMarkup.Operator
import ListMarkup.Proofs.ValueList.Sorting

/-!
# Selection

An operator that tests for membership asks for nothing, and it looks at the whole value
whatever the separator of fields.  Filtering by it is a selection
(`ValueList.filterBy_testing`), so it may be done before sorting or after it
(`ValueList.filterBy_sort`).
-/

set_option autoImplicit false

namespace ListMarkup

theorem headD_fieldsOf_one (separator value : Text) :
    (fieldsOf separator value (some 1)).headD [] = value := by
  unfold fieldsOf
  split
  · rfl
  · show (Text.splitAtMost separator 0 value).headD [] = value
    rw [Text.splitAtMost, List.headD_cons]

/-- Results that are known without asking. -/
theorem Operator.results_of_pure {operator : Operator} {fieldSeparator : Text}
    {answer : Text → Text}
    (known : ∀ value index, operator.applyValue value fieldSeparator index = pure (answer value))
    (values : ValueList) :
    operator.results fieldSeparator values =
      pure (values.map fun value => (answer value, value)) := by
  have unplaced : values.zipIdx.map (fun placed => (answer placed.1, placed.1)) =
      (values.zipIdx.map Prod.fst).map fun value => (answer value, value) := by
    rw [List.map_map]
    rfl
  simp only [results, known, pure_bind]
  rw [List.mapM_pure, unplaced, List.zipIdx_map_fst]

namespace ValueList

/-- Values are removed one by one when the results are known without asking. -/
theorem filterBy_of_pure {operator : Operator} {fieldSeparator : Text} {answer : Text → Text}
    (known : ∀ value index, operator.applyValue value fieldSeparator index = pure (answer value))
    (values : ValueList) :
    values.filterBy operator fieldSeparator =
      pure (values.filter fun value => (answer value).lower != removal) := by
  rw [filterBy, Operator.results_of_pure known, pure_bind, List.filter_map, List.map_map]
  exact congrArg pure (List.map_id _)

variable (members : ValueList) (caseSensitive : Bool) (whenIn whenOut fieldSeparator : Text)

/-- A test for membership is a selection. -/
theorem filterBy_testing (values : ValueList) :
    values.filterBy (.testing members caseSensitive whenIn whenOut) fieldSeparator =
      pure (values.filter fun value =>
        (if members.includes caseSensitive value then whenIn else whenOut).lower != removal) := by
  refine filterBy_of_pure (fun value index => ?_) values
  show pure (if members.includes caseSensitive
    ((fieldsOf fieldSeparator value (some 1)).headD []) then whenIn else whenOut) = _
  rw [headD_fieldsOf_one]

/-- Values may be filtered by a test for membership before sorting or after it. -/
theorem filterBy_sort (options : SortOptions) (values : ValueList) :
    (values.sort options).filterBy (.testing members caseSensitive whenIn whenOut)
        fieldSeparator =
      (fun kept => kept.sort options) <$>
        values.filterBy (.testing members caseSensitive whenIn whenOut) fieldSeparator := by
  rw [filterBy_testing, filterBy_testing, map_pure, sort_filter]

end ValueList

end ListMarkup
