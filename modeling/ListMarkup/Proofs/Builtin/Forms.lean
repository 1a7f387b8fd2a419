import ListMarkup.Proofs.Builtin.Presented

/-!
# Two forms of one function

Lists are sorted, filtered, mapped and freed of repetitions by a function of the short form and
by one of the long form.  A call of the long form that only joins its result gives the text
that a call of the short form gives for the same list, when both say the same about what is
done with it.  Each lemma lists what the two calls have to agree about; how their arguments
are arranged does not matter.
-/

set_option autoImplicit false

namespace ListMarkup

variable {expander : Expander}

theorem Stages.tidy_nil (stages : Stages) (strip sort : Bool) : stages.tidy strip sort [] = [] := by
  have distinct : ValueList.distinct [] true = [] := rfl
  have sorted : ValueList.sort [] stages.sortOptions = [] := List.mergeSort_nil
  rw [tidy, distinct, ite_self, sorted, ite_self]

theorem Stages.run_run (stages : Stages) (values : ValueList)
    (transform : ValueList → Expansion ValueList) :
    (stages.run values transform).run expander =
      stages.tidy stages.repetitions.stripAfter stages.sortAfter
        ((transform (stages.tidy stages.repetitions.stripBefore stages.sortBefore
          values)).run expander) := by
  rw [Stages.run, Expansion.run_bind, Expansion.run_pure]

theorem ValueList.filterBy_nil (operator : Operator) (fieldSeparator : Text) :
    ValueList.filterBy [] operator fieldSeparator = pure [] := rfl

theorem ValueList.mapBy_nil (operator : Operator) (fieldSeparator : Text) (keepEmpty : Bool) :
    ValueList.mapBy [] operator fieldSeparator keepEmpty = pure [] := rfl

namespace Builtin

/-! ## Operators and sets -/

section Operators

variable {arguments : Arguments}

/-- A template is called whatever else is given. -/
theorem run_operator?_of_template
    (template : arguments.value expander "template".toList ≠ []) :
    (operator? arguments).run expander =
      some (.calling (arguments.value expander "template".toList)) := by
  rw [operator?, Expansion.run_bind, Arguments.run_get, if_pos (by simpa using template),
    Expansion.run_pure]

theorem run_operator?_of_none (template : arguments.value expander "template".toList = [])
    (pattern : arguments.value expander "pattern".toList = []) :
    (operator? arguments).run expander = none := by
  rw [operator?, Expansion.run_bind, Arguments.run_get, template]
  simp only [List.isEmpty_nil, Bool.not_true, Bool.false_eq_true, if_false, Expansion.run_bind,
    Arguments.run_get, pattern, if_true, Expansion.run_pure]

/-- Without a field separator a pattern has the whole text as its one token. -/
theorem run_operator?_of_pattern (template : arguments.value expander "template".toList = [])
    (pattern : arguments.value expander "pattern".toList ≠ [])
    (noFields : arguments.value expander "fieldsep".toList = []) :
    (operator? arguments).run expander =
      some (.filling (arguments.value expander "pattern".toList)
        (arguments.value expander "indextoken".toList)
        [arguments.value expander "token".toList]) := by
  rw [operator?, Expansion.run_bind, Arguments.run_get, template]
  simp only [List.isEmpty_nil, Bool.not_true, Bool.false_eq_true, if_false, Expansion.run_bind,
    Arguments.run_get, List.isEmpty_iff, pattern, noFields, tokensOf, Bool.true_or, if_true,
    Expansion.run_pure]

theorem run_memberSet? (name separatorName caseName : Text) :
    (memberSet? arguments name separatorName caseName).run expander =
      if (arguments.value expander name).isEmpty then none
      else some (memberSet (arguments.value expander separatorName)
        (arguments.value expander name), asksForCase (arguments.value expander caseName)) := by
  rw [memberSet?, Expansion.run_bind, Arguments.run_get]
  split
  · rfl
  · simp only [Expansion.run_bind, Arguments.run_get, run_caseSensitivity, Expansion.run_pure]

/-- The set to keep decides before everything else. -/
theorem run_filterOperator?_of_keep (filled : arguments.value expander "keep".toList ≠ []) :
    (filterOperator? arguments).run expander =
      some (keeping
        (memberSet (arguments.value expander "keepsep".toList)
          (arguments.value expander "keep".toList))
        (asksForCase (arguments.value expander "keepcs".toList))) := by
  rw [filterOperator?, Expansion.run_bind, run_memberSet?, if_neg (by simpa using filled)]
  rfl

/-- The set to remove decides when there is none to keep. -/
theorem run_filterOperator?_of_remove (noKeep : arguments.value expander "keep".toList = [])
    (filled : arguments.value expander "remove".toList ≠ []) :
    (filterOperator? arguments).run expander =
      some (removing
        (memberSet (arguments.value expander "removesep".toList)
          (arguments.value expander "remove".toList))
        (asksForCase (arguments.value expander "removecs".toList))) := by
  rw [filterOperator?, Expansion.run_bind, run_memberSet?, noKeep, List.isEmpty_nil, if_pos rfl]
  simp only [Expansion.run_bind, run_memberSet?, List.isEmpty_iff, filled, if_false,
    Expansion.run_pure]

end Operators

/-! ## Calls about the same list -/

/-- A call of the short form, and one of the long form that is about the same list and only
joins its result, with the same separator. -/
structure SameList (expander : Expander) (short long : Arguments) : Prop where
  joins : long.output expander = .joining (short.resultSeparator expander)
  values : long.values expander = short.values expander

variable {short long : Arguments} (same : SameList expander short long)

include same

/-- Work that makes nothing of the empty list is presented as the short form does it. -/
theorem run_presented_joining {work : ValueList → Expansion ValueList}
    (nothing : (work []).run expander = []) :
    (presented long work).run expander =
      ((work (short.values expander)).run expander).toText (short.resultSeparator expander)
        none := by
  rw [run_presented, same.joins, same.values, Output.render_joining]
  split
  · rename_i empty
    rw [List.isEmpty_iff.mp empty, nothing]
    rfl
  · rfl

theorem run_listSort_eq_sort (operator : (operator? long).run expander = none)
    (repetitions : Repetitions.ofText (long.value expander "duplicates".toList) = {})
    (options : long.value expander "sortoptions".toList =
      short.value expander "sortoptions".toList) :
    (listSort long).run expander = (sort short).run expander := by
  rw [listSort, run_presented_joining same]
  · simp only [sort, Expansion.run_bind, Expansion.run_pure, Arguments.run_get, run_givenList,
      run_joined, operator, repetitions, options, Bool.false_eq_true, if_false]
  · simp only [Expansion.run_bind, Expansion.run_pure, Arguments.run_get, operator, repetitions,
      Bool.false_eq_true, if_false, ValueList.sort, List.mergeSort_nil]

theorem run_listDistinct_eq_distinct (operator : (operator? long).run expander = none)
    (caseWords : long.value expander "uniquecs".toList = short.value expander "csoption".toList) :
    (listDistinct long).run expander = (distinct short).run expander := by
  rw [listDistinct, run_presented_joining same]
  · simp only [distinct, Expansion.run_bind, Expansion.run_pure, run_givenList, run_joined,
      run_caseSensitivity, operator, caseWords]
  · simp only [Expansion.run_bind, Expansion.run_pure, run_caseSensitivity, operator]
    rfl

theorem run_listFilter {operator : Operator}
    (chosen : (filterOperator? long).run expander = some operator)
    (noFields : long.value expander "fieldsep".toList = []) :
    (listFilter long).run expander =
      (((short.values expander).filterBy operator []).run expander).toText
        (short.resultSeparator expander) none := by
  rw [listFilter, run_presented_joining same]
  · simp only [Expansion.run_bind, Arguments.run_get, chosen, noFields]
  · simp only [Expansion.run_bind, chosen, ValueList.filterBy_nil, Expansion.run_pure]

theorem run_listFilter_eq_keep (filled : short.value expander "values".toList ≠ [])
    (members : long.value expander "keep".toList = short.value expander "values".toList)
    (separator : long.value expander "keepsep".toList = short.value expander "valuesep".toList)
    (caseWords : long.value expander "keepcs".toList = short.value expander "csoption".toList)
    (noFields : long.value expander "fieldsep".toList = []) :
    (listFilter long).run expander = (keep short).run expander := by
  have chosen := run_filterOperator?_of_keep (members ▸ filled)
  rw [members, separator, caseWords] at chosen
  rw [run_listFilter same chosen noFields]
  simp only [keep, Expansion.run_bind, Arguments.run_get, run_caseSensitivity, run_givenList,
    run_joined]

theorem run_listFilter_eq_remove (noKeep : long.value expander "keep".toList = [])
    (filled : long.value expander "remove".toList ≠ [])
    (whole : long.value expander "removesep".toList = [])
    (member : (long.value expander "remove".toList).unescape =
      short.value expander "value".toList)
    (caseWords : long.value expander "removecs".toList = short.value expander "csoption".toList)
    (noFields : long.value expander "fieldsep".toList = []) :
    (listFilter long).run expander = (remove short).run expander := by
  have chosen := run_filterOperator?_of_remove noKeep filled
  rw [whole, memberSet, List.isEmpty_nil, if_pos rfl, member, caseWords] at chosen
  rw [run_listFilter same chosen noFields]
  simp only [remove, Expansion.run_bind, Arguments.run_get, run_caseSensitivity, run_givenList,
    run_joined]

/-- The results of a template are all kept, those of a pattern unless they are empty. -/
theorem run_listMap {operator : Operator} {keepEmpty : Bool}
    (keeps : (operator matches .calling _) = keepEmpty)
    (chosen : (operator? long).run expander = some operator)
    (noIndex : long.value expander "indextoken".toList = [])
    (noFields : long.value expander "fieldsep".toList = [])
    (stages : long.stages expander false = short.stages expander false) :
    (listMap long).run expander =
      (((short.stages expander false).run (short.values expander) fun values =>
        values.mapBy operator [] keepEmpty).run expander).toText
          (short.resultSeparator expander) none := by
  rw [listMap, run_presented_joining same]
  · subst keeps
    cases operator <;>
      simp only [Expansion.run_bind, Arguments.run_get, run_stages, noIndex, chosen, noFields,
        List.isEmpty_nil, Bool.not_true, stages]
  · simp only [Expansion.run_bind, Arguments.run_get, run_stages, noIndex, chosen, noFields,
      List.isEmpty_nil, Bool.not_true, Stages.run_run, Stages.tidy_nil, ValueList.mapBy_nil,
      Expansion.run_pure]

theorem run_listMap_eq_mapPattern (noTemplate : long.value expander "template".toList = [])
    (filled : short.value expander "pattern".toList ≠ [])
    (pattern : long.value expander "pattern".toList = short.value expander "pattern".toList)
    (token : long.value expander "token".toList = short.value expander "token".toList)
    (noIndex : long.value expander "indextoken".toList = [])
    (noFields : long.value expander "fieldsep".toList = [])
    (stages : long.stages expander false = short.stages expander false) :
    (listMap long).run expander = (mapPattern short).run expander := by
  have chosen := run_operator?_of_pattern noTemplate (pattern ▸ filled) noFields
  rw [pattern, noIndex, token] at chosen
  rw [run_listMap same rfl chosen noIndex noFields stages]
  simp only [mapPattern, Expansion.run_bind, Arguments.run_get, run_stages, run_givenList,
    run_joined]

theorem run_listMap_eq_mapTemplate (filled : short.value expander "template".toList ≠ [])
    (template : long.value expander "template".toList = short.value expander "template".toList)
    (noIndex : long.value expander "indextoken".toList = [])
    (noFields : long.value expander "fieldsep".toList = [])
    (stages : long.stages expander false = short.stages expander false) :
    (listMap long).run expander = (mapTemplate short).run expander := by
  have chosen := run_operator?_of_template (template ▸ filled)
  rw [template] at chosen
  rw [run_listMap same rfl chosen noIndex noFields stages]
  simp only [mapTemplate, Expansion.run_bind, Arguments.run_get, List.isEmpty_iff, filled,
    if_false, run_stages, run_givenList, run_joined]

end Builtin

end ListMarkup
