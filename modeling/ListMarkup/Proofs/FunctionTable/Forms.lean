import ListMarkup.Proofs.Builtin.Forms
import ListMarkup.Proofs.FunctionTable.Answers

/-!
# The short forms and the long forms of built-in functions

A call of a short form is answered as the call of the long form that gives the same texts by
name, whatever the expander: `lstsrt` as `listsort` and `lstuniq` as `listunique`, `lstfltr` and
`lstrm` as `listfilter` when the text of the values is not blank
(`FunctionTable.sort_and_select_answered_alike`), and `lstmap` and `lstmaptemp` as `listmap` when
there is a pattern or a template (`FunctionTable.map_answered_alike`).

What the two bodies do with their arguments is compared in `Proofs.Builtin.Forms`.  How the
arguments are arranged does not depend on their texts, so here most conditions hold by
definition.

An empty separator is expanded like any other argument.  When the expander makes text of
nothing, `listfilter` cuts apart the one value that `lstrm` takes whole
(`FunctionTable.remove_answered_apart`), so for `lstrm` nothing has to come of the empty
separator.
-/

set_option autoImplicit false

namespace ListMarkup.FunctionTable

open Builtin

variable (expander : Expander) (list separator resultSeparator : Text)

/-! ## Forms that sort or select -/

theorem sort_answered (options : Text) :
    AnsweredAlike expander ("lstsrt", [list, separator, resultSeparator, options])
      ("listsort",
        [namedArgument "list" list, namedArgument "insep" separator,
          namedArgument "outsep" resultSeparator, namedArgument "sortoptions" options]) :=
  answeredAlike_of_run rfl rfl (run_listSort_eq_sort ⟨rfl, rfl⟩ rfl rfl rfl)

theorem distinct_answered (caseWords : Text) :
    AnsweredAlike expander ("lstuniq", [list, separator, resultSeparator, caseWords])
      ("listunique",
        [namedArgument "list" list, namedArgument "insep" separator,
          namedArgument "outsep" resultSeparator, namedArgument "uniquecs" caseWords]) :=
  answeredAlike_of_run rfl rfl (run_listDistinct_eq_distinct ⟨rfl, rfl⟩ rfl
    (Arguments.value_eq_of_given expander rfl rfl rfl rfl rfl))

/-- The values that are in a set. -/
theorem keep_answered {members : Text} (filled : (expander (.markup members)).trim ≠ [])
    (memberSeparator caseWords : Text) :
    AnsweredAlike expander
      ("lstfltr", [members, memberSeparator, list, separator, resultSeparator, caseWords])
      ("listfilter",
        [namedArgument "list" list, namedArgument "keep" members,
          namedArgument "keepsep" memberSeparator, namedArgument "keepcs" caseWords,
          namedArgument "insep" separator, namedArgument "outsep" resultSeparator]) := by
  refine answeredAlike_of_run rfl rfl (run_listFilter_eq_keep ⟨rfl, rfl⟩ filled ?_ ?_ ?_ rfl)
  -- The set, its separator and the words about case are given under other names.
  all_goals exact Arguments.value_eq_of_given expander rfl rfl rfl rfl rfl

/-- The values that are not a given one, which the empty separator leaves whole. -/
theorem remove_answered {value : Text} (filled : (expander (.markup value)).trim ≠ [])
    (whole : (expander (.markup [])).trim.unescape = []) (caseWords : Text) :
    AnsweredAlike expander ("lstrm", [value, list, separator, resultSeparator, caseWords])
      ("listfilter",
        [namedArgument "list" list, namedArgument "remove" value, namedArgument "removesep" [],
          namedArgument "removecs" caseWords, namedArgument "insep" separator,
          namedArgument "outsep" resultSeparator]) :=
  answeredAlike_of_run rfl rfl (run_listFilter_eq_remove ⟨rfl, rfl⟩ rfl filled whole rfl
    (Arguments.value_eq_of_given expander rfl rfl rfl rfl rfl) rfl)

/-- The short forms that sort, select and free a list of repetitions are answered as the long
forms are. -/
theorem sort_and_select_answered_alike (expander : Expander)
    (list separator resultSeparator : Text) :
    (∀ options : Text,
      AnsweredAlike expander ("lstsrt", [list, separator, resultSeparator, options])
        ("listsort",
          [namedArgument "list" list, namedArgument "insep" separator,
            namedArgument "outsep" resultSeparator, namedArgument "sortoptions" options])) ∧
    (∀ caseWords : Text,
      AnsweredAlike expander ("lstuniq", [list, separator, resultSeparator, caseWords])
        ("listunique",
          [namedArgument "list" list, namedArgument "insep" separator,
            namedArgument "outsep" resultSeparator, namedArgument "uniquecs" caseWords])) ∧
    (∀ members memberSeparator caseWords : Text, (expander (.markup members)).trim ≠ [] →
      AnsweredAlike expander
        ("lstfltr", [members, memberSeparator, list, separator, resultSeparator, caseWords])
        ("listfilter",
          [namedArgument "list" list, namedArgument "keep" members,
            namedArgument "keepsep" memberSeparator, namedArgument "keepcs" caseWords,
            namedArgument "insep" separator, namedArgument "outsep" resultSeparator])) ∧
    (∀ value caseWords : Text, (expander (.markup value)).trim ≠ [] →
      (expander (.markup [])).trim.unescape = [] →
      AnsweredAlike expander ("lstrm", [value, list, separator, resultSeparator, caseWords])
        ("listfilter",
          [namedArgument "list" list, namedArgument "remove" value,
            namedArgument "removesep" [], namedArgument "removecs" caseWords,
            namedArgument "insep" separator, namedArgument "outsep" resultSeparator])) := by
  refine ⟨?sorted, ?distinct, ?kept, ?removed⟩
  case sorted => exact sort_answered expander list separator resultSeparator
  case distinct => exact distinct_answered expander list separator resultSeparator
  case kept =>
    intro members memberSeparator caseWords filled
    exact keep_answered expander list separator resultSeparator filled memberSeparator caseWords
  case removed =>
    intro value caseWords filled whole
    exact remove_answered expander list separator resultSeparator filled whole caseWords

/-- The value `b` kept, and removed, by an expander that leaves everything as it is. -/
theorem b_selected_alike :
    AnsweredAlike (Expander.ofMarkup id)
      ("lstfltr", ["b".toList, ",".toList, "b, a".toList, ",".toList, ";".toList, []])
      ("listfilter",
        [namedArgument "list" "b, a".toList, namedArgument "keep" "b".toList,
          namedArgument "keepsep" ",".toList, namedArgument "keepcs" [],
          namedArgument "insep" ",".toList, namedArgument "outsep" ";".toList]) ∧
    AnsweredAlike (Expander.ofMarkup id)
      ("lstrm", ["b".toList, "b, a".toList, ",".toList, ";".toList, []])
      ("listfilter",
        [namedArgument "list" "b, a".toList, namedArgument "remove" "b".toList,
          namedArgument "removesep" [], namedArgument "removecs" [],
          namedArgument "insep" ",".toList, namedArgument "outsep" ";".toList]) := by
  obtain ⟨-, -, kept, removed⟩ := sort_and_select_answered_alike (Expander.ofMarkup id)
    "b, a".toList ",".toList ";".toList
  exact ⟨kept "b".toList ",".toList [] (by decide),
    removed "b".toList [] (by decide) (by decide)⟩

/-- An expander that makes text of nothing. -/
def bracketing : Expander :=
  Expander.ofMarkup fun text => '<' :: text ++ ['>']

/-- The separator that is given empty comes back as `<>`, so that `listfilter` removes the
values `<x` and `y>` and leaves the one that `lstrm` removes. -/
theorem remove_answered_apart :
    (bracketing (.markup "x<>y".toList)).trim ≠ [] ∧
    ¬ AnsweredAlike bracketing
      ("lstrm", ["x<>y".toList, "x<>y".toList, ",".toList, ",".toList, []])
      ("listfilter",
        [namedArgument "list" "x<>y".toList, namedArgument "remove" "x<>y".toList,
          namedArgument "removesep" [], namedArgument "removecs" [],
          namedArgument "insep" ",".toList, namedArgument "outsep" ",".toList]) := by
  have removed : builtin.answer? bracketing "lstrm"
      ["x<>y".toList, "x<>y".toList, ",".toList, ",".toList, []] = some [] := by
    decide +kernel
  have left : builtin.answer? bracketing "listfilter"
      [namedArgument "list" "x<>y".toList, namedArgument "remove" "x<>y".toList,
        namedArgument "removesep" [], namedArgument "removecs" [],
        namedArgument "insep" ",".toList, namedArgument "outsep" ",".toList] =
      some "<x<>y>".toList := by
    decide +kernel
  refine ⟨by decide, ?_⟩
  rintro ⟨text, short, long⟩
  have nothing : text = [] := Option.some.inj (short.symm.trans removed)
  have something : text = "<x<>y>".toList := Option.some.inj (long.symm.trans left)
  exact absurd (nothing.symm.trans something) (by decide)

/-! ## Forms that map -/

/-- A pattern filled with every value. -/
theorem mapPattern_answered {pattern : Text} (filled : pattern.trim ≠ [])
    (token mode options : Text) :
    AnsweredAlike expander
      ("lstmap", [list, separator, token, pattern, resultSeparator, mode, options])
      ("listmap",
        [namedArgument "list" list, namedArgument "insep" separator, namedArgument "token" token,
          namedArgument "pattern" pattern, namedArgument "outsep" resultSeparator,
          namedArgument "sortmode" mode, namedArgument "sortoptions" options]) := by
  refine answeredAlike_of_run rfl rfl
    (run_listMap_eq_mapPattern ⟨rfl, rfl⟩ rfl filled ?_ ?_ rfl rfl rfl)
  -- Other defaults belong to the pattern and to the token.
  all_goals exact Arguments.value_eq_of_given expander rfl rfl rfl rfl rfl

/-- A template called on every value. -/
theorem mapTemplate_answered {template : Text}
    (filled : (expander (.markup template)).trim.unescape ≠ []) (mode options : Text) :
    AnsweredAlike expander
      ("lstmaptemp", [list, template, separator, resultSeparator, mode, options])
      ("listmap",
        [namedArgument "list" list, namedArgument "template" template,
          namedArgument "insep" separator, namedArgument "outsep" resultSeparator,
          namedArgument "sortmode" mode, namedArgument "sortoptions" options]) :=
  answeredAlike_of_run rfl rfl (run_listMap_eq_mapTemplate ⟨rfl, rfl⟩ filled rfl rfl rfl rfl)

/-- The short forms that map are answered as the long form is. -/
theorem map_answered_alike (expander : Expander)
    (list separator resultSeparator mode options : Text) :
    (∀ token pattern : Text, pattern.trim ≠ [] →
      AnsweredAlike expander
        ("lstmap", [list, separator, token, pattern, resultSeparator, mode, options])
        ("listmap",
          [namedArgument "list" list, namedArgument "insep" separator,
            namedArgument "token" token, namedArgument "pattern" pattern,
            namedArgument "outsep" resultSeparator, namedArgument "sortmode" mode,
            namedArgument "sortoptions" options])) ∧
    (∀ template : Text, (expander (.markup template)).trim.unescape ≠ [] →
      AnsweredAlike expander
        ("lstmaptemp", [list, template, separator, resultSeparator, mode, options])
        ("listmap",
          [namedArgument "list" list, namedArgument "template" template,
            namedArgument "insep" separator, namedArgument "outsep" resultSeparator,
            namedArgument "sortmode" mode, namedArgument "sortoptions" options])) := by
  constructor
  · intro token pattern filled
    exact mapPattern_answered expander list separator resultSeparator filled token mode options
  · intro template filled
    exact mapTemplate_answered expander list separator resultSeparator filled mode options

/-- A list filled into a pattern, and given to a template, in order. -/
theorem values_mapped_alike :
    AnsweredAlike (Expander.ofMarkup id)
      ("lstmap",
        ["b, a".toList, ",".toList, "x".toList, "(x)".toList, ";".toList, "sort".toList, []])
      ("listmap",
        [namedArgument "list" "b, a".toList, namedArgument "insep" ",".toList,
          namedArgument "token" "x".toList, namedArgument "pattern" "(x)".toList,
          namedArgument "outsep" ";".toList, namedArgument "sortmode" "sort".toList,
          namedArgument "sortoptions" []]) ∧
    AnsweredAlike (Expander.ofMarkup id)
      ("lstmaptemp",
        ["b, a".toList, "T".toList, ",".toList, ";".toList, "sort".toList, []])
      ("listmap",
        [namedArgument "list" "b, a".toList, namedArgument "template" "T".toList,
          namedArgument "insep" ",".toList, namedArgument "outsep" ";".toList,
          namedArgument "sortmode" "sort".toList, namedArgument "sortoptions" []]) := by
  obtain ⟨pattern, template⟩ := map_answered_alike (Expander.ofMarkup id) "b, a".toList
    ",".toList ";".toList "sort".toList []
  exact ⟨pattern "x".toList "(x)".toList (by decide), template "T".toList (by decide)⟩

end ListMarkup.FunctionTable
