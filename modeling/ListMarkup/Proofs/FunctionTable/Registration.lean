import ListMarkup.FunctionTable
import Mathlib.Data.List.Find
import Mathlib.Data.List.Nodup

/-!
# Registering functions

A function takes the place of the one that has exactly its name, so names never repeat
(`FunctionTable.Reached.names_nodup`).  Looking a function up ignores the case of ASCII letters,
and finds the oldest function.  A function that is registered beside one with another spelling
of its name is therefore hidden by it, and the table then has two names that only differ in
case.  Without another spelling in the table the new function is found under every spelling,
and the names of the table stay apart (`FunctionTable.register_reached`).
-/

set_option autoImplicit false

namespace ListMarkup

namespace Text

theorem equalsIgnoringAsciiCase_iff {left right : Text} :
    left.equalsIgnoringAsciiCase right = true ↔ left.map Char.toLower = right.map Char.toLower :=
  beq_iff_eq

theorem equalsIgnoringAsciiCase_comm (left right : Text) :
    left.equalsIgnoringAsciiCase right = right.equalsIgnoringAsciiCase left :=
  Bool.beq_comm

/-- Spellings of one name are equal to the same names. -/
theorem equalsIgnoringAsciiCase_congr {left right : Text}
    (same : left.equalsIgnoringAsciiCase right = true) (other : Text) :
    other.equalsIgnoringAsciiCase left = other.equalsIgnoringAsciiCase right := by
  unfold equalsIgnoringAsciiCase
  rw [equalsIgnoringAsciiCase_iff.mp same]

end Text

namespace FunctionTable

/-- The oldest function whose name is another spelling of a name. -/
def otherSpelling? (table : FunctionTable) (name : Text) : Option ParserFunction :=
  List.find? (fun other => other.name != name && other.name.equalsIgnoringAsciiCase name) table

/-- No two names in the table are spellings of each other. -/
def SpelledApart (table : FunctionTable) : Prop :=
  table.Pairwise fun first second => ¬ first.name.equalsIgnoringAsciiCase second.name = true

instance (table : FunctionTable) : Decidable table.SpelledApart :=
  inferInstanceAs (Decidable (table.Pairwise _))

variable {table : FunctionTable} {function : ParserFunction}

theorem otherSpelling?_eq_none_iff {name : Text} :
    table.otherSpelling? name = none ↔
      ∀ other ∈ table, other.name ≠ name → ¬ other.name.equalsIgnoringAsciiCase name = true := by
  simp only [otherSpelling?, List.find?_eq_none, Bool.and_eq_true, bne_iff_ne, not_and]

/-! ## One registration -/

section Lookup

variable (table function)

/-- The oldest function with another name is found, and then the new one. -/
theorem find?_register (spelling : Text) :
    (table.register function).find? spelling =
      (List.find? (fun other => other.name != function.name &&
          other.name.equalsIgnoringAsciiCase spelling.trim) table).or
        (if function.name.equalsIgnoringAsciiCase spelling.trim = true then some function
          else none) := by
  rw [register, find?, List.find?_append, List.find?_filter, List.find?_singleton]
  simp only [Bool.decide_and, Bool.decide_eq_true]

/-- Under its name a function is found unless another spelling is older. -/
theorem find?_register_of_spelling {spelling : Text}
    (same : function.name.equalsIgnoringAsciiCase spelling.trim = true) :
    (table.register function).find? spelling =
      some ((table.otherSpelling? function.name).getD function) := by
  have asName := Text.equalsIgnoringAsciiCase_congr same
  rw [find?_register, if_pos same]
  simp only [← asName]
  exact Option.or_some

/-- Registering a function does nothing to other names. -/
theorem find?_register_of_other {spelling : Text}
    (other : ¬ function.name.equalsIgnoringAsciiCase spelling.trim = true) :
    (table.register function).find? spelling = table.find? spelling := by
  rw [find?_register, if_neg other, Option.or_none, find?]
  refine List.find?_congr fun candidate _ => ?_
  by_cases replaced : candidate.name = function.name
  · rw [replaced, Bool.eq_false_iff.mpr other, Bool.and_false]
  · rw [bne_iff_ne.mpr replaced, Bool.true_and]

end Lookup

theorem names_register :
    (table.register function).names =
      (table.names.filter fun name => name != function.name) ++ [function.name] := by
  rw [names, register, List.map_append, names, List.filter_map]
  rfl

theorem names_nodup_register (unique : table.names.Nodup) :
    (table.register function).names.Nodup := by
  rw [names_register, List.nodup_append]
  refine ⟨unique.filter _, List.nodup_singleton _, fun name kept last isLast => ?_⟩
  rw [List.mem_singleton.mp isLast]
  exact bne_iff_ne.mp (List.mem_filter.mp kept).2

/-- Names stay apart exactly when they are and no other spelling of the new one is there. -/
theorem spelledApart_register (unique : table.names.Nodup) :
    (table.register function).SpelledApart ↔
      table.SpelledApart ∧ table.otherSpelling? function.name = none := by
  have distinct : table.Pairwise fun first second => first.name ≠ second.name :=
    List.pairwise_map.mp unique
  rw [otherSpelling?_eq_none_iff, SpelledApart, register, List.pairwise_append,
    List.pairwise_filter]
  constructor
  · rintro ⟨others, -, last⟩
    have alone : ∀ other ∈ table, other.name ≠ function.name →
        ¬ other.name.equalsIgnoringAsciiCase function.name = true := fun other member differs =>
      last other (List.mem_filter.mpr ⟨member, bne_iff_ne.mpr differs⟩) function
        List.mem_cons_self
    refine ⟨(others.and distinct).imp_of_mem ?_, alone⟩
    rintro first second isFirst isSecond ⟨apart, differ⟩
    -- A function that is replaced has the new name, so it is apart from what is kept.
    by_cases isReplaced : first.name = function.name
    · rw [isReplaced, Text.equalsIgnoringAsciiCase_comm]
      exact alone second isSecond fun same => differ (isReplaced.trans same.symm)
    · by_cases isReplaced' : second.name = function.name
      · rw [isReplaced']
        exact alone first isFirst isReplaced
      · exact apart (bne_iff_ne.mpr isReplaced) (bne_iff_ne.mpr isReplaced')
  · rintro ⟨apart, alone⟩
    refine ⟨apart.imp fun apart _ _ => apart, List.pairwise_singleton _ _, ?_⟩
    intro other kept last isLast
    obtain ⟨member, differs⟩ := List.mem_filter.mp kept
    rw [List.mem_singleton.mp isLast]
    exact alone other member (bne_iff_ne.mp differs)

/-! ## Any number of registrations -/

/-- Tables that come of registering functions in the empty table or in the one with the
functions that are always there. -/
inductive Reached : FunctionTable → Prop
  | empty : Reached []
  | builtin : Reached builtin
  | register {table : FunctionTable} (reached : Reached table) (function : ParserFunction) :
      Reached (table.register function)

theorem Reached.names_nodup (reached : Reached table) : table.names.Nodup := by
  induction reached with
  | empty => exact List.nodup_nil
  | builtin => decide
  | register _ _ ih => exact names_nodup_register ih

/-- What registering a function does to a table. -/
theorem register_reached (reached : Reached table) (trimmed : function.name.trim = function.name) :
    (∀ spelling : Text, function.name.trim.equalsIgnoringAsciiCase spelling.trim = true →
      (table.register function).find? spelling =
        some ((table.otherSpelling? function.name).getD function)) ∧
    ((table.register function).SpelledApart ↔
      table.SpelledApart ∧ table.otherSpelling? function.name = none) ∧
    (∀ spelling : Text, ¬ function.name.trim.equalsIgnoringAsciiCase spelling.trim = true →
      (table.register function).find? spelling = table.find? spelling) ∧
    (table.register function).names.Nodup := by
  rw [trimmed]
  refine ⟨fun spelling => find?_register_of_spelling table function,
    spelledApart_register reached.names_nodup,
    fun spelling => find?_register_of_other table function, ?_⟩
  exact (reached.register function).names_nodup

/-- The function `lc` under another name. -/
def lowerCaseUnder (name : String) : ParserFunction :=
  ⟨name.toList, Builtin.oneTextSignature, Builtin.transformed Text.lower⟩

/-- A function under a new name. -/
theorem register_lower_found :
    (builtin.register (lowerCaseUnder "lower")).find? " LOWER ".toList =
        some (lowerCaseUnder "lower") ∧
      (builtin.register (lowerCaseUnder "lower")).SpelledApart := by
  obtain ⟨found, apart, -, -⟩ := register_reached .builtin
    (by decide : (lowerCaseUnder "lower").name.trim = (lowerCaseUnder "lower").name)
  exact ⟨found " LOWER ".toList (by decide), apart.mpr ⟨by decide, rfl⟩⟩

/-- The function `uc` hides one that is registered as `UC`. -/
theorem register_UC_hidden :
    ((builtin.register (lowerCaseUnder "UC")).find? "UC".toList).map ParserFunction.name =
        some "uc".toList ∧
      (builtin.register (lowerCaseUnder "UC")).find? "UC".toList ≠ some (lowerCaseUnder "UC") ∧
      ¬ (builtin.register (lowerCaseUnder "UC")).SpelledApart := by
  have hidden : ((builtin.register (lowerCaseUnder "UC")).find? "UC".toList).map
      ParserFunction.name = some "uc".toList := by
    decide
  refine ⟨hidden, fun found => ?_, by decide⟩
  rw [found] at hidden
  exact absurd hidden (by decide)

end FunctionTable

end ListMarkup
