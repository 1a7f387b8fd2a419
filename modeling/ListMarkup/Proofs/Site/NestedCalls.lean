import ListMarkup.Proofs.Site.EscapedArgument

/-!
# Calls nested to any depth

A call whose argument is a call whose argument is a call again is expanded from the outside
to the inside, and every call takes one of the levels that are left.  With fewer levels than
calls, the innermost calls stay as they are written, and none of those around them changes
what they stand for: undoing escapes does nothing to text without backslashes, and trimming
nothing to text between braces.  So the limit on nested expansions is exact: of any number of
calls, 100 are expanded (`Site.render_nestedUnescape`).
-/

set_option autoImplicit false

namespace ListMarkup

open Markup (Cascade Inert closingBraces openingBraces parse_call_of_cascade)

/-- A text inside so many calls that undo escapes, each the argument of the one around it. -/
def nestedUnescape (depth : Nat) (text : Text) : Text :=
  (List.replicate depth "\x7b\x7b#uesc:".toList).flatten ++ text ++
    (List.replicate depth "\x7d\x7d".toList).flatten

theorem nestedUnescape_zero (text : Text) : nestedUnescape 0 text = text :=
  List.append_nil text

/-- One more call around all others. -/
theorem nestedUnescape_succ (depth : Nat) (text : Text) :
    nestedUnescape (depth + 1) text =
      openingBraces 2 ++ ("#uesc:".toList ++ nestedUnescape depth text ++ closingBraces 2) := by
  have opening : "\x7b\x7b#uesc:".toList = openingBraces 2 ++ "#uesc:".toList := rfl
  have closing : "\x7d\x7d".toList = closingBraces 2 := rfl
  rw [nestedUnescape, nestedUnescape, List.replicate_succ, List.replicate_succ', List.flatten_cons,
    List.flatten_concat, opening, closing]
  simp only [List.append_assoc]

/-- What means something in markup or in escaping. -/
def specialCharacters : List Char := ['\x7b', '\x7d', '[', ']', '|', '\\']

section Plain

variable {text : Text} (plain : ∀ c ∈ text, c ∉ specialCharacters)

include plain

/-- Text without special characters is no markup. -/
theorem inert_of_plain : Inert text := by
  have inert : Inert (text ++ []) := by
    refine .plainText (fun c member => ?_) .nil
    have special := plain c member
    simp only [specialCharacters, Markup.Token.delimiters, List.mem_cons, List.not_mem_nil,
      or_false, not_or] at special ⊢
    obtain ⟨opens, closes, opensLink, closesLink, pipe, _⟩ := special
    exact ⟨⟨opens, closes, opensLink, closesLink⟩, pipe⟩
  rwa [List.append_nil] at inert

/-- Nested calls are the text of a call around them. -/
theorem cascade_nestedUnescape (depth : Nat) :
    Cascade ("#uesc:".toList ++ nestedUnescape depth text) := by
  have name : ∀ c ∈ "#uesc:".toList, c ∉ Markup.Token.delimiters ∧ c ≠ '|' :=
    List.all_iff_forall_prop.mp (by decide)
  induction depth with
  | zero =>
      rw [nestedUnescape_zero]
      refine .inert (.plainText name (inert_of_plain plain)) fun last => ?_
      have member := List.mem_of_getLast? last
      rcases List.mem_append.mp member with inName | inText
      · exact absurd inName (by decide)
      · exact plain _ inText (by decide)
  | succ depth ih =>
      rw [nestedUnescape_succ]
      exact .call (by decide) name ih

/-- Nested calls hold no backslash. -/
theorem unescape_nestedUnescape (depth : Nat) :
    (nestedUnescape depth text).unescape = nestedUnescape depth text := by
  refine Text.unescape_eq_self ?_
  induction depth with
  | zero =>
      rw [nestedUnescape_zero]
      exact fun member => plain _ member (by decide)
  | succ depth ih =>
      rw [nestedUnescape_succ]
      simp only [List.mem_append, not_or]
      exact ⟨by decide, ⟨by decide, ih⟩, by decide⟩

end Plain

/-- Nested calls begin and end with braces, unless there is no call at all. -/
theorem trim_nestedUnescape {text : Text} (trimmed : text.trim = text) (depth : Nat) :
    (nestedUnescape depth text).trim = nestedUnescape depth text := by
  cases depth with
  | zero => rwa [nestedUnescape_zero]
  | succ depth =>
      rw [nestedUnescape_succ]
      refine Text.trim_eq_self (fun c first => ?_) (fun c last => ?_)
      · cases first
        decide
      · rw [← List.append_assoc, List.getLast?_append] at last
        cases last
        decide

namespace Site

section

variable {site : Site}
  (builtin : site.functions.find? "uesc".toList = FunctionTable.builtin.find? "uesc".toList)
  {text : Text} (plain : ∀ c ∈ text, c ∉ specialCharacters) (trimmed : text.trim = text)

include builtin plain trimmed

/-- Every level that is left expands one of the calls around a text. -/
theorem expand_nestedUnescape (levels : Nat) :
    ∀ (depth : Nat) (frame : Frame),
      site.expand levels frame (nestedUnescape depth text) =
        nestedUnescape (depth - levels) text := by
  induction levels with
  | zero => exact fun _ _ => rfl
  | succ levels ih =>
      intro depth frame
      cases depth with
      | zero =>
          rw [Nat.zero_sub, nestedUnescape_zero, site.expand_of_inert (inert_of_plain plain)]
      | succ depth =>
          have parsed := parse_call_of_cascade (cascade_nestedUnescape plain depth) Nat.two_pos
          rw [Nat.add_sub_add_right, expand_succ, nestedUnescape_succ, parsed, List.flatMap_cons,
            expansionOf_unescape builtin, ih, trim_nestedUnescape trimmed,
            unescape_nestedUnescape plain]
          exact List.append_nil _

/-- **The limit on nested expansions is exact.**  Of calls that are nested around a text, the
outermost 100 are expanded, and the others stay as they are written. -/
theorem render_nestedUnescape (depth : Nat) :
    site.render (nestedUnescape depth text) =
      if depth ≤ 100 then text else nestedUnescape (depth - 100) text := by
  have expanded : site.render (nestedUnescape depth text) = nestedUnescape (depth - 100) text :=
    expand_nestedUnescape builtin plain trimmed 100 depth .outermost
  rw [expanded]
  split
  · rename_i few
    rw [Nat.sub_eq_zero_of_le few, nestedUnescape_zero]
  · rfl

end

/-- One call too many around a text. -/
theorem render_nestedUnescape_one_too_many :
    ∃ text : Text, text = "x = 1".toList ∧
      render {} (nestedUnescape 101 text) = "\x7b\x7b#uesc:x = 1\x7d\x7d".toList :=
  have plain : ∀ c ∈ "x = 1".toList, c ∉ specialCharacters :=
    List.all_iff_forall_prop.mp (by decide)
  ⟨_, rfl, render_nestedUnescape rfl plain (by decide) 101⟩

end Site

end ListMarkup
