import ListMarkup.Proofs.Markup.Cascade
import ListMarkup.Proofs.Site.EscapedText

/-!
# Escaped text as an argument

Escaped text is inert (`Markup.Inert.escape`).  A call that undoes escapes therefore finds the
whole argument, expands it to itself and gives the text back, unless the text ends in a closing
brace.  That brace is read together with the two that end the call, which then end
the argument one brace early (`Site.render_unescape_escape`).
-/

set_option autoImplicit false

namespace ListMarkup

open Markup (Inert openingBraces closingBraces parse_call_of_cascade)
open Text (Escapable escape unescape written)

/-- Only a closing brace is written with a closing brace at the end. -/
theorem getLast?_escaped {text : Text}
    (last : (text.flatMap written).getLast? = some '\x7d') : text.getLast? = some '\x7d' := by
  rcases List.eq_nil_or_concat' text with rfl | ⟨before, c, rfl⟩
  · cases last
  · rw [Text.getLast?_flatMap_written] at last
    rw [List.getLast?_concat]
    rcases Text.written_cases c with ⟨code, coded, same⟩ | ⟨_, same⟩ | ⟨_, _, same⟩
    · rw [same] at last
      cases last
      cases (Text.code?_spec coded).1
      rfl
    · rw [same] at last
      exact absurd last (by decide)
    · rwa [same] at last

/-! ## Undoing escapes -/

namespace Site

section Unescape

variable {site : Site}
  (builtin : site.functions.find? "uesc".toList = FunctionTable.builtin.find? "uesc".toList)

include builtin

/-- The call that undoes escapes expands its argument, trims it and undoes its escapes. -/
theorem expansionOf_unescape (levels : Nat) (frame : Frame) (raw argument : Text) :
    site.expansionOf levels frame (.call ⟨raw, "#uesc:".toList ++ argument, []⟩) =
      (site.expand levels frame argument).trim.unescape := by
  have named : Markup.Call.function? ⟨raw, "#uesc:".toList ++ argument, []⟩ =
      some ("uesc".toList, [argument]) := rfl
  have called : site.functions.call? "uesc".toList [argument] =
      FunctionTable.builtin.call? "uesc".toList [argument] := by
    rw [FunctionTable.call?, builtin, FunctionTable.call?]
  rw [expansionOf, expandNode, Frame.expandNode, Frame.expandCall]
  simp only [named, called]
  rfl

/-- The call that undoes escapes, with an inert argument and up to one brace too many. -/
theorem render_unescape {argument : Text} (inert : Inert argument)
    (ends : argument.getLast? ≠ some '\x7d') (trimmed : argument.trim = argument) {left : Nat}
    (few : left < 2) :
    site.render ("\x7b\x7b#uesc:".toList ++ (argument ++ closingBraces (2 + left))) =
      unescape argument ++ closingBraces left := by
  have body : Inert ("#uesc:".toList ++ argument) :=
    .plainText (List.all_iff_forall_prop.mp (by decide)) inert
  have bodyEnds : ("#uesc:".toList ++ argument).getLast? ≠ some '\x7d' := by
    rw [List.getLast?_append]
    cases final : argument.getLast? with
    | none => decide
    | some c => rwa [final] at ends
  have braced : "\x7b\x7b#uesc:".toList ++ (argument ++ closingBraces (2 + left)) =
      openingBraces 2 ++ ("#uesc:".toList ++ argument ++ closingBraces (2 + left)) := rfl
  rw [render_eq, braced, parse_call_of_cascade (.inert body bodyEnds) few, List.flatMap_cons,
    expansionOf_unescape builtin, site.expand_of_inert inert, trimmed,
    flatMap_expansionOf_textBefore, List.flatMap_nil, List.append_nil]

/-- A text that does not end in a closing brace is given back. -/
theorem render_unescape_of_other {text : Text} (escapable : Escapable text)
    (other : text.getLast? ≠ some '\x7d') :
    site.render ("\x7b\x7b#uesc:".toList ++ (escape text ++ closingBraces 2)) = text := by
  have ends : (escape text).getLast? ≠ some '\x7d' := by
    rw [Text.escape_eq_flatMap escapable.unescaped]
    exact fun last => other (getLast?_escaped last)
  have whole := render_unescape builtin (.escape text) ends escapable.read.1 Nat.two_pos
  rw [escapable.read.2] at whole
  exact whole.trans (List.append_nil text)

/-- A closing brace at the end of a text is given back as it is escaped.  The call takes two
of three braces, and the argument is left with the backslash. -/
theorem render_unescape_of_brace {before : Text}
    (escapable : Escapable (before ++ ['\x7d'])) :
    site.render
        ("\x7b\x7b#uesc:".toList ++ (escape (before ++ ['\x7d']) ++ closingBraces 2)) =
      before ++ "\\\x7d".toList := by
  have shape : escape (before ++ ['\x7d']) = before.flatMap written ++ ['\\'] ++ ['\x7d'] := by
    rw [Text.escape_eq_flatMap escapable.unescaped, List.flatMap_append, List.append_assoc]
    rfl
  have inert : Inert (before.flatMap written ++ ['\\']) :=
    .escaped (.flatMap_written before) (.plain (by decide) (by decide) .nil)
  have ends : (before.flatMap written ++ ['\\']).getLast? = some '\\' := List.getLast?_concat
  have trimmed : Text.trim (before.flatMap written ++ ['\\']) =
      before.flatMap written ++ ['\\'] := by
    refine Text.trim_eq_self (fun c first => ?_) (fun c final => ?_)
    · refine Text.isWhiteSpace_head escapable c ?_
      rw [← Text.escape_eq_flatMap escapable.unescaped, shape]
      exact List.mem_head?_append_of_mem_head? first
    · cases ends.symm.trans final
      decide
  have whole := render_unescape builtin inert (by rw [ends]; decide) trimmed Nat.one_lt_two
  rw [Text.unescape_flatMap_written] at whole
  rw [shape, List.append_assoc _ ['\x7d']]
  exact whole.trans (List.append_assoc before _ _)

end Unescape

/-- **Undoing escapes in markup gives a text back, unless it ends in a closing brace.**  Such
a text keeps the backslash that is written before its last brace. -/
theorem render_unescape_escape {site : Site}
    (builtin : site.functions.find? "uesc".toList = FunctionTable.builtin.find? "uesc".toList)
    {text : Text} (escapable : Escapable text) :
    site.render ("\x7b\x7b#uesc:".toList ++ escape text ++ "\x7d\x7d".toList) =
      if text.getLast? = some '\x7d' then text.dropLast ++ "\\\x7d".toList else text := by
  rw [List.append_assoc]
  split
  · rename_i last
    obtain ⟨before, rfl⟩ := List.getLast?_eq_some_iff.mp last
    rw [List.dropLast_concat]
    exact render_unescape_of_brace builtin escapable
  · rename_i other
    exact render_unescape_of_other builtin escapable other

/-- Text with markup in it, and spaces at both ends. -/
theorem render_unescape_escape_markup :
    ∃ text : Text, text = " \x7b\x7bf|x\x7d\x7d [[y]] = \\ ".toList ∧
      render {} ("\x7b\x7b#uesc:".toList ++ escape text ++ "\x7d\x7d".toList) = text :=
  ⟨_, rfl, render_unescape_escape rfl (by decide)⟩

/-- A call in a text comes back with a backslash before its last brace. -/
theorem render_unescape_escape_brace :
    Escapable "\x7b\x7bx\x7d\x7d".toList ∧
      render {} ("\x7b\x7b#uesc:".toList ++ escape "\x7b\x7bx\x7d\x7d".toList ++
        "\x7d\x7d".toList) ≠ "\x7b\x7bx\x7d\x7d".toList := by
  decide +kernel

end Site

end ListMarkup
