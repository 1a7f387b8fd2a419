import ListMarkup.Proofs.Markup.UnmarkedParts
import ListMarkup.Proofs.Site.Bindings
import ListMarkup.Proofs.Site.Rendering
import ListMarkup.Proofs.Text.Trimming

/-!
# Two ways to call a template

A function that wants the result of a template has its arguments at hand, expanded already.  It
may ask for the result, and the arguments are bound as they are.  Or it may write the call as
markup and ask for the expansion: then the call is read, its arguments are taken apart at their
first equals signs, and names and texts are expanded once more and trimmed.

When the call is plain (`TemplateCall.Plain`), with arguments that hold no markup, have no white
space around them and no equals sign in their names, both ways bind the same, whatever names
come twice and whichever of them are numbers of positional arguments (`callTemplate_alike`).
Every argument is written under its name, positional ones under their numbers, so all that is
read are named arguments, of which the last of a name prevails.

What is left is the count: the markup is an expansion of its own, so the body of the template
has one level less.
-/

set_option autoImplicit false

namespace ListMarkup

open Markup (Call Unmarked openingBraces closingBraces parse parse_call_of_unmarked)

/-! ## Plain calls -/

/-- An argument that is read back as it is written. -/
structure PlainArgument (argument : Text × Text) : Prop where
  name : Unmarked argument.1
  noEquals : '=' ∉ argument.1
  trimmedName : argument.1.trim = argument.1
  text : Unmarked argument.2
  trimmedText : argument.2.trim = argument.2

instance (argument : Text × Text) : Decidable (PlainArgument argument) :=
  decidable_of_iff
    (Unmarked argument.1 ∧ '=' ∉ argument.1 ∧ argument.1.trim = argument.1 ∧
      Unmarked argument.2 ∧ argument.2.trim = argument.2)
    ⟨fun ⟨name, noEquals, trimmedName, text, trimmedText⟩ =>
        ⟨name, noEquals, trimmedName, text, trimmedText⟩,
      fun ⟨name, noEquals, trimmedName, text, trimmedText⟩ =>
        ⟨name, noEquals, trimmedName, text, trimmedText⟩⟩

/-- A call of a template, not of a function, that is read back as it is written. -/
structure TemplateCall.Plain (call : TemplateCall) : Prop where
  name : Unmarked call.name
  noFunction : call.name.trimStart.head? ≠ some '#'
  positional : ∀ text ∈ call.positional, Unmarked text ∧ text.trim = text
  named : ∀ argument ∈ call.named, PlainArgument argument

/-- An argument as it is written, its name before its text. -/
def writeArgument (argument : Text × Text) : Text :=
  argument.1 ++ '=' :: argument.2

namespace PlainArgument

/-- A text under a number. -/
theorem numbered (number : Nat) {text : Text} (unmarked : Unmarked text)
    (trimmed : text.trim = text) : PlainArgument (Text.ofNat number, text) := by
  have foreign : ∀ c ∈ Text.ofNat number, c ∉ '=' :: '|' :: Markup.Token.delimiters := by
    intro c member special
    have digit := Text.isDigit_of_mem_ofNat member
    have noDigit : ∀ c ∈ '=' :: '|' :: Markup.Token.delimiters, ¬ c.isDigit = true :=
      List.all_iff_forall_prop.mp (by decide)
    exact noDigit c special digit
  refine ⟨fun c member => ?_, fun member => ?_, Text.trim_ofNat number, unmarked, trimmed⟩
  · have other := foreign c member
    rw [List.mem_cons, List.mem_cons, not_or, not_or] at other
    exact ⟨other.2.2, other.2.1⟩
  · exact foreign '=' member List.mem_cons_self

variable {argument : Text × Text} (plain : PlainArgument argument)

include plain

theorem unmarked_write : Unmarked (writeArgument argument) :=
  plain.name.append (List.forall_mem_cons.mpr ⟨by decide, plain.text⟩)

/-- A plain argument is taken apart where it was put together. -/
theorem splitNamedArgument_write :
    splitNamedArgument (writeArgument argument) = some argument := by
  have before : ∀ c ∈ argument.1, decide (c ≠ '=') = true := fun c member =>
    decide_eq_true fun equals => plain.noEquals (equals ▸ member)
  have name : argumentName (writeArgument argument) = argument.1 :=
    Markup.takeWhile_cut before (by decide)
  have text : argumentText (writeArgument argument) = argument.2 :=
    congrArg List.tail (Markup.dropWhile_cut before (by decide))
  have named : IsNamed (writeArgument argument) := by
    rw [IsNamed, name]
    exact ⟨List.mem_append_right _ List.mem_cons_self,
      fun member => (plain.name _ member).1 (by decide),
      fun member => (plain.name _ member).1 (by decide)⟩
  rw [splitNamedArgument_eq, if_pos named, name, text]

end PlainArgument

namespace TemplateCall

/-- A call is written as its name and its arguments with pipes between them, in the braces of a
call. -/
theorem toMarkup_eq (call : TemplateCall) :
    call.toMarkup = openingBraces 2 ++
      Text.join ['|'] (call.name :: call.arguments.map writeArgument) ++ closingBraces 2 := by
  rw [Markup.join_parts, List.flatMap_map, ← List.append_assoc]
  rfl

namespace Plain

variable {call : TemplateCall} (plain : call.Plain)

include plain

/-- All arguments are plain, also those under numbers. -/
theorem arguments : ∀ argument ∈ call.arguments, PlainArgument argument := by
  intro argument member
  rcases List.mem_append.mp member with isPositional | isNamed
  · obtain ⟨place, inside, rfl⟩ := List.mem_mapIdx.mp isPositional
    obtain ⟨unmarked, trimmed⟩ := plain.positional _ (List.getElem_mem inside)
    exact .numbered (place + 1) unmarked trimmed
  · exact plain.named argument isNamed

/-- A plain call is read as the call of its name with its arguments. -/
theorem parse_toMarkup :
    parse call.toMarkup =
      [.call ⟨call.toMarkup, call.name, call.arguments.map writeArgument⟩] := by
  have unmarked : ∀ part ∈ call.arguments.map writeArgument, Unmarked part := by
    intro part member
    obtain ⟨argument, isArgument, rfl⟩ := List.mem_map.mp member
    exact (plain.arguments argument isArgument).unmarked_write
  rw [toMarkup_eq]
  exact parse_call_of_unmarked plain.name unmarked

/-- A plain call is no call of a function. -/
theorem function?_eq_none (raw : Text) (arguments : List Text) :
    Call.function? ⟨raw, call.name, arguments⟩ = none := by
  unfold Call.function?
  split
  · rename_i rest begins
    exact absurd (congrArg List.head? begins) plain.noFunction
  · rfl

end Plain

end TemplateCall

/-! ## Binding the arguments and calling -/

section Level

variable {m : Type → Type} [Monad m] [LawfulMonad m] {expand : Text → m Text}
  (idle : ∀ text, Unmarked text → expand text = pure text)

include idle

/-- Plain arguments are bound as they are, the last one first. -/
theorem bindArguments_write {arguments : List (Text × Text)}
    (plain : ∀ argument ∈ arguments, PlainArgument argument) :
    ∀ (numbered : Nat) (bindings : Bindings),
      bindArguments expand numbered bindings (arguments.map writeArgument) =
        pure (arguments.reverse ++ bindings) := by
  induction arguments with
  | nil => exact fun _ _ => rfl
  | cons argument arguments ih =>
      intro numbered bindings
      obtain ⟨here, later⟩ := List.forall_mem_cons.mp plain
      rw [List.map_cons, bindArguments, here.splitNamedArgument_write]
      simp only [idle _ here.name, idle _ here.text, pure_bind, here.trimmedName,
        here.trimmedText]
      rw [ih later, List.reverse_cons, List.append_assoc]
      rfl

/-- The expansion of a plain call that is written as markup calls the template with the bindings
of the call. -/
theorem expandNodes_toMarkup {call : TemplateCall} (plain : call.Plain) (frame : Frame)
    (functions : FunctionTable) (invoke : Text → Bindings → m Text) :
    frame.expandNodes functions expand invoke call.toMarkup = invoke call.name call.bindings := by
  have called : Frame.expandCall functions expand invoke
      ⟨call.toMarkup, call.name, call.arguments.map writeArgument⟩ =
        invoke call.name call.bindings := by
    rw [Frame.expandCall, plain.function?_eq_none]
    dsimp only
    rw [idle _ plain.name, pure_bind, bindArguments_write idle plain.arguments, pure_bind,
      List.append_nil]
    rfl
  rw [Frame.expandNodes, plain.parse_toMarkup, List.mapM_cons, List.mapM_nil, Frame.expandNode,
    called]
  simp only [bind_assoc, pure_bind, List.flatten_singleton, bind_pure]

end Level

namespace Site

/-- **Both ways to call a template agree on plain calls.**  A plain call written as markup is
read as one call, with its name and with each argument written under its name.  Expanded in a
frame in which so many expansions are in progress, it calls the template by the same name and
with the same bindings as the answer to the call does, whatever it is to call a template.  On a
page the two answers are therefore the body of the template with these bindings, expanded with
one level less when the call is written as markup. -/
theorem callTemplate_alike (site : Site) (frame : Frame) {nesting : Nat}
    (below : nesting < maxNesting) {call : TemplateCall} (plain : call.Plain) :
    parse call.toMarkup =
        [.call ⟨call.toMarkup, call.name, call.arguments.map writeArgument⟩] ∧
      (∀ (m : Type → Type) [Monad m] [LawfulMonad m] (invoke : Text → Bindings → m Text),
        frame.expandNodes site.functions
            (fun text => pure (site.expand (maxNesting - (nesting + 1)) frame text)) invoke
            call.toMarkup =
          invoke call.name call.bindings ∧
        Request.answer (fun text => pure (site.expand (maxNesting - nesting) frame text)) invoke
            (.template call) =
          invoke call.name call.bindings) ∧
      site.expand (maxNesting - nesting) frame call.toMarkup =
        Id.run (site.invoke
          (fun callee body => pure (site.expand (maxNesting - (nesting + 1)) callee body)) frame
          call.name call.bindings) ∧
      site.expanderIn (maxNesting - nesting) frame (.template call) =
        Id.run (site.invoke
          (fun callee body => pure (site.expand (maxNesting - nesting) callee body)) frame
          call.name call.bindings) := by
  have idle : ∀ (m : Type → Type) [Monad m] (levels : Nat) (text : Text), Unmarked text →
      (pure (site.expand levels frame text) : m Text) = pure text :=
    fun m _ levels text unmarked =>
      congrArg pure (site.expand_of_inert unmarked.inert levels frame)
  refine ⟨plain.parse_toMarkup, fun m _ _ invoke => ⟨?_, rfl⟩, ?_, rfl⟩
  · exact expandNodes_toMarkup (idle m _) plain frame site.functions invoke
  · have left : maxNesting - nesting = maxNesting - (nesting + 1) + 1 := by omega
    rw [left, expand, expandNodes, expandNodes_toMarkup (idle Id _) plain]

/-- A name that comes twice, a number that is given again by name, equals signs in texts and an
empty argument. -/
theorem callTemplate_alike_row :
    let site := ({} : Site).withTemplate "row".toList
      "\x7b\x7b\x7b1\x7d\x7d\x7d: \x7b\x7b\x7bx\x7d\x7d\x7d".toList
    let call : TemplateCall :=
      ⟨" row".toList, ["a=b".toList, []],
        [("x".toList, "y".toList), ("1".toList, "c = d".toList), ("x".toList, "z".toList)]⟩
    call.Plain ∧
      parse call.toMarkup =
        [.call ⟨"\x7b\x7b row|1=a=b|2=|x=y|1=c = d|x=z\x7d\x7d".toList, " row".toList,
          ["1=a=b".toList, "2=".toList, "x=y".toList, "1=c = d".toList, "x=z".toList]⟩] ∧
      site.render call.toMarkup = "c = d: z".toList ∧
      site.expanderIn 100 .outermost (.template call) = "c = d: z".toList := by
  intro site call
  have plain : call.Plain := ⟨by decide, by decide, by decide, by decide⟩
  obtain ⟨parsed, -, written, asked⟩ :=
    callTemplate_alike site .outermost (show 0 < maxNesting by decide) plain
  exact ⟨plain, parsed, written.trans (by decide +kernel), asked.trans (by decide +kernel)⟩

end Site

end ListMarkup
