import ListMarkup.Proofs.Markup.Reading
import ListMarkup.Proofs.Site.Counting
import ListMarkup.Proofs.Text.Named
import ListMarkup.Proofs.Text.Separator

/-!
# What a template call binds

A call binds some texts under names and others under numbers.  Of texts with the same name the
last one counts, and a name counts before a number that is written like it, whichever of the two
comes first (`Bound`).  The numbers are those of the texts without a name, so texts with names
between them are not counted.

A call in markup goes through its arguments once, lets a named one prevail over what is bound
and a numbered one not, and comes to just that (`Site.expandCall_binds`).  A function that calls
a template has names and numbers apart from the start, and binds the same way
(`TemplateCall.lookup_bindings`).
-/

set_option autoImplicit false

namespace ListMarkup

open Markup (Call)

/-- The bindings of a call with expanded arguments. -/
theorem TemplateCall.lookup_bindings (call : TemplateCall) (key text : Text) :
    call.bindings.lookup key = some text ↔ Bound call.named call.positional key text := by
  rw [TemplateCall.bindings, TemplateCall.arguments, List.reverse_append]
  exact (numbers_mapIdx call.positional).reverse.lookup_append_eq_some_iff

/-- What stands before the first equals sign of an argument. -/
def argumentName (argument : Text) : Text :=
  argument.takeWhile (· ≠ '=')

/-- What stands after the first equals sign of an argument. -/
def argumentText (argument : Text) : Text :=
  (argument.dropWhile (· ≠ '=')).tail

/-- An argument is named when it holds an equals sign, and no markup begins before the first. -/
def IsNamed (argument : Text) : Prop :=
  '=' ∈ argument ∧ '\x7b' ∉ argumentName argument ∧ '[' ∉ argumentName argument

instance (argument : Text) : Decidable (IsNamed argument) :=
  inferInstanceAs (Decidable (_ ∧ _))

/-- An equals sign cuts an argument where it occurs first. -/
theorem cut?_equals (argument : Text) :
    Text.cut? ['='] argument =
      if '=' ∈ argument then some (argumentName argument, argumentText argument) else none := by
  induction argument with
  | nil => rfl
  | cons c argument ih =>
      by_cases equals : c = '='
      · subst equals
        rfl
      · have noPrefix : ¬ ['='] <+: c :: argument := fun begins =>
          equals (List.cons_prefix_cons.mp begins).1.symm
        have member : '=' ∈ c :: argument ↔ '=' ∈ argument := by
          rw [List.mem_cons, or_iff_right (Ne.symm equals)]
        have name : argumentName (c :: argument) = c :: argumentName argument :=
          List.takeWhile_cons_of_pos (by simpa using equals)
        have text : argumentText (c :: argument) = argumentText argument :=
          congrArg List.tail (List.dropWhile_cons_of_pos (by simpa using equals))
        rw [Text.cut?_cons noPrefix, ih, name, text]
        simp only [member]
        split <;> rfl

theorem splitNamedArgument_eq (argument : Text) :
    splitNamedArgument argument =
      if IsNamed argument then some (argumentName argument, argumentText argument) else none := by
  have markup : ((argumentName argument).any fun c => c = '\x7b' || c = '[') = true ↔
      '\x7b' ∈ argumentName argument ∨ '[' ∈ argumentName argument := by
    simp only [List.any_eq_true, Bool.or_eq_true, decide_eq_true_eq]
    constructor
    · rintro ⟨c, member, rfl | rfl⟩
      · exact .inl member
      · exact .inr member
    · rintro (member | member)
      · exact ⟨_, member, .inl rfl⟩
      · exact ⟨_, member, .inr rfl⟩
  rw [splitNamedArgument, cut?_equals]
  by_cases equals : '=' ∈ argument
  · have named : IsNamed argument ↔
        ¬ ('\x7b' ∈ argumentName argument ∨ '[' ∈ argumentName argument) := by
      rw [IsNamed, and_iff_right equals, not_or]
    rw [if_pos equals]
    simp only [named, ite_not, ← markup]
    rfl
  · rw [if_neg equals, if_neg fun named => equals named.1]
    rfl

/-! ## Going through the arguments -/

section Going

variable (expand : Text → Text)

/-- The arguments with names, in order, with their names and texts expanded and trimmed. -/
def namedTexts (arguments : List Text) : List (Text × Text) :=
  (arguments.filter fun argument => IsNamed argument).map fun argument =>
    ((expand (argumentName argument)).trim, (expand (argumentText argument)).trim)

/-- The arguments without names, in order and expanded. -/
def numberedTexts (arguments : List Text) : List Text :=
  (arguments.filter fun argument => ¬ IsNamed argument).map expand

theorem namedTexts_concat (arguments : List Text) (argument : Text) :
    namedTexts expand (arguments ++ [argument]) =
      namedTexts expand arguments ++
        if IsNamed argument then
          [((expand (argumentName argument)).trim, (expand (argumentText argument)).trim)]
        else [] := by
  rw [namedTexts, List.filter_append, List.map_append, ← namedTexts]
  split <;> simp [*]

theorem numberedTexts_concat (arguments : List Text) (argument : Text) :
    numberedTexts expand (arguments ++ [argument]) =
      numberedTexts expand arguments ++ if IsNamed argument then [] else [expand argument] := by
  rw [numberedTexts, List.filter_append, List.map_append, ← numberedTexts]
  split <;> simp [*]

/-- Bindings that hold what they should after some arguments: in them every key is looked up as
among the texts with names, the last one first, and then among the others by number. -/
def Bindings.After (bindings : Bindings) (arguments : List Text) : Prop :=
  ∀ key, bindings.lookup key =
    ((namedTexts expand arguments).reverse ++ (numberedTexts expand arguments).mapIdx
      fun place text => (Text.ofNat (place + 1), text)).lookup key

variable {expand} {bindings : Bindings} {arguments : List Text}
  (after : bindings.After expand arguments) {argument : Text}

include after

/-- A text under a name is looked up before all that is bound already. -/
theorem Bindings.After.named (named : IsNamed argument) :
    Bindings.After expand
      (((expand (argumentName argument)).trim, (expand (argumentText argument)).trim) :: bindings)
      (arguments ++ [argument]) := by
  intro key
  rw [namedTexts_concat, numberedTexts_concat, if_pos named, if_pos named, List.append_nil,
    List.reverse_concat, List.cons_append, List.lookup_cons, List.lookup_cons, after key]

/-- A text under a number is looked up after all that is bound already. -/
theorem Bindings.After.unnamed (unnamed : ¬ IsNamed argument) :
    let number := Text.ofNat ((numberedTexts expand arguments).length + 1)
    Bindings.After expand
      (if (bindings.lookup number).isSome then bindings else (number, expand argument) :: bindings)
      (arguments ++ [argument]) := by
  intro number key
  rw [lookup_unless_present, namedTexts_concat, numberedTexts_concat, if_neg unnamed,
    if_neg unnamed, List.append_nil, List.mapIdx_concat, ← List.append_assoc, List.lookup_append,
    ← after key, lookup_cons_eq, List.lookup_nil, Option.or_none]

/-- One step: what the bindings hold after an argument, and how far the count has gone. -/
theorem bindArguments_step (argument : Text) :
    ∃ next : Bindings, next.After expand (arguments ++ [argument]) ∧
      ∀ (m : Type → Type) [Monad m] [LawfulMonad m] (rest : List Text),
        bindArguments (fun text => (pure (expand text) : m Text))
            (numberedTexts expand arguments).length bindings (argument :: rest) =
          bindArguments (fun text => (pure (expand text) : m Text))
            (numberedTexts expand (arguments ++ [argument])).length next rest := by
  by_cases named : IsNamed argument
  · refine ⟨_, after.named named, fun m _ _ rest => ?_⟩
    rw [bindArguments, splitNamedArgument_eq, if_pos named, numberedTexts_concat, if_pos named,
      List.append_nil]
    simp only [pure_bind]
  · refine ⟨_, after.unnamed named, fun m _ _ rest => ?_⟩
    rw [bindArguments, splitNamedArgument_eq, if_neg named, numberedTexts_concat, if_neg named,
      List.length_append, List.length_singleton]
    dsimp only
    split
    · rfl
    · rw [pure_bind]

omit after

/-- A run over all arguments. -/
theorem bindArguments_run (later : List Text) :
    ∀ {arguments : List Text} {bindings : Bindings}, bindings.After expand arguments →
      ∃ result : Bindings, result.After expand (arguments ++ later) ∧
        ∀ (m : Type → Type) [Monad m] [LawfulMonad m],
          bindArguments (fun text => (pure (expand text) : m Text))
              (numberedTexts expand arguments).length bindings later =
            pure result := by
  induction later with
  | nil =>
      intro arguments bindings after
      exact ⟨bindings, by rwa [List.append_nil], fun m _ _ => rfl⟩
  | cons argument later ih =>
      intro arguments bindings after
      obtain ⟨next, afterNext, step⟩ := bindArguments_step after argument
      obtain ⟨result, afterAll, ran⟩ := ih afterNext
      refine ⟨result, ?_, fun m _ _ => (step m later).trans (ran m)⟩
      rwa [List.append_assoc, List.singleton_append] at afterAll

end Going

/-! ## Calling from a frame -/

namespace Site

open Tracked (ComesTo comingTo)

/-- **What a template call in markup binds.**  Under every key there is the text of the last
argument whose name is the key, name and text expanded and trimmed; or else, when the key is a
number, the argument with this number among those without names, expanded and not trimmed; and
otherwise nothing.  These are the bindings with which a template is called, whatever it is to
call one, and all that is expanded on the way is expanded in the frame of the call and at its
count. -/
theorem expandCall_binds (site : Site) (frame : Frame) (nesting : Nat) {call : Call}
    (template : call.function? = none) :
    let expand := site.expand (maxNesting - nesting) frame
    ∃ bindings : Bindings,
      (∀ key text, bindings.lookup key = some text ↔
        Bound (namedTexts expand call.arguments) (numberedTexts expand call.arguments) key text) ∧
      (∀ (m : Type → Type) [Monad m] [LawfulMonad m] (invoke : Text → Bindings → m Text),
        Frame.expandCall site.functions (fun text => pure (expand text)) invoke call =
          invoke (expand call.target) bindings) ∧
      ∀ fuel, maxNesting - nesting < fuel →
        ComesTo frame.depth nesting (bindArguments (site.track fuel frame) 0 [] call.arguments)
          bindings := by
  intro expand
  have start : Bindings.After expand [] [] := fun _ => rfl
  obtain ⟨bindings, after, ran⟩ := bindArguments_run call.arguments start
  refine ⟨bindings, fun key text => ?_, fun m _ _ invoke => ?_, fun fuel enough => ?_⟩
  · rw [after key]
    exact (numbers_mapIdx _).lookup_append_eq_some_iff
  · rw [Frame.expandCall, template]
    dsimp only
    rw [pure_bind]
    exact (congrArg (· >>= _) (ran m)).trans (pure_bind bindings _)
  · have counted := (comingTo frame.depth nesting).bindArguments
      (fun text => (site.track_expandsTo fuel enough frame text).comesTo) call.arguments 0 []
    have value : Id.run (bindArguments (fun text => pure (expand text)) 0 [] call.arguments) =
        bindings := ran Id
    exact value ▸ counted

/-- A number that is given by name, a name that is given twice, and an equals sign inside markup
of an argument without a name. -/
theorem expandCall_binds_row :
    let call : Call :=
      ⟨"\x7b\x7brow|p| 1 =q|r| x = y |x=z|\x7b\x7b#uc:k=v\x7d\x7d \x7d\x7d".toList, "row".toList,
        ["p".toList, " 1 =q".toList, "r".toList, " x = y ".toList, "x=z".toList,
          "\x7b\x7b#uc:k=v\x7d\x7d ".toList]⟩
    Markup.parse call.raw = [.call call] ∧ call.function? = none ∧
      ∃ bindings : Bindings,
        (∀ key text, bindings.lookup key = some text ↔
          Bound [("1".toList, "q".toList), ("x".toList, "y".toList), ("x".toList, "z".toList)]
            ["p".toList, "r".toList, "K=V ".toList] key text) ∧
        bindings.lookup "1".toList = some "q".toList ∧
        bindings.lookup "3".toList = some "K=V ".toList ∧
        bindings.lookup "x".toList = some "z".toList := by
  intro call
  have template : call.function? = none := by decide
  obtain ⟨bindings, binds, -⟩ := expandCall_binds {} .outermost 1 template
  have named : namedTexts (expand {} (maxNesting - 1) .outermost) call.arguments =
      [("1".toList, "q".toList), ("x".toList, "y".toList), ("x".toList, "z".toList)] := by
    decide +kernel
  have numbered : numberedTexts (expand {} (maxNesting - 1) .outermost) call.arguments =
      ["p".toList, "r".toList, "K=V ".toList] := by
    decide +kernel
  rw [named, numbered] at binds
  refine ⟨?_, template, bindings, binds, ?_, ?_, ?_⟩
  · rw [Markup.parse_eq]
    decide +kernel
  · exact (binds _ _).mpr (@Bound.ofName _ _ _ [] [_, _] _ rfl (by decide))
  · exact (binds _ _).mpr (@Bound.ofNumber _ _ _ 2 _ (by decide) (by decide) rfl)
  · exact (binds _ _).mpr (@Bound.ofName _ _ _ [_, _] [] _ rfl (by decide))

end Site

end ListMarkup
