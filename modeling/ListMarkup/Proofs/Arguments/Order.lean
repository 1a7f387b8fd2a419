import ListMarkup.Builtin.LongForm
import ListMarkup.Proofs.Arguments.Arrangement
import Mathlib.Data.List.Nodup
import Mathlib.Data.List.Pairwise

/-!
# Arguments in any order

When all names of a signature differ, what a parameter holds can be said without going through
the arguments one by one (`Signature.held?`).  In the positional style it is the argument at
the place of the parameter.  In the named style it is the text of the last argument that gives
one of the parameter's names, or else, for the first parameter, the first argument that gives
no name of any parameter.

So in the named style only the order of the arguments for one parameter matters, and the order
of those that are for none.  Named arguments for different parameters may stand in any order
and anywhere among the others (`Signature.arrange_in_any_order`).
-/

set_option autoImplicit false

namespace ListMarkup

/-! ## Names in arguments -/

/-- The name and the text that an argument gives: what stands before its first equals sign,
trimmed, and what stands after it. -/
def nameAndText? (argument : Text) : Option (Text × Text) :=
  (Text.cut? ['='] argument).map fun (name, text) => (name.trim, text)

namespace Parameter

/-- The names that mean the parameter. -/
def names (parameter : Parameter) : List Text :=
  parameter.name :: parameter.otherName.toList

/-- The text that an argument gives for the parameter by one of its names. -/
def textIn? (parameter : Parameter) (argument : Text) : Option Text :=
  (nameAndText? argument).bind fun (name, text) =>
    if name ∈ parameter.names then some text else none

end Parameter

namespace Signature

variable (signature : Signature)

/-- All names of all parameters differ. -/
def NamesApart : Prop :=
  (signature.parameters.flatMap Parameter.names).Nodup

instance : Decidable signature.NamesApart :=
  inferInstanceAs (Decidable (signature.parameters.flatMap Parameter.names).Nodup)

/-- Whether an argument gives no name of any parameter. -/
def isBare (argument : Text) : Bool :=
  signature.parameters.all fun parameter => (parameter.textIn? argument).isNone

/-- What a parameter holds, which is the one at the given place. -/
def held? (arguments : List Text) (place : Nat) (parameter : Parameter) : Option Text :=
  match signature.style with
  | .positional => arguments[place]?
  | .named =>
    (arguments.reverse.findSome? parameter.textIn?).or
      (if place = 0 then arguments.find? signature.isBare else none)

/-- The same arguments in another order, which is the same for the arguments that give a name
of one parameter, and for those that give none. -/
structure Rearranged (left right : List Text) : Prop where
  named : ∀ parameter ∈ signature.parameters,
    left.filter (fun argument => (parameter.textIn? argument).isSome) =
      right.filter fun argument => (parameter.textIn? argument).isSome
  bare : left.filter signature.isBare = right.filter signature.isBare

variable {signature}

theorem findNamed?_eq (name : Text) :
    signature.findNamed? name =
      signature.parameters.find? fun parameter => name ∈ parameter.names := by
  refine congrArg (fun test => List.find? test _) (funext fun parameter => ?_)
  rw [Bool.eq_iff_iff, decide_eq_true_iff, Parameter.names, List.mem_cons, Option.mem_toList,
    Bool.or_eq_true, beq_iff_eq, beq_iff_eq, eq_comm]

theorem splitNamed?_eq (argument : Text) :
    signature.splitNamed? argument = (nameAndText? argument).bind fun (name, text) =>
      (signature.findNamed? name).map fun parameter => (parameter, text) := by
  rw [splitNamed?, nameAndText?]
  cases Text.cut? ['='] argument with
  | none => rfl
  | some given =>
      show (signature.findNamed? given.1.trim).bind (fun parameter => some (parameter, given.2)) =
        (signature.findNamed? given.1.trim).map fun parameter => (parameter, given.2)
      rw [Option.map_eq_bind]
      rfl

/-- An argument names no parameter when it gives the name of none. -/
theorem isUnnamed_eq_isBare : signature.isUnnamed = signature.isBare := by
  funext argument
  rw [isUnnamed, splitNamed?_eq, isBare, Bool.eq_iff_iff, List.all_eq_true]
  simp only [Parameter.textIn?]
  cases nameAndText? argument with
  | none => simp
  | some given =>
      simp [findNamed?_eq]

section Names

variable (apart : signature.NamesApart)

include apart

/-- A name means one parameter. -/
theorem eq_of_mem_names {first second : Parameter} (isFirst : first ∈ signature.parameters)
    (isSecond : second ∈ signature.parameters) {name : Text} (ofFirst : name ∈ first.names)
    (ofSecond : name ∈ second.names) : first = second := by
  have disjoint := (List.nodup_flatMap.mp apart).2
  have symmetric : Std.Symm (Function.onFun List.Disjoint Parameter.names) :=
    ⟨fun _ _ disjoint _ inSecond inFirst => disjoint inFirst inSecond⟩
  by_contra differ
  exact disjoint.forall isFirst isSecond differ ofFirst ofSecond

theorem eq_of_name_eq {first second : Parameter} (isFirst : first ∈ signature.parameters)
    (isSecond : second ∈ signature.parameters) (same : first.name = second.name) :
    first = second :=
  eq_of_mem_names apart isFirst isSecond List.mem_cons_self (same ▸ List.mem_cons_self)

/-- The parameters have different names of their own. -/
theorem pairwise_name : signature.parameters.Pairwise fun first second =>
    first.name ≠ second.name := by
  refine (List.nodup_flatMap.mp apart).2.imp fun {first second} disjoint same => ?_
  exact disjoint List.mem_cons_self (same ▸ List.mem_cons_self)

theorem find?_name {parameter : Parameter} (declared : parameter ∈ signature.parameters) :
    signature.find? parameter.name = some parameter := by
  cases found : signature.find? parameter.name with
  | none =>
      have other := List.find?_eq_none.mp found parameter declared
      exact absurd (beq_self_eq_true parameter.name) other
  | some second =>
      have isSecond := List.mem_of_find?_eq_some found
      rw [eq_of_name_eq apart isSecond declared (name_of_find? found)]

/-- A name means the parameter that has it. -/
theorem findNamed?_eq_some {name : Text} {parameter : Parameter}
    (declared : parameter ∈ signature.parameters) (given : name ∈ parameter.names) :
    signature.findNamed? name = some parameter := by
  rw [findNamed?_eq]
  cases found : signature.parameters.find? fun parameter => name ∈ parameter.names with
  | none =>
      have other := List.find?_eq_none.mp found parameter declared
      exact absurd (decide_eq_true given) other
  | some second =>
      have isSecond := List.mem_of_find?_eq_some found
      have ofSecond := List.find?_some found
      rw [eq_of_mem_names apart isSecond declared (of_decide_eq_true ofSecond) given]

/-- An argument gives a text under the own name of a parameter by giving it under any name of
the parameter. -/
theorem named?_eq_textIn? {parameter : Parameter} (declared : parameter ∈ signature.parameters)
    (argument : Text) :
    signature.named? parameter.name argument = parameter.textIn? argument := by
  rw [named?, splitNamed?_eq, Parameter.textIn?]
  cases nameAndText? argument with
  | none => rfl
  | some given =>
      obtain ⟨name, text⟩ := given
      simp only [Option.bind_some]
      by_cases named : name ∈ parameter.names
      · rw [findNamed?_eq_some apart declared named, if_pos named]
        exact if_pos rfl
      · rw [if_neg named]
        cases found : signature.findNamed? name with
        | none => rfl
        | some second =>
            rw [findNamed?_eq] at found
            have isSecond := List.mem_of_find?_eq_some found
            have ofSecond := List.find?_some found
            refine if_neg fun same => named ?_
            rw [← eq_of_name_eq apart isSecond declared same]
            exact of_decide_eq_true ofSecond

end Names

/-! ## What a parameter holds -/

/-- What is given for a name when texts are given one after the other: what was there before,
or else the first text for a parameter of that name. -/
theorem lookup_foldl_giveIfAbsent (pairs : List (Parameter × Text)) (name : Text) :
    ∀ given : Given,
      (pairs.foldl (fun given (parameter, text) => giveIfAbsent given parameter text)
          given).lookup name =
        (given.lookup name).or
          ((pairs.find? fun pair => pair.1.name = name).map Prod.snd) := by
  induction pairs with
  | nil => exact fun given => Option.or_none.symm
  | cons pair pairs ih =>
      intro given
      rw [List.foldl_cons, ih, lookup_giveIfAbsent, Option.or_assoc]
      by_cases same : pair.1.name = name
      · rw [if_pos same, List.find?_cons_of_pos (by simpa using same), Option.some_or]
        rfl
      · rw [if_neg same, List.find?_cons_of_neg (by simpa using same), Option.none_or]

/-- Among parameters of different names, the text for one of them is the one at its place. -/
theorem find?_zip_name {parameters : List Parameter} {arguments : List Text} {place : Nat}
    {parameter : Parameter}
    (differ : parameters.Pairwise fun first second => first.name ≠ second.name)
    (isAt : parameters[place]? = some parameter) :
    ((parameters.zip arguments).find? fun pair => pair.1.name = parameter.name).map Prod.snd =
      arguments[place]? := by
  induction parameters generalizing place arguments with
  | nil => cases isAt
  | cons first parameters ih =>
      obtain ⟨others, differ⟩ := List.pairwise_cons.mp differ
      cases arguments with
      | nil => rfl
      | cons argument arguments =>
          cases place with
          | zero =>
              cases isAt
              rw [List.zip_cons_cons, List.find?_cons_of_pos (by simp)]
              rfl
          | succ place =>
              have other := others parameter (List.mem_of_getElem? isAt)
              rw [List.zip_cons_cons, List.find?_cons_of_neg (by simpa using other)]
              exact ih differ isAt

theorem lastNamed?_eq (name : Text) (arguments : List Text) :
    signature.lastNamed? name arguments =
      arguments.reverse.findSome? (signature.named? name) := by
  induction arguments with
  | nil => rfl
  | cons argument arguments ih =>
      rw [lastNamed?, ih, List.reverse_cons, List.findSome?_append, List.findSome?_singleton]

section Held

variable (apart : signature.NamesApart) {place : Nat} {parameter : Parameter}
  (isAt : signature.parameters[place]? = some parameter)

include apart isAt

/-- A parameter comes first when it has the name of the first one. -/
theorem head?_name_eq_iff :
    signature.parameters.head?.map Parameter.name = some parameter.name ↔ place = 0 := by
  have differ := pairwise_name apart
  cases parameters : signature.parameters with
  | nil =>
      rw [parameters] at isAt
      cases isAt
  | cons first others =>
      rw [parameters] at isAt differ
      cases place with
      | zero =>
          cases isAt
          exact ⟨fun _ => rfl, fun _ => rfl⟩
      | succ place =>
          have other := (List.pairwise_cons.mp differ).1 parameter (List.mem_of_getElem? isAt)
          exact ⟨fun same => absurd (Option.some.inj same) other, fun zero => nomatch zero⟩

/-- **What is given for a parameter is what it holds.** -/
theorem lookup_arrange_eq_held? (arguments : List Text) :
    (signature.arrange arguments).given.lookup parameter.name =
      signature.held? arguments place parameter := by
  have declared := List.mem_of_getElem? isAt
  cases style : signature.style with
  | positional =>
      rw [arrange, held?]
      simp only [style]
      rw [arrangePositional, lookup_foldl_giveIfAbsent, List.lookup_nil, Option.none_or,
        find?_zip_name (pairwise_name apart) isAt]
  | named =>
      have same : signature.named? parameter.name = parameter.textIn? :=
        funext (named?_eq_textIn? apart declared)
      rw [lookup_arrange_named signature style, lastNamed?_eq, same, firstUnnamed?,
        isUnnamed_eq_isBare, held?]
      simp only [style, head?_name_eq_iff apart isAt]

end Held

/-! ## Arguments in another order -/

/-- Only the arguments that give something matter for what is given. -/
theorem findSome?_filter_isSome {α β : Type} (give? : α → Option β) (arguments : List α) :
    (arguments.filter fun argument => (give? argument).isSome).findSome? give? =
      arguments.findSome? give? := by
  induction arguments with
  | nil => rfl
  | cons argument arguments ih =>
      cases gives : give? argument with
      | none =>
          rw [List.filter_cons_of_neg (by simp [gives]), ih, List.findSome?_cons_of_isNone]
          rw [gives]
          rfl
      | some text =>
          rw [List.filter_cons_of_pos (by simp [gives]), List.findSome?_cons, List.findSome?_cons,
            gives]

theorem Rearranged.held? {left right : List Text} (rearranged : signature.Rearranged left right)
    (style : signature.style = .named) {place : Nat} {parameter : Parameter}
    (declared : parameter ∈ signature.parameters) :
    signature.held? left place parameter = signature.held? right place parameter := by
  have last : left.reverse.findSome? parameter.textIn? =
      right.reverse.findSome? parameter.textIn? := by
    rw [← findSome?_filter_isSome, List.filter_reverse, rearranged.named parameter declared,
      ← List.filter_reverse, findSome?_filter_isSome]
  have first : left.find? signature.isBare = right.find? signature.isBare := by
    rw [← List.head?_filter, rearranged.bare, List.head?_filter]
  simp only [Signature.held?, style, last, first]

theorem filter_move {α : Type} {keep : α → Bool} {a : α} {passed : List α}
    (unlike : keep a = true → ∀ b ∈ passed, ¬ keep b = true) (before after : List α) :
    (before ++ a :: (passed ++ after)).filter keep =
      (before ++ (passed ++ a :: after)).filter keep := by
  by_cases kept : keep a = true
  · have none : passed.filter keep = [] := List.filter_eq_nil_iff.mpr (unlike kept)
    rw [List.filter_append, List.filter_append, List.filter_append, List.filter_cons_of_pos kept,
      List.filter_cons_of_pos kept, List.filter_append, none]
    rfl
  · rw [List.filter_append, List.filter_append, List.filter_append, List.filter_cons_of_neg kept,
      List.filter_cons_of_neg kept, List.filter_append]

/-- An argument that gives the name of a parameter may be moved past others that do not give
a name of the same parameter. -/
theorem rearranged_move (apart : signature.NamesApart) {parameter : Parameter}
    (declared : parameter ∈ signature.parameters) {argument : Text} {passed : List Text}
    (named : (parameter.textIn? argument).isSome = true)
    (others : ∀ other ∈ passed, parameter.textIn? other = none) (before after : List Text) :
    signature.Rearranged (before ++ argument :: (passed ++ after))
      (before ++ (passed ++ argument :: after)) where
  named second isSecond := by
    refine filter_move (fun alsoNamed other isOther => ?_) before after
    have same : second = parameter := by
      obtain ⟨text, gives⟩ := Option.isSome_iff_exists.mp named
      obtain ⟨text', alsoGives⟩ := Option.isSome_iff_exists.mp alsoNamed
      obtain ⟨given, isGiven, ofParameter⟩ := Option.bind_eq_some_iff.mp gives
      obtain ⟨given', isGiven', ofSecond⟩ := Option.bind_eq_some_iff.mp alsoGives
      cases isGiven.symm.trans isGiven'
      have member := (Option.ite_none_right_eq_some.mp ofParameter).1
      have member' := (Option.ite_none_right_eq_some.mp ofSecond).1
      exact eq_of_mem_names apart isSecond declared member' member
    rw [same, others other isOther]
    exact Bool.false_ne_true
  bare := by
    refine filter_move (fun isBare => ?_) before after
    have unnamed := List.all_eq_true.mp isBare parameter declared
    rw [Option.isNone_iff_eq_none] at unnamed
    rw [unnamed] at named
    cases named

/-- **What the parameters of a call hold.**  Every parameter is given what `held?` says: in the
positional style the argument at its place, in the named style the text of the last argument
with one of its names, or else, for the first parameter, the first argument without a name.
Its value is that text, expanded and with its escapes undone or not, as declared, and it is its
default exactly when nothing is given.  Nothing but that text is ever expanded for it.

In the named style the arguments may therefore be rearranged, for example by moving one past
others that do not name the same parameter, and no parameter changes. -/
theorem arrange_in_any_order (apart : signature.NamesApart) (arguments : List Text) :
    (∀ place parameter, signature.parameters[place]? = some parameter →
      let arranged := signature.arrange arguments
      let held := signature.held? arguments place parameter
      arranged.given.lookup parameter.name = held ∧
        arranged.isGiven parameter.name = held.isSome ∧
        ∀ expander,
          (arranged.get parameter.name).run expander = parameter.value expander held ∧
            (arranged.get parameter.name).requests expander = parameter.requests held) ∧
    (signature.style = .named → ∀ rearranged, signature.Rearranged arguments rearranged →
      ∀ parameter ∈ signature.parameters,
        let before := signature.arrange arguments
        let after := signature.arrange rearranged
        before.given.lookup parameter.name = after.given.lookup parameter.name ∧
          before.isGiven parameter.name = after.isGiven parameter.name ∧
          before.get parameter.name = after.get parameter.name) ∧
    ∀ parameter ∈ signature.parameters, ∀ before argument passed after,
      (parameter.textIn? argument).isSome = true →
      (∀ other ∈ passed, parameter.textIn? other = none) →
        signature.Rearranged (before ++ argument :: (passed ++ after))
          (before ++ (passed ++ argument :: after)) := by
  refine ⟨?held, ?rearranged, ?moved⟩
  case held =>
    intro place parameter isAt
    have declared := find?_name apart (List.mem_of_getElem? isAt)
    have given := lookup_arrange_eq_held? apart isAt arguments
    refine ⟨given, ?_, fun expander => ⟨?_, ?_⟩⟩
    · rw [← given]
      exact Arguments.isGiven_of_declared declared
    · rw [← given]
      exact Arguments.value_of_declared expander declared
    · rw [← given]
      exact Arguments.requests_of_declared expander declared
  case rearranged =>
    intro style rearranged isRearranged parameter declared
    obtain ⟨place, isAt⟩ := List.mem_iff_getElem?.mp declared
    have given : (signature.arrange arguments).given.lookup parameter.name =
        (signature.arrange rearranged).given.lookup parameter.name := by
      rw [lookup_arrange_eq_held? apart isAt, lookup_arrange_eq_held? apart isAt,
        isRearranged.held? style declared]
    have alike : (signature.arrange arguments).signature =
        (signature.arrange rearranged).signature := rfl
    exact ⟨given, Arguments.isGiven_congr alike given, Arguments.get_congr alike given⟩
  case moved =>
    intro parameter declared before argument passed after named others
    exact rearranged_move apart declared named others before after

/-- Arguments by name, some of them twice or by another name, before and after the one without
a name, and moved to other places.  One of the parameters has its escapes undone and is not
expanded. -/
theorem arrange_in_any_order_list :
    let mark : Parameter := { name := "mark".toList, expand := false }
    let signature := Builtin.named [mark]
    signature.NamesApart ∧
      let arranged := signature.arrange ["sep=;".toList, "a;b=1".toList, " insep = : ".toList,
        "mark= \\!x ".toList, "x".toList, "outsep=+".toList]
      arranged.given.lookup "list".toList = some "a;b=1".toList ∧
        arranged.given.lookup "insep".toList = some " : ".toList ∧
        arranged.isGiven "default".toList = false ∧
        (∀ expander, (arranged.get "mark".toList).run expander = "|x".toList ∧
          (arranged.get "mark".toList).requests expander = []) ∧
        arranged.get "outsep".toList =
          (signature.arrange ["outsep=+".toList, "sep=;".toList, "a;b=1".toList,
            " insep = : ".toList, "mark= \\!x ".toList, "x".toList]).get "outsep".toList := by
  intro mark signature
  have apart : signature.NamesApart := by decide
  have holds := arrange_in_any_order apart ["sep=;".toList, "a;b=1".toList, " insep = : ".toList,
    "mark= \\!x ".toList, "x".toList, "outsep=+".toList]
  have moved : signature.Rearranged
      ["sep=;".toList, "a;b=1".toList, " insep = : ".toList, "mark= \\!x ".toList, "x".toList,
        "outsep=+".toList]
      ["outsep=+".toList, "sep=;".toList, "a;b=1".toList, " insep = : ".toList,
        "mark= \\!x ".toList, "x".toList] :=
    ⟨by decide +kernel, by decide +kernel⟩
  have declared : Builtin.resultSeparatorParameter ∈ signature.parameters :=
    List.mem_of_getElem? (i := 3) rfl
  exact ⟨apart, (holds.1 0 _ rfl).1, (holds.1 2 _ rfl).1, (holds.1 1 _ rfl).2.1,
    (holds.1 8 mark rfl).2.2, (holds.2.1 rfl _ moved _ declared).2.2⟩

end Signature

end ListMarkup
