import ListMarkup.Proofs.Site.TemplateCalls

/-!
# A template that calls itself

Two limits stop a template whose body ends in a call of the template.  Every body is expanded
one frame deeper and with one level less than the one before it, so both limits come closer at
the same pace, and whichever is reached first shows what is left: the limit on nested templates
an error text, the limit on nested expansions the call as it is written
(`Site.expand_selfCalling`).  The name of the template is expanded before each call and takes a
level of its own, but gives it back before the body is expanded, so it does not count.

Outside all templates there are 100 levels, of which the text that starts the recursion takes
one.  With a limit of 100 or more on nested templates the body is therefore written 100 times,
the last time with its call left as it is, and with a smaller limit as many times as the limit
allows (`Site.render_selfCalling`).
-/

set_option autoImplicit false

namespace ListMarkup

open Markup (Item Node Piece Token Unmarked closingBraces openingBraces parse)

/-- A call of a template without arguments, as it is written. -/
def callOf (name : Text) : Text :=
  TemplateCall.toMarkup { name }

/-- The tokens of a call without arguments are those of one item. -/
theorem cut_callOf {name : Text} (unmarked : Unmarked name) :
    Piece.Cut (callOf name) [.enclosed .call (Item.runBefore name [])] [] := by
  have start : Piece.Cut [] [] [] := ⟨rfl, fun _ _ first => nomatch first⟩
  have whole := start.enclosing .call (fun c member => (unmarked c member).1)
    fun first => nomatch first
  have written : callOf name = openingBraces 2 ++ (name ++ (closingBraces 2 ++ [])) := by
    simp [callOf, TemplateCall.toMarkup, TemplateCall.arguments, openingBraces, closingBraces]
  rw [written]
  exact whole

/-- Text without delimiters is text before a call as well. -/
theorem parse_append_callOf {before name : Text} (plain : ∀ c ∈ before, c ∉ Token.delimiters)
    (unmarked : Unmarked name) :
    parse (before ++ callOf name) = Node.textBefore before (parse (callOf name)) := by
  have cut := cut_callOf unmarked
  rw [Markup.parse_eq, Markup.parse_eq, Item.ofText_eq (cut.runBefore plain).tokens,
    Item.ofText_eq cut.tokens, Item.allNodesBefore_runBefore]

namespace Site

/-- A plain call in markup calls the template with one level less. -/
theorem expand_toMarkup (site : Site) (levels : Nat) (frame : Frame) {call : TemplateCall}
    (plain : call.Plain) :
    site.expand (levels + 1) frame call.toMarkup =
      Id.run (site.invoke (fun callee body => pure (site.expand levels callee body)) frame
        call.name call.bindings) := by
  have idle : ∀ text, Unmarked text →
      (pure (site.expand levels frame text) : Id Text) = pure text :=
    fun text unmarked => congrArg pure (site.expand_of_inert unmarked.inert levels frame)
  rw [expand, expandNodes, expandNodes_toMarkup idle plain]

/-! ## Unwinding -/

section SelfCalling

variable {site : Site} {name before : Text} (plainName : TemplateCall.Plain { name })
  (known : site.templates.lookup (templateName name) = some (before ++ callOf name))

include plainName known

/-- The call is the error text in a frame at the limit, and else the body in the next frame. -/
theorem expand_callOf (levels : Nat) (bindings : Option Bindings) (depth : Nat) :
    site.expand (levels + 1) ⟨bindings, depth⟩ (callOf name) =
      if site.maxDepth ≤ depth then depthError
      else site.expand levels ⟨some [], depth + 1⟩ (before ++ callOf name) := by
  rw [callOf, expand_toMarkup site levels _ plainName, invoke]
  simp only [known]
  split <;> rfl

variable (plain : ∀ c ∈ before, c ∉ Token.delimiters)

include plain

/-- The body of the template, with the text before the call as often as the nearer limit
allows. -/
theorem expand_selfCalling (levels : Nat) :
    ∀ (bindings : Option Bindings) (depth : Nat), depth ≤ site.maxDepth →
      site.expand levels ⟨bindings, depth⟩ (before ++ callOf name) =
        if depth + levels ≤ site.maxDepth then
          (List.replicate (levels + 1) before).flatten ++ callOf name
        else
          (List.replicate (site.maxDepth - depth + 1) before).flatten ++ depthError := by
  induction levels with
  | zero =>
      intro bindings depth shallow
      rw [expand, Nat.add_zero, if_pos shallow, List.replicate_one, List.flatten_singleton]
  | succ levels ih =>
      intro bindings depth shallow
      have first : site.expand (levels + 1) ⟨bindings, depth⟩ (before ++ callOf name) =
          before ++ site.expand (levels + 1) ⟨bindings, depth⟩ (callOf name) := by
        rw [expand_succ, parse_append_callOf plain plainName.name,
          flatMap_expansionOf_textBefore, ← expand_succ]
      rw [first, expand_callOf plainName known]
      by_cases full : site.maxDepth ≤ depth
      · rw [if_pos full, if_neg (by omega), Nat.sub_eq_zero_of_le full, List.replicate_one,
          List.flatten_singleton]
      · have one : depth + 1 + levels = depth + (levels + 1) := by omega
        have fewer : site.maxDepth - depth = site.maxDepth - (depth + 1) + 1 := by omega
        rw [if_neg full, ih (some []) (depth + 1) (by omega), one, fewer, apply_ite (before ++ ·),
          ← List.append_assoc, ← List.append_assoc, ← List.flatten_cons, ← List.flatten_cons,
          ← List.replicate_succ, ← List.replicate_succ]

/-- The text before the call, as often as the limit on nested templates allows, but at most 100
times. -/
theorem render_callOf :
    site.render (callOf name) =
      if 100 ≤ site.maxDepth then (List.replicate 100 before).flatten ++ callOf name
      else (List.replicate site.maxDepth before).flatten ++ depthError := by
  have start : site.render (callOf name) =
      if site.maxDepth ≤ 0 then depthError
      else site.expand 99 ⟨some [], 1⟩ (before ++ callOf name) :=
    expand_callOf plainName known 99 none 0
  rw [start]
  by_cases none : site.maxDepth ≤ 0
  · rw [if_pos none, if_neg (by omega), Nat.le_zero.mp none, List.replicate_zero,
      List.flatten_nil, List.nil_append]
  · have one : site.maxDepth - 1 + 1 = site.maxDepth := by omega
    rw [if_neg none, expand_selfCalling plainName known plain 99 (some []) 1 (by omega), one]

end SelfCalling

/-- **A template that calls itself is unwound up to the nearer limit.**  When the body of the
only template is text and a call of the template, a call of it renders as this text, repeated:
as often as templates may be nested and then the error text, if that is less than 100 times, and
else 100 times and then the call as it is written. -/
theorem render_selfCalling (functions : FunctionTable) (limit : Nat) {before : Text}
    (plain : ∀ c ∈ before, c ∉ ['\x7b', '\x7d', '[', ']']) :
    let loop := "\x7b\x7bLoop\x7d\x7d".toList
    let site := (⟨[], functions, limit⟩ : Site).withTemplate "Loop".toList (before ++ loop)
    (limit ≤ 99 → site.render loop = (List.replicate limit before).flatten ++ depthError) ∧
      (100 ≤ limit → site.render loop = (List.replicate 100 before).flatten ++ loop) := by
  intro loop site
  have plainName : TemplateCall.Plain { name := "Loop".toList } :=
    ⟨by decide, by decide, by decide, by decide⟩
  have known : site.templates.lookup (templateName "Loop".toList) =
      some (before ++ callOf "Loop".toList) := List.lookup_cons_self
  have written : loop = callOf "Loop".toList := by decide
  have rendered : site.render loop =
      if 100 ≤ limit then (List.replicate 100 before).flatten ++ loop
      else (List.replicate limit before).flatten ++ depthError := by
    rw [written]
    exact render_callOf plainName known plain
  exact ⟨fun few => by rw [rendered, if_neg (by omega)], fun many => by rw [rendered, if_pos many]⟩

/-- Text with pipes and a backslash, right below and at the limit on nested expansions, and at
the greatest limit on nested templates. -/
theorem render_selfCalling_around_limit :
    let before := "a|\\ #b = ".toList
    let loop := "\x7b\x7bLoop\x7d\x7d".toList
    let site := fun limit =>
      (⟨[], FunctionTable.builtin, limit⟩ : Site).withTemplate "Loop".toList (before ++ loop)
    (site 0).render loop = depthError ∧
      (site 99).render loop = (List.replicate 99 before).flatten ++ depthError ∧
      (site 100).render loop = (List.replicate 100 before).flatten ++ loop ∧
      (site (2 ^ 64 - 1)).render loop = (List.replicate 100 before).flatten ++ loop := by
  intro before loop site
  have plain : ∀ c ∈ before, c ∉ ['\x7b', '\x7d', '[', ']'] := by simp [before]
  have rendered : ∀ limit,
      (limit ≤ 99 →
        (site limit).render loop = (List.replicate limit before).flatten ++ depthError) ∧
      (100 ≤ limit → (site limit).render loop = (List.replicate 100 before).flatten ++ loop) :=
    fun limit => render_selfCalling FunctionTable.builtin limit plain
  refine ⟨?_, (rendered 99).1 (by decide), (rendered 100).2 (by decide),
    (rendered (2 ^ 64 - 1)).2 (by decide)⟩
  rw [(rendered 0).1 (by decide), List.replicate_zero, List.flatten_nil, List.nil_append]

end Site

end ListMarkup
