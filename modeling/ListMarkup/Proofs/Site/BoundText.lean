import ListMarkup.Proofs.Markup.Fragments
import ListMarkup.Proofs.Site.Bindings
import ListMarkup.Proofs.Site.Rendering

/-!
# Bound text is not markup

The text that is bound under a name is put where the body of a template refers to the name, and
nothing looks at it there: it is not read as markup and not expanded, and neither cut nor
trimmed.  In a body that is text with references, every reference is replaced by what is bound
under its name (`Site.expand_writeAll`).  Only the names are expanded on the way, and as they
hold no markup they stay the same, on the last level too, on which nothing is expanded any more.

A list function calls a template with values that may hold anything, complete calls included.
What it binds is known key by key (`TemplateCall.lookup_bindings`), and so is its answer
(`Site.callTemplate_fills`).
-/

set_option autoImplicit false

namespace ListMarkup

open Markup (Fragment)

/-- A piece of a body with texts in place of the names. -/
def Markup.Fragment.fill (texts : Text → Text) : Fragment → Text
  | .text run => run
  | .reference name => texts name

namespace Site

open Tracked (ComesTo)

/-- A reference to a name under which a text is bound expands to the text. -/
theorem expansionOf_bound (site : Site) (levels depth : Nat) {bindings : Bindings}
    {name text : Text} (plain : (Fragment.reference name).Plain)
    (bound : bindings.lookup name = some text) (raw : Text) (default : Option Text) :
    site.expansionOf levels ⟨some bindings, depth⟩ (.argument ⟨raw, name, default⟩) = text := by
  have expanded : site.expand levels ⟨some bindings, depth⟩ name = name :=
    site.expand_of_inert plain.1.inert levels _
  rw [expansionOf, expandNode, Frame.expandNode, Frame.expandReference]
  dsimp only
  rw [pure_bind, expanded, plain.2, bound]
  rfl

/-- A body of text and references expands to its text, with what is bound in place of the
references. -/
theorem expand_writeAll (site : Site) (levels depth : Nat) {bindings : Bindings}
    {body : List Fragment} (plain : ∀ fragment ∈ body, fragment.Plain) {texts : Text → Text}
    (bound : ∀ name, .reference name ∈ body → bindings.lookup name = some (texts name)) :
    site.expand (levels + 1) ⟨some bindings, depth⟩ (Fragment.writeAll body) =
      body.flatMap (Fragment.fill texts) := by
  rw [expand_succ, Fragment.parse_body plain]
  induction body with
  | nil => rfl
  | cons fragment body ih =>
      obtain ⟨here, later⟩ := List.forall_mem_cons.mp plain
      have rest := ih later fun name member => bound name (List.mem_cons_of_mem _ member)
      rw [List.foldr_cons, List.flatMap_cons, ← rest]
      cases fragment with
      | text run => exact site.flatMap_expansionOf_textBefore levels _ run _
      | reference name =>
          have filled := site.expansionOf_bound levels depth here
            (bound name List.mem_cons_self)
          rw [Fragment.nodesBefore, List.flatMap_cons, filled, Fragment.fill]

/-- **Bound texts are put into the body of a template as they are.**  When the body is text with
references to names that are bound, a call from a function with expanded arguments answers the
body with the bound texts in place of the references, whatever the texts are; and with enough
fuel it does answer, and leaves the count of its frame as it was. -/
theorem callTemplate_fills (site : Site) {frame : Frame} {nesting : Nat}
    (below : nesting < maxNesting) (shallow : frame.depth < site.maxDepth) {call : TemplateCall}
    {body : List Fragment}
    (known : site.templates.lookup (templateName call.name) = some (Fragment.writeAll body))
    (plain : ∀ fragment ∈ body, fragment.Plain) {texts : Text → Text}
    (bound : ∀ name, .reference name ∈ body →
      Bound call.named call.positional name (texts name)) :
    site.expanderIn (maxNesting - nesting) frame (.template call) =
        body.flatMap (Fragment.fill texts) ∧
      ∀ fuel, maxNesting - nesting < fuel →
        ComesTo frame.depth nesting (site.trackAnswer fuel frame (.template call))
          (body.flatMap (Fragment.fill texts)) := by
  have answer : site.expanderIn (maxNesting - nesting) frame (.template call) =
      body.flatMap (Fragment.fill texts) := by
    have called : site.expanderIn (maxNesting - nesting) frame (.template call) =
        site.expand (maxNesting - nesting) ⟨some call.bindings, frame.depth + 1⟩
          (Fragment.writeAll body) := by
      rw [expanderIn, Request.answer, invoke, if_neg (Nat.not_le_of_lt shallow), known]
      rfl
    have left : maxNesting - nesting = maxNesting - (nesting + 1) + 1 := by omega
    rw [called, left]
    exact site.expand_writeAll _ _ plain fun name member =>
      (call.lookup_bindings name _).mpr (bound name member)
  refine ⟨answer, fun fuel enough => ?_⟩
  rw [← answer]
  exact site.comesTo_trackAnswer enough frame (.template call)

/-- Values that are calls and references themselves, or begin like them, on the last level. -/
theorem callTemplate_fills_row :
    let count := " \x7b\x7b#lstcnt:a,b\x7d\x7d = ".toList
    let loop := "\x7b\x7brow|\x7b\x7b\x7bx\x7d\x7d\x7d\x7d\x7d[[|".toList
    let site := ({} : Site).withTemplate "row".toList
      "<\x7b\x7b\x7b1\x7d\x7d\x7d\x7b\x7b\x7bx\x7d\x7d\x7d> \x7b\x7b\x7b1\x7d\x7d\x7d".toList
    let call : TemplateCall :=
      ⟨"row".toList, [count], [("x".toList, "old".toList), ("x".toList, loop)]⟩
    let answer := '<' :: count ++ loop ++ "> ".toList ++ count
    site.expanderIn 1 .outermost (.template call) = answer ∧
      ComesTo 0 99 (site.trackAnswer 2 .outermost (.template call)) answer := by
  intro count loop site call answer
  let body : List Fragment :=
    [.text "<".toList, .reference "1".toList, .reference "x".toList, .text "> ".toList,
      .reference "1".toList]
  let texts : Text → Text := fun name => if name = "1".toList then count else loop
  have bound : ∀ name, .reference name ∈ body →
      Bound call.named call.positional name (texts name) := by
    have number : Bound call.named call.positional "1".toList count :=
      @Bound.ofNumber _ _ _ 0 _ (by decide) (by decide) rfl
    have name : Bound call.named call.positional "x".toList loop :=
      @Bound.ofName _ _ _ [_] [] _ rfl (by decide)
    intro key member
    simp only [body, List.mem_cons, List.not_mem_nil, or_false, reduceCtorEq, false_or,
      Fragment.reference.injEq] at member
    rcases member with rfl | rfl | rfl
    · exact number
    · exact name
    · exact number
  obtain ⟨answered, counted⟩ := @callTemplate_fills site .outermost 99 (by decide) (by decide)
    call body List.lookup_cons_self (by decide) texts bound
  have filled : body.flatMap (Fragment.fill texts) = answer := by decide
  rw [filled] at answered counted
  exact ⟨answered, counted 2 (by decide)⟩

end Site

end ListMarkup
