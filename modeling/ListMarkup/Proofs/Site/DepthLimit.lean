import ListMarkup.Proofs.Site.Nesting

/-!
# The limit on nested templates

Templates are called by expansions only, and the body of a template is one more expansion.
A frame is therefore never deeper than the count with which an expansion begins in it, and
less deep than the count with which a template is called in it (`Activity.Shallow`).  Since
counts stop at 100, no template is called in a frame deeper than 99.  From 100 on the limit
on nested templates is never reached, and rendering does not depend on it
(`Site.render_of_depth_limit`).
-/

set_option autoImplicit false

namespace ListMarkup

namespace Activity

/-- A regular activity in a frame that is no deeper than its count, and less deep where a
template is called. -/
structure Shallow (activity : Activity) : Prop where
  regular : activity.Regular
  le_limit : activity.nesting ≤ maxNesting
  depth_le : activity.depth ≤ activity.nesting
  depth_lt : activity.kind = .invocation → activity.depth < activity.nesting

/-- What goes on inside is shallow as well.  An expansion counts one more in the same frame,
and the call of a template goes one frame deeper only to expand. -/
theorem Shallow.inside {activity : Activity} (shallow : activity.Shallow) :
    ∀ inner ∈ activity.inside, inner.Shallow := by
  intro inner member
  obtain ⟨regular, le_limit, depth_le, depth_lt⟩ := shallow
  cases regular with
  | capped full => exact absurd member List.not_mem_nil
  | expansion below counted regular =>
      obtain ⟨depth, count⟩ := counted inner member
      have deeper : inner.depth < inner.nesting := by
        rw [depth, count]
        exact Nat.lt_succ_of_le depth_le
      exact ⟨regular inner member, count ▸ below, Nat.le_of_lt deeper, fun _ => deeper⟩
  | invocation entered regular =>
      obtain ⟨isExpansion, depth, count⟩ := entered inner member
      have bound : inner.depth ≤ inner.nesting := by
        rw [depth, count]
        exact depth_lt rfl
      refine ⟨regular inner member, count ▸ le_limit, bound, fun isInvocation => ?_⟩
      rw [isExpansion] at isInvocation
      exact ActivityKind.noConfusion isInvocation

end Activity

/-! ## Two limits -/

namespace Site

section

variable (templates : List (Text × Text)) (functions : FunctionTable) {limit limit' : Nat}
  (high : maxNesting ≤ limit) (high' : maxNesting ≤ limit')

include high high'

/-- In a frame below both limits a template is called in the same way. -/
theorem invoke_of_depth_limit {m : Type → Type} [Monad m] (inner inner' : Frame → Text → m Text)
    {frame : Frame} (below : frame.depth < maxNesting)
    (bodies : ∀ bindings body, inner ⟨some bindings, frame.depth + 1⟩ body =
      inner' ⟨some bindings, frame.depth + 1⟩ body) (name : Text) (bindings : Bindings) :
    invoke ⟨templates, functions, limit⟩ inner frame name bindings =
      invoke ⟨templates, functions, limit'⟩ inner' frame name bindings := by
  unfold invoke
  dsimp only
  rw [if_neg (by omega), if_neg (by omega)]
  split
  · exact bodies bindings _
  · rfl

/-- As long as a frame is no deeper than the expansions around it, its expansions do not
depend on the limit. -/
theorem expand_of_depth_limit (levels : Nat) :
    ∀ (frame : Frame) (text : Text), levels + frame.depth ≤ maxNesting →
      expand ⟨templates, functions, limit⟩ levels frame text =
        expand ⟨templates, functions, limit'⟩ levels frame text := by
  induction levels with
  | zero => exact fun _ _ _ => rfl
  | succ levels ih =>
      intro frame text shallow
      have expands : ∀ text, expand ⟨templates, functions, limit⟩ levels frame text =
          expand ⟨templates, functions, limit'⟩ levels frame text :=
        fun text => ih frame text (by omega)
      have invokes := invoke_of_depth_limit (m := Id) templates functions high high'
        (fun callee body => pure (expand ⟨templates, functions, limit⟩ levels callee body))
        (fun callee body => pure (expand ⟨templates, functions, limit'⟩ levels callee body))
        (show frame.depth < maxNesting by omega)
        fun bindings body => congrArg pure
          (ih _ body (show levels + (frame.depth + 1) ≤ maxNesting by omega))
      rw [expand, expand, expandNodes, expandNodes]
      simp only [expands, funext fun name => funext (invokes name)]

end

/-- **From 100 on the limit on nested templates is never reached.**  Every such limit gives
the same rendering.  Whatever the limit, a template is called only in a frame that is less
deep than its count, which is at most 100; so the test of the limit fails when the limit is
100 or more. -/
theorem render_of_depth_limit (templates : List (Text × Text)) (functions : FunctionTable)
    (text : Text) :
    (∀ limit limit', 100 ≤ limit → 100 ≤ limit' →
      render ⟨templates, functions, limit⟩ text = render ⟨templates, functions, limit'⟩ text) ∧
    ∀ limit, ∃ activity : Activity,
      (track ⟨templates, functions, limit⟩ 101 .outermost text).run {} =
        some (render ⟨templates, functions, limit⟩ text, { record := [activity] }) ∧
      ∀ invocation : Activity, invocation.kind = .invocation → invocation.Within [activity] →
        invocation.depth < invocation.nesting ∧ invocation.nesting ≤ 100 ∧
          (100 ≤ limit → ¬ limit ≤ invocation.depth) := by
  refine ⟨fun limit limit' high high' => ?_, fun limit => ?_⟩
  · exact expand_of_depth_limit templates functions high high' maxNesting .outermost text
      (Nat.le_refl maxNesting)
  · obtain ⟨activity, ⟨isExpansion, depth, count⟩, regular, ran⟩ :=
      track_expandsTo ⟨templates, functions, limit⟩ 101 (show maxNesting - 0 < 101 by decide)
        .outermost text
    refine ⟨activity, ran [], fun invocation isInvocation within => ?_⟩
    have start : activity.Shallow := by
      refine ⟨regular, count ▸ Nat.zero_le _, Nat.le_of_eq (depth.trans count.symm), ?_⟩
      rw [isExpansion]
      exact fun isInvocation => ActivityKind.noConfusion isInvocation
    have shallow := within.holds (fun _ => Activity.Shallow.inside)
      (List.forall_mem_singleton.mpr start)
    have depth_lt := shallow.depth_lt isInvocation
    have le_limit : invocation.nesting ≤ 100 := shallow.le_limit
    exact ⟨depth_lt, le_limit, fun high => by omega⟩

end Site

end ListMarkup
