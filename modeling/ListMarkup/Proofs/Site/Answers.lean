import ListMarkup.Proofs.Site.Counting

/-!
# Answers leave the frame as it is

Everything that a function asks for, the expansion of markup and the result of a template,
is answered in the frame of its call, and the frame is the same afterwards: its count is what
it was, at the limit and below it.  The answers in a frame are those of one expander that
depends on the frame and its count only (`Site.expanderIn`).  A function therefore may ask
once and keep the answer, as merging does with the pairs that match and sorting with the keys
of its values; asking again would give the same (`Site.answers_leave_frame`).
-/

set_option autoImplicit false

namespace ListMarkup.Site

open Tracked (ComesTo comingTo)

variable (site : Site) (frame : Frame)

/-- A computation whose requests are answered in a frame comes to what it comes to with the
expander of the frame. -/
theorem comesTo_runM {fuel nesting : Nat} (enough : maxNesting - nesting < fuel) {α : Type}
    (computation : Expansion α) :
    ComesTo frame.depth nesting (computation.runM (site.trackAnswer fuel frame))
      (computation.run (site.expanderIn (maxNesting - nesting) frame)) := by
  have answers : ∀ request, (comingTo frame.depth nesting).Related
      (site.trackAnswer fuel frame request)
      (pure (site.expanderIn (maxNesting - nesting) frame request)) :=
    site.comesTo_trackAnswer enough frame
  have runs := (comingTo frame.depth nesting).runM answers computation
  rw [Expansion.runM_pure] at runs
  exact runs

/-- An answer leaves the count as it finds it, whatever the fuel. -/
theorem nesting_of_trackAnswer {fuel : Nat} {request : Request} {before after : Progress}
    {value : Text} (ran : (site.trackAnswer fuel frame request).run before = some (value, after)) :
    after.nesting = before.nesting := by
  -- The answer is the same with enough fuel, and then it is known.
  have enough : maxNesting - before.nesting < max fuel (maxNesting + 1) := by omega
  obtain ⟨inside, known, _⟩ :=
    site.comesTo_trackAnswer enough frame request before.record
  have same := site.trackAnswer_mono (Nat.le_max_left fuel (maxNesting + 1)) frame request
    before (value, after) ran
  cases known.symm.trans same
  rfl

/-- **Answering leaves the frame as it is.**  The count of a frame is the same after an answer
as before it.  With fuel for 101 nested expansions every request is answered, and the answer
is that of one expander for the frame and its count; asked twice, a request has the same
answer, and a computation that asks in the frame comes to what it comes to with that
expander. -/
theorem answers_leave_frame (nesting : Nat) :
    (∀ fuel request record value after,
      (site.trackAnswer fuel frame request).run ⟨nesting, record⟩ = some (value, after) →
        after.nesting = nesting) ∧
    ∀ fuel, 101 ≤ fuel →
      (∀ request record, ∃ inside,
        (site.trackAnswer fuel frame request).run ⟨nesting, record⟩ =
          some (site.expanderIn (100 - nesting) frame request, ⟨nesting, record ++ inside⟩)) ∧
      (∀ request record, ∃ answer inside,
        (do
          let first ← site.trackAnswer fuel frame request
          let second ← site.trackAnswer fuel frame request
          pure (first, second)).run ⟨nesting, record⟩ =
            some ((answer, answer), ⟨nesting, record ++ inside⟩)) ∧
      ∀ (α : Type) (computation : Expansion α) record, ∃ inside,
        (computation.runM (site.trackAnswer fuel frame)).run ⟨nesting, record⟩ =
          some (computation.run (site.expanderIn (100 - nesting) frame),
            ⟨nesting, record ++ inside⟩) := by
  refine ⟨fun fuel request record value after ran => site.nesting_of_trackAnswer frame ran,
    fun fuel enough => ?_⟩
  have left : maxNesting - nesting < fuel := by
    show 100 - nesting < fuel
    omega
  have answered := site.comesTo_trackAnswer left frame
  refine ⟨fun request record => ?_, fun request record => ?_, fun α computation record => ?_⟩
  · obtain ⟨inside, ran, _⟩ := answered request record
    exact ⟨inside, ran⟩
  · have twice : ComesTo frame.depth nesting
        (do
          let first ← site.trackAnswer fuel frame request
          let second ← site.trackAnswer fuel frame request
          pure (first, second))
        (site.expanderIn (maxNesting - nesting) frame request,
          site.expanderIn (maxNesting - nesting) frame request) := by
      refine ComesTo.bind (answered request) ?_
      exact ComesTo.bind (answered request) (.pure _)
    obtain ⟨inside, ran, _⟩ := twice record
    exact ⟨_, inside, ran⟩
  · obtain ⟨inside, ran, _⟩ := site.comesTo_runM frame left computation record
    exact ⟨inside, ran⟩

end ListMarkup.Site
