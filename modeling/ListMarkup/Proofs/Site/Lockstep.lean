import ListMarkup.Site

/-!
# Expansions in lockstep

What an expansion does is said for any kind of effects, so it may be run with two kinds of
effects side by side.  A relation between computations that holds between equal values and
is kept when one computation follows another (`Lockstep`) then holds between the two runs
of a whole level, as soon as it holds between the two ways to expand markup in the frame and
between the two ways to call a template (`Lockstep.expandNodes`).

No step is taken here but those that the level itself takes: a function asks for its
arguments, a call binds its arguments from left to right, the nodes of a text come one after
the other.
-/

set_option autoImplicit false

namespace ListMarkup

open Markup (Node Call Reference)

/-- A relation between computations with effects of two kinds.  It holds between equal
values, and it is kept when computations follow each other. -/
structure Lockstep (m n : Type → Type) [Monad m] [Monad n] where
  Related : {α : Type} → m α → n α → Prop
  pure : ∀ {α : Type} (value : α), Related (Pure.pure value) (Pure.pure value)
  bind : ∀ {α β : Type} {first : m α} {first' : n α} {next : α → m β} {next' : α → n β},
    Related first first' → (∀ value, Related (next value) (next' value)) →
      Related (first >>= next) (first' >>= next')

namespace Lockstep

variable {m n : Type → Type} [Monad m] [Monad n] (lockstep : Lockstep m n)

/-- Items done one after the other. -/
theorem mapM [LawfulMonad m] [LawfulMonad n] {α β : Type} {step : α → m β} {step' : α → n β}
    (each : ∀ item, lockstep.Related (step item) (step' item)) (items : List α) :
    lockstep.Related (items.mapM step) (items.mapM step') := by
  induction items with
  | nil =>
      rw [List.mapM_nil, List.mapM_nil]
      exact lockstep.pure []
  | cons item items ih =>
      rw [List.mapM_cons, List.mapM_cons]
      refine lockstep.bind (each item) fun result => ?_
      exact lockstep.bind ih fun results => lockstep.pure (result :: results)

/-- A computation whose requests are answered in two ways. -/
theorem runM {α : Type} {expander : Request → m Text} {expander' : Request → n Text}
    (answers : ∀ request, lockstep.Related (expander request) (expander' request))
    (computation : Expansion α) :
    lockstep.Related (computation.runM expander) (computation.runM expander') := by
  induction computation with
  | done value => exact lockstep.pure value
  | ask request resume ih => exact lockstep.bind (answers request) ih

/-- The arguments of a template call, bound from left to right. -/
theorem bindArguments {expand : Text → m Text} {expand' : Text → n Text}
    (expands : ∀ text, lockstep.Related (expand text) (expand' text)) (arguments : List Text) :
    ∀ (numbered : Nat) (bindings : Bindings),
      lockstep.Related (ListMarkup.bindArguments expand numbered bindings arguments)
        (ListMarkup.bindArguments expand' numbered bindings arguments) := by
  induction arguments with
  | nil => exact fun _ bindings => lockstep.pure bindings
  | cons argument arguments ih =>
      intro numbered bindings
      unfold ListMarkup.bindArguments
      split
      · refine lockstep.bind (expands _) fun name => ?_
        exact lockstep.bind (expands _) fun text => ih _ _
      · dsimp only
        split
        · exact ih _ _
        · exact lockstep.bind (expands _) fun text => ih _ _

section Level

variable {expand : Text → m Text} {expand' : Text → n Text}
  {invoke : Text → Bindings → m Text} {invoke' : Text → Bindings → n Text}
  (expands : ∀ text, lockstep.Related (expand text) (expand' text))
  (invokes : ∀ name bindings, lockstep.Related (invoke name bindings) (invoke' name bindings))

include expands

theorem expandReference (frame : Frame) (reference : Reference) :
    lockstep.Related (frame.expandReference expand reference)
      (frame.expandReference expand' reference) := by
  unfold Frame.expandReference
  split
  · exact lockstep.pure _
  · refine lockstep.bind (expands _) fun name => ?_
    split
    · exact lockstep.pure _
    · exact expands _
    · exact lockstep.pure _

include invokes

theorem answer (request : Request) :
    lockstep.Related (request.answer expand invoke) (request.answer expand' invoke') := by
  cases request with
  | markup text => exact expands text
  | template call => exact invokes call.name call.bindings

theorem expandCall (functions : FunctionTable) (call : Call) :
    lockstep.Related (Frame.expandCall functions expand invoke call)
      (Frame.expandCall functions expand' invoke' call) := by
  unfold Frame.expandCall
  split
  · split
    · exact lockstep.runM (lockstep.answer expands invokes) _
    · exact lockstep.pure _
  · refine lockstep.bind (expands _) fun name => ?_
    exact lockstep.bind (lockstep.bindArguments expands _ _ _) fun bindings => invokes _ _

theorem expandNode (frame : Frame) (functions : FunctionTable) (node : Node) :
    lockstep.Related (frame.expandNode functions expand invoke node)
      (frame.expandNode functions expand' invoke' node) := by
  cases node with
  | text run => exact lockstep.pure run
  | argument reference => exact lockstep.expandReference expands frame reference
  | call call => exact lockstep.expandCall expands invokes functions call

/-- **What is kept by single steps is kept by the expansion of a text.** -/
theorem expandNodes [LawfulMonad m] [LawfulMonad n] (frame : Frame) (functions : FunctionTable)
    (text : Text) :
    lockstep.Related (frame.expandNodes functions expand invoke text)
      (frame.expandNodes functions expand' invoke' text) := by
  unfold Frame.expandNodes
  refine lockstep.bind ?_ fun pieces => lockstep.pure _
  exact lockstep.mapM (lockstep.expandNode expands invokes frame functions) _

end Level

/-- A template's body, expanded in a frame of its own in two ways. -/
theorem invoke {inner : Frame → Text → m Text} {inner' : Frame → Text → n Text} (site : Site)
    (frame : Frame) (name : Text) (bindings : Bindings)
    (bodies : ∀ body, lockstep.Related (inner ⟨some bindings, frame.depth + 1⟩ body)
      (inner' ⟨some bindings, frame.depth + 1⟩ body)) :
    lockstep.Related (site.invoke inner frame name bindings)
      (site.invoke inner' frame name bindings) := by
  unfold Site.invoke
  dsimp only
  split
  · exact lockstep.pure _
  · split
    · exact bodies _
    · exact lockstep.pure _

end Lockstep

end ListMarkup
