import ListMarkup.Proofs.Site.Lockstep
import Mathlib.Data.Nat.Init

/-!
# Counting nested expansions

The limit on nested expansions is kept by a count.  Every frame has a count of the expansions
in progress.  An expansion adds one to it before it looks at the nodes of its text and sets it
back afterwards; when the count has reached the limit, the text is left as it is.  The frame
of a template that is called has a count of its own, which starts where the count of the
caller is and is gone when the template is done.

`Site.track` is expansion with such a count.  It ends for want of fuel and for no other
reason, and it writes down what goes on: which expansions and which calls of templates, in
frames of which depth, at which count, and which inside which (`Activity`).  With fuel for as
many nested expansions as the count leaves, and one more, it gives what `Site.expand` gives
(`Site.track_expandsTo`), and what it gives does not change with more fuel
(`Site.track_mono`).

Whatever is written down is regular (`Activity.Regular`): what goes on in the frame of an
expansion is counted one more than the expansion, and what goes on in a called template is
the expansion of a body, one frame deeper and at the same count.
-/

set_option autoImplicit false

namespace ListMarkup

/-! ## What goes on -/

/-- Markup is expanded, or a template is called. -/
inductive ActivityKind where
  | expansion
  | invocation
  deriving DecidableEq

/-- Something that goes on in a frame. -/
structure Activity where
  kind : ActivityKind
  /-- How deep the frame is. -/
  depth : Nat
  /-- The count of the frame when it begins. -/
  nesting : Nat
  /-- What goes on inside, in order. -/
  inside : List Activity

/-- What a frame keeps. -/
structure Progress where
  /-- How many expansions are in progress. -/
  nesting : Nat := 0
  /-- What has gone on so far. -/
  record : List Activity := []

/-- Computations in a frame.  They may run out of fuel. -/
abbrev Tracked := StateT Progress Option

namespace Tracked

/-- Writes a computation down as one activity, with what goes on in it inside. -/
def during (kind : ActivityKind) (depth nesting : Nat) {α : Type} (computation : Tracked α) :
    Tracked α := fun progress => do
  let (value, after) ← computation.run { progress with record := [] }
  let activity := { kind, depth, nesting, inside := after.record }
  some (value, { after with record := progress.record ++ [activity] })

/-- A computation during which the count is one more.  Afterwards it is set back. -/
def counted {α : Type} (computation : Tracked α) : Tracked α := do
  let nesting := (← get).nesting
  modify fun progress => { progress with nesting := nesting + 1 }
  let value ← computation
  modify fun progress => { progress with nesting }
  pure value

/-- A computation in a frame of its own.  Its count is a copy, and the count of the frame
around it stays. -/
def inNewFrame {α : Type} (computation : Tracked α) : Tracked α := fun progress => do
  let (value, after) ← computation.run progress
  some (value, { after with nesting := progress.nesting })

end Tracked

namespace Site

open Tracked (during counted inNewFrame)

/-- A call of a template, whose body is expanded in a frame with a count of its own. -/
def trackInvoke (site : Site) (inner : Frame → Text → Tracked Text) (frame : Frame)
    (name : Text) (bindings : Bindings) : Tracked Text := do
  let nesting := (← get).nesting
  during .invocation frame.depth nesting
    (site.invoke (fun callee body => inNewFrame (inner callee body)) frame name bindings)

/-- The expansion of markup in a frame that counts, with fuel for so many nested
expansions. -/
def track (site : Site) : (fuel : Nat) → Frame → Text → Tracked Text
  | 0, _, _ => failure
  | fuel + 1, frame, text => do
    let nesting := (← get).nesting
    during .expansion frame.depth nesting <|
      if maxNesting ≤ nesting then pure text
      else
        counted <|
          frame.expandNodes site.functions (fun text => site.track fuel frame text)
            (site.trackInvoke (fun callee body => site.track fuel callee body) frame) text

/-- The answer to what a function asks for in a frame that counts. -/
def trackAnswer (site : Site) (fuel : Nat) (frame : Frame) : Request → Tracked Text :=
  Request.answer (site.track fuel frame) (site.trackInvoke (site.track fuel) frame)

/-- The expander of a frame in which so many nested expansions are left. -/
def expanderIn (site : Site) (levels : Nat) (frame : Frame) : Expander := fun request =>
  Id.run (request.answer (fun text => pure (site.expand levels frame text))
    (site.invoke (fun callee body => pure (site.expand levels callee body)) frame))

end Site

namespace Tracked

theorem run_during {kind : ActivityKind} {depth nesting : Nat} {α : Type}
    {computation : Tracked α} {before after : Nat} {value : α} {inside : List Activity}
    (ran : computation.run ⟨before, []⟩ = some (value, ⟨after, inside⟩))
    (record : List Activity) :
    (during kind depth nesting computation).run ⟨before, record⟩ =
      some (value, ⟨after, record ++ [⟨kind, depth, nesting, inside⟩]⟩) := by
  show (computation.run ⟨before, []⟩).bind _ = _
  rw [ran]
  rfl

theorem run_counted {α : Type} {computation : Tracked α} {nesting after : Nat} {value : α}
    {record later : List Activity}
    (ran : computation.run ⟨nesting + 1, record⟩ = some (value, ⟨after, later⟩)) :
    (counted computation).run ⟨nesting, record⟩ = some (value, ⟨nesting, later⟩) := by
  show (computation.run ⟨nesting + 1, record⟩).bind _ = _
  rw [ran]
  rfl

theorem run_inNewFrame {α : Type} {computation : Tracked α} {before after : Nat} {value : α}
    {record later : List Activity}
    (ran : computation.run ⟨before, record⟩ = some (value, ⟨after, later⟩)) :
    (inNewFrame computation).run ⟨before, record⟩ = some (value, ⟨before, later⟩) := by
  show (computation.run ⟨before, record⟩).bind _ = _
  rw [ran]
  rfl

/-! ## More fuel -/

/-- Whatever one computation gives, the other one gives as well. -/
def Extends {α : Type} (first second : Tracked α) : Prop :=
  ∀ progress outcome, first.run progress = some outcome → second.run progress = some outcome

theorem Extends.refl {α : Type} (computation : Tracked α) : Extends computation computation :=
  fun _ _ ran => ran

theorem Extends.bind {α β : Type} {first second : Tracked α} {next next' : α → Tracked β}
    (whole : Extends first second) (later : ∀ value, Extends (next value) (next' value)) :
    Extends (first >>= next) (second >>= next') := by
  intro progress outcome ran
  rw [StateT.run_bind, Option.bind_eq_bind, Option.bind_eq_some_iff] at ran ⊢
  obtain ⟨⟨value, between⟩, ran, rest⟩ := ran
  exact ⟨(value, between), whole _ _ ran, later value _ _ rest⟩

theorem Extends.during {α : Type} {first second : Tracked α} (whole : Extends first second)
    (kind : ActivityKind) (depth nesting : Nat) :
    Extends (Tracked.during kind depth nesting first)
      (Tracked.during kind depth nesting second) := by
  intro progress outcome ran
  obtain ⟨between, ran, rest⟩ := Option.bind_eq_some_iff.mp ran
  exact Option.bind_eq_some_iff.mpr ⟨between, whole _ _ ran, rest⟩

theorem Extends.counted {α : Type} {first second : Tracked α} (whole : Extends first second) :
    Extends (Tracked.counted first) (Tracked.counted second) := by
  refine (Extends.refl _).bind fun _ => (Extends.refl _).bind fun _ => ?_
  exact whole.bind fun _ => .refl _

theorem Extends.inNewFrame {α : Type} {first second : Tracked α}
    (whole : Extends first second) :
    Extends (Tracked.inNewFrame first) (Tracked.inNewFrame second) := by
  intro progress outcome ran
  obtain ⟨between, ran, rest⟩ := Option.bind_eq_some_iff.mp ran
  exact Option.bind_eq_some_iff.mpr ⟨between, whole _ _ ran, rest⟩

/-- Two computations of which the second gives whatever the first gives. -/
def extending : Lockstep Tracked Tracked where
  Related := Extends
  pure value := .refl (pure value)
  bind := .bind

end Tracked

namespace Site

open Tracked (Extends extending)

theorem extends_trackInvoke (site : Site) {inner inner' : Frame → Text → Tracked Text}
    (extended : ∀ frame text, Extends (inner frame text) (inner' frame text)) (frame : Frame)
    (name : Text) (bindings : Bindings) :
    Extends (site.trackInvoke inner frame name bindings)
      (site.trackInvoke inner' frame name bindings) := by
  refine (Extends.refl _).bind fun progress => Extends.during ?_ _ _ _
  exact extending.invoke site frame name bindings fun body => (extended _ _).inNewFrame

/-- One more unit of fuel changes no result. -/
theorem extends_track_succ (site : Site) (fuel : Nat) :
    ∀ (frame : Frame) (text : Text),
      Extends (site.track fuel frame text) (site.track (fuel + 1) frame text) := by
  induction fuel with
  | zero => exact fun _ _ _ _ ran => nomatch ran
  | succ fuel ih =>
      intro frame text
      rw [track, track]
      refine (Extends.refl _).bind fun progress => Extends.during ?_ _ _ _
      split
      · exact .refl _
      · refine Extends.counted ?_
        exact extending.expandNodes (ih frame) (site.extends_trackInvoke ih frame) _ _ _

/-- **More fuel changes no result.** -/
theorem track_mono (site : Site) {fuel more : Nat} (enough : fuel ≤ more) (frame : Frame)
    (text : Text) : Extends (site.track fuel frame text) (site.track more frame text) := by
  induction more, enough using Nat.le_induction with
  | base => exact .refl _
  | succ more _ ih =>
      exact fun progress outcome ran =>
        site.extends_track_succ more frame text progress outcome (ih progress outcome ran)

/-- More fuel changes no answer. -/
theorem trackAnswer_mono (site : Site) {fuel more : Nat} (enough : fuel ≤ more) (frame : Frame)
    (request : Request) :
    Extends (site.trackAnswer fuel frame request) (site.trackAnswer more frame request) :=
  extending.answer (site.track_mono enough frame)
    (site.extends_trackInvoke (site.track_mono enough) frame) request

end Site

/-! ## Regular activities -/

/-- An activity in which depths and counts are as they should be.  An expansion at the limit
does nothing.  Inside any other the count is one more, in the same frame.  Inside the call of
a template there are expansions only, one frame deeper and at the same count. -/
inductive Activity.Regular : Activity → Prop where
  | capped {depth nesting : Nat} (full : maxNesting ≤ nesting) :
      Regular ⟨.expansion, depth, nesting, []⟩
  | expansion {depth nesting : Nat} {inside : List Activity} (below : nesting < maxNesting)
      (counted : ∀ activity ∈ inside, activity.depth = depth ∧ activity.nesting = nesting + 1)
      (regular : ∀ activity ∈ inside, Regular activity) :
      Regular ⟨.expansion, depth, nesting, inside⟩
  | invocation {depth nesting : Nat} {inside : List Activity}
      (entered : ∀ activity ∈ inside, activity.kind = .expansion ∧
        activity.depth = depth + 1 ∧ activity.nesting = nesting)
      (regular : ∀ activity ∈ inside, Regular activity) :
      Regular ⟨.invocation, depth, nesting, inside⟩

namespace Tracked

/-- A computation comes to a value, leaves the count as it finds it, and all that goes on in
it belongs to the frame and is regular. -/
def ComesTo (depth nesting : Nat) {α : Type} (computation : Tracked α) (value : α) : Prop :=
  ∀ record, ∃ inside : List Activity,
    computation.run ⟨nesting, record⟩ = some (value, ⟨nesting, record ++ inside⟩) ∧
      ∀ activity ∈ inside,
        (activity.depth = depth ∧ activity.nesting = nesting) ∧ activity.Regular

namespace ComesTo

variable {depth nesting : Nat} {α β : Type}

theorem pure (value : α) : ComesTo depth nesting (Pure.pure value) value := by
  intro record
  refine ⟨[], ?_, fun _ member => absurd member List.not_mem_nil⟩
  rw [List.append_nil]
  rfl

theorem bind {first : Tracked α} {next : α → Tracked β} {value : α} {result : β}
    (runs : ComesTo depth nesting first value)
    (runsNext : ComesTo depth nesting (next value) result) :
    ComesTo depth nesting (first >>= next) result := by
  intro record
  obtain ⟨inside, ran, regular⟩ := runs record
  obtain ⟨later, ranNext, regularLater⟩ := runsNext (record ++ inside)
  refine ⟨inside ++ later, ?_, List.forall_mem_append.mpr ⟨regular, regularLater⟩⟩
  rw [StateT.run_bind, ran, ← List.append_assoc]
  exact ranNext

end ComesTo

/-- A computation that is a single expansion and comes to a value, whatever went on before. -/
def ExpandsTo (depth nesting : Nat) (computation : Tracked Text) (value : Text) : Prop :=
  ∃ activity : Activity,
    (activity.kind = .expansion ∧ activity.depth = depth ∧ activity.nesting = nesting) ∧
      activity.Regular ∧
      ∀ record, computation.run ⟨nesting, record⟩ =
        some (value, ⟨nesting, record ++ [activity]⟩)

theorem ExpandsTo.comesTo {depth nesting : Nat} {computation : Tracked Text} {value : Text}
    (expands : ExpandsTo depth nesting computation value) :
    ComesTo depth nesting computation value := by
  obtain ⟨activity, ⟨_, counted⟩, regular, ran⟩ := expands
  exact fun record => ⟨[activity], ran record, List.forall_mem_singleton.mpr ⟨counted, regular⟩⟩

/-- Computations beside the values that they come to. -/
def comingTo (depth nesting : Nat) : Lockstep Tracked Id where
  Related computation value := ComesTo depth nesting computation (Id.run value)
  pure value := .pure value
  bind runs runsNext := runs.bind (runsNext _)

end Tracked

namespace Site

open Tracked (ExpandsTo ComesTo comingTo run_during run_counted run_inNewFrame)

/-- A call of a template comes to a value when the expansion of its body does. -/
theorem comesTo_trackInvoke (site : Site) {inner : Frame → Text → Tracked Text}
    {plain : Frame → Text → Text} {nesting : Nat}
    (bodies : ∀ callee body,
      ExpandsTo callee.depth nesting (inner callee body) (plain callee body))
    (frame : Frame) (name : Text) (bindings : Bindings) :
    ComesTo frame.depth nesting (site.trackInvoke inner frame name bindings)
      (Id.run (site.invoke (fun callee body => pure (plain callee body)) frame name bindings)) := by
  -- Either nothing goes on inside, or the expansion of the body does.
  have called : ∃ inside : List Activity,
      (site.invoke (fun callee body => Tracked.inNewFrame (inner callee body)) frame name
          bindings).run ⟨nesting, []⟩ =
        some (Id.run (site.invoke (fun callee body => pure (plain callee body)) frame name
          bindings), ⟨nesting, inside⟩) ∧
      (∀ activity ∈ inside, activity.kind = .expansion ∧ activity.depth = frame.depth + 1 ∧
        activity.nesting = nesting) ∧ ∀ activity ∈ inside, activity.Regular := by
    have nothing : ∀ {p : Activity → Prop}, ∀ activity ∈ ([] : List Activity), p activity :=
      fun _ member => absurd member List.not_mem_nil
    unfold invoke
    dsimp only
    split
    · exact ⟨[], rfl, nothing, nothing⟩
    · split
      · rename_i body _
        obtain ⟨activity, entered, regular, ran⟩ :=
          bodies ⟨some bindings, frame.depth + 1⟩ body
        exact ⟨[activity], run_inNewFrame (ran []), List.forall_mem_singleton.mpr entered,
          List.forall_mem_singleton.mpr regular⟩
      · exact ⟨[], rfl, nothing, nothing⟩
  obtain ⟨inside, ran, entered, regular⟩ := called
  intro record
  refine ⟨[⟨.invocation, frame.depth, nesting, inside⟩], ?_, ?_⟩
  · exact run_during ran record
  · exact List.forall_mem_singleton.mpr ⟨⟨rfl, rfl⟩, .invocation entered regular⟩

/-- **With enough fuel an expansion that counts is the expansion with as many levels as the
count leaves.** -/
theorem track_expandsTo (site : Site) (fuel : Nat) :
    ∀ {nesting : Nat}, maxNesting - nesting < fuel → ∀ (frame : Frame) (text : Text),
      ExpandsTo frame.depth nesting (site.track fuel frame text)
        (site.expand (maxNesting - nesting) frame text) := by
  induction fuel with
  | zero => exact fun enough => absurd enough (Nat.not_lt_zero _)
  | succ fuel ih =>
      intro nesting enough frame text
      by_cases full : maxNesting ≤ nesting
      · refine ⟨⟨.expansion, frame.depth, nesting, []⟩, ⟨rfl, rfl, rfl⟩, .capped full,
          fun record => ?_⟩
        rw [Nat.sub_eq_zero_of_le full]
        refine run_during ?_ record
        dsimp only
        rw [if_pos full]
        rfl
      · have inner := ih (show maxNesting - (nesting + 1) < fuel by omega)
        obtain ⟨inside, ran, regular⟩ :=
          (comingTo frame.depth (nesting + 1)).expandNodes
            (fun text => (inner frame text).comesTo) (site.comesTo_trackInvoke inner frame)
            frame site.functions text []
        refine ⟨⟨.expansion, frame.depth, nesting, inside⟩, ⟨rfl, rfl, rfl⟩,
          .expansion (Nat.lt_of_not_le full) (fun activity member => (regular activity member).1)
            fun activity member => (regular activity member).2, fun record => ?_⟩
        have left : maxNesting - nesting = maxNesting - (nesting + 1) + 1 := by omega
        rw [left, expand]
        refine run_during ?_ record
        dsimp only
        rw [if_neg full]
        exact run_counted ran

/-- What a frame that counts answers is what the expander of the frame answers. -/
theorem comesTo_trackAnswer (site : Site) {fuel nesting : Nat}
    (enough : maxNesting - nesting < fuel) (frame : Frame) (request : Request) :
    ComesTo frame.depth nesting (site.trackAnswer fuel frame request)
      (site.expanderIn (maxNesting - nesting) frame request) := by
  have inner := site.track_expandsTo fuel enough
  exact (comingTo frame.depth nesting).answer (fun text => (inner frame text).comesTo)
    (site.comesTo_trackInvoke inner frame) request

end Site

end ListMarkup
