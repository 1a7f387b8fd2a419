import ListMarkup.Proofs.Markup.Offsets

/-!
# The matcher keeps the offsets of the tree

A state of the tree determines a state of the matcher (`Matching.offsets`): its open
levels give the stack, and its items the constructs found.  Reading a token commutes with
this: the matcher, in the state that belongs to a tree, fails no subtraction and gets to
the state that belongs to the tree after the token (`Matching.read_offsets`).

The tree thereby carries the invariants of the matcher.  Openers start in increasing
order, the links are counted, the constructs found are in order and apart, and every
pipe lies inside its opener, because all of them are read off one sequence of items.
-/

set_option autoImplicit false

namespace ListMarkup.Markup

open Text (byteLength difference?_of_le)

/-! ## Steps of the matcher -/

namespace Matcher

/-- A matcher is determined by what it keeps; the depth is that of the stack. -/
theorem eq_of {first later : Matcher} (stack : first.stack = later.stack)
    (links : first.links = later.links) (found : first.found = later.found) : first = later := by
  obtain ⟨_, _, _, _, rfl⟩ := first
  obtain ⟨_, _, _, _, rfl⟩ := later
  cases stack
  cases links
  cases found
  rfl

@[simp] theorem links_notePipe (matcher : Matcher) (position : Nat) :
    (matcher.notePipe position).links = matcher.links := by
  unfold notePipe
  split <;> rfl

@[simp] theorem found_notePipe (matcher : Matcher) (position : Nat) :
    (matcher.notePipe position).found = matcher.found := by
  unfold notePipe
  split <;> rfl

theorem closeLink_of_none {matcher : Matcher} (none : matcher.links = 0) :
    matcher.closeLink = some matcher :=
  if_pos none

/-- A closing link takes the innermost link from the stack, with all that is open
inside. -/
theorem closeLink_of_cut (matcher : Matcher) {inner outer : List Opening} {link : Opening}
    (stack : matcher.stack = inner ++ link :: outer)
    (before : ∀ opening ∈ inner, opening.opener.isLink = false)
    (isLink : link.opener.isLink = true) (counted : 0 < matcher.links) :
    ∃ closed, matcher.closeLink = some closed ∧ closed.stack = outer ∧
      closed.links = matcher.links - 1 ∧ closed.found = matcher.found := by
  have dropped :
      matcher.stack.dropWhile (fun opening => !opening.opener.isLink) = link :: outer := by
    rw [stack]
    exact dropWhile_cut (fun opening member => by simp [before opening member]) (by simp [isLink])
  rw [closeLink, if_neg (Nat.ne_of_gt counted)]
  split
  · rename_i cut
    rw [dropped] at cut
    cases cut
  · rename_i cut
    rw [difference?_of_le counted]
    refine ⟨_, rfl, ?_, rfl, rfl⟩
    rw [dropped] at cut
    cases cut
    rfl

/-- A closing run of braces is over when fewer than two are left, or when only links are
open. -/
theorem closeBraces_of_done {matcher : Matcher} {position run : Nat}
    (done : ¬(2 ≤ run ∧ matcher.links < matcher.depth)) :
    matcher.closeBraces position run = some matcher := by
  rw [closeBraces, if_neg done]

/-- A closing run of braces ends the innermost opening run. -/
theorem closeBraces_of_cut (matcher : Matcher) (position : Nat) {run count start : Nat}
    {abandoned outer : List Opening} {pipes : List Nat}
    (stack : matcher.stack = abandoned ++ ⟨.braces count, start, pipes⟩ :: outer)
    (before : ∀ opening ∈ abandoned, opening.opener.isLink = true)
    (runEnough : 2 ≤ run) (countEnough : 2 ≤ count)
    (atLeast : abandoned.length ≤ matcher.links) (counted : matcher.links < matcher.depth) :
    ∃ closed : Matcher,
      matcher.closeBraces position run =
        closed.closeBraces (position + (Fence.ofRuns count run).width)
          (run - (Fence.ofRuns count run).width) ∧
      closed.stack =
        (if 2 ≤ count - (Fence.ofRuns count run).width then
          ⟨.braces (count - (Fence.ofRuns count run).width), start, []⟩ :: outer
        else outer) ∧
      closed.links = matcher.links - abandoned.length ∧
      closed.found =
        ⟨start + (count - (Fence.ofRuns count run).width),
            position + (Fence.ofRuns count run).width, (Fence.ofRuns count run).width,
            abandoned.flatMap (·.pipes) ++ pipes⟩ ::
          matcher.found.dropWhile fun inner =>
            start + (count - (Fence.ofRuns count run).width) ≤ inner.start := by
  have taken : matcher.stack.takeWhile (·.opener.isLink) = abandoned := by
    rw [stack]
    exact takeWhile_cut before rfl
  have dropped : matcher.stack.dropWhile (·.opener.isLink) =
      ⟨.braces count, start, pipes⟩ :: outer := by
    rw [stack]
    exact dropWhile_cut before rfl
  rw [closeBraces, if_pos ⟨runEnough, counted⟩]
  split
  · rename_i cut
    rw [dropped] at cut
    cases cut
    dsimp only
    rw [taken, difference?_of_le atLeast,
      difference?_of_le (Fence.width_ofRuns_le_opened countEnough),
      difference?_of_le (Fence.width_ofRuns_le_closed runEnough)]
    refine ⟨_, rfl, ?_, ?_, ?_⟩
    · split <;> rfl
    · split <;> rfl
    · split <;> rfl
  · rename_i cut
    exact absurd dropped (cut _ _ _ _)

end Matcher

namespace Matching

/-! ## The state of the matcher that belongs to a tree -/

/-- How many bytes have been read. -/
def size (state : Matching) : Nat :=
  Item.size state.finish

theorem size_eq (state : Matching) : state.size = byteLength state.source := rfl

/-- A level as the matcher keeps it. -/
def openingAt (start : Nat) (level : Level) : Opening where
  opener := level.opener
  start := start
  pipes := (Item.pipesFrom (start + byteLength level.opener.source) level.items.reverse).reverse

/-- Levels as the matcher keeps them, above the items outside all of them. -/
def openings (ground : List Item) : List Level → List Opening
  | [] => []
  | level :: outer => openingAt (size ⟨outer, ground⟩) level :: openings ground outer

/-- What the matcher keeps of a tree. -/
def offsets (state : Matching) : Matcher where
  stack := openings state.ground state.levels
  depth := (openings state.ground state.levels).length
  links := state.levels.countP (·.opener.isLink)
  found := (Item.constructsFrom 0 state.finish).reverse
  depth_eq := rfl

/-- Inner levels are read after the outer ones. -/
theorem size_append (inner outer : List Level) (ground : List Item) :
    size ⟨inner ++ outer, ground⟩ =
      size ⟨outer, ground⟩ + Item.size (Level.spill inner).reverse := by
  rw [size, finish_append, Item.size_append, size]

@[simp] theorem length_openings (ground : List Item) (levels : List Level) :
    (openings ground levels).length = levels.length := by
  induction levels with
  | nil => rfl
  | cons level outer ih => rw [openings, List.length_cons, ih, List.length_cons]

theorem offsets_depth (state : Matching) : state.offsets.depth = state.levels.length :=
  length_openings _ _

/-- The openings of inner levels stand above those of the outer ones.  Their pipes are
those of the items that the inner levels would leave as text. -/
theorem openings_append (ground : List Item) (inner outer : List Level) :
    ∃ above, openings ground (inner ++ outer) = above ++ openings ground outer ∧
      above.map (·.opener) = inner.map (·.opener) ∧
      above.flatMap (·.pipes) =
        (Item.pipesFrom (size ⟨outer, ground⟩) (Level.spill inner).reverse).reverse := by
  induction inner with
  | nil => exact ⟨[], rfl, rfl, rfl⟩
  | cons level inner ih =>
      obtain ⟨above, stack, openers, pipes⟩ := ih
      refine ⟨openingAt (size ⟨inner ++ outer, ground⟩) level :: above, ?_, ?_, ?_⟩
      · rw [List.cons_append, openings, stack, List.cons_append]
      · rw [List.map_cons, List.map_cons, openers]
        rfl
      · rw [List.flatMap_cons, pipes, Level.spill, List.reverse_append, List.reverse_cons,
          List.append_assoc, Item.pipesFrom_append, List.reverse_append, List.singleton_append,
          Item.pipesFrom, Item.pipeAt, List.nil_append, Item.size_text, openingAt, size_append]

/-- Something that is not a pipe leaves the openings as they are. -/
theorem openings_push (item : Item) (notPipe : ∀ start, item.pipeAt start = [])
    (state : Matching) :
    openings (state.push item).ground (state.push item).levels =
      openings state.ground state.levels := by
  obtain ⟨_ | ⟨level, outer⟩, ground⟩ := state
  · rfl
  · simp only [push, openings, openingAt, List.reverse_cons, Item.pipesFrom_append,
      Item.pipesFrom, notPipe, List.append_nil]

theorem countP_push (item : Item) (state : Matching) :
    (state.push item).levels.countP (·.opener.isLink) =
      state.levels.countP (·.opener.isLink) := by
  obtain ⟨_ | ⟨level, outer⟩, ground⟩ := state
  · rfl
  · simp only [push, List.countP_cons]

/-- What is found after one more item. -/
theorem found_push (item : Item) (state : Matching) :
    (state.push item).offsets.found =
      (item.constructsAt state.size).reverse ++ state.offsets.found := by
  simp only [offsets, finish_push, Item.constructsFrom_append, Item.constructsFrom_singleton,
    List.reverse_append, Nat.zero_add, size]

/-- A link, a call or a reference changes nothing but what is found. -/
theorem offsets_push_enclosed (fence : Fence) (body : List Item) (state : Matching) :
    (state.push (.enclosed fence body)).offsets.stack = state.offsets.stack ∧
      (state.push (.enclosed fence body)).offsets.links = state.offsets.links ∧
      (state.push (.enclosed fence body)).offsets.found =
        ((Item.enclosed fence body).constructsAt state.size).reverse ++ state.offsets.found :=
  ⟨openings_push _ (fun _ => rfl) state, countP_push _ state, found_push _ state⟩

/-- More text changes nothing for the matcher. -/
theorem offsets_push_text (run : Text) (state : Matching) :
    (state.push (.text run)).offsets = state.offsets := by
  refine Matcher.eq_of (openings_push _ (fun _ => rfl) state) (countP_push _ state) ?_
  rw [found_push, Item.constructsAt]
  rfl

/-- One more opener is one more opening, at the end of what has been read. -/
theorem offsets_enter (opener : Opener) (state : Matching) :
    (state.enter opener).offsets.stack = ⟨opener, state.size, []⟩ :: state.offsets.stack ∧
      (state.enter opener).offsets.found = state.offsets.found := by
  refine ⟨rfl, ?_⟩
  simp only [offsets, finish_enter, Item.constructsFrom_append, Item.constructsFrom_singleton,
    Item.constructsAt, List.append_nil]

/-- What is read of a level, what is inside it and what is outside. -/
theorem size_cut (inner : List Level) (opener : Opener) (items : List Item)
    (outer : List Level) (ground : List Item) :
    size ⟨inner ++ ⟨opener, items⟩ :: outer, ground⟩ =
      size ⟨outer, ground⟩ +
        (byteLength opener.source +
          Item.size (items.reverse ++ (Level.spill inner).reverse)) := by
  rw [size_eq, source_cut, Text.byteLength_append, Text.byteLength_append]
  rfl

/-- What is found in a level and inside it is found after what is outside. -/
theorem found_cut (inner : List Level) (opener : Opener) (items : List Item)
    (outer : List Level) (ground : List Item) :
    (offsets ⟨inner ++ ⟨opener, items⟩ :: outer, ground⟩).found =
      (Item.constructsFrom (size ⟨outer, ground⟩ + byteLength opener.source)
        (items.reverse ++ (Level.spill inner).reverse)).reverse ++
        (offsets ⟨outer, ground⟩).found := by
  simp only [offsets, finish_append, finish_cons, List.append_assoc, List.cons_append,
    Item.constructsFrom_append, Item.constructsFrom_text, List.reverse_append, Nat.zero_add, size]

/-- The openings of inner levels stand above that of a level, and this one above those of
the outer levels.  All pipes in the level and inside it are among theirs. -/
theorem openings_cut (inner : List Level) (opener : Opener) (items : List Item)
    (outer : List Level) (ground : List Item) :
    ∃ above pipes, openings ground (inner ++ ⟨opener, items⟩ :: outer) =
        above ++ ⟨opener, size ⟨outer, ground⟩, pipes⟩ :: openings ground outer ∧
      above.map (·.opener) = inner.map (·.opener) ∧
      above.flatMap (·.pipes) ++ pipes =
        (Item.pipesFrom (size ⟨outer, ground⟩ + byteLength opener.source)
          (items.reverse ++ (Level.spill inner).reverse)).reverse := by
  obtain ⟨above, stack, openers, pipes⟩ := openings_append ground inner (⟨opener, items⟩ :: outer)
  refine ⟨above, _, stack, openers, ?_⟩
  have start := size_cut [] opener items outer ground
  rw [List.nil_append, Level.spill, List.reverse_nil, List.append_nil, ← Nat.add_assoc] at start
  rw [pipes, start, Item.pipesFrom_append, List.reverse_append]

/-! ## Closing links and braces -/

/-- Levels with a property of their openers have openings with it. -/
theorem opener_of_map_eq {above : List Opening} {inner : List Level} {answer : Bool}
    (openers : above.map (·.opener) = inner.map (·.opener))
    (all : ∀ level ∈ inner, level.opener.isLink = answer) :
    ∀ opening ∈ above, opening.opener.isLink = answer := by
  intro opening member
  have : opening.opener ∈ inner.map (·.opener) := by
    rw [← openers]
    exact List.mem_map_of_mem member
  obtain ⟨level, inside, same⟩ := List.mem_map.1 this
  rw [← same]
  exact all level inside

/-- The matcher ends a link as the tree does. -/
theorem closeLink_offsets (state : Matching) :
    state.offsets.closeLink = some state.closeLink.offsets := by
  rcases closeLink_cases state with ⟨none, closed⟩ | ⟨inner, items, outer, levels, before, closed⟩
  · rw [closed, offsets_push_text]
    refine Matcher.closeLink_of_none (List.countP_eq_zero.2 fun level member => ?_)
    simp [none level member]
  · obtain ⟨_, ground⟩ := state
    subst levels
    obtain ⟨above, _, stack, openers, _⟩ := openings_cut inner .link items outer ground
    have noLinks : inner.countP (·.opener.isLink) = 0 :=
      List.countP_eq_zero.2 fun level member => by simp [before level member]
    have links : (offsets ⟨inner ++ ⟨.link, items⟩ :: outer, ground⟩).links =
        outer.countP (·.opener.isLink) + 1 := by
      rw [offsets, List.countP_append, noLinks, Nat.zero_add, List.countP_cons_of_pos rfl]
    obtain ⟨after, run, afterStack, afterLinks, afterFound⟩ :=
      Matcher.closeLink_of_cut (offsets ⟨inner ++ ⟨.link, items⟩ :: outer, ground⟩)
        stack (opener_of_map_eq openers before) rfl (by rw [links]; exact Nat.succ_pos _)
    obtain ⟨pushedStack, pushedLinks, pushedFound⟩ := offsets_push_enclosed .link
      (items.reverse ++ (Level.spill inner).reverse) ⟨outer, ground⟩
    rw [run, closed]
    refine congrArg some (Matcher.eq_of ?_ ?_ ?_)
    · rw [afterStack, pushedStack]
      rfl
    · rw [afterLinks, links, pushedLinks, Nat.add_sub_cancel]
      rfl
    · rw [afterFound, found_cut, pushedFound, Item.constructsAt]
      rfl

/-- What an opening run has left is still on the stack when there are two braces of it. -/
theorem offsets_leave (left : Nat) (state : Matching) :
    (state.leave left).offsets.stack =
        (if 2 ≤ left then ⟨.braces left, state.size, []⟩ :: state.offsets.stack
        else state.offsets.stack) ∧
      (state.leave left).offsets.links = state.offsets.links ∧
      (state.leave left).offsets.found = state.offsets.found := by
  unfold leave
  split
  · obtain ⟨stack, found⟩ := offsets_enter (.braces left) state
    exact ⟨stack, rfl, found⟩
  · split
    · rw [offsets_push_text]
      exact ⟨rfl, rfl, rfl⟩
    · exact ⟨rfl, rfl, rfl⟩

theorem size_leave (left : Nat) (state : Matching) :
    (state.leave left).size = state.size + left := by
  rw [size_eq, source_leave, Text.byteLength_append, byteLength_openingBraces, ← size_eq]

/-- What is found lies in what has been read. -/
theorem start_lt_of_mem_found {state : Matching} {construct : Construct}
    (member : construct ∈ state.offsets.found) : construct.start < state.size := by
  have bounds := Item.start_bounds_of_mem_constructsFrom _ _ (List.mem_reverse.1 member)
  rw [Nat.zero_add] at bounds
  exact bounds.2

/-- Of what is found, a construct that starts with the last braces of a level covers what
is in the level and inside it, and nothing outside. -/
theorem dropWhile_found_cut {left opened : Nat} (within : left ≤ opened) (inner : List Level)
    (items : List Item) (outer : List Level) (ground : List Item) :
    (offsets ⟨inner ++ ⟨.braces opened, items⟩ :: outer, ground⟩).found.dropWhile
        (fun construct => size ⟨outer, ground⟩ + left ≤ construct.start) =
      (offsets ⟨outer, ground⟩).found := by
  have covered : ∀ construct ∈ (Item.constructsFrom (size ⟨outer, ground⟩ + opened)
      (items.reverse ++ (Level.spill inner).reverse)).reverse,
      size ⟨outer, ground⟩ + left ≤ construct.start := by
    intro construct member
    have bounds := Item.start_bounds_of_mem_constructsFrom _ _ (List.mem_reverse.1 member)
    omega
  rw [found_cut, Opener.source, byteLength_openingBraces,
    List.dropWhile_append_of_pos fun construct member => by simp [covered construct member]]
  cases found : (offsets ⟨outer, ground⟩).found with
  | nil => rfl
  | cons construct earlier =>
      have before : construct.start < size ⟨outer, ground⟩ :=
        start_lt_of_mem_found (by rw [found]; exact List.mem_cons_self)
      exact List.dropWhile_cons_of_neg (by simp only [decide_eq_true_eq]; omega)

/-- The links inside an opening run of braces are counted, and the run is on the stack. -/
theorem links_cut {links : List Level} (before : ∀ level ∈ links, level.opener.isLink = true)
    (opened : Nat) (items : List Item) (outer : List Level) (ground : List Item) :
    (offsets ⟨links ++ ⟨.braces opened, items⟩ :: outer, ground⟩).links =
        links.length + (offsets ⟨outer, ground⟩).links ∧
      (offsets ⟨links ++ ⟨.braces opened, items⟩ :: outer, ground⟩).links <
        (offsets ⟨links ++ ⟨.braces opened, items⟩ :: outer, ground⟩).depth := by
  have counted : (offsets ⟨links ++ ⟨.braces opened, items⟩ :: outer, ground⟩).links =
      links.length + outer.countP (·.opener.isLink) := by
    rw [offsets, List.countP_append, List.countP_eq_length.2 before,
      List.countP_cons_of_neg (by simp [Opener.isLink])]
  have few : outer.countP (·.opener.isLink) ≤ outer.length := List.countP_le_length
  refine ⟨counted, ?_⟩
  rw [counted, offsets_depth, List.length_append, List.length_cons]
  omega

/-- The state after a construct is settled has read as much of the closing run as the
construct needs. -/
theorem size_settleRuns {opened run : Nat} (openedEnough : 2 ≤ opened) (runEnough : 2 ≤ run)
    (links : List Level) (items : List Item) (outer : List Level) (ground : List Item) :
    (settleRuns opened run (items.reverse ++ (Level.spill links).reverse) ⟨outer, ground⟩).size =
      size ⟨links ++ ⟨.braces opened, items⟩ :: outer, ground⟩ +
        (Fence.ofRuns opened run).width := by
  have written := congrArg byteLength (source_settleRuns openedEnough runEnough
    (items.reverse ++ (Level.spill links).reverse) ⟨outer, ground⟩)
  have used : (Fence.ofRuns opened run).width ≤ run := Fence.width_ofRuns_le_closed runEnough
  simp only [Text.byteLength_append, byteLength_openingBraces, byteLength_closingBraces,
    ← size_eq] at written
  rw [size_cut, Opener.source, byteLength_openingBraces, Item.size]
  omega

/-- The state after a construct is settled, as the matcher keeps it. -/
theorem offsets_settleRuns {opened run : Nat} (openedEnough : 2 ≤ opened) (runEnough : 2 ≤ run)
    (links : List Level) (items : List Item) (outer : List Level) (ground : List Item) :
    let settled := settleRuns opened run (items.reverse ++ (Level.spill links).reverse)
      ⟨outer, ground⟩
    let width := (Fence.ofRuns opened run).width
    settled.offsets.stack =
        (if 2 ≤ opened - width then
          ⟨.braces (opened - width), size ⟨outer, ground⟩, []⟩ :: openings ground outer
        else openings ground outer) ∧
      settled.offsets.links = (offsets ⟨outer, ground⟩).links ∧
      settled.offsets.found =
        ⟨size ⟨outer, ground⟩ + (opened - width),
          size ⟨links ++ ⟨.braces opened, items⟩ :: outer, ground⟩ + width, width,
          (Item.pipesFrom (size ⟨outer, ground⟩ + opened)
            (items.reverse ++ (Level.spill links).reverse)).reverse⟩ ::
        (offsets ⟨outer, ground⟩).found := by
  intro settled width
  have used : width ≤ opened := Fence.width_ofRuns_le_opened openedEnough
  have inside :
      size ⟨outer, ground⟩ + (opened - width) + width = size ⟨outer, ground⟩ + opened := by
    omega
  have pushed : settled = (leave (opened - width) ⟨outer, ground⟩).push _ := settle_eq_push _ _ _
  obtain ⟨leftStack, leftLinks, leftFound⟩ := offsets_leave (opened - width) ⟨outer, ground⟩
  obtain ⟨stack, counted, found⟩ := offsets_push_enclosed (Fence.ofRuns opened run)
    (items.reverse ++ (Level.spill links).reverse) (leave (opened - width) ⟨outer, ground⟩)
  have stop := size_settleRuns openedEnough runEnough links items outer ground
  rw [settleRuns, settle_eq_push, size_eq, source_push, Text.byteLength_append, ← size_eq,
    size_leave, ← Item.size] at stop
  rw [pushed]
  refine ⟨stack.trans leftStack, counted.trans leftLinks, found.trans ?_⟩
  rw [Item.constructsAt_enclosed (Fence.ofRuns_ne_link opened run), size_leave, stop, inside,
    leftFound]
  rfl

/-- Ending one construct, the matcher gets to the state that belongs to the tree in which
the construct is settled. -/
theorem closeBraces_step_offsets {run opened : Nat} {links outer : List Level}
    {items ground : List Item} (enough : 2 ≤ run) (openedEnough : 2 ≤ opened)
    (before : ∀ level ∈ links, level.opener.isLink = true) :
    (offsets ⟨links ++ ⟨.braces opened, items⟩ :: outer, ground⟩).closeBraces
        (size ⟨links ++ ⟨.braces opened, items⟩ :: outer, ground⟩) run =
      (settleRuns opened run (items.reverse ++ (Level.spill links).reverse)
          ⟨outer, ground⟩).offsets.closeBraces
        (settleRuns opened run (items.reverse ++ (Level.spill links).reverse)
          ⟨outer, ground⟩).size
        (run - (Fence.ofRuns opened run).width) := by
  obtain ⟨above, direct, stack, openers, pipes⟩ :=
    openings_cut links (.braces opened) items outer ground
  obtain ⟨counted, onStack⟩ := links_cut before opened items outer ground
  have height : above.length = links.length := by
    rw [← List.length_map, openers, List.length_map]
  obtain ⟨after, step, afterStack, afterLinks, afterFound⟩ :=
    Matcher.closeBraces_of_cut (offsets ⟨links ++ ⟨.braces opened, items⟩ :: outer, ground⟩)
      (size ⟨links ++ ⟨.braces opened, items⟩ :: outer, ground⟩)
      stack (opener_of_map_eq openers before) enough openedEnough
      (by rw [counted, height]; exact Nat.le_add_right _ _) onStack
  have settled := offsets_settleRuns openedEnough enough links items outer ground
  have same : after = (settleRuns opened run (items.reverse ++ (Level.spill links).reverse)
      ⟨outer, ground⟩).offsets := by
    refine Matcher.eq_of (afterStack.trans settled.1.symm) ?_ ?_
    · rw [afterLinks, counted, height, Nat.add_sub_cancel_left, settled.2.1]
    · rw [afterFound, settled.2.2, pipes, Opener.source, byteLength_openingBraces,
        dropWhile_found_cut (Nat.sub_le _ _)]
  rw [step, same, size_settleRuns openedEnough enough]

/-- The matcher ends what a run of closing braces ends as the tree does. -/
theorem closeBraces_offsets (run : Nat) (state : Matching) : state.WellFormed →
    state.offsets.closeBraces state.size run = some (state.closeBraces run).offsets := by
  induction run, state using closeBraces_induction with
  | few run state few =>
      intro _
      rw [Matcher.closeBraces_of_done fun more => Nat.not_lt.2 more.1 few, closeBraces_of_lt few]
      split
      · rfl
      · rw [offsets_push_text]
  | unmatched run state _ all closed =>
      intro _
      -- Only links are open, so they are as many as the stack is high, and the matcher stops.
      have everyLink : state.levels.countP (·.opener.isLink) = state.levels.length :=
        List.countP_eq_length.2 all
      rw [closed, offsets_push_text]
      refine Matcher.closeBraces_of_done fun more => Nat.lt_irrefl state.levels.length ?_
      calc
        state.levels.length = state.offsets.links := everyLink.symm
        _ < state.offsets.depth := more.2
        _ = state.levels.length := offsets_depth state
  | matched run links opened items outer ground enough before closed ih =>
      intro wellFormed
      obtain ⟨outside, openedEnough⟩ := wellFormed.cut
      rw [closeBraces_step_offsets enough (openedEnough _ rfl) before,
        ih (outside.settle _ _), closed]

/-! ## Reading tokens -/

/-- The matcher remembers a pipe where the tree has one. -/
theorem notePipe_offsets (state : Matching) :
    state.offsets.notePipe state.size = (state.push .pipe).offsets := by
  refine Matcher.eq_of ?_ ?_ ?_
  · obtain ⟨_ | ⟨level, outer⟩, ground⟩ := state
    · rfl
    · have position := size_cut [] level.opener level.items outer ground
      rw [List.nil_append, Level.spill, List.reverse_nil, List.append_nil] at position
      show { openingAt (size ⟨outer, ground⟩) level with
          pipes := size ⟨level :: outer, ground⟩ ::
            (openingAt (size ⟨outer, ground⟩) level).pipes } :: openings ground outer = _
      rw [position]
      simp only [push, offsets, openings, openingAt, List.reverse_cons, Item.pipesFrom_append,
        Item.pipesFrom, Item.pipeAt, List.append_nil, List.reverse_append, List.reverse_nil,
        List.nil_append, List.singleton_append, Nat.add_assoc]
  · rw [Matcher.links_notePipe]
    exact (countP_push _ state).symm
  · rw [Matcher.found_notePipe, found_push, Item.constructsAt]
    rfl

/-- **Reading a token commutes with reading off the offsets.** -/
theorem read_offsets (state : Matching) (token : Token) (wellFormed : state.WellFormed) :
    state.offsets.read state.size token = some (state.read token).offsets := by
  cases token with
  | openBraces count =>
      rw [Matcher.read, read]
      split
      · exact congrArg some (Matcher.eq_of rfl rfl (offsets_enter _ state).2.symm)
      · rw [offsets_push_text]
  | closeBraces count =>
      rw [Matcher.read, read]
      split
      · exact closeBraces_offsets count state wellFormed
      · rename_i few
        rw [closeBraces_of_lt (Nat.lt_of_not_le few)]
        split
        · rfl
        · rw [offsets_push_text]
  | openLink =>
      have counted : (state.enter .link).offsets.links = state.offsets.links + 1 := by
        rw [offsets, enter, List.countP_cons_of_pos (by rfl)]
        rfl
      exact congrArg some (Matcher.eq_of rfl counted.symm (offsets_enter _ state).2.symm)
  | closeLink => exact closeLink_offsets state
  | pipe => exact congrArg some (notePipe_offsets state)
  | text run => exact congrArg some (offsets_push_text run state).symm

/-- Reading tokens commutes with reading off the offsets. -/
theorem readAll_offsets (tokens : List Token) :
    ∀ state : Matching, state.WellFormed →
      state.offsets.readAll (Token.located state.size tokens) =
        some (tokens.foldl read state).offsets := by
  induction tokens with
  | nil => exact fun _ _ => rfl
  | cons token tokens ih =>
      intro state wellFormed
      obtain ⟨written, still⟩ := read_spec state token wellFormed
      have position : (state.read token).size = state.size + byteLength token.source := by
        rw [size_eq, written, Text.byteLength_append]
        rfl
      rw [Token.located, Matcher.readAll, read_offsets state token wellFormed, ← position]
      exact ih _ still

end Matching

/-- **The matcher finds the constructs of the tree.** -/
theorem Matcher.readAll_ofText (text : Text) :
    ∃ matcher, Matcher.empty.readAll (Token.located 0 (Token.ofText text)) = some matcher ∧
      matcher.found.reverse = Item.constructsFrom 0 (Item.ofText text) := by
  refine ⟨_, Matching.readAll_offsets (Token.ofText text) .empty Matching.wellFormed_empty, ?_⟩
  rw [Matching.offsets, List.reverse_reverse]
  rfl

end ListMarkup.Markup
