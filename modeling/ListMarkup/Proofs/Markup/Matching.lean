import ListMarkup.Proofs.Markup.Writing
import Mathlib.Data.List.TakeDrop

/-!
# The tree keeps the whole text

What a step of matching does is said once, as a list of cases: a closing link ends the
innermost open link or is text (`Matching.closeLink_cases`), and a closing run of braces
ends the innermost opening run, inside all links that are open there, or is text
(`Matching.closeBraces_cases`).  Every step appends what it reads to what is written
(`Matching.read_spec`), so a tree is written as the text it was read from
(`Item.source_ofText`).
-/

set_option autoImplicit false

namespace ListMarkup.Markup

/-- A list is cut at its first element without a property, unless all elements have it. -/
theorem exists_first_without {α : Type} (holds : α → Bool) (list : List α) :
    (∀ element ∈ list, holds element = true) ∨
      ∃ first element later, list = first ++ element :: later ∧
        (∀ earlier ∈ first, holds earlier = true) ∧ holds element = false := by
  induction list with
  | nil => exact .inl fun _ member => absurd member List.not_mem_nil
  | cons head tail ih =>
      cases here : holds head with
      | false =>
          exact .inr ⟨[], head, tail, rfl, fun _ member => absurd member List.not_mem_nil, here⟩
      | true =>
          rcases ih with all | ⟨first, element, later, rfl, before, without⟩
          · exact .inl (List.forall_mem_cons.2 ⟨here, all⟩)
          · exact .inr ⟨head :: first, element, later, rfl, List.forall_mem_cons.2 ⟨here, before⟩,
              without⟩

theorem takeWhile_cut {α : Type} {holds : α → Bool} {first later : List α} {element : α}
    (before : ∀ earlier ∈ first, holds earlier = true) (without : holds element = false) :
    (first ++ element :: later).takeWhile holds = first := by
  rw [List.takeWhile_append_of_pos before, List.takeWhile_cons_of_neg (by simp [without]),
    List.append_nil]

theorem dropWhile_cut {α : Type} {holds : α → Bool} {first later : List α} {element : α}
    (before : ∀ earlier ∈ first, holds earlier = true) (without : holds element = false) :
    (first ++ element :: later).dropWhile holds = element :: later := by
  rw [List.dropWhile_append_of_pos before, List.dropWhile_cons_of_neg (by simp [without])]

theorem span_cut {α : Type} {holds : α → Bool} {first later : List α} {element : α}
    (before : ∀ earlier ∈ first, holds earlier = true) (without : holds element = false) :
    (first ++ element :: later).span holds = (first, element :: later) := by
  rw [List.span_eq_takeWhile_dropWhile, takeWhile_cut before without,
    dropWhile_cut before without]

theorem span_all {α : Type} {holds : α → Bool} {list : List α}
    (all : ∀ element ∈ list, holds element = true) : list.span holds = (list, []) := by
  rw [← List.append_nil list, List.span_eq_takeWhile_dropWhile, List.takeWhile_append_of_pos all,
    List.dropWhile_append_of_pos all]
  rfl

@[simp] theorem Level.spill_append (inner outer : List Level) :
    Level.spill (inner ++ outer) = Level.spill inner ++ Level.spill outer := by
  induction inner with
  | nil => rfl
  | cons level inner ih =>
      rw [List.cons_append, Level.spill, Level.spill, ih, List.append_assoc, List.cons_append]

namespace Matching

/-! ## The items so far, and what closing does to them -/

/-- The items of inner levels come after those of the outer ones. -/
theorem finish_append (inner outer : List Level) (ground : List Item) :
    finish ⟨inner ++ outer, ground⟩ = finish ⟨outer, ground⟩ ++ (Level.spill inner).reverse := by
  simp only [finish, Level.spill_append, List.reverse_append, List.append_assoc]

theorem finish_cons (level : Level) (outer : List Level) (ground : List Item) :
    finish ⟨level :: outer, ground⟩ =
      finish ⟨outer, ground⟩ ++ .text level.opener.source :: level.items.reverse := by
  simp only [finish, Level.spill, List.reverse_append, List.reverse_cons, List.append_assoc,
    List.singleton_append]

@[simp] theorem finish_push (item : Item) (state : Matching) :
    (state.push item).finish = state.finish ++ [item] := by
  obtain ⟨_ | ⟨level, outer⟩, ground⟩ := state
  · simp only [push, finish, Level.spill, List.nil_append, List.reverse_cons]
  · simp only [push, finish_cons, List.reverse_cons, List.append_assoc, List.cons_append]

@[simp] theorem finish_enter (opener : Opener) (state : Matching) :
    (state.enter opener).finish = state.finish ++ [.text opener.source] :=
  finish_cons ⟨opener, []⟩ state.levels state.ground

/-- What is written so far. -/
def source (state : Matching) : Text :=
  Item.source state.finish

@[simp] theorem source_push (item : Item) (state : Matching) :
    (state.push item).source = state.source ++ Item.source [item] := by
  rw [source, finish_push, Item.source_append, source]

@[simp] theorem source_enter (opener : Opener) (state : Matching) :
    (state.enter opener).source = state.source ++ opener.source := by
  rw [source, finish_enter, Item.source_append, Item.source_text, source]

/-- A closing link without an open one is text. -/
theorem closeLink_of_all {state : Matching}
    (all : ∀ level ∈ state.levels, level.opener.isLink = false) :
    state.closeLink = state.push (.text linkClosing) := by
  rw [closeLink, span_all (by simpa using all)]

/-- A closing link ends the innermost open link. -/
theorem closeLink_of_cut {inner : List Level}
    (before : ∀ level ∈ inner, level.opener.isLink = false) (items : List Item)
    (outer : List Level) (ground : List Item) :
    closeLink ⟨inner ++ ⟨.link, items⟩ :: outer, ground⟩ =
      push (.enclosed .link (items.reverse ++ (Level.spill inner).reverse)) ⟨outer, ground⟩ := by
  rw [closeLink, span_cut (by simpa using before) rfl]
  simp only [List.reverse_append]

/-- A closing link ends the innermost open link.  When there is none, it is text. -/
theorem closeLink_cases (state : Matching) :
    ((∀ level ∈ state.levels, level.opener.isLink = false) ∧
      state.closeLink = state.push (.text linkClosing)) ∨
    ∃ inner items outer, state.levels = inner ++ ⟨.link, items⟩ :: outer ∧
      (∀ level ∈ inner, level.opener.isLink = false) ∧
      state.closeLink =
        push (.enclosed .link (items.reverse ++ (Level.spill inner).reverse))
          ⟨outer, state.ground⟩ := by
  obtain ⟨levels, ground⟩ := state
  rcases exists_first_without (fun level : Level => !level.opener.isLink) levels with
    all | ⟨inner, ⟨opener, items⟩, outer, rfl, before, isLink⟩
  · have none : ∀ level ∈ levels, level.opener.isLink = false := by simpa using all
    exact .inl ⟨none, closeLink_of_all none⟩
  · cases opener with
    | braces count => exact absurd isLink (by simp [Opener.isLink])
    | link =>
        have inside : ∀ level ∈ inner, level.opener.isLink = false := by simpa using before
        exact .inr ⟨inner, items, outer, rfl, inside, closeLink_of_cut inside items outer ground⟩

/-- The state after a body is enclosed by the braces that an opening and a closing run
share. -/
def settleRuns (opened run : Nat) (body : List Item) (state : Matching) : Matching :=
  settle (opened - (Fence.ofRuns opened run).width) (.enclosed (Fence.ofRuns opened run) body)
    state

/-- A run of closing braces outside all opening runs is text. -/
theorem closeBraces_of_all {run : Nat} (enough : 2 ≤ run) {state : Matching}
    (all : ∀ level ∈ state.levels, level.opener.isLink = true) :
    state.closeBraces run = state.push (.text (closingBraces run)) := by
  rw [closeBraces, if_neg (Nat.not_lt.2 enough), span_all all]

/-- A run of closing braces ends the innermost opening run. -/
theorem closeBraces_of_cut {run : Nat} (enough : 2 ≤ run) {links : List Level}
    (before : ∀ level ∈ links, level.opener.isLink = true) (opened : Nat) (items : List Item)
    (outer : List Level) (ground : List Item) :
    closeBraces run ⟨links ++ ⟨.braces opened, items⟩ :: outer, ground⟩ =
      closeBraces (run - (Fence.ofRuns opened run).width)
        (settleRuns opened run (items.reverse ++ (Level.spill links).reverse)
          ⟨outer, ground⟩) := by
  rw [closeBraces, if_neg (Nat.not_lt.2 enough), span_cut before rfl]
  simp only [List.reverse_append, settleRuns]

/-- A run of at least two closing braces ends the innermost opening run, inside the links
that are open there.  When there is none, the run is text. -/
theorem closeBraces_cases {run : Nat} (enough : 2 ≤ run) (state : Matching) :
    ((∀ level ∈ state.levels, level.opener.isLink = true) ∧
      state.closeBraces run = state.push (.text (closingBraces run))) ∨
    ∃ links opened items outer, state.levels = links ++ ⟨.braces opened, items⟩ :: outer ∧
      (∀ level ∈ links, level.opener.isLink = true) ∧
      state.closeBraces run =
        closeBraces (run - (Fence.ofRuns opened run).width)
          (settleRuns opened run (items.reverse ++ (Level.spill links).reverse)
            ⟨outer, state.ground⟩) := by
  obtain ⟨levels, ground⟩ := state
  rcases exists_first_without (fun level : Level => level.opener.isLink) levels with
    all | ⟨links, ⟨opener, items⟩, outer, rfl, before, notLink⟩
  · exact .inl ⟨all, closeBraces_of_all enough all⟩
  · cases opener with
    | link => exact absurd notLink (by simp [Opener.isLink])
    | braces opened =>
        exact .inr ⟨links, opened, items, outer, rfl, before,
          closeBraces_of_cut enough before opened items outer ground⟩

/-- Fewer than two closing braces are text. -/
theorem closeBraces_of_lt {run : Nat} (few : run < 2) (state : Matching) :
    state.closeBraces run = if run = 0 then state else state.push (.text (closingBraces run)) := by
  rw [closeBraces, if_pos few]

/-- An opening run of two braces is a call, and leaves the rest of the closing run. -/
theorem closeBraces_two (left : Nat) (body : List Item) (outer : List Level)
    (ground : List Item) :
    closeBraces (2 + left) ⟨⟨.braces 2, body.reverse⟩ :: outer, ground⟩ =
      closeBraces left (push (.enclosed .call body) ⟨outer, ground⟩) := by
  have isCall : Fence.ofRuns 2 (2 + left) = .call := if_neg fun three => absurd three.1 (by decide)
  have noLinks : ∀ level ∈ ([] : List Level), level.opener.isLink = true :=
    fun _ member => absurd member List.not_mem_nil
  refine (closeBraces_of_cut (Nat.le_add_right 2 left) noLinks 2 body.reverse outer
    ground).trans ?_
  rw [settleRuns, isCall, List.reverse_reverse, Level.spill, List.reverse_nil, List.append_nil,
    Fence.width, Nat.add_sub_cancel_left]
  rfl

/-! ## Every step keeps what is written -/

/-- Some more items at the innermost level. -/
def pushAll (items : List Item) (state : Matching) : Matching :=
  items.foldl (fun state item => state.push item) state

theorem pushAll_level (items : List Item) :
    ∀ (opener : Opener) (before : List Item) (outer : List Level) (ground : List Item),
      pushAll items ⟨⟨opener, before⟩ :: outer, ground⟩ =
        ⟨⟨opener, items.reverse ++ before⟩ :: outer, ground⟩ := by
  induction items with
  | nil => exact fun _ _ _ _ => rfl
  | cons item items ih =>
      intro opener before outer ground
      rw [List.reverse_cons, List.append_assoc]
      exact ih opener (item :: before) outer ground

theorem pushAll_ground (items : List Item) :
    ∀ ground : List Item, pushAll items ⟨[], ground⟩ = ⟨[], items.reverse ++ ground⟩ := by
  induction items with
  | nil => exact fun _ => rfl
  | cons item items ih =>
      intro ground
      rw [List.reverse_cons, List.append_assoc]
      exact ih (item :: ground)

/-- The items at and after a level, when the levels inside it turn out to be text. -/
theorem source_cut (inner : List Level) (opener : Opener) (items : List Item)
    (outer : List Level) (ground : List Item) :
    source ⟨inner ++ ⟨opener, items⟩ :: outer, ground⟩ =
      source ⟨outer, ground⟩ ++
        (opener.source ++ Item.source (items.reverse ++ (Level.spill inner).reverse)) := by
  rw [source, finish_append, finish_cons, Item.source_append, Item.source_append,
    Item.source_cons, Item.source_text, Item.source_append, List.append_assoc, List.append_assoc,
    source]

/-- What an opening run has left is still open when there are two braces of it, and text
otherwise. -/
def leave (left : Nat) (state : Matching) : Matching :=
  if 2 ≤ left then state.enter (.braces left)
  else if left = 1 then state.push (.text (openingBraces 1))
  else state

/-- A settled construct comes after what its opening run has left. -/
theorem settle_eq_push (left : Nat) (construct : Item) (state : Matching) :
    settle left construct state = (state.leave left).push construct := by
  unfold settle leave
  split
  · rfl
  · split <;> rfl

@[simp] theorem source_leave (left : Nat) (state : Matching) :
    (state.leave left).source = state.source ++ openingBraces left := by
  unfold leave
  split
  · exact source_enter _ _
  · split
    · rename_i one
      rw [source_push, Item.source_text, one]
    · have none : left = 0 := by omega
      rw [none]
      exact (List.append_nil _).symm

/-- The braces on both sides of a construct are taken from the runs that it matches. -/
theorem source_settleRuns {opened run : Nat} (openedEnough : 2 ≤ opened)
    (runEnough : 2 ≤ run) (body : List Item) (state : Matching) :
    (settleRuns opened run body state).source ++
        closingBraces (run - (Fence.ofRuns opened run).width) =
      state.source ++ (openingBraces opened ++ (Item.source body ++ closingBraces run)) := by
  have openedParts := openingBraces_add (opened - (Fence.ofRuns opened run).width)
    (Fence.ofRuns opened run).width
  have runParts := closingBraces_add (Fence.ofRuns opened run).width
    (run - (Fence.ofRuns opened run).width)
  rw [Nat.sub_add_cancel (Fence.width_ofRuns_le_opened openedEnough)] at openedParts
  rw [Nat.add_sub_cancel' (Fence.width_ofRuns_le_closed runEnough)] at runParts
  rw [settleRuns, settle_eq_push, source_push, source_leave, Item.source_enclosed,
    Fence.opening_ofRuns, Fence.closing_ofRuns, openedParts, runParts]
  simp only [List.append_assoc]

/-- An opening run that is still open has two braces or more. -/
def WellFormed (state : Matching) : Prop :=
  ∀ level ∈ state.levels, ∀ count, level.opener = .braces count → 2 ≤ count

theorem wellFormed_empty : WellFormed empty :=
  fun _ member => absurd member List.not_mem_nil

theorem WellFormed.push {state : Matching} (wellFormed : state.WellFormed) (item : Item) :
    (state.push item).WellFormed := by
  obtain ⟨_ | ⟨top, outer⟩, ground⟩ := state
  · exact wellFormed
  · intro level member
    rcases List.mem_cons.1 member with rfl | inside
    · exact wellFormed top List.mem_cons_self
    · exact wellFormed level (List.mem_cons_of_mem _ inside)

theorem WellFormed.enter {state : Matching} (wellFormed : state.WellFormed) {opener : Opener}
    (enough : ∀ count, opener = .braces count → 2 ≤ count) : (state.enter opener).WellFormed :=
  List.forall_mem_cons.2 ⟨enough, wellFormed⟩

theorem WellFormed.leave {state : Matching} (wellFormed : state.WellFormed) (left : Nat) :
    (state.leave left).WellFormed := by
  unfold Matching.leave
  split
  · rename_i enough
    exact wellFormed.enter fun count same => by cases same; exact enough
  · split
    · exact wellFormed.push _
    · exact wellFormed

theorem WellFormed.settle {state : Matching} (wellFormed : state.WellFormed) (left : Nat)
    (construct : Item) : (settle left construct state).WellFormed := by
  rw [settle_eq_push]
  exact (wellFormed.leave left).push construct

/-- What is around a level is well formed when the whole is, and so is the level. -/
theorem WellFormed.cut {inner outer : List Level} {level : Level} {ground : List Item}
    (wellFormed : WellFormed ⟨inner ++ level :: outer, ground⟩) :
    WellFormed ⟨outer, ground⟩ ∧ ∀ count, level.opener = .braces count → 2 ≤ count :=
  ⟨fun further member => wellFormed further
    (List.mem_append_right _ (List.mem_cons_of_mem _ member)),
    wellFormed level (List.mem_append_right _ List.mem_cons_self)⟩

/-- Induction along the constructs that one closing run ends. -/
theorem closeBraces_induction {motive : Nat → Matching → Prop}
    (few : ∀ run state, run < 2 → motive run state)
    (unmatched : ∀ run state, 2 ≤ run → (∀ level ∈ state.levels, level.opener.isLink = true) →
      state.closeBraces run = state.push (.text (closingBraces run)) → motive run state)
    (matched : ∀ run links opened items outer ground, 2 ≤ run →
      (∀ level ∈ links, level.opener.isLink = true) →
      closeBraces run ⟨links ++ ⟨.braces opened, items⟩ :: outer, ground⟩ =
        closeBraces (run - (Fence.ofRuns opened run).width)
          (settleRuns opened run (items.reverse ++ (Level.spill links).reverse)
            ⟨outer, ground⟩) →
      motive (run - (Fence.ofRuns opened run).width)
        (settleRuns opened run (items.reverse ++ (Level.spill links).reverse) ⟨outer, ground⟩) →
      motive run ⟨links ++ ⟨.braces opened, items⟩ :: outer, ground⟩)
    (run : Nat) (state : Matching) : motive run state := by
  induction run using Nat.strongRecOn generalizing state with
  | _ run ih =>
      by_cases enough : 2 ≤ run
      · rcases closeBraces_cases enough state with
          ⟨all, closed⟩ | ⟨links, opened, items, outer, levels, before, closed⟩
        · exact unmatched run state enough all closed
        · obtain ⟨_, ground⟩ := state
          subst levels
          have wide := (Fence.ofRuns opened run).two_le_width
          exact matched run links opened items outer ground enough before closed
            (ih _ (by omega) _)
      · exact few run state (Nat.lt_of_not_le enough)

/-- A closing run of braces is written after what is there, and leaves only runs of two
braces or more open. -/
theorem closeBraces_spec (run : Nat) (state : Matching) : state.WellFormed →
    (state.closeBraces run).source = state.source ++ closingBraces run ∧
      (state.closeBraces run).WellFormed := by
  induction run, state using closeBraces_induction with
  | few run state few =>
      intro wellFormed
      rw [closeBraces_of_lt few]
      split
      · rename_i none
        rw [none]
        exact ⟨(List.append_nil _).symm, wellFormed⟩
      · exact ⟨by rw [source_push, Item.source_text], wellFormed.push _⟩
  | unmatched run state _ _ closed =>
      intro wellFormed
      rw [closed]
      exact ⟨by rw [source_push, Item.source_text], wellFormed.push _⟩
  | matched run links opened items outer ground enough _ closed ih =>
      intro wellFormed
      obtain ⟨outside, openedEnough⟩ := wellFormed.cut
      obtain ⟨written, inside⟩ := ih (outside.settle _ _)
      rw [closed]
      refine ⟨?_, inside⟩
      rw [written, source_settleRuns (openedEnough _ rfl) enough, source_cut,
        List.append_assoc, List.append_assoc]
      rfl

/-- A closing link is written after what is there. -/
theorem closeLink_spec (state : Matching) (wellFormed : state.WellFormed) :
    state.closeLink.source = state.source ++ linkClosing ∧ state.closeLink.WellFormed := by
  rcases closeLink_cases state with ⟨_, closed⟩ | ⟨inner, items, outer, levels, _, closed⟩
  · rw [closed]
    exact ⟨by rw [source_push, Item.source_text], wellFormed.push _⟩
  · obtain ⟨_, ground⟩ := state
    subst levels
    rw [closed]
    refine ⟨?_, wellFormed.cut.1.push _⟩
    rw [source_push, source_cut, Item.source_enclosed, List.append_assoc, List.append_assoc]
    rfl

/-! ## Reading a text -/

/-- **A token is written after what is there.** -/
theorem read_spec (state : Matching) (token : Token) (wellFormed : state.WellFormed) :
    (state.read token).source = state.source ++ token.source ∧
      (state.read token).WellFormed := by
  cases token with
  | openBraces count =>
      rw [read]
      split
      · rename_i enough
        exact ⟨source_enter _ _, wellFormed.enter fun _ same => by cases same; exact enough⟩
      · exact ⟨by rw [source_push, Item.source_text]; rfl, wellFormed.push _⟩
  | closeBraces count => exact closeBraces_spec count state wellFormed
  | openLink => exact ⟨source_enter _ _, wellFormed.enter fun _ same => nomatch same⟩
  | closeLink => exact closeLink_spec state wellFormed
  | pipe => exact ⟨source_push _ _, wellFormed.push _⟩
  | text run => exact ⟨by rw [read, source_push, Item.source_text]; rfl, wellFormed.push _⟩

/-- Tokens are written after what is there. -/
theorem source_foldl_read (tokens : List Token) :
    ∀ state : Matching, state.WellFormed →
      (tokens.foldl read state).source = state.source ++ tokens.flatMap Token.source := by
  induction tokens with
  | nil => exact fun state _ => (List.append_nil state.source).symm
  | cons token tokens ih =>
      intro state wellFormed
      obtain ⟨written, still⟩ := read_spec state token wellFormed
      rw [List.foldl_cons, ih _ still, written, List.flatMap_cons, List.append_assoc]

end Matching

/-- **The tree of a text is written as that text.** -/
theorem Item.source_ofText (text : Text) : source (ofText text) = text := by
  have written := Matching.source_foldl_read (Token.ofText text) .empty Matching.wellFormed_empty
  rw [Token.flatMap_source_ofText] at written
  exact written

end ListMarkup.Markup
