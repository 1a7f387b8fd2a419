import ListMarkup.Proofs.Markup.Lossless
import ListMarkup.Proofs.Markup.Tokens

/-!
# Markup reads the same wherever it stands

A call or a reference that is found in a text is found again when it is read on its own
(`parse_source_of_mem_parse`).

What matching does inside an open run of braces depends on nothing outside it, and of the
run itself only on there being braces left for what is still to be closed.  The part of a
state from an open run on (`Matching.Within`) is therefore reached by reading just the
tokens from that run on, with as many braces at its start as one likes, and each step of
matching can be followed in such a part (`Matching.Within.of_closeLink`,
`Matching.Within.of_closeBraces`).  When a closing run ends a construct, the part that
starts with exactly the braces of the construct is left with the construct alone.
-/

set_option autoImplicit false

namespace ListMarkup.Markup

/-- Which fence two runs make depends on whether they have three braces. -/
theorem Fence.ofRuns_congr {opened opened' closed closed' : Nat}
    (sameOpened : 3 ≤ opened ↔ 3 ≤ opened') (sameClosed : 3 ≤ closed ↔ 3 ≤ closed') :
    ofRuns opened closed = ofRuns opened' closed' := by
  simp only [ofRuns, sameOpened, sameClosed]

/-- Two runs of the width of a fence make that fence. -/
theorem Fence.ofRuns_width {fence : Fence} (notLink : fence ≠ .link) :
    ofRuns fence.width fence.width = fence := by
  cases fence with
  | link => exact absurd rfl notLink
  | call => rfl
  | argument => rfl

namespace Matching

theorem leave_of_le {left : Nat} (enough : 2 ≤ left) (state : Matching) :
    state.leave left = state.enter (.braces left) :=
  if_pos enough

/-! ## Steps seen in the part of a state from an open run on -/

/-- A part is what a state has from one of its open runs of braces on, except that the run
may have another number of braces. -/
def Within (part whole : Matching) : Prop :=
  ∃ inner opened count items outer ground,
    whole = ⟨inner ++ ⟨.braces opened, items⟩ :: outer, ground⟩ ∧
      part = ⟨inner ++ [⟨.braces count, items⟩], []⟩ ∧ 2 ≤ count

namespace Within

theorem not_empty (part : Matching) : ¬Within part empty := by
  rintro ⟨inner, opened, count, items, outer, ground, same, -, -⟩
  cases inner <;> cases congrArg levels same

/-- There is a run of braces open in a state that has a part. -/
theorem exists_braces {part whole : Matching} (within : Within part whole) :
    ∃ level ∈ whole.levels, level.opener.isLink = false := by
  obtain ⟨inner, opened, _, items, _, _, rfl, -, -⟩ := within
  exact ⟨⟨.braces opened, items⟩, List.mem_append_right _ List.mem_cons_self, rfl⟩

/-- No link is open in a part of a state in which none is. -/
theorem no_link {part whole : Matching} (within : Within part whole)
    (none : ∀ level ∈ whole.levels, level.opener.isLink = false) :
    ∀ level ∈ part.levels, level.opener.isLink = false := by
  obtain ⟨inner, _, _, _, _, _, rfl, rfl, -⟩ := within
  intro level member
  rcases List.mem_append.1 member with inside | last
  · exact none level (List.mem_append_left _ inside)
  · rw [List.mem_singleton.1 last]
    rfl

/-- More levels inside come to a part as they come to the whole. -/
theorem inside {part : Matching} {outer : List Level} {ground : List Item}
    (within : Within part ⟨outer, ground⟩) (inner : List Level) :
    Within ⟨inner ++ part.levels, part.ground⟩ ⟨inner ++ outer, ground⟩ := by
  obtain ⟨between, opened, count, items, further, _, same, rfl, enough⟩ := within
  cases same
  exact ⟨inner ++ between, opened, count, items, further, ground, by rw [List.append_assoc],
    by rw [List.append_assoc], enough⟩

/-- An item comes to a part as it comes to the whole. -/
theorem of_push {part whole : Matching} {item : Item} (within : Within part (whole.push item)) :
    ∃ earlier, Within earlier whole ∧ earlier.push item = part := by
  obtain ⟨inner, opened, count, items, outer, ground, same, rfl, enough⟩ := within
  obtain ⟨_ | ⟨top, rest⟩, ground'⟩ := whole
  · cases inner <;> cases same
  · cases inner with
    | nil =>
        obtain ⟨opener, items⟩ := top
        cases same
        exact ⟨⟨[⟨.braces count, items⟩], []⟩,
          ⟨[], opened, count, items, outer, ground, rfl, rfl, enough⟩, rfl⟩
    | cons level inner =>
        cases same
        exact ⟨⟨top :: inner ++ [⟨.braces count, items⟩], []⟩,
          ⟨top :: inner, opened, count, items, outer, ground, rfl, rfl, enough⟩, rfl⟩

/-- An opener comes to a part as it comes to the whole, or it starts the part. -/
theorem of_enter {part whole : Matching} {opener : Opener}
    (within : Within part (whole.enter opener)) :
    (∃ earlier, Within earlier whole ∧ earlier.enter opener = part) ∨
      ∃ opened count, opener = .braces opened ∧ 2 ≤ count ∧ part = empty.enter (.braces count) := by
  obtain ⟨inner, opened, count, items, outer, ground, same, rfl, enough⟩ := within
  obtain ⟨levels, ground'⟩ := whole
  cases inner with
  | nil =>
      cases same
      exact .inr ⟨opened, count, rfl, enough, rfl⟩
  | cons level inner =>
      cases same
      exact .inl ⟨⟨inner ++ [⟨.braces count, items⟩], []⟩,
        ⟨inner, opened, count, items, outer, ground', rfl, rfl, enough⟩, rfl⟩

/-- What an opening run has left comes to a part as it comes to the whole, or it starts the
part. -/
theorem of_leave {part whole : Matching} {left : Nat} (within : Within part (whole.leave left)) :
    (∃ earlier, Within earlier whole ∧ earlier.leave left = part) ∨
      2 ≤ left ∧ ∃ count, 2 ≤ count ∧ part = empty.leave count := by
  by_cases enough : 2 ≤ left
  · rw [leave_of_le enough] at within
    simp only [leave_of_le enough]
    refine within.of_enter.imp id fun starts => ?_
    obtain ⟨_, count, _, countEnough, rfl⟩ := starts
    exact ⟨enough, count, countEnough, (leave_of_le countEnough empty).symm⟩
  · unfold leave at within ⊢
    simp only [if_neg enough] at within ⊢
    split at within
    · rename_i one
      simp only [if_pos one]
      exact .inl within.of_push
    · rename_i none
      simp only [if_neg none]
      exact .inl ⟨part, within, rfl⟩

/-- A closing link does in a part what it does in the whole. -/
theorem of_closeLink {part whole : Matching} (within : Within part whole.closeLink) :
    ∃ earlier, Within earlier whole ∧ earlier.closeLink = part := by
  rcases whole.closeLink_cases with ⟨none, closed⟩ | ⟨inner, items, outer, levels, before, closed⟩
  · rw [closed] at within
    obtain ⟨earlier, inside, rfl⟩ := within.of_push
    exact ⟨earlier, inside, closeLink_of_all (inside.no_link none)⟩
  · obtain ⟨_, ground⟩ := whole
    subst levels
    rw [closed] at within
    obtain ⟨⟨further, below⟩, outside, rfl⟩ := within.of_push
    exact ⟨⟨inner ++ ⟨.link, items⟩ :: further, below⟩,
      (outside.inside [⟨.link, items⟩]).inside inner, closeLink_of_cut before _ _ _⟩

/-- Two numbers of braces that are left of a closing run: both may still end something, or
they are the same. -/
def Alike (first second : Nat) : Prop :=
  first = second ∨ 2 ≤ first ∧ 2 ≤ second

/-- The braces that a construct shares with its closing run are three or more whatever else
is left of the run. -/
theorem three_le_of_alike {opened run left : Nat} (enough : 2 ≤ run)
    (alike : Alike left (run - (Fence.ofRuns opened run).width)) :
    3 ≤ left + (Fence.ofRuns opened run).width ↔ 3 ≤ run := by
  have fits : (Fence.ofRuns opened run).width ≤ run := Fence.width_ofRuns_le_closed enough
  have wide := (Fence.ofRuns opened run).two_le_width
  rcases alike with rfl | ⟨leftEnough, runEnough⟩ <;> omega

/-- One construct ended in the whole is ended in a part, too. -/
theorem of_settleRuns {links : List Level} (before : ∀ level ∈ links, level.opener.isLink = true)
    {opened run : Nat} (enough : 2 ≤ run) {items : List Item} {outer : List Level}
    {ground : List Item} {part : Matching}
    (within : Within part
      (settleRuns opened run (items.reverse ++ (Level.spill links).reverse) ⟨outer, ground⟩))
    {left : Nat} (alike : Alike left (run - (Fence.ofRuns opened run).width)) :
    ∃ earlier, Within earlier ⟨links ++ ⟨.braces opened, items⟩ :: outer, ground⟩ ∧
      earlier.closeBraces (left + (Fence.ofRuns opened run).width) = part.closeBraces left := by
  have wide := (Fence.ofRuns opened run).two_le_width
  have runEnough : 2 ≤ left + (Fence.ofRuns opened run).width := Nat.le_add_left_of_le wide
  have sameRun := three_le_of_alike enough alike
  rw [settleRuns, settle_eq_push] at within
  obtain ⟨settled, inside, rfl⟩ := within.of_push
  rcases inside.of_leave with ⟨⟨further, below⟩, outside, rfl⟩ | ⟨more, count, countEnough, rfl⟩
  · refine ⟨⟨links ++ ⟨.braces opened, items⟩ :: further, below⟩,
      (outside.inside [⟨.braces opened, items⟩]).inside links, ?_⟩
    rw [closeBraces_of_cut runEnough before, settleRuns, Fence.ofRuns_congr Iff.rfl sameRun,
      Nat.add_sub_cancel, settle_eq_push]
  · refine ⟨⟨links ++ [⟨.braces (count + (Fence.ofRuns opened run).width), items⟩], []⟩,
      ⟨links, opened, _, items, outer, ground, rfl, rfl, Nat.le_add_right_of_le countEnough⟩, ?_⟩
    have sameOpened : 3 ≤ count + (Fence.ofRuns opened run).width ↔ 3 ≤ opened := by omega
    rw [closeBraces_of_cut runEnough before, settleRuns, Fence.ofRuns_congr sameOpened sameRun,
      Nat.add_sub_cancel, Nat.add_sub_cancel, settle_eq_push]
    rfl

/-- A closing run does in a part what it does in the whole. -/
theorem of_closeBraces (run : Nat) (whole : Matching) {part : Matching} :
    Within part (whole.closeBraces run) →
      ∃ earlier, Within earlier whole ∧ earlier.closeBraces run = part := by
  induction run, whole using closeBraces_induction with
  | few run whole few =>
      rw [closeBraces_of_lt few]
      simp only [closeBraces_of_lt few]
      split
      · exact fun within => ⟨part, within, rfl⟩
      · exact of_push
  | unmatched run whole _ all closed =>
      intro within
      rw [closed] at within
      obtain ⟨earlier, inside, -⟩ := within.of_push
      obtain ⟨level, member, notLink⟩ := inside.exists_braces
      rw [all level member] at notLink
      cases notLink
  | matched run links opened items outer ground enough before closed ih =>
      intro within
      rw [closed] at within
      obtain ⟨settled, inside, rfl⟩ := ih within
      obtain ⟨earlier, outside, same⟩ := inside.of_settleRuns before enough (.inl rfl)
      rw [Nat.sub_add_cancel (Fence.width_ofRuns_le_closed enough)] at same
      exact ⟨earlier, outside, same⟩

end Within

end Matching

/-! ## Outermost constructs -/

namespace Item

mutual

/-- A property of the outermost calls and references in an item. -/
def Outermost (holds : Item → Prop) : Item → Prop
  | .text _ => True
  | .pipe => True
  | .enclosed .link body => AllOutermost holds body
  | .enclosed .call body => holds (.enclosed .call body)
  | .enclosed .argument body => holds (.enclosed .argument body)

/-- A property of the outermost calls and references in items. -/
def AllOutermost (holds : Item → Prop) : List Item → Prop
  | [] => True
  | item :: items => item.Outermost holds ∧ AllOutermost holds items

end

variable {holds : Item → Prop}

theorem outermost_enclosed {fence : Fence} (notLink : fence ≠ .link) {body : List Item}
    (here : holds (.enclosed fence body)) : (Item.enclosed fence body).Outermost holds := by
  cases fence with
  | link => exact absurd rfl notLink
  | call => exact here
  | argument => exact here

@[simp] theorem allOutermost_append (first later : List Item) :
    AllOutermost holds (first ++ later) ↔ AllOutermost holds first ∧ AllOutermost holds later := by
  induction first with
  | nil => simp only [List.nil_append, AllOutermost, true_and]
  | cons item first ih => simp only [List.cons_append, AllOutermost, ih, and_assoc]

@[simp] theorem allOutermost_singleton (item : Item) :
    AllOutermost holds [item] ↔ item.Outermost holds := by
  simp only [AllOutermost, and_true]

@[simp] theorem outermost_text (run : Text) : (Item.text run).Outermost holds := trivial

@[simp] theorem outermost_link (body : List Item) :
    (Item.enclosed .link body).Outermost holds ↔ AllOutermost holds body := Iff.rfl

end Item

namespace Matching

open Item (AllOutermost)

variable {holds : Item → Prop}

/-- The outermost constructs so far are those outside a level and those inside it. -/
theorem allOutermost_cut (inner : List Level) (opener : Opener) (items : List Item)
    (outer : List Level) (ground : List Item) :
    AllOutermost holds (finish ⟨inner ++ ⟨opener, items⟩ :: outer, ground⟩) ↔
      AllOutermost holds (finish ⟨outer, ground⟩) ∧
        AllOutermost holds (items.reverse ++ (Level.spill inner).reverse) := by
  rw [finish_append, finish_cons]
  simp only [Item.allOutermost_append, AllOutermost, Item.outermost_text, true_and, and_assoc]

/-- A closing link encloses outermost constructs and adds none. -/
theorem allOutermost_closeLink {state : Matching} (so : AllOutermost holds state.finish) :
    AllOutermost holds state.closeLink.finish := by
  rcases state.closeLink_cases with ⟨_, closed⟩ | ⟨inner, items, outer, levels, _, closed⟩
  · rw [closed, finish_push, Item.allOutermost_append]
    exact ⟨so, trivial, trivial⟩
  · obtain ⟨_, ground⟩ := state
    subst levels
    rw [closed, finish_push, Item.allOutermost_append, Item.allOutermost_singleton,
      Item.outermost_link]
    exact (allOutermost_cut _ _ _ _ _).mp so

@[simp] theorem allOutermost_leave (left : Nat) (state : Matching) :
    AllOutermost holds (state.leave left).finish ↔ AllOutermost holds state.finish := by
  unfold leave
  split
  · simp only [finish_enter, Item.allOutermost_append, Item.allOutermost_singleton,
      Item.outermost_text, and_true]
  · split
    · simp only [finish_push, Item.allOutermost_append, Item.allOutermost_singleton,
        Item.outermost_text, and_true]
    · exact Iff.rfl

/-- A construct is all that is left of the part that starts with its own braces. -/
theorem closeBraces_alone {links : List Level}
    (before : ∀ level ∈ links, level.opener.isLink = true) (opened run : Nat)
    (items : List Item) :
    closeBraces (Fence.ofRuns opened run).width
        ⟨links ++ [⟨.braces (Fence.ofRuns opened run).width, items⟩], []⟩ =
      ⟨[], [.enclosed (Fence.ofRuns opened run)
        (items.reverse ++ (Level.spill links).reverse)]⟩ := by
  rw [closeBraces_of_cut (Fence.two_le_width _) before, settleRuns,
    Fence.ofRuns_width (Fence.ofRuns_ne_link _ _), Nat.sub_self, closeBraces_of_lt Nat.two_pos,
    if_pos rfl]
  rfl

/-- A closing run adds outermost constructs, of which each is left alone by the same braces
in a part of the state. -/
theorem allOutermost_closeBraces (run : Nat) (state : Matching) :
    (∀ part item left, Within part state → Within.Alike left run →
        part.closeBraces left = ⟨[], [item]⟩ → holds item) →
      AllOutermost holds state.finish → AllOutermost holds (state.closeBraces run).finish := by
  induction run, state using closeBraces_induction with
  | few run state few =>
      intro _ so
      rw [closeBraces_of_lt few]
      split
      · exact so
      · rw [finish_push, Item.allOutermost_append]
        exact ⟨so, trivial, trivial⟩
  | unmatched run state _ _ closed =>
      intro _ so
      rw [closed, finish_push, Item.allOutermost_append]
      exact ⟨so, trivial, trivial⟩
  | matched run links opened items outer ground enough before closed ih =>
      intro alone so
      have here := alone _ _ _
        ⟨links, opened, _, items, outer, ground, rfl, rfl, Fence.two_le_width _⟩
        (.inr ⟨Fence.two_le_width _, enough⟩) (closeBraces_alone before opened run items)
      rw [closed]
      refine ih (fun part item left inside alike ended => ?_) ?_
      · obtain ⟨earlier, outside, same⟩ := inside.of_settleRuns before enough alike
        refine alone earlier item _ outside ?_ (same.trans ended)
        have fits : (Fence.ofRuns opened run).width ≤ run := Fence.width_ofRuns_le_closed enough
        rcases alike with rfl | ⟨leftEnough, _⟩
        · exact .inl (Nat.sub_add_cancel fits)
        · exact .inr ⟨Nat.le_add_right_of_le leftEnough, enough⟩
      · rw [settleRuns, settle_eq_push, finish_push, Item.allOutermost_append,
          Item.allOutermost_singleton, allOutermost_leave]
        exact ⟨((allOutermost_cut _ _ _ _ _).mp so).1,
          Item.outermost_enclosed (Fence.ofRuns_ne_link _ _) here⟩

/-! ## Parts are read from their own tokens -/

/-- A part of a state is read from the last of the tokens read, from an opening run on that
may have another number of braces. -/
def Replays (tokens : List Token) (part : Matching) : Prop :=
  ∃ before opened count later, tokens = before ++ .openBraces opened :: later ∧ 0 < count ∧
    (Token.openBraces count :: later).foldl read empty = part

theorem Replays.read {tokens : List Token} {part : Matching} (replays : Replays tokens part)
    (token : Token) : Replays (tokens ++ [token]) (part.read token) := by
  obtain ⟨before, opened, count, later, rfl, positive, rfl⟩ := replays
  refine ⟨before, opened, count, later ++ [token], by simp, positive, ?_⟩
  rw [← List.cons_append, List.foldl_append]
  rfl

/-- An item is found when it is read on its own. -/
def Alone (item : Item) : Prop :=
  Item.ofText (Item.source [item]) = [item]

/-- An item that tokens leave alone is found when it is read on its own. -/
theorem alone_of_foldl_read {tokens : List Token} (separated : Token.Separated tokens) {item : Item}
    (run : tokens.foldl read empty = ⟨[], [item]⟩) : Alone item := by
  have written := source_foldl_read tokens empty wellFormed_empty
  rw [run] at written
  have text : Item.source [item] = tokens.flatMap Token.source := written
  rw [Alone, text, Item.ofText, Token.ofText_flatMap_source separated, run]
  rfl

/-- What reading keeps: each part of the state is read from its own tokens, and each
outermost construct is found when it is read on its own. -/
structure Local (tokens : List Token) (state : Matching) : Prop where
  replays : ∀ part, Within part state → Replays tokens part
  alone : AllOutermost Alone state.finish

theorem local_empty : Local [] empty :=
  ⟨fun part within => absurd within (Within.not_empty part), trivial⟩

/-- An item without constructs is read the same in a state and in its parts. -/
theorem Local.push {tokens : List Token} {state : Matching} (isLocal : Local tokens state)
    {token : Token} {item : Item} (reads : ∀ state : Matching, state.read token = state.push item)
    (plain : item.Outermost Alone) : Local (tokens ++ [token]) (state.read token) := by
  refine ⟨fun part within => ?_, ?_⟩
  · rw [reads] at within
    obtain ⟨earlier, inside, rfl⟩ := within.of_push
    rw [← reads]
    exact (isLocal.replays earlier inside).read token
  · rw [reads, finish_push, Item.allOutermost_append, Item.allOutermost_singleton]
    exact ⟨isLocal.alone, plain⟩

/-- **Reading a token keeps every part readable from its own tokens.** -/
theorem Local.read {tokens : List Token} {state : Matching} (isLocal : Local tokens state)
    {token : Token} (separated : Token.Separated (tokens ++ [token])) :
    Local (tokens ++ [token]) (state.read token) := by
  cases token with
  | openBraces count =>
      by_cases enough : 2 ≤ count
      · have reads : ∀ state : Matching, state.read (.openBraces count) =
            state.enter (.braces count) := fun _ => if_pos enough
        refine ⟨fun part within => ?_, ?_⟩
        · rw [reads] at within
          rcases within.of_enter with ⟨earlier, inside, rfl⟩ | ⟨_, other, _, otherEnough, rfl⟩
          · rw [← reads]
            exact (isLocal.replays earlier inside).read _
          · exact ⟨tokens, count, other, [], rfl, by omega, if_pos otherEnough⟩
        · rw [reads, finish_enter, Item.allOutermost_append]
          exact ⟨isLocal.alone, trivial, trivial⟩
      · exact isLocal.push (fun _ => if_neg enough) trivial
  | closeBraces count =>
      refine ⟨fun part within => ?_, ?_⟩
      · obtain ⟨earlier, inside, rfl⟩ := Within.of_closeBraces count state within
        exact (isLocal.replays earlier inside).read (.closeBraces count)
      · refine allOutermost_closeBraces count state (fun part item left within alike ended => ?_)
          isLocal.alone
        obtain ⟨before, opened, first, later, rfl, positive, rfl⟩ := isLocal.replays part within
        have some : 0 < count := separated.whole (.closeBraces count) (by simp)
        have leftSome : 0 < left := by
          rcases alike with rfl | ⟨enough, _⟩
          · exact some
          · omega
        rw [List.append_assoc, List.cons_append] at separated
        refine alone_of_foldl_read (separated.between positive leftSome) ?_
        rw [← List.cons_append, List.foldl_append]
        exact ended
  | openLink =>
      refine ⟨fun part within => ?_, ?_⟩
      · rcases Within.of_enter within with ⟨earlier, inside, rfl⟩ | ⟨_, _, link, _⟩
        · exact (isLocal.replays earlier inside).read .openLink
        · cases link
      · rw [Matching.read, finish_enter, Item.allOutermost_append]
        exact ⟨isLocal.alone, trivial, trivial⟩
  | closeLink =>
      refine ⟨fun part within => ?_, allOutermost_closeLink isLocal.alone⟩
      obtain ⟨earlier, inside, rfl⟩ := Within.of_closeLink within
      exact (isLocal.replays earlier inside).read .closeLink
  | pipe => exact isLocal.push (fun _ => rfl) trivial
  | text run => exact isLocal.push (fun _ => rfl) trivial

/-- Reading tokens keeps every part readable from its own tokens. -/
theorem Local.foldl_read (later : List Token) :
    ∀ {tokens : List Token} {state : Matching}, Local tokens state →
      Token.Separated (tokens ++ later) →
        Local (tokens ++ later) (later.foldl Matching.read state) := by
  induction later with
  | nil =>
      intro tokens state isLocal _
      rwa [List.append_nil]
  | cons token later ih =>
      intro tokens state isLocal separated
      rw [List.append_cons] at separated ⊢
      exact ih (isLocal.read separated.left) separated

end Matching

/-- **Every outermost construct of a text is found when it is read on its own.** -/
theorem Item.allOutermost_ofText (text : Text) :
    AllOutermost Matching.Alone (ofText text) :=
  (Matching.local_empty.foldl_read (Token.ofText text) (Token.separated_ofText text)).alone

/-! ## Nodes -/

namespace Node

/-- Text before nodes adds nothing but text to them. -/
theorem mem_textBefore {run : Text} {nodes : List Node} {node : Node}
    (member : node ∈ textBefore run nodes) : node.isText = true ∨ node ∈ nodes := by
  unfold textBefore at member
  split at member
  · exact .inr member
  · rcases List.mem_cons.mp member with rfl | later
    · exact .inl rfl
    · exact .inr (List.mem_cons_of_mem _ later)
  · rcases List.mem_cons.mp member with rfl | later
    · exact .inl rfl
    · exact .inr later

end Node

namespace Item

variable {holds : Item → Prop}

/-- A node is text, or comes later, or is that of an outermost construct. -/
def Accounted (holds : Item → Prop) (nodes : List Node) (node : Node) : Prop :=
  node.isText = true ∨ node ∈ nodes ∨ ∃ item, holds item ∧ allNodesBefore [item] [] = [node]

theorem accounted_enclosed {fence : Fence} (notLink : fence ≠ .link) {body : List Item}
    (here : holds (.enclosed fence body)) {nodes : List Node} {node : Node}
    (member : node ∈ (Item.enclosed fence body).nodesBefore nodes) :
    Accounted holds nodes node := by
  rw [nodesBefore_enclosed notLink] at member
  rcases List.mem_cons.mp member with rfl | later
  · refine .inr (.inr ⟨_, here, ?_⟩)
    rw [allNodesBefore, allNodesBefore, nodesBefore_enclosed notLink]
  · exact .inr (.inl later)

theorem Accounted.textBefore {run : Text} {nodes : List Node} {node : Node}
    (accounted : Accounted holds (Node.textBefore run nodes) node) :
    Accounted holds nodes node := by
  rcases accounted with isText | later | construct
  · exact .inl isText
  · rcases Node.mem_textBefore later with isText | member
    · exact .inl isText
    · exact .inr (.inl member)
  · exact .inr (.inr construct)

mutual

theorem accounted_nodesBefore {node : Node} : ∀ (item : Item) {nodes : List Node},
    item.Outermost holds → node ∈ item.nodesBefore nodes → Accounted holds nodes node
  | .text run, _, _, member => by
      rw [nodesBefore] at member
      exact Accounted.textBefore (.inr (.inl member))
  | .pipe, _, _, member => by
      rw [nodesBefore] at member
      exact Accounted.textBefore (.inr (.inl member))
  | .enclosed .link body, _, so, member => by
      rw [nodesBefore] at member
      rcases Node.mem_textBefore member with isText | inside
      · exact .inl isText
      · exact (accounted_allNodesBefore body so inside).textBefore
  | .enclosed .call _, _, so, member => by
      rw [Outermost] at so
      exact accounted_enclosed Fence.noConfusion so member
  | .enclosed .argument _, _, so, member => by
      rw [Outermost] at so
      exact accounted_enclosed Fence.noConfusion so member

theorem accounted_allNodesBefore {node : Node} : ∀ (items : List Item) {nodes : List Node},
    AllOutermost holds items → node ∈ allNodesBefore items nodes → Accounted holds nodes node
  | [], _, _, member => .inr (.inl member)
  | item :: items, _, ⟨here, later⟩, member => by
      rw [allNodesBefore] at member
      rcases accounted_nodesBefore item here member with isText | after | construct
      · exact .inl isText
      · exact accounted_allNodesBefore items later after
      · exact .inr (.inr construct)

end

end Item

/-- **A call or a reference that is found in a text is found when it is read on its own.** -/
theorem parse_source_of_mem_parse {text : Text} {node : Node} (member : node ∈ parse text)
    (notText : node.isText = false) : parse node.source = [node] := by
  rw [parse_eq] at member
  rcases Item.accounted_allNodesBefore _ (Item.allOutermost_ofText text) member with
    isText | later | ⟨item, alone, nodes⟩
  · rw [notText] at isText
    cases isText
  · exact absurd later List.not_mem_nil
  · have written := Item.flatMap_source_allNodesBefore [item] []
    rw [nodes, List.flatMap_singleton, List.flatMap_nil, List.append_nil] at written
    rw [parse_eq, written, alone, nodes]

end ListMarkup.Markup
