import ListMarkup.Proofs.Markup.Inert

/-!
# Calls at the ends of calls

A call may end in a call that may end in a call again, so that all their closing braces are
one run.  Such a run ends the calls from the innermost to the outermost, two braces at a time
(`Cascade.foldl_read`), as every one of them was opened by two braces with text before the
next.  The outermost call has one part, the text between its braces as it is written
(`parse_call_of_cascade`).

The run may be longer by one brace than the calls need.  The last brace is then text.
-/

set_option autoImplicit false

namespace ListMarkup.Markup

/-- Text without markup, or such text before a call of a cascade. -/
inductive Cascade : Text → Prop where
  | inert {text : Text} (inert : Inert text) (ends : text.getLast? ≠ some '\x7d') : Cascade text
  | call {run body : Text} (notEmpty : run ≠ [])
      (plain : ∀ c ∈ run, c ∉ Token.delimiters ∧ c ≠ '|') (cascade : Cascade body) :
      Cascade (run ++ (openingBraces 2 ++ (body ++ closingBraces 2)))

/-- Text that means nothing is one token before a token that is no text. -/
theorem Token.ofText_plainText {run rest : Text} (notEmpty : run ≠ [])
    (plain : ∀ c ∈ run, c ∉ delimiters ∧ c ≠ '|')
    (apart : ∀ next ∈ (ofText rest).head?, next.isText = false) :
    ofText (run ++ rest) = .text run :: ofText rest := by
  induction run with
  | nil => exact absurd rfl notEmpty
  | cons c run ih =>
      obtain ⟨⟨noDelimiter, notPipe⟩, later⟩ := List.forall_mem_cons.mp plain
      rw [List.cons_append, ofText_plain noDelimiter notPipe]
      cases run with
      | nil => exact consPlain_of_head c apart
      | cons d run =>
          rw [ih (List.cons_ne_nil d run) later]
          rfl

namespace Cascade

/-- A cascade does not begin with an opening brace. -/
theorem head_ne {text : Text} (cascade : Cascade text) : text.head? ≠ some '\x7b' := by
  cases cascade with
  | inert inert ends => exact inert.head_ne (by decide)
  | @call run body notEmpty plain cascade =>
      obtain ⟨c, run, rfl⟩ := List.exists_cons_of_ne_nil notEmpty
      intro first
      cases first
      exact (plain _ List.mem_cons_self).1 (by decide)

/-- What comes after the two braces that open a call of a cascade does not open braces. -/
theorem apart_openBraces {text : Text} (cascade : Cascade text) (count : Nat) :
    ∀ next ∈ (Token.ofText (text ++ closingBraces count)).head?, next.opensBraces = false := by
  refine (Token.head_ofText _).1 fun first => ?_
  cases text with
  | nil => exact absurd (List.eq_of_mem_replicate (List.mem_of_mem_head? first)) (by decide)
  | cons c text => exact cascade.head_ne first

/-- Reading a call whose text is read as items, with closing braces after it. -/
theorem foldl_read_call {text : Text} (cascade : Cascade text) {items : List Item}
    (read : ∀ (count : Nat) (state : Matching),
      (Token.ofText (text ++ closingBraces count)).foldl Matching.read state =
        (Matching.pushAll items state).closeBraces count)
    (count : Nat) (state : Matching) :
    (Token.ofText (openingBraces 2 ++ (text ++ closingBraces (2 + count)))).foldl
        Matching.read state =
      (state.push (.enclosed .call items)).closeBraces count := by
  obtain ⟨levels, ground⟩ := state
  rw [Token.ofText_openingBraces Nat.two_pos (cascade.apart_openBraces _), List.foldl_cons, read]
  have opened : Matching.read ⟨levels, ground⟩ (.openBraces 2) =
      ⟨⟨.braces 2, []⟩ :: levels, ground⟩ := rfl
  rw [opened, Matching.pushAll_level, List.append_nil, Matching.closeBraces_two]

/-- **A cascade before closing braces is read as items of one part, and then the braces are
read.** -/
theorem foldl_read {text : Text} (cascade : Cascade text) :
    ∃ items : List Item, Item.source items = text ∧ Item.parts items = (text, []) ∧
      ∀ (count : Nat) (state : Matching),
        (Token.ofText (text ++ closingBraces count)).foldl Matching.read state =
          (Matching.pushAll items state).closeBraces count := by
  induction cascade with
  | @inert text inert ends =>
      refine ⟨Item.texts (Token.ofText text), ?_, ?_, fun count state => ?_⟩
      · rw [Item.source_texts, Token.flatMap_source_ofText]
      · rw [Item.parts_texts, Token.flatMap_source_ofText]
      · cases count with
        | zero =>
            rw [closingBraces, List.replicate_zero, List.append_nil,
              Matching.foldl_read_of_idle inert.idle, Matching.closeBraces_of_lt Nat.two_pos]
            rfl
        | succ count =>
            rw [Token.ofText_append_closingBraces ends (Nat.succ_pos count), List.foldl_append,
              Matching.foldl_read_of_idle inert.idle]
            rfl
  | @call run body notEmpty plain cascade ih =>
      obtain ⟨items, source, parts, read⟩ := ih
      have written : Item.source [.enclosed .call items] =
          openingBraces 2 ++ (body ++ closingBraces 2) := by
        rw [Item.source_enclosed, source]
        rfl
      refine ⟨[.text run, .enclosed .call items], ?_, ?_, fun count state => ?_⟩
      · rw [Item.source_cons, Item.source_text, written]
      · rw [Item.parts_cons Item.noConfusion, Item.parts_cons Item.noConfusion, Item.source_text,
          written]
        simp only [Item.parts, List.append_nil]
      · have braced : run ++ (openingBraces 2 ++ (body ++ closingBraces 2)) ++ closingBraces count =
            run ++ (openingBraces 2 ++ (body ++ closingBraces (2 + count))) := by
          simp only [closingBraces_add, List.append_assoc]
        have opened : ∀ next ∈ (Token.ofText
            (openingBraces 2 ++ (body ++ closingBraces (2 + count)))).head?,
            next.isText = false := by
          rw [Token.ofText_openingBraces Nat.two_pos (cascade.apart_openBraces _)]
          rintro next ⟨⟩
          rfl
        rw [braced, Token.ofText_plainText notEmpty plain opened, List.foldl_cons,
          cascade.foldl_read_call read]
        rfl

end Cascade

/-- **A call of a cascade is one call with one part.**  A brace more after it is text. -/
theorem parse_call_of_cascade {body : Text} (cascade : Cascade body) {left : Nat}
    (few : left < 2) :
    parse (openingBraces 2 ++ (body ++ closingBraces (2 + left))) =
      .call ⟨openingBraces 2 ++ (body ++ closingBraces 2), body, []⟩ ::
        Node.textBefore (closingBraces left) [] := by
  obtain ⟨items, source, parts, read⟩ := cascade.foldl_read
  have tree : Item.ofText (openingBraces 2 ++ (body ++ closingBraces (2 + left))) =
      .enclosed .call items :: if left = 0 then [] else [.text (closingBraces left)] := by
    rw [Item.ofText, cascade.foldl_read_call read, Matching.closeBraces_of_lt few]
    split
    · rfl
    · rfl
  have after : Item.allNodesBefore (if left = 0 then [] else [.text (closingBraces left)]) [] =
      Node.textBefore (closingBraces left) [] := by
    split
    · rename_i none
      rw [none]
      rfl
    · rfl
  rw [parse_eq, tree, Item.allNodesBefore, after, Item.nodesBefore_enclosed Fence.noConfusion,
    parts, Item.source_enclosed, source]
  rfl

end ListMarkup.Markup
