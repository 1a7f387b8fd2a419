import ListMarkup.Proofs.Markup.Composition
import ListMarkup.Proofs.Markup.Inert

/-!
# Calls whose parts hold no markup

Text that holds neither braces nor brackets nor pipes is text wherever it is read.  A call whose
parts are such texts is read as that one call, with the parts as they were given, and any of
them may be empty (`parse_call_of_unmarked`).  Composed markup, which begins and ends every part
with text, says nothing about empty parts.

The body of such a call is read at once, pipes included: pipes are the only characters in it
that are no text.
-/

set_option autoImplicit false

namespace ListMarkup.Markup

/-- Text that holds neither braces nor brackets nor pipes. -/
def Unmarked (text : Text) : Prop :=
  ∀ c ∈ text, c ∉ Token.delimiters ∧ c ≠ '|'

instance (text : Text) : Decidable (Unmarked text) :=
  decidable_of_iff ((text.all fun c => c ∉ Token.delimiters ∧ c ≠ '|') = true)
    List.all_iff_forall_prop

namespace Unmarked

theorem append {first later : Text} (unmarked : Unmarked first) (unmarkedLater : Unmarked later) :
    Unmarked (first ++ later) :=
  List.forall_mem_append.mpr ⟨unmarked, unmarkedLater⟩

theorem noPipe {text : Text} (unmarked : Unmarked text) : '|' ∉ text :=
  fun member => (unmarked '|' member).2 rfl

theorem inert {text : Text} (unmarked : Unmarked text) : Inert text :=
  List.append_nil text ▸ Inert.nil.plainText unmarked

end Unmarked

/-- Parts with a pipe between them hold no delimiter when no part does. -/
theorem noDelimiter_of_unmarked {parts : List Text} (unmarked : ∀ part ∈ parts, Unmarked part) :
    ∀ c ∈ parts.flatMap (fun part => '|' :: part), c ∉ Token.delimiters := by
  intro c member
  obtain ⟨part, isPart, member⟩ := List.mem_flatMap.mp member
  rcases List.mem_cons.mp member with rfl | member
  · decide
  · exact (unmarked part isPart c member).1

/-- Pipes cut a run of text into the parts that stand between them. -/
theorem Item.parts_runBefore_pipes {others : List Text} (noPipe : ∀ part ∈ others, '|' ∉ part) :
    ∀ {first : Text}, '|' ∉ first →
      parts (runBefore (first ++ others.flatMap fun part => '|' :: part) []) =
        (first, others) := by
  induction others with
  | nil =>
      intro first noPipeFirst
      rw [List.flatMap_nil, List.append_nil, parts_runBefore noPipeFirst, parts, List.append_nil]
  | cons second others ih =>
      intro first noPipeFirst
      obtain ⟨noPipeSecond, later⟩ := List.forall_mem_cons.mp noPipe
      have pipe : runBefore ('|' :: (second ++ others.flatMap fun part => '|' :: part)) [] =
          .pipe :: runBefore (second ++ others.flatMap fun part => '|' :: part) [] := rfl
      rw [List.flatMap_cons, List.cons_append, runBefore, List.foldr_append, ← runBefore,
        ← runBefore, pipe, parts_runBefore noPipeFirst, parts, ih later noPipeSecond,
        List.append_nil]

/-! ## Reading the call -/

/-- Text without delimiters in a fence is read as the body of the fence, if what comes after it
does not go on with a closing brace. -/
theorem Piece.Cut.enclosing {text : Text} {items : List Item} {rest : List Token}
    (cut : Cut text items rest) (fence : Fence) {body : Text}
    (plain : ∀ c ∈ body, c ∉ Token.delimiters) (ends : text.head? ≠ some '\x7d') :
    Cut (fence.opening ++ (body ++ (fence.closing ++ text)))
      (.enclosed fence (Item.runBefore body []) :: items) rest := by
  have closed := cut.closing fence ends
  refine (closed.runBefore plain).opening ?_
  cases body with
  | nil =>
      cases fence <;> exact fun first => absurd (Option.some.inj first) (by decide)
  | cons c body =>
      intro first
      cases first
      exact plain _ List.mem_cons_self (by decide)

/-- Text between the braces of a call, without delimiters, is read as the body of the call. -/
theorem Item.ofText_call {body : Text} (plain : ∀ c ∈ body, c ∉ Token.delimiters) :
    ofText (openingBraces 2 ++ body ++ closingBraces 2) =
      [.enclosed .call (runBefore body [])] := by
  have start : Piece.Cut [] [] [] := ⟨rfl, fun _ _ first => nomatch first⟩
  have whole := start.enclosing .call plain fun first => nomatch first
  rw [List.append_nil, ← List.append_assoc] at whole
  exact ofText_eq whole.tokens

/-- **A call with unmarked parts is read as the call with these parts.** -/
theorem parse_call_of_unmarked {first : Text} {others : List Text} (unmarked : Unmarked first)
    (unmarkedOthers : ∀ part ∈ others, Unmarked part) :
    let written := openingBraces 2 ++ Text.join ['|'] (first :: others) ++ closingBraces 2
    parse written = [.call ⟨written, first, others⟩] := by
  intro written
  have plain : ∀ c ∈ first ++ others.flatMap (fun part => '|' :: part), c ∉ Token.delimiters :=
    List.forall_mem_append.mpr
      ⟨fun c member => (unmarked c member).1, noDelimiter_of_unmarked unmarkedOthers⟩
  have parts := Item.parts_runBefore_pipes (fun part isPart => (unmarkedOthers part isPart).noPipe)
    unmarked.noPipe
  have tree := Item.ofText_call plain
  rw [← join_parts] at tree parts
  rw [parse_eq, tree, Item.allNodesBefore, Item.nodesBefore_enclosed Fence.noConfusion, parts,
    Item.source_enclosed, Item.source_runBefore, Item.source_nil, List.append_nil,
    Item.allNodesBefore]
  rfl

end ListMarkup.Markup
