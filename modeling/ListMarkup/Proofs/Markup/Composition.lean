import ListMarkup.Proofs.Markup.Lossless
import ListMarkup.Proofs.Markup.Tokens
import Mathlib.Data.Bool.AllAny

/-!
# Composed markup reads back

Markup that is put together from text, calls, references and links, with text at both ends
of every part and every link, is read as it was composed (`parse_writeAll`): the calls and
references outside all others are found with the parts that they were given, also inside
links, and everything else is text.

Between composing and reading stands the tree.  The pieces determine a tree in which
neighbouring text is one run (`Piece.allItemsBefore`).  The tokens of what is written are
those of the tree (`Piece.ofText_writeAll`), where the text at the ends of a part keeps its
braces from joining others; and reading the tokens of any tree gives that tree
(`Matching.foldl_read_allTokensBefore`).
-/

set_option autoImplicit false

namespace ListMarkup.Markup

/-! ## Pieces -/

/-- Markup as it is composed.  Calls and references have a first part and others, and a part
is again a list of pieces. -/
inductive Piece where
  | text (run : Text)
  | call (first : List Piece) (others : List (List Piece))
  | argument (first : List Piece) (others : List (List Piece))
  | link (body : List Piece)

/-- Text that is read as text.  Whether it may hold pipes depends on where it stands. -/
structure Plain (pipes : Bool) (run : Text) : Prop where
  notEmpty : run ≠ []
  noDelimiter : ∀ c ∈ run, c ∉ Token.delimiters
  noPipe : pipes = false → '|' ∉ run

instance (pipes : Bool) (run : Text) : Decidable (Plain pipes run) :=
  decidable_of_iff
    (run ≠ [] ∧ (run.all fun c => c ∉ Token.delimiters) = true ∧ (pipes = false → '|' ∉ run))
    ⟨fun ⟨notEmpty, noDelimiter, noPipe⟩ =>
        ⟨notEmpty, List.all_iff_forall_prop.mp noDelimiter, noPipe⟩,
      fun ⟨notEmpty, noDelimiter, noPipe⟩ =>
        ⟨notEmpty, List.all_iff_forall_prop.mpr noDelimiter, noPipe⟩⟩

namespace Piece

mutual

/-- A piece as it is written. -/
def write : Piece → Text
  | .text run => run
  | .call first others =>
    openingBraces 2 ++ Text.join ['|'] (writeAll first :: writeParts others) ++ closingBraces 2
  | .argument first others =>
    openingBraces 3 ++ Text.join ['|'] (writeAll first :: writeParts others) ++ closingBraces 3
  | .link body => linkOpening ++ writeAll body ++ linkClosing

/-- Pieces as they are written. -/
def writeAll : List Piece → Text
  | [] => []
  | piece :: pieces => piece.write ++ writeAll pieces

/-- Parts as each is written. -/
def writeParts : List (List Piece) → List Text
  | [] => []
  | part :: parts => writeAll part :: writeParts parts

end

/-- Pieces that begin with text and end with text. -/
structure Bounded (pieces : List Piece) : Prop where
  begins : ∃ run, pieces.head? = some (.text run)
  ends : ∃ run, pieces.getLast? = some (.text run)

mutual

/-- A piece that is composed as it should be. -/
def Sound (pipes : Bool) : Piece → Prop
  | .text run => Plain pipes run
  | .call first others => Bounded first ∧ AllSound false first ∧ PartsSound others
  | .argument first others => Bounded first ∧ AllSound false first ∧ PartsSound others
  | .link body => Bounded body ∧ AllSound true body

/-- Pieces that are each composed as they should be. -/
def AllSound (pipes : Bool) : List Piece → Prop
  | [] => True
  | piece :: pieces => piece.Sound pipes ∧ AllSound pipes pieces

/-- Parts with text at both ends, whose pieces are composed as they should be. -/
def PartsSound : List (List Piece) → Prop
  | [] => True
  | part :: parts => Bounded part ∧ AllSound false part ∧ PartsSound parts

end

/-- Whether a piece at one end is text. -/
def decidableText : (piece : Option Piece) → Decidable (∃ run, piece = some (.text run))
  | some (.text run) => .isTrue ⟨run, rfl⟩
  | none => .isFalse (fun ⟨_, same⟩ => nomatch same)
  | some (.call _ _) => .isFalse (fun ⟨_, same⟩ => nomatch same)
  | some (.argument _ _) => .isFalse (fun ⟨_, same⟩ => nomatch same)
  | some (.link _) => .isFalse (fun ⟨_, same⟩ => nomatch same)

instance (pieces : List Piece) : Decidable (Bounded pieces) :=
  match decidableText pieces.head?, decidableText pieces.getLast? with
  | .isTrue begins, .isTrue ends => .isTrue ⟨begins, ends⟩
  | .isFalse not, _ => .isFalse (fun bounded => not bounded.begins)
  | _, .isFalse not => .isFalse (fun bounded => not bounded.ends)

mutual

/-- Whether a piece is composed as it should be. -/
def decidableSound (pipes : Bool) : (piece : Piece) → Decidable (piece.Sound pipes)
  | .text run => inferInstanceAs (Decidable (Plain pipes run))
  | .call first others =>
    have := decidableAllSound false first
    have := decidablePartsSound others
    inferInstanceAs (Decidable (Bounded first ∧ AllSound false first ∧ PartsSound others))
  | .argument first others =>
    have := decidableAllSound false first
    have := decidablePartsSound others
    inferInstanceAs (Decidable (Bounded first ∧ AllSound false first ∧ PartsSound others))
  | .link body =>
    have := decidableAllSound true body
    inferInstanceAs (Decidable (Bounded body ∧ AllSound true body))

/-- Whether pieces are each composed as they should be. -/
def decidableAllSound (pipes : Bool) : (pieces : List Piece) → Decidable (AllSound pipes pieces)
  | [] => .isTrue trivial
  | piece :: pieces =>
    have := decidableSound pipes piece
    have := decidableAllSound pipes pieces
    inferInstanceAs (Decidable (piece.Sound pipes ∧ AllSound pipes pieces))

/-- Whether parts are each composed as they should be. -/
def decidablePartsSound : (parts : List (List Piece)) → Decidable (PartsSound parts)
  | [] => .isTrue trivial
  | part :: parts =>
    have := decidableAllSound false part
    have := decidablePartsSound parts
    inferInstanceAs (Decidable (Bounded part ∧ AllSound false part ∧ PartsSound parts))

end

instance (pipes : Bool) (pieces : List Piece) : Decidable (AllSound pipes pieces) :=
  decidableAllSound pipes pieces

mutual

/-- The nodes of a piece, with others after them.  Links are text around what is in them. -/
def nodesBefore : Piece → List Node → List Node
  | .text run, nodes => Node.textBefore run nodes
  | .call first others, nodes =>
    .call ⟨write (.call first others), writeAll first, writeParts others⟩ :: nodes
  | .argument first others, nodes =>
    .argument ⟨write (.argument first others), (writeAll first).trim, (writeParts others).head?⟩ ::
      nodes
  | .link body, nodes =>
    Node.textBefore linkOpening (allNodesBefore body (Node.textBefore linkClosing nodes))

/-- The nodes of pieces, with others after them. -/
def allNodesBefore : List Piece → List Node → List Node
  | [], nodes => nodes
  | piece :: pieces, nodes => piece.nodesBefore (allNodesBefore pieces nodes)

end

end Piece

/-! ## Trees and their tokens -/

namespace Fence

/-- The opener with which a fence begins. -/
def opener : Fence → Opener
  | .link => .link
  | .call => .braces 2
  | .argument => .braces 3

/-- The token with which a fence begins. -/
def openToken : Fence → Token
  | .link => .openLink
  | .call => .openBraces 2
  | .argument => .openBraces 3

/-- The token with which a fence ends. -/
def closeToken : Fence → Token
  | .link => .closeLink
  | .call => .closeBraces 2
  | .argument => .closeBraces 3

end Fence

namespace Item

mutual

/-- The tokens of an item, with others after them. -/
def tokensBefore : Item → List Token → List Token
  | .text run, tokens => .text run :: tokens
  | .pipe, tokens => .pipe :: tokens
  | .enclosed fence body, tokens =>
    fence.openToken :: allTokensBefore body (fence.closeToken :: tokens)

/-- The tokens of items, with others after them. -/
def allTokensBefore : List Item → List Token → List Token
  | [], tokens => tokens
  | item :: items, tokens => item.tokensBefore (allTokensBefore items tokens)

end

end Item

namespace Matching

/-- The closing token of a fence encloses what came after its opener. -/
theorem read_closeToken (fence : Fence) (body : List Item) (outer : List Level)
    (ground : List Item) :
    read ⟨⟨fence.opener, body.reverse⟩ :: outer, ground⟩ fence.closeToken =
      push (.enclosed fence body) ⟨outer, ground⟩ := by
  have none : ∀ isLink : Bool, ∀ level ∈ ([] : List Level), level.opener.isLink = isLink :=
    fun _ _ member => absurd member List.not_mem_nil
  cases fence with
  | link =>
      refine (closeLink_of_cut (none false) body.reverse outer ground).trans ?_
      rw [List.reverse_reverse, Level.spill, List.reverse_nil, List.append_nil]
  | call =>
      refine (closeBraces_two 0 body outer ground).trans ?_
      exact closeBraces_of_lt Nat.two_pos _
  | argument =>
      refine (closeBraces_of_cut (Nat.le_succ 2) (none true) 3 body.reverse outer ground).trans ?_
      rw [List.reverse_reverse, Level.spill, List.reverse_nil, List.append_nil]
      exact closeBraces_of_lt Nat.two_pos _

mutual

/-- Reading the tokens of an item adds the item. -/
theorem foldl_read_tokensBefore : ∀ (item : Item) (tokens : List Token) (state : Matching),
    (item.tokensBefore tokens).foldl read state = tokens.foldl read (state.push item)
  | .text run, tokens, state => rfl
  | .pipe, tokens, state => rfl
  | .enclosed fence body, tokens, ⟨levels, ground⟩ => by
      have opened : read ⟨levels, ground⟩ fence.openToken =
          ⟨⟨fence.opener, []⟩ :: levels, ground⟩ := by
        cases fence <;> rfl
      rw [Item.tokensBefore, List.foldl_cons, opened, foldl_read_allTokensBefore body,
        pushAll_level, List.append_nil, List.foldl_cons, read_closeToken]

/-- **Reading the tokens of a tree adds the items of the tree.** -/
theorem foldl_read_allTokensBefore : ∀ (items : List Item) (tokens : List Token)
    (state : Matching),
    (Item.allTokensBefore items tokens).foldl read state = tokens.foldl read (pushAll items state)
  | [], tokens, state => rfl
  | item :: items, tokens, state => by
      rw [Item.allTokensBefore, foldl_read_tokensBefore item, foldl_read_allTokensBefore items]
      rfl

end

end Matching

/-- A tree whose tokens are those of a text is the tree of that text. -/
theorem Item.ofText_eq {text : Text} {items : List Item}
    (tokens : Token.ofText text = allTokensBefore items []) : ofText text = items := by
  rw [ofText, tokens, Matching.foldl_read_allTokensBefore, List.foldl_nil, Matching.empty,
    Matching.pushAll_ground, Matching.finish, Level.spill, List.nil_append, List.append_nil,
    List.reverse_reverse]

/-! ## The tree of pieces -/

namespace Item

/-- Items with a character before them.  It joins text, unless it is a pipe. -/
def charBefore (c : Char) (items : List Item) : List Item :=
  if c = '|' then .pipe :: items
  else
    match items with
    | .text run :: items => .text (c :: run) :: items
    | items => .text [c] :: items

/-- Items with text before them, pipes apart. -/
def runBefore (run : Text) (items : List Item) : List Item :=
  run.foldr charBefore items

theorem charBefore_ne_nil (c : Char) (items : List Item) : charBefore c items ≠ [] := by
  unfold charBefore
  split
  · exact List.cons_ne_nil _ _
  · split <;> exact List.cons_ne_nil _ _

@[simp] theorem source_charBefore (c : Char) (items : List Item) :
    source (charBefore c items) = c :: source items := by
  unfold charBefore
  split
  · rename_i isPipe
    rw [isPipe, source_cons, source_pipe, List.singleton_append]
  · split
    · rw [source_cons, source_text, source_cons (.text _), source_text, List.cons_append]
    · rw [source_cons, source_text, List.singleton_append]

@[simp] theorem source_runBefore (run : Text) (items : List Item) :
    source (runBefore run items) = run ++ source items := by
  induction run with
  | nil => rfl
  | cons c run ih => rw [runBefore, List.foldr_cons, source_charBefore, ← runBefore, ih,
      List.cons_append]

/-- A character other than a pipe belongs to the first part. -/
theorem parts_charBefore {c : Char} (notPipe : c ≠ '|') (items : List Item) :
    parts (charBefore c items) = (c :: (parts items).1, (parts items).2) := by
  unfold charBefore
  rw [if_neg notPipe]
  split
  · rw [parts_cons Item.noConfusion, parts_cons Item.noConfusion, source_text, source_text,
      List.cons_append]
  · rw [parts_cons Item.noConfusion, source_text, List.singleton_append]

theorem parts_runBefore {run : Text} (noPipe : '|' ∉ run) (items : List Item) :
    parts (runBefore run items) = (run ++ (parts items).1, (parts items).2) := by
  induction run with
  | nil => rfl
  | cons c run ih =>
      simp only [List.mem_cons, not_or] at noPipe
      obtain ⟨notPipe, rest⟩ := noPipe
      rw [runBefore, List.foldr_cons, parts_charBefore (Ne.symm notPipe), ← runBefore, ih rest,
        List.cons_append]

/-- A character before items is text before their nodes. -/
theorem allNodesBefore_charBefore (c : Char) (items : List Item) (nodes : List Node) :
    allNodesBefore (charBefore c items) nodes =
      Node.textBefore [c] (allNodesBefore items nodes) := by
  unfold charBefore
  split
  · rename_i isPipe
    rw [allNodesBefore, nodesBefore, isPipe]
  · split
    · rw [allNodesBefore, nodesBefore, allNodesBefore, nodesBefore, ← Node.textBefore_append,
        List.singleton_append]
    · rw [allNodesBefore, nodesBefore]

theorem allNodesBefore_runBefore (run : Text) (items : List Item) (nodes : List Node) :
    allNodesBefore (runBefore run items) nodes =
      Node.textBefore run (allNodesBefore items nodes) := by
  induction run with
  | nil => rw [Node.textBefore_nil]; rfl
  | cons c run ih =>
      rw [runBefore, List.foldr_cons, allNodesBefore_charBefore, ← runBefore, ih,
        ← Node.textBefore_append, List.singleton_append]

end Item

namespace Piece

mutual

/-- The items of a piece, with others after them. -/
def itemsBefore : Piece → List Item → List Item
  | .text run, items => Item.runBefore run items
  | .call first others, items =>
    .enclosed .call (allItemsBefore first (laterItems others)) :: items
  | .argument first others, items =>
    .enclosed .argument (allItemsBefore first (laterItems others)) :: items
  | .link body, items => .enclosed .link (allItemsBefore body []) :: items

/-- The items of pieces, with others after them. -/
def allItemsBefore : List Piece → List Item → List Item
  | [], items => items
  | piece :: pieces, items => piece.itemsBefore (allItemsBefore pieces items)

/-- The items of the parts after the first, each with a pipe before it. -/
def laterItems : List (List Piece) → List Item
  | [] => []
  | part :: parts => .pipe :: allItemsBefore part (laterItems parts)

end

/-! ## What the tree keeps of the pieces -/

mutual

theorem source_itemsBefore : ∀ (piece : Piece) (items : List Item),
    Item.source (piece.itemsBefore items) = piece.write ++ Item.source items
  | .text run, items => by rw [itemsBefore, Item.source_runBefore, write]
  | .call first others, items => by
      rw [itemsBefore, Item.source_cons, Item.source_enclosed, source_allItemsBefore first,
        source_laterItems others, write, join_parts]
      simp only [Fence.opening, Fence.closing, List.append_assoc]
  | .argument first others, items => by
      rw [itemsBefore, Item.source_cons, Item.source_enclosed, source_allItemsBefore first,
        source_laterItems others, write, join_parts]
      simp only [Fence.opening, Fence.closing, List.append_assoc]
  | .link body, items => by
      rw [itemsBefore, Item.source_cons, Item.source_enclosed, source_allItemsBefore body,
        Item.source_nil, write]
      simp only [Fence.opening, Fence.closing, List.append_assoc, List.append_nil]

/-- The items of pieces are written as the pieces are. -/
theorem source_allItemsBefore : ∀ (pieces : List Piece) (items : List Item),
    Item.source (allItemsBefore pieces items) = writeAll pieces ++ Item.source items
  | [], items => by rw [allItemsBefore, writeAll, List.nil_append]
  | piece :: pieces, items => by
      rw [allItemsBefore, source_itemsBefore piece, source_allItemsBefore pieces, writeAll,
        List.append_assoc]

theorem source_laterItems : ∀ others : List (List Piece),
    Item.source (laterItems others) = (writeParts others).flatMap (fun part => '|' :: part)
  | [] => by rw [laterItems, writeParts, List.flatMap_nil, Item.source_nil]
  | part :: others => by
      rw [laterItems, Item.source_cons, Item.source_pipe, source_allItemsBefore part,
        source_laterItems others, writeParts, List.flatMap_cons]
      rfl

end

/-- A piece is written as its items are. -/
theorem write_eq_source (piece : Piece) : piece.write = Item.source (piece.itemsBefore []) := by
  rw [source_itemsBefore, Item.source_nil, List.append_nil]

/-- A piece whose text holds no pipe belongs to the first part. -/
theorem parts_itemsBefore {piece : Piece} (sound : piece.Sound false) (items : List Item) :
    Item.parts (piece.itemsBefore items) =
      (piece.write ++ (Item.parts items).1, (Item.parts items).2) := by
  cases piece with
  | text run =>
      have plain : Plain false run := sound
      rw [itemsBefore, Item.parts_runBefore (plain.noPipe rfl), write]
  | call first others =>
      rw [write_eq_source, itemsBefore, Item.parts_cons Item.noConfusion, itemsBefore]
  | argument first others =>
      rw [write_eq_source, itemsBefore, Item.parts_cons Item.noConfusion, itemsBefore]
  | link body =>
      rw [write_eq_source, itemsBefore, Item.parts_cons Item.noConfusion, itemsBefore]

/-- Pieces whose text holds no pipe belong to the first part. -/
theorem parts_allItemsBefore {pieces : List Piece} (sound : AllSound false pieces)
    (items : List Item) :
    Item.parts (allItemsBefore pieces items) =
      (writeAll pieces ++ (Item.parts items).1, (Item.parts items).2) := by
  induction pieces with
  | nil => rw [allItemsBefore, writeAll, List.nil_append]
  | cons piece pieces ih =>
      obtain ⟨here, later⟩ := sound
      rw [allItemsBefore, parts_itemsBefore here, ih later, writeAll, List.append_assoc]

/-- The parts of a call or a reference are read back from its body. -/
theorem parts_body {others : List (List Piece)} (soundOthers : PartsSound others) :
    ∀ {first : List Piece}, AllSound false first →
      Item.parts (allItemsBefore first (laterItems others)) =
        (writeAll first, writeParts others) := by
  induction others with
  | nil =>
      intro first sound
      rw [parts_allItemsBefore sound, laterItems, writeParts, Item.parts, List.append_nil]
  | cons part others ih =>
      intro first sound
      obtain ⟨_, soundPart, soundOthers⟩ := soundOthers
      rw [parts_allItemsBefore sound, laterItems, Item.parts, ih soundOthers soundPart, writeParts,
        List.append_nil]

mutual

/-- The nodes of a piece are those of its items. -/
theorem allNodesBefore_itemsBefore : ∀ {pipes : Bool} (piece : Piece), piece.Sound pipes →
    ∀ (items : List Item) (nodes : List Node),
      Item.allNodesBefore (piece.itemsBefore items) nodes =
        piece.nodesBefore (Item.allNodesBefore items nodes)
  | _, .text run, _, items, nodes => by
      rw [itemsBefore, Item.allNodesBefore_runBefore, nodesBefore]
  | _, .call first others, ⟨_, sound, soundOthers⟩, items, nodes => by
      rw [itemsBefore, Item.allNodesBefore, Item.nodesBefore_enclosed Fence.noConfusion,
        parts_body soundOthers sound, nodesBefore, write_eq_source, itemsBefore]
      rfl
  | _, .argument first others, ⟨_, sound, soundOthers⟩, items, nodes => by
      rw [itemsBefore, Item.allNodesBefore, Item.nodesBefore_enclosed Fence.noConfusion,
        parts_body soundOthers sound, nodesBefore, write_eq_source, itemsBefore]
      rfl
  | _, .link body, ⟨_, sound⟩, items, nodes => by
      rw [itemsBefore, Item.allNodesBefore, Item.nodesBefore,
        allNodesBefore_allItemsBefore body sound, Item.allNodesBefore, nodesBefore]

/-- The nodes of pieces are those of their items. -/
theorem allNodesBefore_allItemsBefore : ∀ {pipes : Bool} (pieces : List Piece),
    AllSound pipes pieces → ∀ (items : List Item) (nodes : List Node),
      Item.allNodesBefore (allItemsBefore pieces items) nodes =
        allNodesBefore pieces (Item.allNodesBefore items nodes)
  | _, [], _, items, nodes => by rw [allItemsBefore, allNodesBefore]
  | _, piece :: pieces, ⟨here, later⟩, items, nodes => by
      rw [allItemsBefore, allNodesBefore_itemsBefore piece here,
        allNodesBefore_allItemsBefore pieces later, allNodesBefore]

end

/-! ## The tokens of what is written -/

/-- The tokens of a text are those of items with others after them, and text at the end of
the items is apart from what comes after it. -/
structure Cut (text : Text) (items : List Item) (rest : List Token) : Prop where
  tokens : Token.ofText text = Item.allTokensBefore items rest
  apart : items = [] → ∀ next ∈ rest.head?, next.isText = false

/-- A character before items is before their tokens. -/
theorem Cut.charBefore {text : Text} {items : List Item} {rest : List Token}
    (cut : Cut text items rest) {c : Char} (plain : c ∉ Token.delimiters) :
    Cut (c :: text) (Item.charBefore c items) rest := by
  refine ⟨?_, fun none => absurd none (Item.charBefore_ne_nil c items)⟩
  unfold Item.charBefore
  split
  · rename_i isPipe
    rw [isPipe, Token.ofText_pipe, cut.tokens]
    rfl
  · rename_i notPipe
    rw [Token.ofText_plain plain notPipe, cut.tokens]
    split
    · rfl
    · rename_i notText
      refine Token.consPlain_of_head c fun next first => ?_
      cases items with
      | nil => exact cut.apart rfl next first
      | cons item items =>
          cases item with
          | text run => exact absurd rfl (notText run items)
          | pipe =>
              cases first
              rfl
          | enclosed fence body =>
              cases first
              cases fence <;> rfl

/-- Text before items is before their tokens. -/
theorem Cut.runBefore {text : Text} {items : List Item} {rest : List Token}
    (cut : Cut text items rest) {run : Text} (plain : ∀ c ∈ run, c ∉ Token.delimiters) :
    Cut (run ++ text) (Item.runBefore run items) rest := by
  induction run with
  | nil => exact cut
  | cons c run ih =>
      obtain ⟨here, later⟩ := List.forall_mem_cons.mp plain
      exact (ih later).charBefore here

/-- The closing of a fence before text that does not continue it. -/
theorem Cut.closing {text : Text} {items : List Item} {rest : List Token}
    (cut : Cut text items rest) (fence : Fence) (ends : text.head? ≠ some '\x7d') :
    Cut (fence.closing ++ text) [] (fence.closeToken :: Item.allTokensBefore items rest) := by
  have alone := (Token.head_ofText text).2 ends
  refine ⟨?_, fun _ next first => ?_⟩
  · cases fence with
    | link => exact congrArg (Token.closeLink :: ·) cut.tokens
    | call => exact (Token.ofText_closingBraces Nat.two_pos alone).trans (by rw [cut.tokens]; rfl)
    | argument =>
        exact (Token.ofText_closingBraces (Nat.succ_pos 2) alone).trans (by rw [cut.tokens]; rfl)
  · cases first
    cases fence <;> rfl

/-- The opening of a fence before a body that does not continue it. -/
theorem Cut.opening {inside : Text} {body items : List Item} {rest : List Token} {fence : Fence}
    (cut : Cut inside body (fence.closeToken :: Item.allTokensBefore items rest))
    (begins : inside.head? ≠ some '\x7b') :
    Cut (fence.opening ++ inside) (.enclosed fence body :: items) rest := by
  have alone := (Token.head_ofText inside).1 begins
  refine ⟨?_, fun none => absurd none (List.cons_ne_nil _ _)⟩
  cases fence with
  | link => exact congrArg (Token.openLink :: ·) cut.tokens
  | call => exact (Token.ofText_openingBraces Nat.two_pos alone).trans (by rw [cut.tokens]; rfl)
  | argument =>
      exact (Token.ofText_openingBraces (Nat.succ_pos 2) alone).trans (by rw [cut.tokens]; rfl)

/-- Text that is read as text begins with no delimiter. -/
theorem head_plain {pipes : Bool} {run : Text} (plain : Plain pipes run) (text : Text) {c : Char}
    (delimiter : c ∈ Token.delimiters) : (run ++ text).head? ≠ some c := by
  obtain ⟨d, run, rfl⟩ := List.exists_cons_of_ne_nil plain.notEmpty
  intro first
  cases first
  exact plain.noDelimiter c List.mem_cons_self delimiter

/-- No piece begins with a closing brace. -/
theorem head_write {pipes : Bool} {piece : Piece} (sound : piece.Sound pipes) (text : Text) :
    (piece.write ++ text).head? ≠ some '\x7d' := by
  cases piece with
  | text run =>
      rw [write]
      exact head_plain sound text (by decide)
  | call first others =>
      rw [write, List.append_assoc, List.append_assoc]
      exact fun first => absurd (Option.some.inj first) (by decide)
  | argument first others =>
      rw [write, List.append_assoc, List.append_assoc]
      exact fun first => absurd (Option.some.inj first) (by decide)
  | link body =>
      rw [write, List.append_assoc, List.append_assoc]
      exact fun first => absurd (Option.some.inj first) (by decide)

/-- No part begins with an opening brace. -/
theorem Bounded.head_writeAll {pipes : Bool} {part : List Piece} (bounded : Bounded part)
    (sound : AllSound pipes part) (text : Text) :
    (writeAll part ++ text).head? ≠ some '\x7b' := by
  obtain ⟨run, first⟩ := bounded.begins
  obtain ⟨pieces, rfl⟩ := List.head?_eq_some_iff.mp first
  obtain ⟨plain, -⟩ := sound
  rw [writeAll, write, List.append_assoc]
  exact head_plain plain _ (by decide)

mutual

/-- The tokens of what a piece is written as are those of its items. -/
theorem cut_write : ∀ {pipes : Bool} (piece : Piece), piece.Sound pipes →
    ∀ {text : Text} {items : List Item} {rest : List Token}, Cut text items rest →
      (text.head? ≠ some '\x7d' ∨ ∃ run, piece = .text run) →
        Cut (piece.write ++ text) (piece.itemsBefore items) rest
  | _, .text run, plain, tail, items, rest, cut, _ => by
      rw [write, itemsBefore]
      exact cut.runBefore plain.noDelimiter
  | _, .call first others, ⟨bounded, sound, soundOthers⟩, tail, items, rest, cut, ends => by
      have apart := ends.resolve_right fun ⟨_, same⟩ => Piece.noConfusion same
      have body := cut_writeAll first sound
        (cut_laterParts others soundOthers (cut.closing .call apart)) (.inr bounded.ends)
      have whole := body.opening (bounded.head_writeAll sound _)
      rw [write, itemsBefore, join_parts]
      simpa only [Fence.opening, Fence.closing, List.append_assoc] using whole
  | _, .argument first others, ⟨bounded, sound, soundOthers⟩, tail, items, rest, cut, ends => by
      have apart := ends.resolve_right fun ⟨_, same⟩ => Piece.noConfusion same
      have body := cut_writeAll first sound
        (cut_laterParts others soundOthers (cut.closing .argument apart)) (.inr bounded.ends)
      have whole := body.opening (bounded.head_writeAll sound _)
      rw [write, itemsBefore, join_parts]
      simpa only [Fence.opening, Fence.closing, List.append_assoc] using whole
  | _, .link inside, ⟨bounded, sound⟩, tail, items, rest, cut, ends => by
      have apart := ends.resolve_right fun ⟨_, same⟩ => Piece.noConfusion same
      have body := cut_writeAll inside sound (cut.closing .link apart) (.inr bounded.ends)
      have whole := body.opening (bounded.head_writeAll sound _)
      rw [write, itemsBefore]
      simpa only [Fence.opening, Fence.closing, List.append_assoc] using whole

/-- The tokens of what pieces are written as are those of their items. -/
theorem cut_writeAll : ∀ {pipes : Bool} (pieces : List Piece), AllSound pipes pieces →
    ∀ {text : Text} {items : List Item} {rest : List Token}, Cut text items rest →
      (text.head? ≠ some '\x7d' ∨ ∃ run, pieces.getLast? = some (.text run)) →
        Cut (writeAll pieces ++ text) (allItemsBefore pieces items) rest
  | _, [], _, tail, items, rest, cut, _ => by
      rw [writeAll, allItemsBefore]
      exact cut
  | _, [piece], ⟨here, _⟩, tail, items, rest, cut, ends => by
      rw [writeAll, writeAll, List.append_nil, allItemsBefore, allItemsBefore]
      exact cut_write piece here cut
        (ends.imp id fun ⟨run, last⟩ => ⟨run, Option.some.inj last⟩)
  | _, piece :: next :: pieces, ⟨here, later⟩, tail, items, rest, cut, ends => by
      have after := cut_writeAll (next :: pieces) later cut
        (by rwa [List.getLast?_cons_cons] at ends)
      have apart : (writeAll (next :: pieces) ++ tail).head? ≠ some '\x7d' := by
        rw [writeAll, List.append_assoc]
        exact head_write later.1 _
      rw [writeAll, List.append_assoc, allItemsBefore]
      exact cut_write piece here after (.inl apart)

/-- The tokens of the parts after the first are those of their items. -/
theorem cut_laterParts : ∀ (others : List (List Piece)), PartsSound others →
    ∀ {text : Text} {rest : List Token}, Cut text [] rest →
      Cut ((writeParts others).flatMap (fun part => '|' :: part) ++ text) (laterItems others) rest
  | [], _, tail, rest, cut => cut
  | part :: others, ⟨bounded, sound, soundOthers⟩, tail, rest, cut => by
      have after := cut_writeAll part sound (cut_laterParts others soundOthers cut)
        (.inr bounded.ends)
      have whole := after.charBefore (c := '|') (by decide)
      rw [writeParts, List.flatMap_cons, laterItems, List.append_assoc]
      exact whole

end

/-- The tree of what pieces are written as is their items. -/
theorem ofText_writeAll {pieces : List Piece} (sound : AllSound false pieces) :
    Item.ofText (writeAll pieces) = allItemsBefore pieces [] := by
  have start : Cut [] [] [] := ⟨rfl, fun _ _ first => nomatch first⟩
  have whole := cut_writeAll pieces sound start (.inl fun first => nomatch first)
  rw [List.append_nil] at whole
  exact Item.ofText_eq whole.tokens

end Piece

/-- **Reading undoes composing.**  What pieces are written as is read as the calls and
references outside all others, each with its parts as they are written, in order, and the
rest is text. -/
theorem parse_writeAll {pieces : List Piece} (sound : Piece.AllSound false pieces) :
    parse (Piece.writeAll pieces) = Piece.allNodesBefore pieces [] := by
  rw [parse_eq, Piece.ofText_writeAll sound, Piece.allNodesBefore_allItemsBefore pieces sound,
    Item.allNodesBefore]

/-- A reference in a part of a call, and a call in a link with a pipe of its own. -/
theorem parse_writeAll_nested :
    ∃ pieces : List Piece, Piece.AllSound false pieces ∧
      Piece.writeAll pieces =
        "a\x7b\x7bf|x\x7b\x7b\x7b n |d\x7d\x7d\x7dy\x7d\x7d[[p|q\x7b\x7bg\x7d\x7dr]]z".toList ∧
      parse (Piece.writeAll pieces) =
        [.text "a".toList,
          .call ⟨"\x7b\x7bf|x\x7b\x7b\x7b n |d\x7d\x7d\x7dy\x7d\x7d".toList, "f".toList,
            ["x\x7b\x7b\x7b n |d\x7d\x7d\x7dy".toList]⟩,
          .text "[[p|q".toList,
          .call ⟨"\x7b\x7bg\x7d\x7d".toList, "g".toList, []⟩,
          .text "r]]z".toList] :=
  ⟨[.text "a".toList,
      .call [.text "f".toList]
        [[.text "x".toList,
          .argument [.text " n ".toList] [[.text "d".toList]],
          .text "y".toList]],
      .link [.text "p|q".toList, .call [.text "g".toList] [], .text "r".toList],
      .text "z".toList],
    by decide +kernel, by decide +kernel, parse_writeAll (by decide +kernel)⟩

end ListMarkup.Markup
