import ListMarkup.Proofs.Markup.MatcherOffsets
import Mathlib.Data.List.Sort

/-!
# Nodes are slices of the text

The constructs of a tree, cut out of the text at their offsets, are the nodes of the
tree (`parse?_eq`).  In particular no check fails while a text is read: the subtractions
stay above zero, and the ends of every slice are in order, inside the text and between
characters.

The text is followed from left to right.  What has been read but belongs to no node yet
is a run of text that the next node, or the end, completes; `Yields` states what the
constructs from a place on give for every such run.
-/

set_option autoImplicit false

namespace ListMarkup.Markup

open Text (byteLength byteLength_append slice? slice?_middle difference?_of_eq)

namespace Node

@[simp] theorem textBefore_nil (nodes : List Node) : textBefore [] nodes = nodes := by
  unfold textBefore
  rfl

theorem textBefore_append (first later : Text) (nodes : List Node) :
    textBefore (first ++ later) nodes = textBefore first (textBefore later nodes) := by
  cases first with
  | nil => rw [List.nil_append, textBefore_nil]
  | cons c first =>
      cases later with
      | nil => rw [List.append_nil, textBefore_nil]
      | cons d later =>
          cases nodes with
          | nil => rfl
          | cons node nodes =>
              cases node with
              | text run => simp only [textBefore, List.cons_append, List.append_assoc]
              | call call => rfl
              | argument reference => rfl

/-- A node that is not text keeps the text before it apart. -/
theorem textBefore_ofParts (run raw first : Text) (braces : Nat) (others : List Text)
    (nodes : List Node) :
    textBefore run (ofParts raw braces first others :: nodes) =
      (if run = [] then [] else [.text run]) ++ ofParts raw braces first others :: nodes := by
  cases run with
  | nil => rfl
  | cons c run =>
      rw [if_neg (List.cons_ne_nil _ _), ofParts]
      split <;> rfl

end Node

/-! ## Slices of a text known in parts -/

/-- The text between two ends of known parts is a node unless it is empty. -/
theorem textBetween?_middle (first middle later : Text) :
    textBetween? (String.ofList (first ++ (middle ++ later))) (byteLength first)
        (byteLength first + byteLength middle) =
      some (if middle = [] then [] else [.text middle]) := by
  unfold textBetween?
  cases middle with
  | nil => rw [if_neg (by rw [Text.byteLength_nil]; omega), if_pos rfl]
  | cons c middle =>
      have positive := Text.byteLength_pos (List.cons_ne_nil c middle)
      rw [if_pos (by omega), slice?_middle, if_neg (List.cons_ne_nil _ _)]
      rfl

namespace Item

/-- Something that is not a pipe belongs to the part before the next pipe. -/
theorem parts_cons {item : Item} (notPipe : item ≠ .pipe) (items : List Item) :
    parts (item :: items) = (source [item] ++ (parts items).1, (parts items).2) := by
  cases item with
  | pipe => exact absurd rfl notPipe
  | text run => simp only [parts, writeBefore_eq]
  | enclosed fence body => simp only [parts, writeBefore_eq]

theorem pipeAt_eq_nil {item : Item} (notPipe : item ≠ .pipe) (start : Nat) :
    item.pipeAt start = [] := by
  cases item with
  | pipe => exact absurd rfl notPipe
  | text run => rfl
  | enclosed fence body => rfl

/-- The text between the pipes of a body are its parts.  What stands before the body, up
to the last pipe, belongs to the first. -/
theorem partsBetween?_pipesFrom (body : List Item) :
    ∀ before run after : Text,
      partsBetween? (String.ofList (before ++ (run ++ (source body ++ after))))
          (byteLength before) (byteLength before + byteLength run + size body)
          (pipesFrom (byteLength before + byteLength run) body) =
        some (run ++ (parts body).1, (parts body).2) := by
  induction body with
  | nil =>
      intro before run after
      rw [size_nil, Nat.add_zero, pipesFrom, partsBetween?, source_nil, List.nil_append,
        slice?_middle, parts, List.append_nil]
      rfl
  | cons item body ih =>
      intro before run after
      by_cases isPipe : item = .pipe
      · subst isPipe
        have rest := ih (before ++ (run ++ ['|'])) [] after
        have position : byteLength (before ++ (run ++ ['|'])) =
            byteLength before + byteLength run + 1 := by
          rw [byteLength_append, byteLength_append, Nat.add_assoc]
          rfl
        rw [position, Text.byteLength_nil, Nat.add_zero, List.nil_append, List.nil_append,
          List.append_assoc, List.append_assoc, ← List.append_assoc ['|'], ← source_pipe,
          ← source_cons] at rest
        rw [size_cons, size_pipe, ← Nat.add_assoc, pipesFrom, pipeAt, List.singleton_append,
          partsBetween?, slice?_middle, size_pipe, parts, List.append_nil]
        exact congrArg (Option.bind · _) rest
      · have rest := ih before (run ++ source [item]) after
        rw [pipesFrom, pipeAt_eq_nil isPipe, List.nil_append, parts_cons isPipe, source_cons,
          size_cons item body]
        rw [byteLength_append, ← size, List.append_assoc, List.append_assoc,
          ← Nat.add_assoc] at rest
        rw [← Nat.add_assoc, List.append_assoc]
        exact rest

/-- The pipes of a body are met from left to right, so sorting them puts them back into
that order. -/
theorem mergeSort_reverse_pipesFrom (start : Nat) (body : List Item) :
    (pipesFrom start body).reverse.mergeSort = pipesFrom start body :=
  ((List.mergeSort_perm _ _).trans (List.reverse_perm _)).eq_of_pairwise'
    (List.pairwise_mergeSort' (· ≤ ·) _) (pairwise_pipesFrom start body)

/-- A call or a reference is a node of its own. -/
theorem nodesBefore_enclosed {fence : Fence} (notLink : fence ≠ .link) (body : List Item)
    (nodes : List Node) :
    (Item.enclosed fence body).nodesBefore nodes =
      .ofParts (source [.enclosed fence body]) fence.width (parts body).1 (parts body).2 ::
        nodes := by
  rw [nodesBefore, writeBefore_eq, List.append_nil]
  exact notLink

/-- The node of a construct that stands in a text. -/
theorem node?_enclosed (read after : Text) (fence : Fence) (body : List Item) :
    Construct.node? ⟨byteLength read, byteLength read + size [.enclosed fence body], fence.width,
        (pipesFrom (byteLength read + fence.width) body).reverse⟩
        (String.ofList (read ++ (source [.enclosed fence body] ++ after))) =
      some (.ofParts (source [.enclosed fence body]) fence.width (parts body).1
        (parts body).2) := by
  have inner := partsBetween?_pipesFrom body (read ++ fence.opening) [] (fence.closing ++ after)
  have stop : byteLength read + size [.enclosed fence body] =
      byteLength read + fence.width + size body + fence.width := by
    rw [size_enclosed]
    omega
  rw [byteLength_append, Fence.byteLength_opening, Text.byteLength_nil, Nat.add_zero,
    List.nil_append, List.nil_append, List.append_assoc, ← List.append_assoc (source body),
    ← List.append_assoc fence.opening, ← source_enclosed] at inner
  rw [Construct.node?, size, slice?_middle, ← size, difference?_of_eq stop,
    mergeSort_reverse_pipesFrom]
  exact congrArg (Option.bind · _) inner

end Item

/-! ## Nodes from a place on -/

/-- What the constructs after a place give.  Of the text read up to there, any run at its
end may belong to no node yet. -/
def Yields (text read : Text) (constructs : List Construct) (nodes : List Node) : Prop :=
  ∀ before run, read = before ++ run →
    nodesFrom? (String.ofList text) (byteLength before) constructs =
      some (Node.textBefore run nodes)

namespace Yields

/-- At the end of the text, what has been read is the last node. -/
theorem at_end (text : Text) : Yields text text [] [] := by
  intro before run parts
  have whole := textBetween?_middle before run []
  rw [List.append_nil, ← parts, ← byteLength_append, ← parts] at whole
  rw [nodesFrom?, Text.utf8ByteSize_ofList, whole]
  cases run <;> rfl

/-- More text joins what has been read. -/
theorem text {text read run : Text} {constructs : List Construct} {nodes : List Node}
    (yields : Yields text (read ++ run) constructs nodes) :
    Yields text read constructs (Node.textBefore run nodes) := by
  intro before earlier parts
  rw [← Node.textBefore_append]
  exact yields before (earlier ++ run) (by rw [parts, List.append_assoc])

/-- A call or a reference ends the text before it and is a node itself. -/
theorem enclosed {text read after : Text} {fence : Fence} (notLink : fence ≠ .link)
    {body : List Item} {constructs : List Construct} {nodes : List Node}
    (whole : text = read ++ (Item.source [.enclosed fence body] ++ after))
    (yields : Yields text (read ++ Item.source [.enclosed fence body]) constructs nodes) :
    Yields text read ((Item.enclosed fence body).constructsAt (byteLength read) ++ constructs)
      (.ofParts (Item.source [.enclosed fence body]) fence.width (Item.parts body).1
        (Item.parts body).2 :: nodes) := by
  intro before run parts
  have earlier := textBetween?_middle before run (Item.source [.enclosed fence body] ++ after)
  rw [← List.append_assoc, ← parts, ← whole, ← byteLength_append, ← parts] at earlier
  have node := Item.node?_enclosed read after fence body
  rw [← whole] at node
  have later := yields (read ++ Item.source [.enclosed fence body]) [] (List.append_nil _).symm
  rw [byteLength_append, ← Item.size, Node.textBefore_nil] at later
  rw [Item.constructsAt_enclosed notLink, List.singleton_append, nodesFrom?, earlier, node, later,
    Node.textBefore_ofParts]
  rfl

mutual

/-- An item yields its nodes. -/
theorem item {text : Text} {constructs : List Construct} {nodes : List Node} :
    ∀ (item : Item) (read after : Text), text = read ++ (Item.source [item] ++ after) →
      Yields text (read ++ Item.source [item]) constructs nodes →
      Yields text read (item.constructsAt (byteLength read) ++ constructs)
        (item.nodesBefore nodes)
  | .text run, read, after, _, yields => by
      rw [Item.source_text] at yields
      rw [Item.constructsAt, Item.nodesBefore]
      exact yields.text
  | .pipe, read, after, _, yields => by
      rw [Item.constructsAt, Item.nodesBefore]
      exact Yields.text yields
  | .enclosed .link body, read, after, whole, yields => by
      rw [Item.source_enclosed] at whole yields
      rw [Item.constructsAt, Item.nodesBefore]
      refine Yields.text ?_
      have closed : Yields text (read ++ linkOpening ++ Item.source body) constructs
          (Node.textBefore linkClosing nodes) := by
        apply Yields.text
        simpa only [Fence.opening, Fence.closing, List.append_assoc] using yields
      have inside := items body (read ++ linkOpening) (linkClosing ++ after)
        (by simpa only [Fence.opening, Fence.closing, List.append_assoc] using whole) closed
      rwa [byteLength_append] at inside
  | .enclosed .call body, read, after, whole, yields => by
      rw [Item.nodesBefore_enclosed Fence.noConfusion]
      exact Yields.enclosed Fence.noConfusion whole yields
  | .enclosed .argument body, read, after, whole, yields => by
      rw [Item.nodesBefore_enclosed Fence.noConfusion]
      exact Yields.enclosed Fence.noConfusion whole yields

/-- Items yield their nodes. -/
theorem items {text : Text} {constructs : List Construct} {nodes : List Node} :
    ∀ (items : List Item) (read after : Text), text = read ++ (Item.source items ++ after) →
      Yields text (read ++ Item.source items) constructs nodes →
      Yields text read (Item.constructsFrom (byteLength read) items ++ constructs)
        (Item.allNodesBefore items nodes)
  | [], read, after, _, yields => by
      rw [Item.source_nil, List.append_nil] at yields
      rw [Item.constructsFrom, Item.allNodesBefore]
      exact yields
  | first :: later, read, after, whole, yields => by
      rw [Item.source_cons, List.append_assoc] at whole
      rw [Item.source_cons, ← List.append_assoc] at yields
      rw [Item.constructsFrom, Item.allNodesBefore, List.append_assoc]
      refine item first read (Item.source later ++ after) whole ?_
      have rest := items later (read ++ Item.source [first]) after
        (by rw [whole, List.append_assoc]) yields
      rwa [byteLength_append, ← Item.size] at rest

end

end Yields

/-- **Reading a text never fails, and gives the nodes of its tree.** -/
theorem parse?_eq (text : Text) :
    parse? text = some (Item.allNodesBefore (Item.ofText text) []) := by
  obtain ⟨matcher, run, found⟩ := Matcher.readAll_ofText text
  have written := Item.source_ofText text
  have atEnd : Yields text ([] ++ Item.source (Item.ofText text)) [] [] := by
    rw [written, List.nil_append]
    exact Yields.at_end text
  have yields := Yields.items (Item.ofText text) [] []
    (by rw [written, List.append_nil, List.nil_append]) atEnd
  have nodes := yields [] [] rfl
  rw [Text.byteLength_nil, List.append_nil, Node.textBefore_nil, ← found] at nodes
  rw [parse?, run]
  exact nodes

/-- The nodes of a text are the nodes of its tree. -/
theorem parse_eq (text : Text) : parse text = Item.allNodesBefore (Item.ofText text) [] := by
  rw [parse, parse?_eq, Option.getD_some]

end ListMarkup.Markup
