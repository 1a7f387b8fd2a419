import ListMarkup.Proofs.Markup.Reading
import Mathlib.Data.List.Chain

/-!
# Reading markup loses nothing

The nodes of a text, written one after the other, are the text.  No node is empty text,
text never follows text, and a call or a reference is its parts with pipes between them
inside its braces (`Node.Faithful`).  Reading never fails, so every subtraction and
every slice it takes is in range (`parse_lossless`).

The proof follows the tree.  `Tidy` is what stays true while nodes are put together from
right to left: text that comes before a text node joins it, and everything else starts a
node of its own.
-/

set_option autoImplicit false

namespace ListMarkup.Markup

/-! ## Nodes as their parts say -/

namespace Node

/-- Whether a node is text. -/
def isText : Node → Bool
  | .text _ => true
  | .call .. | .argument .. => false

theorem isText_eq_true {node : Node} (isText : node.isText = true) :
    ∃ run, node = .text run := by
  cases node with
  | text run => exact ⟨run, rfl⟩
  | call _ => cases isText
  | argument _ => cases isText

/-- Two neighbours that one text node could not stand for. -/
def Apart (first second : Node) : Prop :=
  ¬(first.isText = true ∧ second.isText = true)

/-- A node is written the way its parts say. -/
def Faithful : Node → Prop
  | .text run => run ≠ []
  | .call ⟨raw, target, arguments⟩ =>
      raw = openingBraces 2 ++ target ++ arguments.flatMap (fun argument => '|' :: argument) ++
        closingBraces 2
  | .argument ⟨raw, name, default⟩ => ∃ first others,
      raw = openingBraces 3 ++ Text.join ['|'] (first :: others) ++ closingBraces 3 ∧
        name = first.trim ∧ default = others.head?

theorem faithful_text {run : Text} (notEmpty : run ≠ []) : (Node.text run).Faithful :=
  notEmpty

theorem apart_of_not_text {first : Node} (notText : first.isText = false) (second : Node) :
    Apart first second := by
  rintro ⟨isText, -⟩
  rw [notText] at isText
  cases isText

end Node

/-- Nodes that are each written the way their parts say, with text apart. -/
structure Tidy (nodes : List Node) : Prop where
  faithful : ∀ node ∈ nodes, node.Faithful
  apart : nodes.IsChain Node.Apart

namespace Tidy

theorem nil : Tidy [] := ⟨fun _ member => absurd member List.not_mem_nil, .nil⟩

theorem cons {node : Node} {nodes : List Node} (faithful : node.Faithful)
    (apart : ∀ next ∈ nodes.head?, node.Apart next) (tidy : Tidy nodes) :
    Tidy (node :: nodes) :=
  ⟨List.forall_mem_cons.mpr ⟨faithful, tidy.faithful⟩, tidy.apart.cons apart⟩

/-- A longer text in place of the first one. -/
theorem extend {run longer : Text} {nodes : List Node} (notEmpty : longer ≠ [])
    (tidy : Tidy (.text run :: nodes)) : Tidy (.text longer :: nodes) := by
  have split := List.isChain_cons.mp tidy.apart
  have rest : Tidy nodes := ⟨(List.forall_mem_cons.mp tidy.faithful).2, split.2⟩
  exact .cons (Node.faithful_text notEmpty) split.1 rest

/-- Text before tidy nodes leaves them tidy. -/
theorem textBefore (run : Text) {nodes : List Node} (tidy : Tidy nodes) :
    Tidy (Node.textBefore run nodes) := by
  unfold Node.textBefore
  split
  · exact tidy
  · rename_i later nodes notEmpty
    exact tidy.extend (fun empty => notEmpty (List.append_eq_nil_iff.mp empty).1)
  · rename_i notEmpty notText
    -- A first node that is text would have been joined by the case before.
    refine .cons (Node.faithful_text notEmpty) (fun next first both => ?_) tidy
    obtain ⟨later, rfl⟩ := Node.isText_eq_true both.2
    obtain ⟨rest, split⟩ := List.head?_eq_some_iff.mp first
    exact notText later rest split

end Tidy

/-- Text before nodes comes before what becomes of them, when text stays as it is. -/
theorem Node.flatMap_textBefore {result : Node → Text} (kept : ∀ run, result (.text run) = run)
    (run : Text) (nodes : List Node) :
    (textBefore run nodes).flatMap result = run ++ nodes.flatMap result := by
  unfold textBefore
  split
  · rfl
  · simp only [List.flatMap_cons, kept, List.append_assoc]
  · simp only [List.flatMap_cons, kept]

/-- Text before nodes is written before them. -/
theorem Node.flatMap_source_textBefore (run : Text) (nodes : List Node) :
    (textBefore run nodes).flatMap source = run ++ nodes.flatMap source :=
  flatMap_textBefore (fun _ => rfl) run nodes

namespace Node

@[simp] theorem source_ofParts (raw : Text) (braces : Nat) (first : Text) (others : List Text) :
    (ofParts raw braces first others).source = raw := by
  unfold ofParts
  split <;> rfl

@[simp] theorem isText_ofParts (raw : Text) (braces : Nat) (first : Text) (others : List Text) :
    (ofParts raw braces first others).isText = false := by
  unfold ofParts
  split <;> rfl

end Node

/-- The first part and, after a pipe each, the others are all the parts joined. -/
theorem join_parts (first : Text) (others : List Text) :
    Text.join ['|'] (first :: others) = first ++ others.flatMap (fun part => '|' :: part) := by
  induction others generalizing first with
  | nil => rw [Text.join, List.intercalate_singleton, List.flatMap_nil, List.append_nil]
  | cons second others ih =>
      rw [Text.join, List.intercalate_cons_cons, ← Text.join, ih, List.flatMap_cons,
        List.append_assoc]
      rfl

namespace Item

/-- The first part and, after a pipe each, the others are the whole body. -/
theorem source_parts (body : List Item) :
    source body = (parts body).1 ++ (parts body).2.flatMap (fun part => '|' :: part) := by
  induction body with
  | nil => rfl
  | cons item body ih =>
      by_cases isPipe : item = .pipe
      · subst isPipe
        rw [source_cons, source_pipe, ih, parts, List.flatMap_cons, List.nil_append]
        rfl
      · rw [source_cons, ih, parts_cons isPipe, List.append_assoc]

/-- The node of a call or a reference is written the way its parts say. -/
theorem faithful_ofParts {fence : Fence} (notLink : fence ≠ .link) (body : List Item) :
    (Node.ofParts (source [.enclosed fence body]) fence.width (parts body).1
      (parts body).2).Faithful := by
  cases fence with
  | link => exact absurd rfl notLink
  | call =>
      rw [Node.ofParts, if_neg (by decide), Node.Faithful, source_enclosed, source_parts body]
      simp only [Fence.opening, Fence.closing, List.append_assoc]
  | argument =>
      rw [Node.ofParts, if_pos (by decide)]
      refine ⟨(parts body).1, (parts body).2, ?_, rfl, rfl⟩
      rw [source_enclosed, source_parts body, join_parts]
      simp only [Fence.opening, Fence.closing, List.append_assoc]

/-! ## Nodes of a tree -/

/-- A call or a reference before nodes is written before them. -/
theorem flatMap_source_enclosed {fence : Fence} (notLink : fence ≠ .link) (body : List Item)
    (nodes : List Node) :
    ((Item.enclosed fence body).nodesBefore nodes).flatMap Node.source =
      source [.enclosed fence body] ++ nodes.flatMap Node.source := by
  rw [nodesBefore_enclosed notLink, List.flatMap_cons, Node.source_ofParts]

mutual

/-- The nodes of an item are written as the item is. -/
theorem flatMap_source_nodesBefore : ∀ (item : Item) (nodes : List Node),
    (item.nodesBefore nodes).flatMap Node.source = source [item] ++ nodes.flatMap Node.source
  | .text run, nodes => by
      rw [nodesBefore, Node.flatMap_source_textBefore, source_text]
  | .pipe, nodes => by
      rw [nodesBefore, Node.flatMap_source_textBefore, source_pipe]
  | .enclosed .link body, nodes => by
      rw [nodesBefore, Node.flatMap_source_textBefore, flatMap_source_allNodesBefore body,
        Node.flatMap_source_textBefore, source_enclosed, List.append_assoc, List.append_assoc]
      rfl
  | .enclosed .call body, nodes => flatMap_source_enclosed Fence.noConfusion body nodes
  | .enclosed .argument body, nodes => flatMap_source_enclosed Fence.noConfusion body nodes

/-- The nodes of items are written as the items are. -/
theorem flatMap_source_allNodesBefore : ∀ (items : List Item) (nodes : List Node),
    (allNodesBefore items nodes).flatMap Node.source = source items ++ nodes.flatMap Node.source
  | [], nodes => rfl
  | item :: items, nodes => by
      rw [allNodesBefore, flatMap_source_nodesBefore item, flatMap_source_allNodesBefore items,
        source_cons item items, List.append_assoc]

end

/-- A call or a reference before tidy nodes leaves them tidy. -/
theorem tidy_enclosed {fence : Fence} (notLink : fence ≠ .link) (body : List Item)
    {nodes : List Node} (tidy : Tidy nodes) :
    Tidy ((Item.enclosed fence body).nodesBefore nodes) := by
  rw [nodesBefore_enclosed notLink]
  exact .cons (faithful_ofParts notLink body)
    (fun next _ => Node.apart_of_not_text (Node.isText_ofParts _ _ _ _) next) tidy

mutual

/-- The nodes of an item, before tidy nodes, are tidy. -/
theorem tidy_nodesBefore : ∀ (item : Item) {nodes : List Node}, Tidy nodes →
    Tidy (item.nodesBefore nodes)
  | .text run, _, tidy => by
      rw [nodesBefore]
      exact tidy.textBefore run
  | .pipe, _, tidy => by
      rw [nodesBefore]
      exact tidy.textBefore ['|']
  | .enclosed .link body, _, tidy => by
      rw [nodesBefore]
      exact (tidy_allNodesBefore body (tidy.textBefore linkClosing)).textBefore linkOpening
  | .enclosed .call body, _, tidy => tidy_enclosed Fence.noConfusion body tidy
  | .enclosed .argument body, _, tidy => tidy_enclosed Fence.noConfusion body tidy

/-- The nodes of items, before tidy nodes, are tidy. -/
theorem tidy_allNodesBefore : ∀ (items : List Item) {nodes : List Node}, Tidy nodes →
    Tidy (allNodesBefore items nodes)
  | [], _, tidy => by
      rw [allNodesBefore]
      exact tidy
  | item :: items, _, tidy => by
      rw [allNodesBefore]
      exact tidy_nodesBefore item (tidy_allNodesBefore items tidy)

end

end Item

/-- **Reading a text succeeds and loses nothing.**  Every subtraction and slice on the
way is in range, the nodes are the text again, text is apart from text and never empty,
and calls and references are written the way their parts say. -/
theorem parse_lossless (text : Text) :
    ∃ nodes : List Node, parse? text = some nodes ∧ parse text = nodes ∧
      nodes.flatMap Node.source = text ∧
      nodes.IsChain Node.Apart ∧ ∀ node ∈ nodes, node.Faithful := by
  have tidy := Item.tidy_allNodesBefore (Item.ofText text) Tidy.nil
  refine ⟨_, parse?_eq text, parse_eq text, ?_, tidy.apart, tidy.faithful⟩
  rw [Item.flatMap_source_allNodesBefore, Item.source_ofText, List.flatMap_nil, List.append_nil]

end ListMarkup.Markup
