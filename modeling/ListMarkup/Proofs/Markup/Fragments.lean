import ListMarkup.Proofs.Markup.UnmarkedParts

/-!
# Text with references

A simple template body is a sequence of text and of references to arguments, in which neither
the text nor the names hold markup of their own.  It is read as just that sequence
(`Fragment.parse_body`), whatever stands next to each other: references that touch, text
that is empty, and the reference to the empty name.  Composed markup begins and ends every part
with text and does not say so.
-/

set_option autoImplicit false

namespace ListMarkup.Markup

/-- A piece of a body: text, or a reference to an argument, with no text for its absence. -/
inductive Fragment where
  | text (run : Text)
  | reference (name : Text)
  deriving DecidableEq

namespace Fragment

/-- A piece of a body as it is written. -/
def write : Fragment → Text
  | .text run => run
  | .reference name => openingBraces 3 ++ name ++ closingBraces 3

/-- A body as it is written. -/
def writeAll (body : List Fragment) : Text :=
  body.flatMap write

/-- Text without markup, or a name without markup and without white space around it. -/
def Plain : Fragment → Prop
  | .text run => Unmarked run
  | .reference name => Unmarked name ∧ name.trim = name

instance : DecidablePred Plain
  | .text run => inferInstanceAs (Decidable (Unmarked run))
  | .reference name => inferInstanceAs (Decidable (Unmarked name ∧ name.trim = name))

/-- The items of a piece, with others after them. -/
def itemsBefore : Fragment → List Item → List Item
  | .text run, items => Item.runBefore run items
  | .reference name, items => .enclosed .argument (Item.runBefore name []) :: items

/-- The nodes of a piece, with others after them. -/
def nodesBefore : Fragment → List Node → List Node
  | .text run, nodes => Node.textBefore run nodes
  | .reference name, nodes => .argument ⟨write (.reference name), name, none⟩ :: nodes

theorem writeAll_cons (fragment : Fragment) (body : List Fragment) :
    writeAll (fragment :: body) = fragment.write ++ writeAll body :=
  List.flatMap_cons

/-- No body begins with a closing brace. -/
theorem head_writeAll {body : List Fragment} (plain : ∀ fragment ∈ body, fragment.Plain) :
    (writeAll body).head? ≠ some '\x7d' := by
  induction body with
  | nil => exact fun first => nomatch first
  | cons fragment body ih =>
      obtain ⟨here, later⟩ := List.forall_mem_cons.mp plain
      rw [writeAll_cons]
      cases fragment with
      | reference name => exact fun first => absurd (Option.some.inj first) (by decide)
      | text run =>
          cases run with
          | nil => exact ih later
          | cons c run =>
              intro first
              cases first
              exact (here _ List.mem_cons_self).1 (by decide)

/-- The tokens of a body are those of its items. -/
theorem cut_writeAll {body : List Fragment} (plain : ∀ fragment ∈ body, fragment.Plain) :
    Piece.Cut (writeAll body) (body.foldr itemsBefore []) [] := by
  induction body with
  | nil => exact ⟨rfl, fun _ _ first => nomatch first⟩
  | cons fragment body ih =>
      obtain ⟨here, later⟩ := List.forall_mem_cons.mp plain
      rw [writeAll_cons]
      cases fragment with
      | text run => exact (ih later).runBefore fun c member => (here c member).1
      | reference name =>
          have enclosed := (ih later).enclosing .argument
            (fun c member => (here.1 c member).1) (head_writeAll later)
          rw [write, List.append_assoc, List.append_assoc]
          exact enclosed

/-- The nodes of the items of a body are the nodes of the body. -/
theorem allNodesBefore_items {body : List Fragment} (plain : ∀ fragment ∈ body, fragment.Plain) :
    Item.allNodesBefore (body.foldr itemsBefore []) [] = body.foldr nodesBefore [] := by
  induction body with
  | nil => rfl
  | cons fragment body ih =>
      obtain ⟨here, later⟩ := List.forall_mem_cons.mp plain
      rw [List.foldr_cons, List.foldr_cons, ← ih later]
      cases fragment with
      | text run => exact Item.allNodesBefore_runBefore run _ []
      | reference name =>
          have parts : Item.parts (Item.runBefore name []) = (name, []) := by
            rw [Item.parts_runBefore here.1.noPipe, Item.parts, List.append_nil]
          rw [itemsBefore, Item.allNodesBefore, Item.nodesBefore_enclosed Fence.noConfusion, parts,
            Item.source_enclosed, Item.source_runBefore, Item.source_nil, List.append_nil,
            nodesBefore, write, List.append_assoc, Node.ofParts, here.2]
          rfl

/-- **A body of text and references is read as its text and its references.** -/
theorem parse_body {body : List Fragment} (plain : ∀ fragment ∈ body, fragment.Plain) :
    parse (writeAll body) = body.foldr nodesBefore [] := by
  rw [parse_eq, Item.ofText_eq (cut_writeAll plain).tokens, allNodesBefore_items plain]

end Fragment

end ListMarkup.Markup
