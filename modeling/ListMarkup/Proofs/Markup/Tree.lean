import ListMarkup.Markup.Node

/-!
# The tree of markup

Links, calls and argument references enclose other markup, so a text reads as a tree
whose leaves are its text and its pipes.  Nothing of the text is lost in it, and what
the matcher keeps as offsets can be said of items and their parts.

A closing run of braces ends the innermost opening run, three braces at a time for an
argument reference when both runs have three left, and otherwise two for a call; what
an opening run has left may enclose more.  Closing a link takes with it the braces that
were opened inside, and closing a brace takes with it the links that were.  What is
never closed is text.
-/

set_option autoImplicit false

namespace ListMarkup.Markup

/-- A node of the tree. -/
inductive Item where
  | text (run : Text)
  | pipe
  | enclosed (fence : Fence) (body : List Item)

mutual

/-- An item as it is written, with `rest` after it. -/
def Item.writeBefore : Item → Text → Text
  | .text run, rest => run ++ rest
  | .pipe, rest => '|' :: rest
  | .enclosed fence body, rest =>
    fence.opening ++ Item.writeAllBefore body (fence.closing ++ rest)

/-- Items as they are written, with `rest` after them. -/
def Item.writeAllBefore : List Item → Text → Text
  | [], rest => rest
  | item :: items, rest => item.writeBefore (Item.writeAllBefore items rest)

end

/-- Items as they are written. -/
def Item.source (items : List Item) : Text :=
  Item.writeAllBefore items []

/-! ## Matching openings with closings -/

/-- An opener with the items after it, the latest first. -/
structure Level where
  opener : Opener
  items : List Item

/-- The items of levels whose openers turn out to be text, the latest first.  The
innermost level is the first. -/
def Level.spill : List Level → List Item
  | [] => []
  | level :: outer => level.items ++ .text level.opener.source :: Level.spill outer

/-- The tree so far: the open levels, the innermost first, and the items outside all
of them, the latest first. -/
structure Matching where
  levels : List Level
  ground : List Item

namespace Matching

/-- Nothing read yet. -/
def empty : Matching := ⟨[], []⟩

/-- One more item at the innermost level. -/
def push (item : Item) : Matching → Matching
  | ⟨level :: outer, ground⟩ => ⟨{ level with items := item :: level.items } :: outer, ground⟩
  | ⟨[], ground⟩ => ⟨[], item :: ground⟩

/-- One more open level. -/
def enter (opener : Opener) (state : Matching) : Matching :=
  { state with levels := ⟨opener, []⟩ :: state.levels }

/-- Ends the innermost link.  Without one the brackets are text. -/
def closeLink (state : Matching) : Matching :=
  match state.levels.span (fun level => !level.opener.isLink) with
  | (inner, link :: outer) =>
    push (.enclosed .link (Level.spill inner ++ link.items).reverse) { state with levels := outer }
  | (_, []) => state.push (.text linkClosing)

/-- Puts a finished construct in place of the braces it used.  The braces that an
opening run has left stay open when there are two of them, and a single one is
text. -/
def settle (left : Nat) (construct : Item) (state : Matching) : Matching :=
  if 2 ≤ left then (state.enter (.braces left)).push construct
  else if left = 1 then (state.push (.text (openingBraces 1))).push construct
  else state.push construct

/-- Ends what a run of closing braces ends, innermost first.  What is left of the run
is text. -/
def closeBraces (run : Nat) (state : Matching) : Matching :=
  if run < 2 then
    if run = 0 then state else state.push (.text (closingBraces run))
  else
    match state.levels.span (fun level => level.opener.isLink) with
    | (links, ⟨.braces opened, items⟩ :: outer) =>
      let body := (Level.spill links ++ items).reverse
      let fence := Fence.ofRuns opened run
      have : 2 ≤ (Fence.ofRuns opened run).width := Fence.two_le_width _
      closeBraces (run - fence.width)
        (settle (opened - fence.width) (.enclosed fence body) { state with levels := outer })
    | _ => state.push (.text (closingBraces run))
termination_by run

/-- Reads one token. -/
def read (state : Matching) : Token → Matching
  | .openBraces count =>
    if 2 ≤ count then state.enter (.braces count) else state.push (.text (openingBraces count))
  | .closeBraces count => state.closeBraces count
  | .openLink => state.enter .link
  | .closeLink => state.closeLink
  | .pipe => state.push .pipe
  | .text run => state.push (.text run)

/-- The items of the whole text, in order. -/
def finish (state : Matching) : List Item :=
  (Level.spill state.levels ++ state.ground).reverse

end Matching

/-- The tree of a text. -/
def Item.ofText (text : Text) : List Item :=
  ((Token.ofText text).foldl Matching.read .empty).finish

/-- The parts between the pipes of a body, as they are written. -/
def Item.parts : List Item → Text × List Text
  | [] => ([], [])
  | .pipe :: items =>
    let (first, others) := Item.parts items
    ([], first :: others)
  | item :: items =>
    let (first, others) := Item.parts items
    (item.writeBefore first, others)

/-- Nodes with text before them.  Neighbouring text is one node. -/
def Node.textBefore (run : Text) (nodes : List Node) : List Node :=
  match run, nodes with
  | [], nodes => nodes
  | run, .text later :: nodes => .text (run ++ later) :: nodes
  | run, nodes => .text run :: nodes

mutual

/-- The nodes of an item, with others after them. -/
def Item.nodesBefore : Item → List Node → List Node
  | .text run, nodes => Node.textBefore run nodes
  | .pipe, nodes => Node.textBefore ['|'] nodes
  | .enclosed .link body, nodes =>
    Node.textBefore linkOpening (Item.allNodesBefore body (Node.textBefore linkClosing nodes))
  | .enclosed fence body, nodes =>
    let (first, others) := Item.parts body
    Node.ofParts ((Item.enclosed fence body).writeBefore []) fence.width first others :: nodes

/-- The nodes of items, with others after them. -/
def Item.allNodesBefore : List Item → List Node → List Node
  | [], nodes => nodes
  | item :: items, nodes => item.nodesBefore (Item.allNodesBefore items nodes)

end

end ListMarkup.Markup
