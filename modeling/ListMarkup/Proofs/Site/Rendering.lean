import ListMarkup.Proofs.Markup.Inert
import ListMarkup.Proofs.Markup.Locality
import ListMarkup.Site

/-!
# Rendering node by node

An expansion is the concatenation of the expansions of the nodes, each of which looks at
nothing but its own node (`Site.expand_succ`).  Because a call or a reference is found
again when it is read on its own, rendering a text is rendering its calls and references
one by one, with the text between them left as it is (`parse_raw_and_render_by_nodes`).
-/

set_option autoImplicit false

namespace ListMarkup

open Markup (Inert Node parse parse_of_inert parse_source_of_mem_parse)

namespace Site

/-- The expansion of a node, with so many levels of nesting left inside it. -/
def expansionOf (site : Site) (levels : Nat) (frame : Frame) (node : Node) : Text :=
  Id.run (site.expandNode (fun frame text => pure (site.expand levels frame text)) frame node)

/-- The expansion of a text is that of its nodes, one after the other. -/
theorem expand_succ (site : Site) (levels : Nat) (frame : Frame) (text : Text) :
    site.expand (levels + 1) frame text = (parse text).flatMap (site.expansionOf levels frame) := by
  rw [expand, expandNodes, Frame.expandNodes, Id.run_bind, List.idRun_mapM, Id.run_pure,
    List.flatMap_def]
  rfl

@[simp] theorem expansionOf_text (site : Site) (levels : Nat) (frame : Frame) (run : Text) :
    site.expansionOf levels frame (.text run) = run := rfl

/-- Text before nodes is expanded to itself. -/
theorem flatMap_expansionOf_textBefore (site : Site) (levels : Nat) (frame : Frame) (run : Text)
    (nodes : List Node) :
    (Node.textBefore run nodes).flatMap (site.expansionOf levels frame) =
      run ++ nodes.flatMap (site.expansionOf levels frame) :=
  Node.flatMap_textBefore (site.expansionOf_text levels frame) run nodes

/-- Inert text is expanded to itself, at the limit and below it. -/
theorem expand_of_inert (site : Site) {text : Text} (inert : Inert text) (levels : Nat)
    (frame : Frame) : site.expand levels frame text = text := by
  cases levels with
  | zero => rfl
  | succ levels =>
      rw [expand_succ, parse_of_inert inert, flatMap_expansionOf_textBefore, List.flatMap_nil,
        List.append_nil]

/-- Rendering expands the nodes of a text outside all templates. -/
theorem render_eq (site : Site) (text : Text) :
    site.render text = (parse text).flatMap (site.expansionOf 99 .outermost) :=
  site.expand_succ 99 .outermost text

/-- Text renders as it is, and calls and references render on their own. -/
def renderNode (site : Site) : Node → Text
  | .text run => run
  | .call call => site.render call.raw
  | .argument reference => site.render reference.raw

/-- A node of a text renders to its expansion. -/
theorem renderNode_of_mem_parse (site : Site) {text : Text} {node : Node}
    (member : node ∈ parse text) :
    site.renderNode node = site.expansionOf 99 .outermost node := by
  have alone : node.isText = false →
      site.render node.source = site.expansionOf 99 .outermost node := by
    intro notText
    rw [render_eq, parse_source_of_mem_parse member notText, List.flatMap_singleton]
  cases node with
  | text run => rfl
  | call call => exact alone rfl
  | argument reference => exact alone rfl

end Site

/-- **Reading does not depend on what is around.**  A call or a reference in a text, read on
its own, is that one node, and a text renders to its text as it is with its calls and
references rendered on their own. -/
theorem parse_raw_and_render_by_nodes :
    (∀ text : Text,
      (∀ call, Node.call call ∈ parse text → parse call.raw = [.call call]) ∧
        ∀ reference, Node.argument reference ∈ parse text →
          parse reference.raw = [.argument reference]) ∧
      ∀ (site : Site) (text : Text), site.render text = (parse text).flatMap site.renderNode := by
  refine ⟨fun text => ⟨fun call member => ?_, fun reference member => ?_⟩, fun site text => ?_⟩
  · exact parse_source_of_mem_parse member rfl
  · exact parse_source_of_mem_parse member rfl
  · rw [site.render_eq]
    exact List.flatMap_congr fun node member => (site.renderNode_of_mem_parse member).symm

end ListMarkup
