import ListMarkup.FunctionTable
import ListMarkup.Markup.Node

/-!
# Rendering with templates

A site holds templates and functions.  Rendering replaces calls of functions by their
results, calls of templates by the expanded body of the template, and references to
arguments by what the innermost template call binds.

Two limits end every recursion.  Templates nested deeper than the limit of the site
give an error text.  Markup expanded inside markup more than 100 deep, bodies of
templates included, is left as it is; this is the number on which the definition
recurs.
-/

set_option autoImplicit false

namespace ListMarkup

open Markup (Node Call Reference parse)

/-- The name under which a template is kept: trimmed, with spaces for underscores, and
with its first character in upper case. -/
def templateName (name : Text) : Text :=
  Text.capitalize (name.trim.map fun c => if c = '_' then ' ' else c)

/-- Templates, functions, and how deep templates may call each other. -/
structure Site where
  /-- Bodies under names in kept form.  The first entry of a name counts. -/
  templates : List (Text × Text) := []
  functions : FunctionTable := FunctionTable.builtin
  maxDepth : Nat := 40

/-- Arguments of a template call by name.  The first entry of a name counts. -/
abbrev Bindings := List (Text × Text)

/-- Where an expansion takes place: in a template call with its bindings, or outside
all templates. -/
structure Frame where
  bindings : Option Bindings
  depth : Nat

/-- The frame outside all templates. -/
def Frame.outermost : Frame := ⟨none, 0⟩

/-- What is shown for a template call that is nested too deeply. -/
def depthError : Text :=
  "<strong class=\"error\">Expansion depth limit exceeded</strong>".toList

/-- What is shown for a call of a template that does not exist. -/
def missingTemplate (name : Text) : Text :=
  "[[:Template:".toList ++ name ++ "]]".toList

/-- How many expansions may be nested. -/
def maxNesting : Nat := 100

/-- The name and the text of a named argument.  An equals sign after the start of
nested markup does not name anything. -/
def splitNamedArgument (argument : Text) : Option (Text × Text) := do
  let (name, text) ← Text.cut? ['='] argument
  if name.any fun c => c = '\x7b' || c = '[' then none else some (name, text)

/-- The bindings that a call with expanded arguments makes. -/
def TemplateCall.bindings (call : TemplateCall) : Bindings :=
  call.arguments.reverse

/-- Binds the arguments of a template call, from left to right.  Named ones are trimmed
and prevail over earlier ones; the others are numbered and do not prevail. -/
def bindArguments {m : Type → Type} [Monad m] (expand : Text → m Text) :
    (numbered : Nat) → Bindings → List Text → m Bindings
  | _, bindings, [] => pure bindings
  | numbered, bindings, argument :: rest =>
    match splitNamedArgument argument with
    | some (name, text) => do
      let name ← expand name
      let text ← expand text
      bindArguments expand numbered ((name.trim, text.trim) :: bindings) rest
    | none => do
      let number := Text.ofNat (numbered + 1)
      if (bindings.lookup number).isSome then
        bindArguments expand (numbered + 1) bindings rest
      else
        let text ← expand argument
        bindArguments expand (numbered + 1) ((number, text) :: bindings) rest

/-! ## One level of expansion

What one expansion does in its frame is said for any way to expand markup there and to call
a template from there, with or without effects. -/

section Level

variable {m : Type → Type} [Monad m] (functions : FunctionTable) (expand : Text → m Text)
  (invoke : (name : Text) → Bindings → m Text)

/-- The answer to what a function asks for. -/
def Request.answer : Request → m Text
  | .markup text => expand text
  | .template call => invoke call.name call.bindings

namespace Frame

/-- The expansion of a reference to an argument.  Outside templates it stays as it is
written, and so does a reference to nothing without a default. -/
def expandReference (frame : Frame) (reference : Reference) : m Text := do
  match frame.bindings with
  | none => pure reference.raw
  | some bindings =>
    let name ← expand reference.name
    match bindings.lookup name.trim, reference.default with
    | some value, _ => pure value
    | none, some default => expand default
    | none, none => pure reference.raw

/-- The expansion of a call.  A call of an unknown function stays as it is written. -/
def expandCall (call : Call) : m Text :=
  match call.function? with
  | some (name, texts) =>
    match functions.call? name texts with
    | some result => result.runM (Request.answer expand invoke)
    | none => pure call.raw
  | none => do
    let name ← expand call.target
    let bindings ← bindArguments expand 0 [] call.arguments
    invoke name bindings

/-- The expansion of a node. -/
def expandNode (frame : Frame) : Node → m Text
  | .text run => pure run
  | .argument reference => frame.expandReference expand reference
  | .call call => expandCall functions expand invoke call

/-- The expansions of all nodes of a text, one after the other. -/
def expandNodes (frame : Frame) (text : Text) : m Text := do
  let pieces ← (parse text).mapM (frame.expandNode functions expand invoke)
  pure pieces.flatten

end Frame

end Level

namespace Site

/-! ## Templates and functions of a site

Expanding markup in a frame may lead into the frames of templates, so `inner` is given the
frame. -/

section

variable {m : Type → Type} [Monad m] (site : Site) (inner : Frame → Text → m Text)

/-- The expansion of a template's body in a frame of its own. -/
def invoke (frame : Frame) (name : Text) (bindings : Bindings) : m Text :=
  let name := templateName name
  if site.maxDepth ≤ frame.depth then pure depthError
  else
    match site.templates.lookup name with
    | some body => inner ⟨some bindings, frame.depth + 1⟩ body
    | none => pure (missingTemplate name)

/-- The expansion of a node in a frame. -/
def expandNode (frame : Frame) (node : Node) : m Text :=
  frame.expandNode site.functions (inner frame) (site.invoke inner frame) node

/-- The expansion of a text in a frame, node by node. -/
def expandNodes (frame : Frame) (text : Text) : m Text :=
  frame.expandNodes site.functions (inner frame) (site.invoke inner frame) text

end

/-- The expansion of markup in a frame, with so many levels of nesting left. -/
def expand (site : Site) : (levels : Nat) → Frame → Text → Text
  | 0, _, text => text
  | levels + 1, frame, text =>
    Id.run (site.expandNodes (fun frame text => pure (site.expand levels frame text)) frame text)

/-- The expansion of markup outside all templates. -/
def render (site : Site) (text : Text) : Text :=
  site.expand maxNesting Frame.outermost text

/-- The site with a template added or replaced. -/
def withTemplate (site : Site) (name body : Text) : Site :=
  { site with templates := (templateName name, body) :: site.templates }

/-- The expander that renders markup from the outermost frame. -/
def expander (site : Site) : Expander :=
  Expander.ofMarkup site.render

end Site

end ListMarkup
