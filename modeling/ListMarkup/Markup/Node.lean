import ListMarkup.Markup.Matcher
import ListMarkup.Text.Separator

/-!
# Markup as a sequence of nodes

For expansion only the outermost calls and argument references matter, with the text
between them.  Their parts are kept as they are written and are read again when they
are expanded.  A pipe separates parts only directly inside a call or a reference, so
that a pipe in a link does not.

Nodes are slices of the text at the offsets that the matcher finds.  Reading is written
with checked subtractions and checked slices (`parse?`); none of the checks ever fails.
-/

set_option autoImplicit false

namespace ListMarkup.Markup

open Text (slice? difference?)

/-- A call of a target with arguments, all as they are written. -/
structure Call where
  /-- The whole call, its braces included. -/
  raw : Text
  target : Text
  arguments : List Text
  deriving DecidableEq

/-- A reference to an argument, with the text that takes its place when there is no
such argument. -/
structure Reference where
  /-- The whole reference, its braces included. -/
  raw : Text
  name : Text
  default : Option Text
  deriving DecidableEq

/-- A piece of markup, as far as expansion is concerned. -/
inductive Node where
  | text (run : Text)
  | call (call : Call)
  | argument (reference : Reference)
  deriving DecidableEq

namespace Node

/-- A node as it is written. -/
def source : Node → Text
  | .text run => run
  | .call ⟨raw, _, _⟩ => raw
  | .argument ⟨raw, _, _⟩ => raw

/-- The node with a fence of so many braces around its parts, the first of which is
given apart. -/
def ofParts (raw : Text) (braces : Nat) (first : Text) (others : List Text) : Node :=
  if braces = 3 then .argument ⟨raw, first.trim, others.head?⟩ else .call ⟨raw, first, others⟩

end Node

/-! ## Reading nodes -/

/-- The parts between two offsets, cut at pipes, the first one apart. -/
def partsBetween? (encoded : String) (start stop : Nat) : List Nat → Option (Text × List Text)
  | [] => do some (← slice? encoded start stop, [])
  | pipe :: pipes => do
    let first ← slice? encoded start pipe
    let (second, others) ← partsBetween? encoded (pipe + 1) stop pipes
    some (first, second :: others)

/-- The node of a construct. -/
def Construct.node? (construct : Construct) (encoded : String) : Option Node := do
  let raw ← slice? encoded construct.start construct.stop
  let ⟨stop, _⟩ ← difference? construct.stop construct.braces
  let (first, others) ←
    partsBetween? encoded (construct.start + construct.braces) stop construct.pipes.mergeSort
  some (.ofParts raw construct.braces first others)

/-- The text between two offsets as a node, when there is any. -/
def textBetween? (encoded : String) (start stop : Nat) : Option (List Node) :=
  if start < stop then do some [.text (← slice? encoded start stop)] else some []

/-- The nodes from an offset on, with the constructs that start there or later. -/
def nodesFrom? (encoded : String) (position : Nat) : List Construct → Option (List Node)
  | [] => textBetween? encoded position encoded.utf8ByteSize
  | construct :: constructs => do
    let before ← textBetween? encoded position construct.start
    let node ← construct.node? encoded
    let after ← nodesFrom? encoded construct.stop constructs
    some (before ++ node :: after)

/-- The nodes of a text, unless a check fails on the way. -/
def parse? (text : Text) : Option (List Node) := do
  let matcher ← Matcher.empty.readAll (Token.located 0 (Token.ofText text))
  nodesFrom? (String.ofList text) 0 matcher.found.reverse

/-- The nodes of a text. -/
def parse (text : Text) : List Node :=
  (parse? text).getD []

/-- The function and the arguments that a call names, when its target is a number
sign, a name and a colon.  What follows the colon is the first argument. -/
def Call.function? (call : Call) : Option (Text × List Text) :=
  match call.target.trimStart with
  | '#' :: rest =>
    (Text.cut? [':'] rest).map fun (name, first) => (name.trim, first :: call.arguments)
  | _ => none

end ListMarkup.Markup
