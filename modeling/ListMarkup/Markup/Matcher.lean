import ListMarkup.Markup.Fence

/-!
# Matching by offsets

One pass over the tokens of a text finds its outermost calls and argument references.
Only offsets into the text are kept: where each opener that nothing has closed yet
starts, where the pipes directly inside it are, and where the constructs found so far
lie.  A closing run of braces ends the innermost opening run, three braces at a time
when both runs have three left and otherwise two.

Every subtraction is checked, so that a run of the matcher gives nothing when one of
them would go below zero.
-/

set_option autoImplicit false

namespace ListMarkup.Markup

open Text (difference?)

/-- An opener that nothing has closed yet. -/
structure Opening where
  opener : Opener
  /-- Where it starts. -/
  start : Nat
  /-- The pipes met while it was the innermost opener, the latest first. -/
  pipes : List Nat

/-- A call or an argument reference that has been closed. -/
structure Construct where
  start : Nat
  stop : Nat
  /-- How many braces are on each side: three of a reference, two of a call. -/
  braces : Nat
  /-- The pipes between its parts, in any order. -/
  pipes : List Nat

/-- What is open and what has been found. -/
structure Matcher where
  /-- What is open, the innermost first. -/
  stack : List Opening
  /-- How many openers there are on the stack. -/
  depth : Nat
  /-- How many links there are on the stack. -/
  links : Nat
  /-- The outermost constructs found so far, the latest first. -/
  found : List Construct
  depth_eq : depth = stack.length

namespace Matcher

/-- Nothing read yet. -/
def empty : Matcher := ⟨[], 0, 0, [], rfl⟩

/-- One more opener. -/
def push (matcher : Matcher) (opener : Opener) (start : Nat) : Matcher :=
  { matcher with
    stack := ⟨opener, start, []⟩ :: matcher.stack
    depth := matcher.depth + 1
    depth_eq := congrArg (· + 1) matcher.depth_eq }

/-- A pipe is remembered by the innermost opener. -/
def notePipe (matcher : Matcher) (position : Nat) : Matcher :=
  match same : matcher.stack with
  | [] => matcher
  | top :: outer =>
    { matcher with
      stack := { top with pipes := position :: top.pipes } :: outer
      depth_eq := by rw [matcher.depth_eq, same]; rfl }

/-- Without the innermost openers, as long as they have a property, and without the
one that has not. -/
def unwind (matcher : Matcher) (holds : Opening → Bool) {opening : Opening}
    {outer : List Opening} (cut : matcher.stack.dropWhile holds = opening :: outer) : Matcher :=
  { matcher with
    stack := outer
    depth := matcher.depth - (matcher.stack.takeWhile holds).length - 1
    depth_eq := by
      have parts := congrArg List.length
        (List.takeWhile_append_dropWhile (p := holds) (l := matcher.stack))
      rw [List.length_append, cut, List.length_cons] at parts
      rw [matcher.depth_eq]
      omega }

/-- Ends the innermost link.  Braces opened inside it stay text. -/
def closeLink (matcher : Matcher) : Option Matcher :=
  if matcher.links = 0 then some matcher
  else
    match cut : matcher.stack.dropWhile fun opening => !opening.opener.isLink with
    | [] => some matcher
    | _ :: _ => do
      let ⟨links, _⟩ ← difference? matcher.links 1
      some { matcher.unwind _ cut with links }

/-- Ends what a run of closing braces at a position ends, innermost opener first.
Links that are still open inside a construct are text, and their pipes separate its
parts. -/
def closeBraces (position run : Nat) (matcher : Matcher) : Option Matcher :=
  if 2 ≤ run ∧ matcher.links < matcher.depth then
    match cut : matcher.stack.dropWhile (·.opener.isLink) with
    | ⟨.braces count, start, pipes⟩ :: _ => do
      let abandoned := matcher.stack.takeWhile (·.opener.isLink)
      let used := (Fence.ofRuns count run).width
      have : 2 ≤ (Fence.ofRuns count run).width := Fence.two_le_width _
      let ⟨links, _⟩ ← difference? matcher.links abandoned.length
      let ⟨left, _⟩ ← difference? count used
      let ⟨rest, _⟩ ← difference? run used
      let found :=
        ⟨start + left, position + used, used, abandoned.flatMap (·.pipes) ++ pipes⟩ ::
          matcher.found.dropWhile fun inner => start + left ≤ inner.start
      let closed := { matcher.unwind _ cut with links, found }
      closeBraces (position + used) rest
        (if 2 ≤ left then closed.push (.braces left) start else closed)
    | _ => some matcher
  else some matcher
termination_by run

/-- Reads the token at a position. -/
def read (matcher : Matcher) : (position : Nat) → Token → Option Matcher
  | position, .openBraces count =>
    some (if 2 ≤ count then matcher.push (.braces count) position else matcher)
  | position, .closeBraces count =>
    if 2 ≤ count then matcher.closeBraces position count else some matcher
  | position, .openLink => some ({ matcher with links := matcher.links + 1 }.push .link position)
  | _, .closeLink => matcher.closeLink
  | position, .pipe => some (matcher.notePipe position)
  | _, .text _ => some matcher

/-- Reads tokens from an offset on. -/
def readAll (matcher : Matcher) : List (Nat × Token) → Option Matcher
  | [] => some matcher
  | (position, token) :: tokens => do (← matcher.read position token).readAll tokens

end Matcher

end ListMarkup.Markup
