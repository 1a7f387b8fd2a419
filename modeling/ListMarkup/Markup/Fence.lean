import ListMarkup.Markup.Token

/-!
# What encloses markup

Links, calls and argument references have an opening and a closing of the same width.
An opening run of braces encloses a call or a reference only when a closing run ends
it, and which of the two depends on how many braces both runs have left.
-/

set_option autoImplicit false

namespace ListMarkup.Markup

/-- What encloses other markup. -/
inductive Fence where
  /-- Double brackets. -/
  | link
  /-- Two braces. -/
  | call
  /-- Three braces. -/
  | argument
  deriving DecidableEq

namespace Fence

/-- How many characters a fence has on each side. -/
def width : Fence → Nat
  | .link => 2
  | .call => 2
  | .argument => 3

theorem two_le_width (fence : Fence) : 2 ≤ fence.width := by
  cases fence <;> decide

/-- How a fence begins. -/
def opening : Fence → Text
  | .link => linkOpening
  | .call => openingBraces 2
  | .argument => openingBraces 3

/-- How a fence ends. -/
def closing : Fence → Text
  | .link => linkClosing
  | .call => closingBraces 2
  | .argument => closingBraces 3

/-- The fence that an opening and a closing run of braces make. -/
def ofRuns (opened closed : Nat) : Fence :=
  if 3 ≤ opened ∧ 3 ≤ closed then .argument else .call

theorem width_ofRuns_le_opened {opened closed : Nat} (enough : 2 ≤ opened) :
    (ofRuns opened closed).width ≤ opened := by
  unfold ofRuns
  split
  · rename_i three
    exact three.1
  · exact enough

theorem width_ofRuns_le_closed {opened closed : Nat} (enough : 2 ≤ closed) :
    (ofRuns opened closed).width ≤ closed := by
  unfold ofRuns
  split
  · rename_i three
    exact three.2
  · exact enough

theorem opening_ofRuns (opened closed : Nat) :
    (ofRuns opened closed).opening = openingBraces (ofRuns opened closed).width := by
  unfold ofRuns
  split <;> rfl

theorem closing_ofRuns (opened closed : Nat) :
    (ofRuns opened closed).closing = closingBraces (ofRuns opened closed).width := by
  unfold ofRuns
  split <;> rfl

theorem ofRuns_ne_link (opened closed : Nat) : ofRuns opened closed ≠ .link := by
  unfold ofRuns
  split <;> exact Fence.noConfusion

end Fence

/-- What has been opened and is not closed yet. -/
inductive Opener where
  /-- Opening braces that nothing has closed. -/
  | braces (count : Nat)
  | link
  deriving DecidableEq

namespace Opener

/-- An opener as it is written. -/
def source : Opener → Text
  | .braces count => openingBraces count
  | .link => linkOpening

/-- Whether an opener is a link. -/
def isLink : Opener → Bool
  | .link => true
  | .braces _ => false

end Opener

end ListMarkup.Markup
