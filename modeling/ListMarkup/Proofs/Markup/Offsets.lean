import ListMarkup.Proofs.Markup.Matching
import ListMarkup.Proofs.Text.Offsets

/-!
# Where items stand in the text

The tree determines all offsets: an item starts as many bytes into the text as are
written before it.  This module reads off a tree what the matcher keeps of it: the pipes
directly inside a body (`Item.pipesFrom`) and the outermost calls and references
(`Item.constructsFrom`), both from a given offset on.
-/

set_option autoImplicit false

namespace ListMarkup.Markup

open Text (byteLength byteLength_append byteLength_replicate)

theorem byteLength_openingBraces (count : Nat) : byteLength (openingBraces count) = count :=
  byteLength_replicate (by decide) count

theorem byteLength_closingBraces (count : Nat) : byteLength (closingBraces count) = count :=
  byteLength_replicate (by decide) count

theorem Fence.byteLength_opening (fence : Fence) : byteLength fence.opening = fence.width := by
  cases fence
  · rfl
  · exact byteLength_openingBraces 2
  · exact byteLength_openingBraces 3

theorem Fence.byteLength_closing (fence : Fence) : byteLength fence.closing = fence.width := by
  cases fence
  · rfl
  · exact byteLength_closingBraces 2
  · exact byteLength_closingBraces 3

namespace Item

/-- How many bytes items take when they are written. -/
def size (items : List Item) : Nat :=
  byteLength (source items)

@[simp] theorem size_nil : size [] = 0 := rfl

@[simp] theorem size_append (first later : List Item) :
    size (first ++ later) = size first + size later := by
  rw [size, source_append, byteLength_append, size, size]

theorem size_cons (item : Item) (items : List Item) :
    size (item :: items) = size [item] + size items :=
  size_append [item] items

@[simp] theorem size_text (run : Text) : size [.text run] = byteLength run := by
  rw [size, source_text]

@[simp] theorem size_pipe : size [.pipe] = 1 := rfl

@[simp] theorem size_enclosed (fence : Fence) (body : List Item) :
    size [.enclosed fence body] = fence.width + (size body + fence.width) := by
  rw [size, source_enclosed, byteLength_append, byteLength_append, Fence.byteLength_opening,
    Fence.byteLength_closing, size]

/-! ## Pipes and constructs -/

/-- The offset of an item that starts there, when it is a pipe. -/
def pipeAt (start : Nat) : Item → List Nat
  | .pipe => [start]
  | .text _ => []
  | .enclosed _ _ => []

/-- The offsets of the pipes among items from an offset on. -/
def pipesFrom (start : Nat) : List Item → List Nat
  | [] => []
  | item :: items => item.pipeAt start ++ pipesFrom (start + size [item]) items

@[simp] theorem pipesFrom_append (start : Nat) (first later : List Item) :
    pipesFrom start (first ++ later) =
      pipesFrom start first ++ pipesFrom (start + size first) later := by
  induction first generalizing start with
  | nil => rfl
  | cons item first ih =>
      rw [List.cons_append, pipesFrom, ih, pipesFrom, size_cons item first, ← Nat.add_assoc,
        List.append_assoc]

theorem le_of_mem_pipesFrom {start position : Nat} {items : List Item}
    (member : position ∈ pipesFrom start items) : start ≤ position := by
  induction items generalizing start with
  | nil => exact absurd member List.not_mem_nil
  | cons item items ih =>
      rcases List.mem_append.1 member with here | later
      · cases item with
        | pipe => exact Nat.le_of_eq (List.mem_singleton.1 here).symm
        | text run => exact absurd here List.not_mem_nil
        | enclosed fence body => exact absurd here List.not_mem_nil
      · exact Nat.le_trans (Nat.le_add_right _ _) (ih later)

/-- Pipes are met from left to right. -/
theorem pairwise_pipesFrom (start : Nat) (items : List Item) :
    (pipesFrom start items).Pairwise (· ≤ ·) := by
  induction items generalizing start with
  | nil => exact .nil
  | cons item items ih =>
      cases item with
      | pipe =>
          refine List.pairwise_cons.2 ⟨fun position member => ?_, ih _⟩
          exact Nat.le_trans (Nat.le_add_right _ _) (le_of_mem_pipesFrom member)
      | text run => exact ih _
      | enclosed fence body => exact ih _

mutual

/-- The outermost constructs in an item that starts at an offset. -/
def constructsAt (start : Nat) : Item → List Construct
  | .text _ => []
  | .pipe => []
  | .enclosed .link body => constructsFrom (start + Fence.link.width) body
  | .enclosed .call body =>
    [⟨start, start + size [.enclosed .call body], Fence.call.width,
      (pipesFrom (start + Fence.call.width) body).reverse⟩]
  | .enclosed .argument body =>
    [⟨start, start + size [.enclosed .argument body], Fence.argument.width,
      (pipesFrom (start + Fence.argument.width) body).reverse⟩]

/-- The outermost constructs in items from an offset on. -/
def constructsFrom (start : Nat) : List Item → List Construct
  | [] => []
  | item :: items => item.constructsAt start ++ constructsFrom (start + size [item]) items

end

/-- Calls and references are constructs. -/
theorem constructsAt_enclosed {fence : Fence} (notLink : fence ≠ .link) (start : Nat)
    (body : List Item) :
    (Item.enclosed fence body).constructsAt start =
      [⟨start, start + size [.enclosed fence body], fence.width,
        (pipesFrom (start + fence.width) body).reverse⟩] := by
  cases fence with
  | link => exact absurd rfl notLink
  | call => rw [constructsAt]
  | argument => rw [constructsAt]

@[simp] theorem constructsFrom_append (start : Nat) (first later : List Item) :
    constructsFrom start (first ++ later) =
      constructsFrom start first ++ constructsFrom (start + size first) later := by
  induction first generalizing start with
  | nil => rfl
  | cons item first ih =>
      rw [List.cons_append, constructsFrom, ih, constructsFrom, size_cons item first,
        ← Nat.add_assoc, List.append_assoc]

theorem constructsFrom_singleton (start : Nat) (item : Item) :
    constructsFrom start [item] = item.constructsAt start := by
  rw [constructsFrom, constructsFrom, List.append_nil]

@[simp] theorem constructsFrom_text (start : Nat) (run : Text) (items : List Item) :
    constructsFrom start (.text run :: items) = constructsFrom (start + byteLength run) items := by
  rw [constructsFrom, constructsAt, List.nil_append, size_text]

mutual

/-- A construct starts inside the item in which it lies. -/
theorem start_bounds_of_mem_constructsAt {construct : Construct} :
    ∀ (start : Nat) (item : Item), construct ∈ item.constructsAt start →
      start ≤ construct.start ∧ construct.start < start + size [item]
  | _, .text _, member => by
      rw [constructsAt] at member
      exact absurd member List.not_mem_nil
  | _, .pipe, member => by
      rw [constructsAt] at member
      exact absurd member List.not_mem_nil
  | start, .enclosed .link body, member => by
      rw [constructsAt] at member
      have inside := start_bounds_of_mem_constructsFrom _ body member
      rw [size_enclosed]
      omega
  | start, .enclosed .call body, member => by
      rw [constructsAt, List.mem_singleton] at member
      rw [member, size_enclosed, Fence.width]
      exact ⟨Nat.le_refl _, Nat.lt_add_of_pos_right (Nat.add_pos_left Nat.two_pos _)⟩
  | start, .enclosed .argument body, member => by
      rw [constructsAt, List.mem_singleton] at member
      rw [member, size_enclosed, Fence.width]
      exact ⟨Nat.le_refl _, Nat.lt_add_of_pos_right (Nat.add_pos_left (Nat.succ_pos 2) _)⟩

/-- A construct starts inside the items in which it lies. -/
theorem start_bounds_of_mem_constructsFrom {construct : Construct} :
    ∀ (start : Nat) (items : List Item), construct ∈ constructsFrom start items →
      start ≤ construct.start ∧ construct.start < start + size items
  | _, [], member => by
      rw [constructsFrom] at member
      exact absurd member List.not_mem_nil
  | start, item :: items, member => by
      rw [constructsFrom, List.mem_append] at member
      rw [size_cons]
      rcases member with here | later
      · have inside := start_bounds_of_mem_constructsAt start item here
        omega
      · have inside := start_bounds_of_mem_constructsFrom _ items later
        omega

end

end Item

end ListMarkup.Markup
