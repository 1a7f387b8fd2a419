import ListMarkup.Proofs.ValueList.Positions

/-!
# Windows on a list

A window is given by an offset and a length, which may be any integers of 64 bits.  Where it
begins and ends is computed with such integers, and one of the sums stops at the greatest of
them.  As long as the number of values is a 64-bit integer, no other sum overflows, and the
window holds the values whose places lie between its ends in unbounded arithmetic
(`ValueList.slice_is_window`): a sum that stops at the greatest integer is behind the list
anyway.

A window of one place is what the position selects, and a list can be cut in two windows at any
place.
-/

set_option autoImplicit false

namespace ListMarkup.ValueList

/-! ## Values between two places -/

/-- The values at the places from `start` up to `stop`, which is not one of them.  Both may lie
outside of the list. -/
def between (values : ValueList) (start stop : Int) : ValueList :=
  ((List.finRange values.length).filter fun place : Fin values.length =>
    start ≤ place.val ∧ place.val < stop).map values.get

theorem between_cons (value : Text) (values : ValueList) (start stop : Int) :
    between (value :: values) start stop =
      (if start ≤ 0 ∧ 0 < stop then [value] else []) ++ values.between (start - 1) (stop - 1) := by
  have later : ∀ place : Fin values.length,
      (start ≤ place.succ.val ∧ place.succ.val < stop) ↔
        start - 1 ≤ place.val ∧ place.val < stop - 1 := by
    intro place
    rw [Fin.val_succ]
    omega
  have places : List.finRange (value :: values).length =
      0 :: (List.finRange values.length).map Fin.succ := List.finRange_succ
  have first : ((0 : Fin (value :: values).length).val : Int) = 0 := rfl
  rw [between, between, places, List.filter_cons, List.filter_map]
  simp only [Function.comp_def, later, first, decide_eq_true_iff]
  by_cases inside : start ≤ 0 ∧ 0 < stop
  · rw [if_pos inside, if_pos inside, List.map_cons, List.map_map]
    rfl
  · rw [if_neg inside, if_neg inside, List.map_map]
    rfl

/-- These are what is left of the values before `stop` when those before `start` are left
out. -/
theorem between_eq (values : ValueList) (start stop : Int) :
    values.between start stop = (values.take stop.toNat).drop start.toNat := by
  induction values generalizing start stop with
  | nil => simp [between]
  | cons value values ih =>
      rw [between_cons, ih]
      by_cases none : stop ≤ 0
      · rw [if_neg (by omega), Int.toNat_of_nonpos none,
          Int.toNat_of_nonpos (by omega : stop - 1 ≤ 0)]
        simp
      · have oneMore : stop.toNat = (stop - 1).toNat + 1 := by omega
        rw [oneMore, List.take_succ_cons]
        by_cases whole : start ≤ 0
        · rw [if_pos (by omega), Int.toNat_of_nonpos whole,
            Int.toNat_of_nonpos (by omega : start - 1 ≤ 0)]
          rfl
        · have further : start.toNat = (start - 1).toNat + 1 := by omega
          rw [if_neg (by omega), further, List.drop_succ_cons]
          rfl

/-- Places before the start of the list and behind its end make no difference. -/
theorem between_clamped (values : ValueList) (start stop : Int) :
    let first := (max 0 (min start values.length)).toNat
    let last := (max 0 (min stop values.length)).toNat
    (if last ≤ first then [] else (values.take last).drop first) = values.between start stop := by
  intro first last
  rw [between_eq]
  by_cases empty : last ≤ first
  · rw [if_pos empty, List.drop_eq_nil_of_le]
    rw [List.length_take]
    omega
  · have sameLast : values.take last = values.take stop.toNat :=
      List.take_eq_take_iff.mpr (by omega)
    have sameFirst : first = start.toNat := by omega
    rw [if_neg empty, sameLast, sameFirst]

/-- Between a place and the next one there is at most the value at that place. -/
theorem between_next (values : ValueList) (start : Int) :
    values.between start (start + 1) =
      if 0 ≤ start then values[start.toNat]?.toList else [] := by
  rw [between_eq]
  by_cases inside : 0 ≤ start
  · have next : (start + 1).toNat - start.toNat = 1 := by omega
    rw [if_pos inside, List.drop_take, next, List.take_one, List.head?_drop]
  · have empty : (start + 1).toNat = 0 := by omega
    rw [if_neg inside, empty, List.take_zero, List.drop_nil]

/-! ## Ends of a window -/

/-- The place, in unbounded integers, at which a window begins. -/
def windowStart (values : ValueList) (offset : Int) : Int :=
  if 0 < offset then offset - 1 else values.length + offset

/-- The place, in unbounded integers, behind a window. -/
def windowStop (values : ValueList) (offset : Int) : Option Int → Int
  | none => values.length
  | some length =>
    if 0 ≤ length then values.windowStart offset + length else values.length + length

section Fitting

variable {values : ValueList} (few : values.length < Text.int64Bound) {offset : Int}
  (offsetFits : Text.fitsInt64 offset = true)

include few

/-- A sum that stops at the greatest integer is behind the list, like the sum itself. -/
theorem between_saturatingSum (start length : Int) :
    values.between start (Text.saturatingSum start length) =
      values.between start (start + length) := by
  unfold between
  refine congrArg (List.map _) (List.filter_congr fun place _ => ?_)
  have inside := place.isLt
  unfold Text.int64Bound at few
  rw [decide_eq_decide, Text.saturatingSum, Text.int64Bound]
  omega

include offsetFits

theorem signedPlace?_windowStart :
    signedPlace? offset values.length = some (values.windowStart offset) := by
  unfold Text.int64Bound at few
  rw [Text.fitsInt64_iff] at offsetFits
  apply Text.int64?_of_fits
  rw [Text.fitsInt64_iff]
  split <;> omega

/-- No sum overflows, and the window holds the values between its ends. -/
theorem slice?_eq {length : Option Int}
    (lengthFits : length.all Text.fitsInt64 = true) :
    values.slice? offset length =
      some (if offset = 0 then []
        else values.between (values.windowStart offset) (values.windowStop offset length)) := by
  obtain ⟨stop, isStop, same⟩ : ∃ stop,
      windowStop? values.length (values.windowStart offset) length = some stop ∧
        values.between (values.windowStart offset) stop =
          values.between (values.windowStart offset) (values.windowStop offset length) := by
    rcases length with _ | length
    · exact ⟨values.length, rfl, rfl⟩
    · rw [windowStop?, windowStop]
      by_cases positive : 0 ≤ length
      · rw [if_pos positive, if_pos positive]
        exact ⟨_, rfl, between_saturatingSum few _ _⟩
      · have fits : Text.fitsInt64 (values.length + length) = true := by
          have lower := Text.fitsInt64_iff.mp lengthFits
          unfold Text.int64Bound at few
          rw [Text.fitsInt64_iff]
          omega
        rw [if_neg positive, if_neg positive]
        exact ⟨_, Text.int64?_of_fits fits, rfl⟩
  rw [slice?, Text.int64?_natCast few, Option.bind_eq_bind, Option.bind_some]
  by_cases zero : offset = 0
  · rw [if_pos zero, if_pos zero]
  · rw [if_neg zero, if_neg zero, signedPlace?_windowStart few offsetFits, Option.bind_some,
      isStop, Option.bind_some, ← same, ← between_clamped]
    exact (apply_ite some _ _ _).symm

theorem slice_eq {length : Option Int}
    (lengthFits : length.all Text.fitsInt64 = true) :
    values.slice offset length =
      if offset = 0 then []
      else values.between (values.windowStart offset) (values.windowStop offset length) := by
  rw [slice, slice?_eq few offsetFits lengthFits, Option.getD_some]

/-- The value at a position is the one at the place where a window of that offset begins. -/
theorem get?_eq :
    values.get? offset =
      if offset = 0 then none
      else if 0 ≤ values.windowStart offset then values[(values.windowStart offset).toNat]?
      else none := by
  rw [get?, place?, Text.int64?_natCast few, Option.bind_eq_bind, Option.bind_some]
  by_cases zero : offset = 0
  · rw [if_pos zero, if_pos zero, Option.bind_none]
  · rw [if_neg zero, if_neg zero, signedPlace?_windowStart few offsetFits, Option.bind_some]
    by_cases inside : 0 ≤ values.windowStart offset ∧ values.windowStart offset < values.length
    · rw [if_pos inside, if_pos inside.1, Option.bind_some]
    · rw [if_neg inside, Option.bind_none]
      split
      · rw [List.getElem?_eq_none (by omega)]
      · rfl

/-- A window of one place is what the position selects. -/
theorem slice_one : values.slice offset (some 1) = (values.get? offset).toList := by
  rw [slice_eq few offsetFits rfl, get?_eq few offsetFits]
  by_cases zero : offset = 0
  · rw [if_pos zero, if_pos zero]
    rfl
  · have next : values.windowStop offset (some 1) = values.windowStart offset + 1 := rfl
    rw [if_neg zero, if_neg zero, next, between_next, apply_ite Option.toList]
    rfl

omit offsetFits

/-- The first values and all that come behind them are the whole list. -/
theorem slice_append_slice {count : Int} (lower : 0 ≤ count)
    (upper : count < Text.int64Bound - 1) :
    values.slice 1 (some count) ++ values.slice (count + 1) none = values := by
  have fits : Text.fitsInt64 count = true ∧ Text.fitsInt64 (count + 1) = true := by
    unfold Text.int64Bound at upper
    rw [Text.fitsInt64_iff, Text.fitsInt64_iff]
    omega
  have front : values.slice 1 (some count) = values.take count.toNat := by
    have window : values.slice 1 (some count) = _ := slice_eq few rfl fits.1
    rw [window, if_neg (by decide), between_eq, windowStop, if_pos lower]
    simp [windowStart]
  have rest : values.slice (count + 1) none = values.drop count.toNat := by
    rw [slice_eq few fits.2 rfl, if_neg (by omega), between_eq, windowStart,
      if_pos (by omega), windowStop]
    simp
  rw [front, rest, List.take_append_drop]

end Fitting

/-- **Windows are exact.**  No number on the way to a window overflows, and the window holds the
values whose places lie between its ends.  A window of one place holds what the position
selects, and the first values and all that come behind them are the whole list. -/
theorem slice_is_window {values : ValueList} (few : values.length < Text.int64Bound) :
    (∀ offset length, Text.fitsInt64 offset = true → length.all Text.fitsInt64 = true →
      values.slice? offset length = some (values.slice offset length) ∧
      values.slice offset length =
        if offset = 0 then []
        else values.between (values.windowStart offset) (values.windowStop offset length)) ∧
    (∀ position, Text.fitsInt64 position = true →
      values.slice position (some 1) = (values.get? position).toList) ∧
    ∀ count : Int, 0 ≤ count → count < Text.int64Bound - 1 →
      values.slice 1 (some count) ++ values.slice (count + 1) none = values := by
  refine ⟨?window, fun _ fits => slice_one few fits, fun _ => slice_append_slice few⟩
  intro offset length offsetFits lengthFits
  rw [slice_eq few offsetFits lengthFits]
  exact ⟨slice?_eq few offsetFits lengthFits, rfl⟩

/-- Windows at the least and at the greatest offset, with the greatest and the least length. -/
theorem slice_is_window_extreme :
    let values : ValueList := ["a".toList, "b".toList, "c".toList]
    let least : Int := -0x8000000000000000
    let greatest : Int := 0x7fffffffffffffff
    values.length < Text.int64Bound ∧
      Text.fitsInt64 least = true ∧ Text.fitsInt64 greatest = true ∧
      values.slice? least (some greatest) = some ["a".toList, "b".toList] ∧
      values.slice? greatest (some least) = some [] ∧
      values.slice (-2) (some 1) = ["b".toList] ∧
      values.slice 1 (some (greatest - 1)) ++ values.slice greatest none = values := by
  intro values least greatest
  have few : values.length < Text.int64Bound := by decide
  obtain ⟨window, one, parts⟩ := slice_is_window few
  obtain ⟨isSome, value⟩ := window least (some greatest) rfl rfl
  obtain ⟨isSome', value'⟩ := window greatest (some least) rfl rfl
  refine ⟨few, rfl, rfl, ?_, ?_, ?_, parts (greatest - 1) (by decide) (by decide)⟩
  · rw [isSome, value]
    decide +kernel
  · rw [isSome', value']
    decide +kernel
  · rw [one (-2) rfl]
    decide +kernel

end ListMarkup.ValueList
