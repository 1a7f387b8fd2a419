import ListMarkup.Proofs.ValueList.Membership
import ListMarkup.ValueList.Position

/-!
# Positions of items

A place in a list has two positions, one that counts from the start and one that counts back
from the end, and a position selects a place exactly when it is one of these two
(`place?_eq_some_iff`).  Searching for an item gives one of the positions of the place where it
is found, so the position leads back to the item.  The two positions differ by the length of
the list and one more, since no position is 0 (`ValueList.positionOf?_selects`).
-/

set_option autoImplicit false

namespace ListMarkup

theorem Text.fitsInt64_iff {number : Int} :
    fitsInt64 number = true ↔ -0x8000000000000000 ≤ number ∧ number < 0x8000000000000000 := by
  rw [fitsInt64, Bool.and_eq_true, decide_eq_true_iff, decide_eq_true_iff]
  exact Iff.rfl

theorem Text.int64?_of_fits {number : Int} (fits : fitsInt64 number = true) :
    int64? number = some number :=
  if_pos fits

theorem Text.int64?_eq_some_iff {number result : Int} :
    int64? number = some result ↔ number = result ∧ fitsInt64 number = true := by
  unfold int64?
  split <;> simp [*]

/-- The number of values fits as well, unless there are too many. -/
theorem Text.int64?_natCast {count : Nat} (few : count < int64Bound) :
    int64? count = some (count : Int) := by
  refine int64?_of_fits (fitsInt64_iff.mpr ?_)
  unfold int64Bound at few
  omega

/-- A position selects a place when it counts up to it from the start or back to it from the
end. -/
theorem place?_eq_some_iff {position : Int} {count place : Nat}
    (few : count < Text.int64Bound) :
    place? position count = some place ↔
      place < count ∧ (position = place + 1 ∨ position = place - count) := by
  rw [place?, Text.int64?_natCast few]
  unfold Text.int64Bound at few
  simp only [Option.bind_eq_bind, Option.bind_some, signedPlace?, Option.bind_eq_some_iff,
    Text.int64?_eq_some_iff, Text.fitsInt64_iff, Option.ite_none_left_eq_some,
    Option.ite_none_right_eq_some, Option.some.injEq]
  by_cases fromStart : 0 < position
  · simp only [if_pos fromStart]
    constructor
    · rintro ⟨_, _, ⟨rfl, _⟩, inside, rfl⟩
      omega
    · rintro ⟨inside, rfl | rfl⟩
      · exact ⟨by omega, _, ⟨rfl, by omega⟩, by omega⟩
      · omega
  · simp only [if_neg fromStart]
    constructor
    · rintro ⟨_, _, ⟨rfl, _⟩, inside, rfl⟩
      omega
    · rintro ⟨inside, rfl | rfl⟩
      · omega
      · exact ⟨by omega, _, ⟨rfl, by omega⟩, by omega⟩

namespace ValueList

variable (values : ValueList)

/-- A position that selects a place selects the value there. -/
theorem get?_of_place {position : Int} {place : Fin values.length}
    (selected : place? position values.length = some place.val) :
    values.get? position = some (values.get place) := by
  rw [get?, selected, Option.bind_some, List.getElem?_eq_getElem place.isLt]
  rfl

/-! ## Searching -/

variable (item : Text) (options : SearchOptions)

/-- The item is at a place, and it is not at any place that the search comes to before. -/
structure FoundAt (place : Fin values.length) : Prop where
  isItem : Text.fold options.caseSensitive (values.get place) =
    Text.fold options.caseSensitive item
  first : options.backwards = false → ∀ earlier < place,
    Text.fold options.caseSensitive (values.get earlier) ≠ Text.fold options.caseSensitive item
  last : options.backwards = true → ∀ later > place,
    Text.fold options.caseSensitive (values.get later) ≠ Text.fold options.caseSensitive item

variable {values item options}

/-- The place that a search gives is where the item is found. -/
theorem foundAt_of_placeOf? {place : Nat} (found : values.placeOf? item options = some place) :
    ∃ inside : place < values.length, FoundAt values item options ⟨place, inside⟩ := by
  rw [placeOf?] at found
  split at found
  case isTrue backwards =>
    -- The place counted from the end is where the reversed list is searched.
    obtain ⟨back, fromEnd, rfl⟩ := Option.map_eq_some_iff.mp found
    obtain ⟨inside, isItem, passed⟩ := List.findIdx?_eq_some_iff_getElem.mp fromEnd
    simp only [List.length_reverse, List.getElem_reverse, Text.isItem,
      beq_iff_eq] at inside isItem passed
    have last : ∀ later : Fin values.length, values.length - 1 - back < later →
        Text.fold options.caseSensitive (values.get later) ≠
          Text.fold options.caseSensitive item := by
      intro later behind
      have isLater := later.isLt
      have turned : values.length - 1 - (values.length - 1 - later) = later := by omega
      have other := passed (values.length - 1 - later) (by omega)
      simp only [turned] at other
      exact other
    have notForwards : ¬ options.backwards = false := by rw [backwards]; decide
    exact ⟨by omega, isItem, fun forwards => absurd forwards notForwards, fun _ => last⟩
  case isFalse forwards =>
    obtain ⟨inside, isItem, passed⟩ := List.findIdx?_eq_some_iff_getElem.mp found
    simp only [Text.isItem, beq_iff_eq] at isItem passed
    exact ⟨inside, isItem, fun _ earlier ahead => passed earlier ahead,
      fun backwards => absurd backwards forwards⟩

/-- Searching from the start gives the place of the value that is found first. -/
theorem find?_of_foundAt {place : Fin values.length} (found : FoundAt values item options place)
    (forwards : options.backwards = false) :
    values.find? item options.caseSensitive = some (values.get place) := by
  rw [find?, List.find?_eq_some_iff_getElem]
  refine ⟨by simpa [Text.isItem] using found.isItem, place, place.isLt, rfl, ?_⟩
  intro earlier ahead
  simpa [Text.isItem] using found.first forwards ⟨earlier, ahead.trans place.isLt⟩ ahead

theorem positionOf?_eq_none_iff :
    values.positionOf? item options = none ↔
      ∀ value ∈ values,
        Text.fold options.caseSensitive value ≠ Text.fold options.caseSensitive item := by
  rw [← Option.not_isSome_iff_eq_none, isSome_positionOf?, includes_iff]
  simp only [not_exists, not_and, ne_eq]

theorem positionOf?_eq_some_iff {position : Int} :
    values.positionOf? item options = some position ↔
      ∃ place : Nat, values.placeOf? item options = some place ∧
        position = if options.fromEnd then (place : Int) - values.length else place + 1 := by
  rw [positionOf?]
  cases values.placeOf? item options with
  | none => exact ⟨nofun, fun ⟨_, found, _⟩ => nomatch found⟩
  | some place =>
      constructor
      · intro given
        exact ⟨place, rfl, (Option.some.inj given).symm⟩
      · rintro ⟨_, found, rfl⟩
        cases found
        rfl

/-- The position of a place where an item is found selects that place. -/
theorem place?_of_positionOf? (few : values.length < Text.int64Bound) {position : Int}
    (given : values.positionOf? item options = some position) :
    ∃ place : Fin values.length, FoundAt values item options place ∧
      position = (if options.fromEnd then (place : Int) - values.length else place + 1) ∧
      place? position values.length = some place.val := by
  obtain ⟨place, found, isPosition⟩ := positionOf?_eq_some_iff.mp given
  obtain ⟨inside, foundAt⟩ := foundAt_of_placeOf? found
  refine ⟨⟨place, inside⟩, foundAt, isPosition, (place?_eq_some_iff few).mpr ⟨inside, ?_⟩⟩
  rw [isPosition]
  split
  · exact Or.inr rfl
  · exact Or.inl rfl

/-- **The position of an item leads back to it.**  An item has no position exactly when no value
matches it.  Otherwise its position is an integer of 64 bits, negative when it counts back from
the end and positive when it does not, and selects a value that matches, such that none does
before it, or after it when the search starts at the end.  From the start, that is the value
which is found.  The position from the start and the one from the end select the same place and
differ by the number of values and one more. -/
theorem positionOf?_selects {values : ValueList} (few : values.length < Text.int64Bound)
    (item : Text) (options : SearchOptions) :
    (values.positionOf? item options = none ↔
      ∀ value ∈ values,
        Text.fold options.caseSensitive value ≠ Text.fold options.caseSensitive item) ∧
    (∀ position, values.positionOf? item options = some position →
      Text.fitsInt64 position = true ∧
      (if options.fromEnd then position < 0 else 0 < position) ∧
      (∃ place : Fin values.length, FoundAt values item options place ∧
        place? position values.length = some place.val ∧
        values.get? position = some (values.get place)) ∧
      (options.backwards = false →
        values.get? position = values.find? item options.caseSensitive)) ∧
    ∀ fromStart fromEnd,
      values.positionOf? item { options with fromEnd := false } = some fromStart →
      values.positionOf? item { options with fromEnd := true } = some fromEnd →
      fromStart - fromEnd = values.length + 1 ∧
        place? fromStart values.length = place? fromEnd values.length := by
  refine ⟨positionOf?_eq_none_iff, ?one, ?both⟩
  case one =>
    intro position given
    obtain ⟨place, found, value, selected⟩ := place?_of_positionOf? few given
    have inside := place.isLt
    have got := get?_of_place values selected
    refine ⟨?fits, ?sign, ⟨place, found, selected, got⟩, ?same⟩
    case fits =>
      unfold Text.int64Bound at few
      rw [Text.fitsInt64_iff, value]
      split <;> omega
    case sign =>
      rw [value]
      split <;> omega
    case same =>
      intro forwards
      rw [got, find?_of_foundAt found forwards]
  case both =>
    intro fromStart fromEnd givenFromStart givenFromEnd
    obtain ⟨place, found, rfl⟩ := positionOf?_eq_some_iff.mp givenFromStart
    obtain ⟨place', found', rfl⟩ := positionOf?_eq_some_iff.mp givenFromEnd
    -- How the position is counted does not matter for where the item is found.
    have same : place = place' := Option.some.inj (found.symm.trans found')
    obtain ⟨inside, -⟩ := foundAt_of_placeOf? found
    subst same
    simp only [if_true, Bool.false_eq_true, if_false]
    rw [(place?_eq_some_iff few).mpr ⟨inside, Or.inl rfl⟩,
      (place?_eq_some_iff few).mpr ⟨inside, Or.inr rfl⟩]
    exact ⟨by omega, rfl⟩

/-- The last `b` of a list, in capitals, found from the end and counted from either side. -/
theorem positionOf?_selects_last :
    let values : ValueList := ["b".toList, "a".toList, "B".toList, "c".toList]
    values.length < Text.int64Bound ∧
      values.positionOf? "b".toList { backwards := true } = some 3 ∧
      values.positionOf? "b".toList { backwards := true, fromEnd := true } = some (-2) ∧
      place? 3 values.length = place? (-2) values.length ∧
      ∃ place : Fin values.length, FoundAt values "b".toList { backwards := true } place ∧
        place? 3 values.length = some place.val ∧ values.get? 3 = some (values.get place) := by
  intro values
  have few : values.length < Text.int64Bound := by decide
  have fromStart : values.positionOf? "b".toList { backwards := true } = some 3 := by
    decide +kernel
  have fromEnd : values.positionOf? "b".toList { backwards := true, fromEnd := true } =
      some (-2) := by
    decide +kernel
  obtain ⟨-, one, both⟩ := positionOf?_selects few "b".toList { backwards := true }
  exact ⟨few, fromStart, fromEnd, (both 3 (-2) fromStart fromEnd).2,
    (one 3 fromStart).2.2.1⟩

end ValueList

end ListMarkup
