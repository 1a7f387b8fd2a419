import ListMarkup.Text.Case
import ListMarkup.Unicode.WhiteSpace
import Mathlib.Data.List.Basic

/-!
# Upper case stays upper case

The upper case of a character may be several characters.  The first of them does not change when
it is put into upper case again, and none of them is white space or an underscore unless it is
the character itself (`upperChar_eq_cons`).

This is a property of the tables, and it is seen run by run.  The code points at which a run
arrives make a run themselves (`CaseRun.arrival`).  It misses every code point that changes,
because the two lie apart or have different parity (`CaseRun.misses`).
-/

set_option autoImplicit false

namespace ListMarkup.Unicode

namespace CaseRun

/-- A run of one code point. -/
def ofPoint (point : Nat) : CaseRun := ⟨point, point, 1, 0⟩

/-- The code points at which a run arrives. -/
def arrival (run : CaseRun) : CaseRun :=
  let first := (run.first + run.shift).toNat
  ⟨first, first + (run.last - run.first), run.stride, 0⟩

/-- Whether all code points of a run have the parity of the first. -/
def alternates (run : CaseRun) : Bool :=
  run.stride == 2 || run.first == run.last

/-- Whether two runs are seen to have no code point in common. -/
def misses (run other : CaseRun) : Bool :=
  Nat.blt run.last other.first || Nat.blt other.last run.first ||
    (run.alternates && other.alternates && (run.first + other.first) % 2 == 1)

theorem covers_iff {run : CaseRun} {point : Nat} :
    run.covers point = true ↔
      run.first ≤ point ∧ point ≤ run.last ∧ (point - run.first) % run.stride = 0 := by
  simp [covers, and_assoc]

theorem covers_ofPoint (point : Nat) : (ofPoint point).covers point = true := by
  simp [covers_iff, ofPoint]

theorem parity_of_covers {run : CaseRun} (alternates : run.alternates = true) {point : Nat}
    (covered : run.covers point = true) : point % 2 = run.first % 2 := by
  obtain ⟨above, below, step⟩ := covers_iff.mp covered
  simp only [CaseRun.alternates, Bool.or_eq_true, beq_iff_eq] at alternates
  rcases alternates with two | one
  · rw [two] at step
    omega
  · omega

/-- A code point of a run is not on a run that it misses. -/
theorem covers_of_misses {run other : CaseRun} (misses : run.misses other = true) {point : Nat}
    (covered : run.covers point = true) : other.covers point = false := by
  rw [Bool.eq_false_iff]
  intro both
  obtain ⟨above, below, -⟩ := covers_iff.mp covered
  obtain ⟨aboveOther, belowOther, -⟩ := covers_iff.mp both
  simp only [CaseRun.misses, Bool.or_eq_true, Bool.and_eq_true, Nat.blt_eq, beq_iff_eq] at misses
  rcases misses with (before | after) | ⟨⟨alternates, alternatesOther⟩, odd⟩
  · omega
  · omega
  · have parity := parity_of_covers alternates covered
    have parityOther := parity_of_covers alternatesOther both
    omega

/-- A covered code point arrives on the run of arrivals. -/
theorem covers_arrival {run : CaseRun} (natural : 0 ≤ run.first + run.shift) {point : Nat}
    (covered : run.covers point = true) :
    run.arrival.covers (point + run.shift).toNat = true := by
  obtain ⟨above, below, step⟩ := covers_iff.mp covered
  have same : (point + run.shift).toNat - (run.first + run.shift).toNat = point - run.first := by
    omega
  rw [covers_iff, arrival]
  dsimp only
  rw [same]
  exact ⟨by omega, by omega, step⟩

end CaseRun

/-! ## Characters that stay -/

/-- The code points that change in upper case, those of white space, and the underscore. -/
def unsettledRuns : List CaseRun :=
  upperRuns ++
    (upperExpansions.map (fun entry => .ofPoint entry.1) ++
      (whiteSpaceRanges.map (fun range => ⟨range.1, range.2, 1, 0⟩) ++ [.ofPoint 0x5F]))

/-- A character that stays as it is in upper case, and is neither white space nor an
underscore. -/
def Settled (c : Char) : Prop :=
  (unsettledRuns.all fun run => !run.covers c.toNat) = true

instance : DecidablePred Settled :=
  fun _ => inferInstanceAs (Decidable (_ = true))

namespace Settled

theorem of_covers {c : Char} {run : CaseRun} (covered : run.covers c.toNat = true)
    (misses : unsettledRuns.all run.misses = true) : Settled c :=
  List.all_eq_true.mpr fun other member => by
    rw [CaseRun.covers_of_misses (List.all_eq_true.mp misses other member) covered]
    rfl

/-- Where there is no character for a code point, the null character stands for it. -/
theorem ofNat {point : Nat} {run : CaseRun} (covered : run.covers point = true)
    (misses : unsettledRuns.all run.misses = true) : Settled (Char.ofNat point) := by
  by_cases valid : point.isValidChar
  · have same : (Char.ofNat point).toNat = point := by
      rw [Char.ofNat, dif_pos valid]
      rfl
    exact of_covers (same.symm ▸ covered) misses
  · rw [Char.ofNat, dif_neg valid]
    decide +kernel

variable {c : Char} (settled : Settled c)

include settled

theorem covers_eq_false {run : CaseRun} (member : run ∈ unsettledRuns) :
    run.covers c.toNat = false := by
  have missed := List.all_eq_true.mp settled run member
  rwa [Bool.not_eq_true'] at missed

theorem upperChar_eq : upperChar c = [c] := by
  unfold upperChar
  split
  · -- Only the small letters of ASCII change, and they are the first run.
    have letters : (⟨0x61, 0x7A, 1, -32⟩ : CaseRun).covers c.toNat = false :=
      settled.covers_eq_false (List.mem_append_left _ List.mem_cons_self)
    have outside : ¬ ('a'.val ≤ c.val ∧ c.val ≤ 'z'.val) := by
      rintro ⟨above, below⟩
      refine Bool.eq_false_iff.mp letters (CaseRun.covers_iff.mpr ⟨above, below, ?_⟩)
      exact Nat.mod_one _
    exact congrArg (fun d => [d]) (dif_neg outside)
  · have expansions : upperExpansions.lookup c.toNat = none := by
      refine List.lookup_eq_none_iff.mpr fun entry member => ?_
      have missed := settled.covers_eq_false (List.mem_append_right _
        (List.mem_append_left _ (List.mem_map_of_mem member)))
      rw [bne_iff_ne]
      intro same
      rw [same, CaseRun.covers_ofPoint] at missed
      exact Bool.noConfusion missed
    have runs : upperRuns.find? (·.covers c.toNat) = none :=
      List.find?_eq_none.mpr fun run member =>
        Bool.eq_false_iff.mp (settled.covers_eq_false (List.mem_append_left _ member))
    rw [expansions, runs]

theorem isWhiteSpace_eq : isWhiteSpace c = false := by
  rw [isWhiteSpace, withinRanges, List.any_eq_false]
  intro range member inside
  have missed := settled.covers_eq_false (List.mem_append_right _ (List.mem_append_right _
    (List.mem_append_left _ (List.mem_map_of_mem member))))
  simp only [Bool.and_eq_true, decide_eq_true_eq] at inside
  exact Bool.eq_false_iff.mp missed
    (CaseRun.covers_iff.mpr ⟨inside.1, inside.2, Nat.mod_one _⟩)

theorem ne_underscore : c ≠ '_' := by
  rintro rfl
  have missed := settled.covers_eq_false (List.mem_append_right _ (List.mem_append_right _
    (List.mem_append_right _ List.mem_cons_self)))
  exact absurd missed (by decide)

end Settled

/-! ## The tables -/

/-- A character of ASCII stays in upper case or becomes one that stays. -/
theorem settled_toUpper {c : Char} (ascii : c.toNat < 128) : c.toUpper = c ∨ Settled c.toUpper := by
  have checked : ((List.range 128).all fun point =>
      (Char.ofNat point).toUpper = Char.ofNat point ∨ Settled (Char.ofNat point).toUpper) =
        true := by
    decide +kernel
  have here := List.all_eq_true.mp checked c.toNat (List.mem_range.mpr ascii)
  rwa [decide_eq_true_eq, Char.ofNat_toNat] at here

/-- A character that becomes another one becomes one that stays. -/
theorem settled_move {run : CaseRun} (member : run ∈ upperRuns) {point : Nat}
    (covered : run.covers point = true) : Settled (run.move point) := by
  have checked : (upperRuns.all fun run =>
      0 ≤ run.first + run.shift && unsettledRuns.all run.arrival.misses) = true := by
    decide +kernel
  obtain ⟨natural, misses⟩ := (Bool.and_eq_true _ _).mp (List.all_eq_true.mp checked run member)
  exact .ofNat (CaseRun.covers_arrival (of_decide_eq_true natural) covered) misses

/-- A character that becomes several begins with one that stays. -/
theorem settled_expansion {point : Nat} {points : List Nat}
    (member : (point, points) ∈ upperExpansions) :
    ∃ first more, points.map Char.ofNat = first :: more ∧ Settled first ∧
      ∀ d ∈ more, isWhiteSpace d = false ∧ d ≠ '_' := by
  have checked : (upperExpansions.all fun entry =>
      match entry.2 with
      | [] => false
      | first :: more =>
        unsettledRuns.all (CaseRun.ofPoint first).misses &&
          more.all fun point => !isWhiteSpace (Char.ofNat point) && Char.ofNat point != '_') =
        true := by
    decide +kernel
  have here := List.all_eq_true.mp checked (point, points) member
  cases points with
  | nil => exact Bool.noConfusion here
  | cons first more =>
      obtain ⟨misses, others⟩ := (Bool.and_eq_true _ _).mp here
      refine ⟨_, _, rfl, .ofNat (CaseRun.covers_ofPoint first) misses, fun d isOther => ?_⟩
      obtain ⟨other, isPoint, rfl⟩ := List.mem_map.mp isOther
      simpa using List.all_eq_true.mp others other isPoint

theorem upperChar_cases (c : Char) :
    upperChar c = [c] ∨ ∃ first more, upperChar c = first :: more ∧ Settled first ∧
      ∀ d ∈ more, isWhiteSpace d = false ∧ d ≠ '_' := by
  have none : ∀ d ∈ ([] : List Char), isWhiteSpace d = false ∧ d ≠ '_' :=
    fun _ member => absurd member List.not_mem_nil
  unfold upperChar
  split
  · rename_i ascii
    rcases settled_toUpper ascii with same | settled
    · exact .inl (congrArg (fun d => [d]) same)
    · exact .inr ⟨_, [], rfl, settled, none⟩
  · split
    · rename_i points expansion
      obtain ⟨before, after, whole, -⟩ := List.lookup_eq_some_iff.mp expansion
      exact .inr (settled_expansion (whole ▸ List.mem_append_right _ List.mem_cons_self))
    · split
      · rename_i run found
        have covered := List.find?_some found
        exact .inr ⟨_, [], rfl, settled_move (List.mem_of_find?_eq_some found) covered, none⟩
      · exact .inl rfl

/-- **Upper case stays upper case.**  The upper case of a character begins with a character that
stays as it is in upper case, and holds neither white space nor an underscore but for the
character itself. -/
theorem upperChar_eq_cons (c : Char) :
    ∃ first more, upperChar c = first :: more ∧ upperChar first = [first] ∧
      ∀ d ∈ first :: more, d = c ∨ isWhiteSpace d = false ∧ d ≠ '_' := by
  rcases upperChar_cases c with same | ⟨first, more, upper, settled, others⟩
  · exact ⟨c, [], same, same, List.forall_mem_singleton.mpr (.inl rfl)⟩
  · exact ⟨first, more, upper, settled.upperChar_eq, List.forall_mem_cons.mpr
      ⟨.inr ⟨settled.isWhiteSpace_eq, settled.ne_underscore⟩,
        fun d member => .inr (others d member)⟩⟩

end ListMarkup.Unicode
