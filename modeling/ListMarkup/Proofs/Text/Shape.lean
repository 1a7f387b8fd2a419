import ListMarkup.Text.Basic
import Mathlib.Data.List.Basic
import Mathlib.Data.List.Infix

/-!
# Shapes of runs

A shape says what a run of characters looks like (`Shape.Matches`).  A text may start with a shape
in several ways.  They come in an order of preference: a repetition rather takes more characters
than fewer, and the first of two alternatives goes before the other one, whichever is longer
(`Shape.runs`).  What is found is the most preferred run (`Shape.first?`).

Every run that matches is among the ways and nothing else is (`mem_runs_iff`), so something is
found whenever anything matches.  It need not be the longest run.  Where it is, that comes of the
particular shape.
-/

set_option autoImplicit false

namespace ListMarkup

/-- What a run of characters looks like. -/
inductive Shape where
  /-- The empty run. -/
  | nothing
  /-- One character of a class. -/
  | one (accepts : Char → Bool)
  /-- Any number of characters of a class, preferably many. -/
  | many (accepts : Char → Bool)
  | andThen (first second : Shape)
  /-- One of two shapes, preferably the first. -/
  | orElse (preferred other : Shape)

namespace Shape

/-- A run has a shape. -/
def Matches : Shape → Text → Prop
  | nothing, run => run = []
  | one accepts, run => ∃ c, accepts c = true ∧ run = [c]
  | many accepts, run => ∀ c ∈ run, accepts c = true
  | andThen first second, run =>
    ∃ before after, first.Matches before ∧ second.Matches after ∧ run = before ++ after
  | orElse preferred other, run => preferred.Matches run ∨ other.Matches run

/-- The runs of characters of a class that a text starts with, long ones first. -/
def repetitions (accepts : Char → Bool) : Text → List Text
  | [] => [[]]
  | c :: rest =>
    if accepts c then (repetitions accepts rest).map (c :: ·) ++ [[]] else [[]]

/-- The runs with the shape that a text starts with, preferred ones first. -/
def runs : Shape → Text → List Text
  | nothing, _ => [[]]
  | one _, [] => []
  | one accepts, c :: _ => if accepts c then [[c]] else []
  | many accepts, text => repetitions accepts text
  | andThen first second, text =>
    (first.runs text).flatMap fun run => (second.runs (text.drop run.length)).map (run ++ ·)
  | orElse preferred other, text => preferred.runs text ++ other.runs text

/-- The run that is found at the start of a text. -/
def first? (shape : Shape) (text : Text) : Option Text :=
  (shape.runs text).head?

/-- The shape or nothing, preferably the shape. -/
def optional (shape : Shape) : Shape :=
  .orElse shape .nothing

/-- At least one character of a class, preferably many. -/
def atLeastOne (accepts : Char → Bool) : Shape :=
  .andThen (.one accepts) (.many accepts)

/-- A run with the shape that a text starts with, such that no longer one does. -/
structure LongestStart (shape : Shape) (text run : Text) : Prop where
  starts : run <+: text
  fits : shape.Matches run
  longest : ∀ other, other <+: text → shape.Matches other → other.length ≤ run.length

-- The preferred run is not the longest one in general.
example :
    let shape := orElse (.one (· = 'a')) (andThen (.one (· = 'a')) (.one (· = 'b')))
    shape.runs "ab".toList = [['a'], ['a', 'b']] := by
  decide

/-! ## Runs that match -/

theorem matches_optional {shape : Shape} {run : Text} :
    (optional shape).Matches run ↔ run = [] ∨ shape.Matches run :=
  or_comm

theorem matches_atLeastOne {accepts : Char → Bool} {run : Text} :
    (atLeastOne accepts).Matches run ↔ run ≠ [] ∧ ∀ c ∈ run, accepts c = true := by
  simp only [atLeastOne, Matches]
  constructor
  · rintro ⟨_, after, ⟨c, accepted, rfl⟩, others, rfl⟩
    exact ⟨List.cons_ne_nil c after, List.forall_mem_cons.mpr ⟨accepted, others⟩⟩
  · rintro ⟨notEmpty, all⟩
    obtain ⟨c, after, rfl⟩ := List.exists_cons_of_ne_nil notEmpty
    obtain ⟨accepted, others⟩ := List.forall_mem_cons.mp all
    exact ⟨[c], after, ⟨c, accepted, rfl⟩, others, rfl⟩

theorem mem_repetitions_iff {accepts : Char → Bool} {text run : Text} :
    run ∈ repetitions accepts text ↔ run <+: text ∧ ∀ c ∈ run, accepts c = true := by
  induction text generalizing run with
  | nil => simp +contextual [repetitions]
  | cons c rest ih =>
      cases run with
      | nil =>
          rw [repetitions]
          split <;> simp
      | cons d run =>
          rw [repetitions]
          split
          · rename_i accepted
            simp only [List.mem_append, List.mem_map, ih]
            constructor
            · rintro (⟨_, ⟨starts, fits⟩, same⟩ | same)
              · obtain ⟨rfl, rfl⟩ := List.cons.inj same
                exact ⟨List.cons_prefix_cons.mpr ⟨rfl, starts⟩,
                  List.forall_mem_cons.mpr ⟨accepted, fits⟩⟩
              · simp at same
            · rintro ⟨starts, fits⟩
              obtain ⟨rfl, later⟩ := List.cons_prefix_cons.mp starts
              exact .inl ⟨run, ⟨later, (List.forall_mem_cons.mp fits).2⟩, rfl⟩
          · rename_i refused
            constructor
            · intro member
              simp at member
            · rintro ⟨starts, fits⟩
              obtain ⟨rfl, -⟩ := List.cons_prefix_cons.mp starts
              exact absurd (fits d List.mem_cons_self) refused

/-- The ways in which a text starts with a shape are the runs at its start that match. -/
theorem mem_runs_iff {shape : Shape} {text run : Text} :
    run ∈ shape.runs text ↔ run <+: text ∧ shape.Matches run := by
  induction shape generalizing text run with
  | nothing =>
      simp only [runs, Matches, List.mem_singleton]
      constructor
      · rintro rfl
        exact ⟨List.nil_prefix, rfl⟩
      · exact And.right
  | one accepts =>
      cases text with
      | nil => simp +contextual [runs, Matches]
      | cons c rest =>
          simp only [runs, Matches]
          constructor
          · intro member
            split at member
            · rename_i accepted
              obtain rfl := List.mem_singleton.mp member
              exact ⟨⟨rest, rfl⟩, c, accepted, rfl⟩
            · simp at member
          · rintro ⟨starts, d, accepted, rfl⟩
            obtain ⟨rfl, -⟩ := List.cons_prefix_cons.mp starts
            simp [accepted]
  | many accepts => exact mem_repetitions_iff
  | andThen first second ihFirst ihSecond =>
      simp only [runs, Matches, List.mem_flatMap, List.mem_map, ihFirst, ihSecond]
      constructor
      · rintro ⟨before, ⟨⟨rest, rfl⟩, fitsBefore⟩, after, ⟨starts, fitsAfter⟩, rfl⟩
        rw [List.drop_left] at starts
        exact ⟨(List.prefix_append_right_inj before).mpr starts, before, after, fitsBefore,
          fitsAfter, rfl⟩
      · rintro ⟨⟨rest, rfl⟩, before, after, fitsBefore, fitsAfter, rfl⟩
        refine ⟨before, ⟨⟨after ++ rest, by simp⟩, fitsBefore⟩, after, ⟨?_, fitsAfter⟩, rfl⟩
        rw [List.append_assoc, List.drop_left]
        exact List.prefix_append after rest
  | orElse preferred other ihPreferred ihOther =>
      simp only [runs, Matches, List.mem_append, ihPreferred, ihOther, and_or_left]

theorem mem_runs_of_first? {shape : Shape} {text run : Text}
    (found : shape.first? text = some run) : run ∈ shape.runs text :=
  List.mem_of_mem_head? found

/-- Two longest runs at the start of a text are the same. -/
theorem LongestStart.unique {shape : Shape} {text run other : Text}
    (longest : LongestStart shape text run) (otherLongest : LongestStart shape text other) :
    run = other := by
  have shorter := otherLongest.longest run longest.starts longest.fits
  have longer := longest.longest other otherLongest.starts otherLongest.fits
  have starts := List.prefix_of_prefix_length_le longest.starts otherLongest.starts shorter
  exact starts.eq_of_length (Nat.le_antisymm shorter longer)

/-! ## What is found -/

theorem first?_nothing (text : Text) : first? nothing text = some [] := rfl

theorem first?_many (accepts : Char → Bool) (text : Text) :
    first? (many accepts) text = some (text.takeWhile accepts) := by
  simp only [first?, runs]
  induction text with
  | nil => rfl
  | cons c rest ih =>
      rw [repetitions, List.takeWhile_cons]
      split
      · rw [List.head?_append, List.head?_map, ih]
        rfl
      · rfl

/-- What is found first, with what is found after it. -/
theorem first?_andThen {first second : Shape} {before rest after : Text}
    (foundBefore : first.first? (before ++ rest) = some before)
    (foundAfter : second.first? rest = some after) :
    first? (andThen first second) (before ++ rest) = some (before ++ after) := by
  simp only [first?, runs] at foundBefore foundAfter ⊢
  obtain ⟨others, runs⟩ := List.head?_eq_some_iff.mp foundBefore
  rw [runs, List.flatMap_cons, List.drop_left, List.head?_append, List.head?_map, foundAfter]
  rfl

theorem first?_andThen_of_none {first : Shape} (second : Shape) {text : Text}
    (absent : first.first? text = none) : first? (andThen first second) text = none := by
  simp only [first?, runs, List.head?_eq_none_iff] at absent ⊢
  rw [absent, List.flatMap_nil]

theorem first?_one_andThen (accepts : Char → Bool) (second : Shape) (c : Char) (rest : Text) :
    first? (andThen (one accepts) second) (c :: rest) =
      if accepts c then (second.first? rest).map (c :: ·) else none := by
  simp only [first?, runs]
  split
  · rw [List.flatMap_singleton, List.head?_map]
    rfl
  · rfl

theorem first?_orElse (preferred other : Shape) (text : Text) :
    first? (orElse preferred other) text = (preferred.first? text).or (other.first? text) :=
  List.head?_append

theorem first?_optional (shape : Shape) (text : Text) :
    first? (optional shape) text = some ((shape.first? text).getD []) := by
  rw [optional, first?_orElse, first?_nothing]
  cases shape.first? text <;> rfl

theorem first?_atLeastOne (accepts : Char → Bool) (text : Text) :
    first? (atLeastOne accepts) text =
      if text.takeWhile accepts = [] then none else some (text.takeWhile accepts) := by
  cases text with
  | nil => rfl
  | cons c rest =>
      rw [atLeastOne, first?_one_andThen, first?_many, List.takeWhile_cons]
      split
      · rw [if_neg (List.cons_ne_nil _ _)]
        rfl
      · rfl

end Shape

end ListMarkup
