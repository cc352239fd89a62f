import Kitsu.Lib.Run

/-!
# Marks that alternate

A component that reports the beginnings and ends of something reports them in
turn when each of its steps does, from what it was in before the step.  A mark is
`true` for a beginning.
-/

namespace Kitsu.Lib.Alternation

open Kitsu.Lib.Run

/-- The marks come in turn, from this one on. -/
def Alternates (expected : Bool) : List Bool → Prop
  | [] => True
  | mark :: later => mark = expected ∧ Alternates (!expected) later

/-- The mark that comes next. -/
def following (expected : Bool) (marks : List Bool) : Bool :=
  marks.foldl (fun _ mark => !mark) expected

theorem alternates_append (expected : Bool) (marks later : List Bool) :
    Alternates expected (marks ++ later) ↔
      Alternates expected marks ∧
        Alternates (following expected marks) later := by
  induction marks generalizing expected with
  | nil => exact ⟨fun alternate => ⟨trivial, alternate⟩, fun both => both.2⟩
  | cons mark marks induction =>
    constructor
    · rintro ⟨rfl, rest⟩
      rcases (induction _).mp rest with ⟨first, second⟩
      exact ⟨⟨rfl, first⟩, second⟩
    · rintro ⟨⟨rfl, first⟩, second⟩
      exact ⟨rfl, (induction _).mpr ⟨first, second⟩⟩

theorem following_append (expected : Bool) (marks later : List Bool) :
    following expected (marks ++ later) =
      following (following expected marks) later :=
  List.foldl_append

/-- After a mark, its opposite comes next. -/
theorem following_eq (expected : Bool) (marks : List Bool) :
    following expected marks =
      match marks.getLast? with
      | none => expected
      | some mark => !mark := by
  induction marks using List.reverseRecOn with
  | nil => rfl
  | append_singleton marks mark _ =>
    rw [following_append, List.getLast?_concat]
    rfl

/-- The marks move in turn between being inactive and active. -/
structure InTurn (before after : Bool) (emitted : List Bool) : Prop where
  alternates : Alternates (!before) emitted
  following : following (!before) emitted = !after

theorem InTurn.same (active : Bool) : InTurn active active [] :=
  ⟨trivial, rfl⟩

theorem InTurn.begins : InTurn false true [true] :=
  ⟨⟨rfl, trivial⟩, rfl⟩

theorem InTurn.ends : InTurn true false [false] :=
  ⟨⟨rfl, trivial⟩, rfl⟩

theorem InTurn.append {before between after : Bool}
    {emitted later : List Bool} (first : InTurn before between emitted)
    (second : InTurn between after later) :
    InTurn before after (emitted ++ later) := by
  constructor
  · rw [alternates_append, first.following]
    exact ⟨first.alternates, second.alternates⟩
  · rw [following_append, first.following]
    exact second.following

/-- A report that can only end ends with its mark. -/
theorem InTurn.ending {before after : Bool}
    (falls : after = true → before = true) :
    InTurn before after (if before && !after then [false] else []) := by
  cases before with
  | false =>
    cases after with
    | false => exact .same false
    | true => cases falls rfl
  | true =>
    cases after with
    | false => exact .ends
    | true => exact .same true

/-- A report that can only begin begins with its mark. -/
theorem InTurn.beginning {before after : Bool}
    (rises : before = true → after = true) :
    InTurn before after (if !before && after then [true] else []) := by
  cases before with
  | false =>
    cases after with
    | false => exact .same false
    | true => exact .begins
  | true =>
    rw [rises rfl]
    exact .same true

/-- What began inactive is active exactly after a beginning. -/
theorem InTurn.active_iff {after : Bool} {emitted : List Bool}
    (inTurn : InTurn false after emitted) :
    after = true ↔ emitted.getLast? = some true := by
  have next := inTurn.following
  rw [following_eq] at next
  cases last : emitted.getLast? with
  | none =>
    rw [last] at next
    cases after with
    | false => simp
    | true => cases next
  | some mark =>
    rw [last] at next
    cases after with
    | false => simpa using next
    | true => simpa using next

section Run

variable {σ ι : Type} (step : σ → ι → σ) (emit : σ → ι → List Bool)

/-- The marks of a run. -/
def marks (state : σ) : List ι → List Bool
  | [] => []
  | input :: later => emit state input ++ marks (step state input) later

variable {step emit}

/-- Steps in turn make a run in turn. -/
theorem inTurn_run {Holds : σ → Prop} {active : σ → Bool}
    (preserved : ∀ state input, Holds state → Holds (step state input))
    (each : ∀ state input, Holds state →
      InTurn (active state) (active (step state input)) (emit state input))
    {state : σ} (holds : Holds state) (history : List ι) :
    InTurn (active state) (active (exec step state history))
      (marks step emit state history) := by
  induction history generalizing state with
  | nil => exact .same _
  | cons input later induction =>
    exact (each state input holds).append
      (induction (preserved state input holds))

end Run

end Kitsu.Lib.Alternation
