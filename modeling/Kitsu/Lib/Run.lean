import Mathlib.Algebra.Group.Nat.Defs
import Mathlib.Data.List.Induction
import Mathlib.Tactic.Common

/-!
# Runs of a step function

A component is a step function on its state; every choice of its environment
is part of the input.  `exec` folds the step function over the inputs received
so far, so the state before the last input of a history is `exec` of the rest.
The induction rules build a history from its end, which is how an invariant
that mentions the past is proved.
-/

namespace Kitsu.Lib.Run

variable {σ ι : Type} (step : σ → ι → σ) (start : σ)

/-- The state after a history of inputs. -/
def exec (history : List ι) : σ :=
  history.foldl step start

@[simp]
theorem exec_nil : exec step start [] = start :=
  rfl

theorem exec_cons (input : ι) (later : List ι) :
    exec step start (input :: later) = exec step (step start input) later :=
  rfl

@[simp]
theorem exec_concat (history : List ι) (input : ι) :
    exec step start (history ++ [input]) =
      step (exec step start history) input := by
  simp [exec]

theorem exec_append (history later : List ι) :
    exec step start (history ++ later) =
      exec step (exec step start history) later := by
  simp [exec]

/-- Every input of a history is allowed in the state it meets. -/
def Throughout (Allowed : σ → ι → Prop) (history : List ι) : Prop :=
  ∀ earlier input later, history = earlier ++ input :: later →
    Allowed (exec step start earlier) input

variable {step start}

section Throughout

variable {Allowed : σ → ι → Prop} {history later : List ι} {input : ι}

theorem Throughout.earlier
    (allowed : Throughout step start Allowed (history ++ later)) :
    Throughout step start Allowed history := by
  intro first input rest equal
  refine allowed first input (rest ++ later) ?_
  simp [equal]

theorem Throughout.last
    (allowed : Throughout step start Allowed (history ++ [input])) :
    Allowed (exec step start history) input :=
  allowed history input [] rfl

theorem Throughout.nil : Throughout step start Allowed [] := by
  intro earlier input later equal
  simp at equal

theorem Throughout.concat (allowed : Throughout step start Allowed history)
    (last : Allowed (exec step start history) input) :
    Throughout step start Allowed (history ++ [input]) := by
  intro earlier other later equal
  rcases List.eq_nil_or_concat later with rfl | ⟨rest, final, rfl⟩
  · rcases List.append_inj' equal rfl with ⟨rfl, same⟩
    cases same
    exact last
  · rw [List.concat_eq_append, ← List.cons_append,
      ← List.append_assoc] at equal
    rcases List.append_inj' equal rfl with ⟨rfl, _⟩
    exact allowed earlier other rest rfl

/-- A history is allowed from its front when its first input is. -/
theorem Throughout.cons (first : Allowed start input)
    (rest : Throughout step (step start input) Allowed later) :
    Throughout step start Allowed (input :: later) := by
  intro earlier other after equal
  cases earlier with
  | nil =>
    cases equal
    exact first
  | cons head tail =>
    cases equal
    exact rest tail other after rfl

theorem throughout_cons :
    Throughout step start Allowed (input :: later) ↔
      Allowed start input ∧
        Throughout step (step start input) Allowed later := by
  constructor
  · intro allowed
    refine ⟨allowed [] input later rfl, ?_⟩
    intro earlier other after equal
    refine allowed (input :: earlier) other after ?_
    rw [equal, List.cons_append]
  · rintro ⟨first, rest⟩
    exact Throughout.cons first rest

/-- A property that every allowed input preserves holds after such a run. -/
theorem exec_throughout {Holds : σ → Prop} (initially : Holds start)
    (preserved : ∀ state input, Holds state → Allowed state input →
      Holds (step state input)) (allowed : Throughout step start Allowed history) :
    Holds (exec step start history) := by
  induction history using List.reverseRecOn with
  | nil => exact initially
  | append_singleton history input induction =>
    rw [exec_concat]
    exact preserved _ input (induction allowed.earlier) allowed.last

end Throughout

/--
A property of history and state that holds initially and is preserved by every
input holds after every history.
-/
theorem exec_induction {Holds : List ι → σ → Prop} (initially : Holds [] start)
    (preserved : ∀ history input, Holds history (exec step start history) →
        Holds (history ++ [input]) (step (exec step start history) input))
    (history : List ι) : Holds history (exec step start history) := by
  induction history using List.reverseRecOn with
  | nil => exact initially
  | append_singleton history input induction =>
    rw [exec_concat]
    exact preserved history input induction

/-- A state invariant that every step preserves holds in every run. -/
theorem exec_invariant {Holds : σ → Prop} (initially : Holds start)
    (preserved : ∀ state input, Holds state → Holds (step state input))
    (history : List ι) : Holds (exec step start history) := by
  induction history using List.reverseRecOn with
  | nil => exact initially
  | append_singleton history input induction =>
    rw [exec_concat]
    exact preserved _ input induction

end Kitsu.Lib.Run
