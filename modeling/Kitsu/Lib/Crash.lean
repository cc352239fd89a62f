import Mathlib.Data.List.Basic
import Mathlib.Tactic.Common

/-!
# Programs that a power cut can stop

A program transforms a state and either returns a value or is cut, leaving the
state as the interrupted device call left it.  `wp` is the weakest precondition
with two exits: the postcondition of a completed run and the crash condition
that must hold wherever the run can be cut.  The lemmas below compute it for
the monadic combinators, so that a specification of a large program follows
from the specifications of the device calls it makes.
-/

namespace Kitsu.Lib.Crash

/-- How a run ends. -/
inductive Outcome (σ α : Type) where
  | done (value : α) (state : σ)
  | cut (state : σ)

/-- The value of a run that completed. -/
def Outcome.result? {σ α : Type} : Outcome σ α → Option α
  | .done value _ => some value
  | .cut _ => none

theorem Outcome.eq_done {σ α : Type} {outcome : Outcome σ α} {value : α}
    (returned : outcome.result? = some value) :
    ∃ after, outcome = .done value after := by
  cases outcome with
  | done found after =>
    cases returned
    exact ⟨after, rfl⟩
  | cut after => cases returned

theorem Outcome.eq_cut {σ α : Type} {outcome : Outcome σ α}
    (stopped : outcome.result? = none) : ∃ after, outcome = .cut after := by
  cases outcome with
  | done found after => cases stopped
  | cut after => exact ⟨after, rfl⟩

/-- A program over the state `σ`. -/
def Prog (σ α : Type) := σ → Outcome σ α

variable {σ α β : Type}

namespace Prog

/-- Continue with the value of a completed run. -/
def andThen (program : Prog σ α) (next : α → Prog σ β) : Prog σ β :=
  fun state =>
    match program state with
    | .done value after => next value after
    | .cut after => .cut after

instance : Monad (Prog σ) where
  pure value := fun state => .done value state
  bind := andThen

/-- Read the state. -/
def get : Prog σ σ :=
  fun state => .done state state

/-- Update the state. -/
def modify (update : σ → σ) : Prog σ Unit :=
  fun state => .done () (update state)

@[simp]
theorem pure_apply (value : α) (state : σ) :
    (pure value : Prog σ α) state = .done value state :=
  rfl

@[simp]
theorem bind_apply (program : Prog σ α) (next : α → Prog σ β) (state : σ) :
    (program >>= next) state =
      match program state with
      | .done value after => next value after
      | .cut after => .cut after :=
  rfl

@[simp]
theorem get_apply (state : σ) : (get : Prog σ σ) state = .done state state :=
  rfl

@[simp]
theorem modify_apply (update : σ → σ) (state : σ) :
    modify update state = .done () (update state) :=
  rfl

end Prog

/-- The weakest precondition for a postcondition and a crash condition. -/
def wp (program : Prog σ α) (post : α → σ → Prop) (crash : σ → Prop)
    (state : σ) : Prop :=
  match program state with
  | .done value after => post value after
  | .cut after => crash after

variable {program : Prog σ α}

section Rules

variable {post : α → σ → Prop} {crash : σ → Prop} {state : σ}

@[simp]
theorem wp_pure (value : α) :
    wp (pure value : Prog σ α) post crash state ↔ post value state :=
  Iff.rfl

@[simp]
theorem wp_bind (program : Prog σ α) (next : α → Prog σ β) {goal : β → σ → Prop} :
    wp (program >>= next) goal crash state ↔
      wp program (fun value after => wp (next value) goal crash after)
        crash state := by
  simp only [wp, bind, Prog.andThen]
  cases program state <;> rfl

@[simp]
theorem wp_get {goal : σ → σ → Prop} :
    wp (Prog.get : Prog σ σ) goal crash state ↔ goal state state :=
  Iff.rfl

@[simp]
theorem wp_modify (update : σ → σ) {goal : Unit → σ → Prop} :
    wp (Prog.modify update) goal crash state ↔ goal () (update state) :=
  Iff.rfl

theorem wp_ite (condition : Prop) [Decidable condition] (yes no : Prog σ α) :
    wp (if condition then yes else no) post crash state ↔
      (condition → wp yes post crash state) ∧
        (¬condition → wp no post crash state) := by
  by_cases holds : condition <;> simp [holds]

/-- Weaken both exits of a specification. -/
theorem wp_mono {strong : α → σ → Prop} {strongCrash : σ → Prop}
    (proved : wp program strong strongCrash state)
    (onDone : ∀ value after, strong value after → post value after)
    (onCut : ∀ after, strongCrash after → crash after) :
    wp program post crash state := by
  unfold wp at proved ⊢
  split at proved
  · exact onDone _ _ proved
  · exact onCut _ proved

/-- Weaken the postcondition of a specification. -/
theorem wp_post {strong : α → σ → Prop} (proved : wp program strong crash state)
    (onDone : ∀ value after, strong value after → post value after) :
    wp program post crash state :=
  wp_mono proved onDone fun _ stopped => stopped

/-- A specification applied to a run that completed. -/
theorem wp_done {value : α} {after : σ} (proved : wp program post crash state)
    (completed : program state = .done value after) : post value after := by
  simpa [wp, completed] using proved

end Rules

/-! ## Writes -/

/--
What becomes of a write: it succeeds, or it fails or is cut and may or may not
have taken effect.
-/
inductive PutOutcome where
  | written
  | failed (taken : Bool)
  | cut (taken : Bool)
deriving DecidableEq, Repr

/-- A write that reports whether it succeeded. -/
def Prog.put (update : σ → σ) (outcome : PutOutcome) : Prog σ Bool :=
  fun state =>
    match outcome with
    | .written => .done true (update state)
    | .failed taken => .done false (if taken then update state else state)
    | .cut taken => .cut (if taken then update state else state)

/-- The results of a write. -/
inductive Put (update : σ → σ) (state : σ) : Outcome σ Bool → Prop where
  | written : Put update state (.done true (update state))
  | failed : Put update state (.done false state)
  | failedTaken : Put update state (.done false (update state))
  | cut : Put update state (.cut state)
  | cutTaken : Put update state (.cut (update state))

theorem put_cases (update : σ → σ) (outcome : PutOutcome) (state : σ) :
    Put update state (Prog.put update outcome state) := by
  cases outcome with
  | written => exact .written
  | failed taken =>
    cases taken with
    | false => exact .failed
    | true => exact .failedTaken
  | cut taken =>
    cases taken with
    | false => exact .cut
    | true => exact .cutTaken

end Kitsu.Lib.Crash
