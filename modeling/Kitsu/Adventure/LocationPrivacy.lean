import Kitsu.Adventure.LocationTraces

/-!
# What is left of a location when it is turned off

`setPrivacyMode` clears the zone table, the home and current zone, the salt and
the distances.  It touches neither the journal, where the entry of a route that
ended in a zone keeps the token of that zone, nor what a route that began in a
zone has drawn from it.  `location_erased` says that these are the only two
traces: `off` leaves nothing of the location after a history in which no route
begins or ends in a zone.
-/

namespace Kitsu.Adventure

open Kitsu.Lib.Run

/-- The record after a history and a switch to `off`. -/
def afterOff (history : List Call) (salt : UInt32) :
    Status × ProgressState :=
  setPrivacyMode (exec step reset history) PrivacyMode.off.code salt

/--
A call on a valid record begins or ends no route in a zone.  A route of a
community day that ends without a trusted clock is left out: its record is not
valid, and cannot be switched to `off` any more.
-/
def Unlocated (state : ProgressState) (call : Call) : Prop :=
  validateProgressState state = true → Timed state call →
    Copies state call → state.currentZoneToken = 0

/--
After `off` the record agrees with that of every twin in each location-derived
field, and it stores nothing of a location.
-/
def Erased (history : List Call) : Prop :=
  ∀ twin salt twinSalt, Twins history twin →
    (afterOff history salt).1 = .ok → (afterOff twin twinSalt).1 = .ok →
    locationView (afterOff history salt).2 =
        locationView (afterOff twin twinSalt).2 ∧
      storedLocation (afterOff history salt).2 = .blank

variable {history twin : List Call} {state after : ProgressState} {call : Call}

/-! ## Histories without a trace -/

/-- A record that is valid after a call was so before. -/
theorem valid_of_step (valid : validateProgressState (step state call) = true) :
    validateProgressState state = true ∧ Timed state call := by
  by_cases before : validateProgressState state = true
  · refine ⟨before, ?_⟩
    have coherent := ((validateProgressState_iff state).mp before).1
    have performed := perform_cases before call
    generalize step state call = after at performed valid
    cases performed with
    | kept _ _ unended => exact timed_of_not_ends unended
    | changed after _ _ change =>
      rw [validateProgressState_refreshCrc] at valid
      exact (changes_coherent_iff coherent change).mp valid
  · have broken : validateProgressState state = false := by
      simpa using before
    rw [(perform_invalid broken call).2] at valid
    exact absurd valid before

/-- Twins stay in step as long as no call copies a zone. -/
theorem inStep_twins (unlocated : Throughout step reset Unlocated history)
    (valid : validateProgressState (exec step reset history) = true)
    (twins : Twins history twin) :
    InStep (exec step reset history) (exec step reset twin) := by
  induction history using List.reverseRecOn generalizing twin with
  | nil =>
    have empty : twin = [] := by
      simpa [DifferOnlyInLocation] using twins.differ.symm
    rw [empty]
    exact inStep_reset
  | append_singleton history call induction =>
    rcases twins.of_concat with
      ⟨before, last, rfl, earlier, same, reply, elsewhere⟩
    rw [exec_concat] at valid ⊢
    rw [exec_concat]
    have before := valid_of_step valid
    have inStep := induction unlocated.earlier before.1 earlier
    exact inStep.step same reply elsewhere fun here copies =>
      unlocated.last here before.2 copies

theorem afterOff_ok {salt : UInt32} (off : (afterOff history salt).1 = .ok) :
    validateProgressState (exec step reset history) = true ∧
      (afterOff history salt).2 = refreshCrc (recalculateTarget
        (clearLocation (exec step reset history) PrivacyMode.off.code 0)) := by
  simp only [afterOff, setPrivacyMode] at off ⊢
  split_ifs at off ⊢ with broken unknown unsalted unchanged
  exact ⟨by simpa using broken, rfl⟩

/-- What a switch to `off` leaves: the journal and what routes have drawn. -/
theorem locationView_cleared (state : ProgressState) :
    locationView (refreshCrc (recalculateTarget
      (clearLocation state PrivacyMode.off.code 0))) =
      { stored := { StoredLocation.blank with
          journalZones := state.journal.map (·.zoneToken)
          journalHomes := state.journal.map
            (flagged ·.flags kJournalFlagHomeComfort) }
        drawn := drawnRoutes state } := by
  have forgotten := @flagged_cleared (~~~ kFlagCurrentZoneNew)
    kFlagCurrentZoneNew rfl state.flags
  simp only [locationView, storedLocation, drawnRoutes, refreshCrc,
    recalculateTarget, clearLocation, StoredLocation.blank, forgotten]

theorem JournalPlain.blank {journal : Vector JournalEntry kJournalCapacity}
    (plain : JournalPlain journal) :
    journal.map (·.zoneToken) = .replicate _ 0 ∧
      journal.map (flagged ·.flags kJournalFlagHomeComfort) =
        .replicate _ false := by
  constructor
  · apply Vector.ext
    intro index inside
    simpa using (plain index inside).zone
  · apply Vector.ext
    intro index inside
    have entered := plain index inside
    have home : flagged journal[index].flags kJournalFlagHomeComfort ≠ true :=
      fun home => entered.home home entered.zone
    simpa using home

/--
A switch to `off` leaves nothing of a location and nothing that tells the history
from its twins, when none of its calls begins or ends a route in a zone.
-/
theorem location_erased (unlocated : Throughout step reset Unlocated history) :
    Erased history := by
  intro twin salt twinSalt twins off twinOff
  rcases afterOff_ok off with ⟨valid, cleared⟩
  rcases afterOff_ok twinOff with ⟨-, twinCleared⟩
  have inStep := inStep_twins unlocated valid twins
  have view := locationView_cleared (exec step reset history)
  have twinView := locationView_cleared (exec step reset twin)
  rw [inStep.plain.blank.1, inStep.plain.blank.2] at view
  rw [inStep.otherPlain.blank.1, inStep.otherPlain.blank.2] at twinView
  rw [cleared, twinCleared]
  constructor
  · rw [view, twinView, inStep.drawn]
  · exact congrArg LocationView.stored view

/-- A call that draws nothing may be made in a zone. -/
theorem unlocated_of_draws
    (nowhere : call.draws = true → state.currentZoneToken = 0) :
    Unlocated state call := by
  rintro - - (begins | ⟨_, ends⟩)
  · cases begins
    exact nowhere rfl
  · cases ends <;> exact nowhere rfl

/-- A route that begins in no zone and goes through one. -/
def strayWalk (token : UInt32) : List Call :=
  [.setPrivacyMode PrivacyMode.coarse.code 0, .begin {} {} 0,
    .observeCoarseZone token 0 0]

theorem strayWalk_erased :
    (afterOff (strayWalk 1) 0).1 = .ok ∧
      locationView (afterOff (strayWalk 1) 0).2 =
        locationView (afterOff (strayWalk 2) 0).2 ∧
      storedLocation (afterOff (strayWalk 1) 0).2 = .blank := by
  have run : DifferOnlyInLocation (strayWalk 1) (strayWalk 2) ∧
      SameResults (strayWalk 1) (strayWalk 2) ∧
      (afterOff (strayWalk 1) 0).1 = .ok ∧ (afterOff (strayWalk 2) 0).1 = .ok := by
    decide +kernel
  rcases run with ⟨differ, results, off, twinOff⟩
  have unlocated : Throughout step reset Unlocated (strayWalk 1) := by
    refine .cons (unlocated_of_draws nofun) <| .cons (unlocated_of_draws fun _ => ?_) <|
      .cons (unlocated_of_draws nofun) .nil
    decide +kernel
  exact ⟨off, location_erased unlocated (strayWalk 2) 0 0 ⟨differ, results⟩ off twinOff⟩

/-- A route walked in a zone, and location turned on before it. -/
def zoneRoute (token : UInt32) : List Call :=
  [.setPrivacyMode PrivacyMode.coarse.code 0, .begin {} {} 0,
    .observeCoarseZone token 0 0, .finish {}]

theorem zone_token_survives_off :
    ¬ ∀ first second firstSalt secondSalt,
      DifferOnlyInLocation first second → SameResults first second →
      (afterOff first firstSalt).1 = .ok →
      (afterOff second secondSalt).1 = .ok →
      locationView (afterOff first firstSalt).2 =
        locationView (afterOff second secondSalt).2 := by
  have run : DifferOnlyInLocation (zoneRoute 1) (zoneRoute 2) ∧
      SameResults (zoneRoute 1) (zoneRoute 2) ∧
      (afterOff (zoneRoute 1) 0).1 = .ok ∧
      (afterOff (zoneRoute 2) 0).1 = .ok ∧
      locationView (afterOff (zoneRoute 1) 0).2 ≠
        locationView (afterOff (zoneRoute 2) 0).2 := by
    decide +kernel
  intro erased
  rcases run with ⟨differ, results, firstOff, secondOff, different⟩
  exact different
    (erased _ _ 0 0 differ results firstOff secondOff)

end Kitsu.Adventure
