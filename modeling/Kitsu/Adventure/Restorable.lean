import Kitsu.Adventure.Coherence
import Kitsu.Lib.Run

/-!
# When saved progress stays restorable

`changes_coherent_iff` reads off the list of changes that a call keeps the
record coherent unless it ends a community-day route without a trusted clock.
`restorable_iff_sound` lifts this to whole runs: every call of a run leaves a
restorable record, and is not answered with `invalidState`, exactly when every
call of it is sound.  A record that went wrong once stays as it is.
-/

namespace Kitsu.Adventure

open Kitsu.Lib.Run

/-- A route that began on a community day ends by a trusted clock. -/
def Timed (state : ProgressState) (call : Call) : Prop :=
  ∀ now, Ends state call now →
    flagged state.flags kFlagCommunityDay = true → now.trusted ≠ 0

/-- The call is timed, and does not begin a route past the last sequence. -/
def SoundCall (state : ProgressState) (call : Call) : Prop :=
  Timed state call ∧ ¬ Exhausted state call

theorem timed_of_not_ends {state : ProgressState} {call : Call}
    (unended : ∀ now, ¬ Ends state call now) : Timed state call :=
  fun now ends => absurd ends (unended now)

theorem preciseZoneToken_ne_zero (sample : PreciseLocationSample)
    (salt : UInt32) : preciseZoneToken sample salt ≠ 0 := by
  simp only [preciseZoneToken]
  split
  · decide
  · simp_all

/-- A change keeps the record coherent exactly when the call is timed. -/
theorem changes_coherent_iff {state after : ProgressState} {call : Call}
    (coherent : Coherent state) (change : Changes state call after) :
    Coherent after ↔ Timed state call := by
  cases change with
  | privacy mode given known salted =>
    exact iff_of_true (coherent.clearLocation mode _ known salted)
      (timed_of_not_ends nofun)
  | home token shared =>
    exact iff_of_true (coherent.setHome token shared)
      (timed_of_not_ends nofun)
  | coarse token stepDelta segmentMeters shared known =>
    exact iff_of_true
      (coherent.enterZone shared known stepDelta segmentMeters)
      (timed_of_not_ends nofun)
  | precise sample stepDelta segmentMeters shared =>
    exact iff_of_true
      (coherent.enterZone shared (preciseZoneToken_ne_zero _ _) stepDelta
        segmentMeters)
      (timed_of_not_ends nofun)
  | hotspot token participantCount now known =>
    exact iff_of_true (coherent.visitHotspot known participantCount now)
      (timed_of_not_ends nofun)
  | begin request now entropy idle requested timed careful room =>
    exact iff_of_true (coherent.startRoute entropy requested careful room)
      (timed_of_not_ends nofun)
  | steps stepDelta active =>
    generalize saturatingAddU32 state.steps stepDelta = steps
    exact iff_of_true
      (coherent.counters (active_underway active) steps _ _ _ _ _)
      (timed_of_not_ends nofun)
  | decision decision active room =>
    have counted := coherent.countDecision active room decision
    exact iff_of_true (counted.followDecision active decision)
      (timed_of_not_ends nofun)
  | expedition completion active =>
    generalize saturatingAddU16 state.progressPoints
      (expeditionPoints completion) = points
    exact iff_of_true
      (coherent.counters (active_underway active) _ _ points _ _ _)
      (timed_of_not_ends nofun)
  | party result underway played =>
    have route : state.phase ≠ RoutePhase.idle.code := by
      rcases underway with active | waiting
      · exact active_underway active
      · rw [waiting]
        decide
    exact iff_of_true (coherent.joinParty route played _)
      (timed_of_not_ends nofun)
  | encounter encounter active =>
    simp only [meetEncounter]
    generalize (if encounter.encounterOccurred != 0 then _ else _) = points
    exact iff_of_true
      (coherent.counters (active_underway active) _ _ points _ _ _)
      (timed_of_not_ends nofun)
  | lost now active staying bold short =>
    refine iff_of_true (coherent.awaitRescue active staying bold)
      (timed_of_not_ends ?_)
    intro _ ends
    cases ends with
    | finished _ _ _ decided =>
      rcases decided with early | far
      · rw [staying] at early
        cases early
      · exact far ⟨bold, short⟩
  | ended now outcome timed active decided result =>
    have underway := active_underway active
    rw [(coherent.settle underway result).appendJournal_iff,
      validJournal_journalEntry coherent underway result timed]
    constructor
    · intro trusted _ ends
      cases ends
      exact trusted
    · intro trusted
      exact trusted now (.finished now timed active decided)
  | rescued result now timed waiting played =>
    have underway : state.phase ≠ RoutePhase.idle.code := by
      rw [waiting]
      decide
    have joined := coherent.joinParty underway played 20
    have settled : Outcome.rescued ≠ .none := nofun
    rw [(joined.settle underway settled).appendJournal_iff,
      validJournal_journalEntry joined underway settled timed]
    constructor
    · intro trusted _ ends
      cases ends
      exact trusted
    · intro trusted
      exact trusted now (.rescued result now timed waiting played)
  | acknowledged routeId returned =>
    exact iff_of_true coherent.clearRoute (timed_of_not_ends nofun)

/-- After the call the record restores, and the call was not refused for it. -/
structure Restorable (state : ProgressState) (call : Call) : Prop where
  answered : (perform state call).1.status ≠ .invalidState
  valid : validateProgressState (step state call) = true
  restores : ∀ other, restore other (step state call) =
    (.ok, step state call)

/-- One call on a valid record. -/
theorem restorable_iff {state : ProgressState}
    (valid : validateProgressState state = true) (call : Call) :
    Restorable state call ↔ SoundCall state call := by
  have coherent := ((validateProgressState_iff state).mp valid).1
  have performed := perform_cases valid call
  suffices both : (perform state call).1.status ≠ .invalidState ∧
      validateProgressState (step state call) = true ↔
        SoundCall state call by
    constructor
    · intro restorable
      exact both.mp ⟨restorable.answered, restorable.valid⟩
    · intro sound
      rcases both.mpr sound with ⟨answered, after⟩
      exact ⟨answered, after, fun other => restore_valid other _ after⟩
  generalize step state call = after at performed
  cases performed with
  | kept _ stuck unended =>
    rw [Ne, stuck]
    constructor
    · rintro ⟨fresh, -⟩
      exact ⟨timed_of_not_ends unended, fresh⟩
    · rintro ⟨-, fresh⟩
      exact ⟨fresh, valid⟩
  | changed after _ fresh change =>
    rw [validateProgressState_refreshCrc, changes_coherent_iff coherent change]
    constructor
    · rintro ⟨-, timed⟩
      exact ⟨timed, fresh.2⟩
    · rintro ⟨timed, -⟩
      exact ⟨fresh.1, timed⟩

theorem validateProgressState_reset : validateProgressState reset = true := by
  decide +kernel

/--
From `reset` or from any valid snapshot: every call of a run leaves a restorable
record and is not answered with `invalidState` exactly when no call of the run
ends a community-day route by an untrusted clock, and none begins a route with
the last sequence number used up.
-/
theorem restorable_iff_sound (calls : List Call) :
    validateProgressState reset = true ∧
      ∀ start, validateProgressState start = true →
        (Throughout step start Restorable calls ↔
          Throughout step start SoundCall calls) := by
  refine ⟨validateProgressState_reset, ?_⟩
  intro start valid
  constructor
  · intro restorable earlier call later equal
    subst equal
    have before : validateProgressState (exec step start earlier) = true :=
      @exec_throughout _ _ step start _ _
        (fun state => validateProgressState state = true) valid
        (fun _ _ _ here => here.valid) restorable.earlier
    exact (restorable_iff before call).mp
      (restorable earlier call later rfl)
  · intro sound earlier call later equal
    subst equal
    have before : validateProgressState (exec step start earlier) = true :=
      @exec_throughout _ _ step start _ _
        (fun state => validateProgressState state = true) valid
        (fun _ input here allowed =>
          ((restorable_iff here input).mpr allowed).valid) sound.earlier
    exact (restorable_iff before call).mpr (sound earlier call later rfl)

/-- A trusted clock on a community day. -/
def communityDay : ClockSample where
  unixSeconds := 1785657600
  dayId := 20664
  minuteOfDay := 480
  trusted := 1

/-- A route begun on a community day and finished without a trusted clock. -/
theorem community_day_route_unrestorable :
    ¬ ∀ calls, Throughout step reset Restorable calls := by
  intro every
  have finished := every [.begin {} communityDay 0, .finish {}]
    [.begin {} communityDay 0] (.finish {}) [] rfl
  have invalid : validateProgressState (step (exec step reset
      [.begin {} communityDay 0]) (.finish {})) = false := by
    decide +kernel
  rw [finished.valid] at invalid
  cases invalid

end Kitsu.Adventure
