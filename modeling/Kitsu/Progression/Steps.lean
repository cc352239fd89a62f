import Kitsu.Progression.Operations

/-!
# What the steps touch

Nearly every step of an operation leaves the calendar and the callback queue alone, or
queues one callback.  `Tends` says so of a whole sequence of steps; only turning to a
day and noting a session write the calendar.
-/

namespace Kitsu.Progression

open Kitsu.Lib

/-! ## What a step touches -/

def State.calendar (state : State) : UInt32 × UInt32 × UInt32 × UInt16 :=
  (state.firstDay, state.currentDay, state.lastSessionDay, state.activeDays)

/-- The ring of memories, with its head and its length. -/
def State.queue (state : State) :
    UInt8 × UInt8 × Vector CallbackRecord kCallbackCapacity :=
  (state.callbackHead, state.callbackCount, state.callbacks)

/--
Steps that leave the calendar alone, and the queue as well, except for callbacks put
into it that are due on this day.
-/
inductive Tends (due : UInt32) (start : State) : State → Prop
  | start : Tends due start start
  | aside {state next : State} (before : Tends due start state)
      (calendar : next.calendar = state.calendar)
      (queue : next.queue = state.queue) : Tends due start next
  | enqueue {state : State} {kind : CallbackKind} {detail : UInt8}
      (before : Tends due start state) :
      Tends due start (enqueueCallback state kind detail due).1

section Steps

variable {due : UInt32} {start state : State}

theorem Tends.unlock (before : Tends due start state)
    (achievement : UInt32) (lore : UInt16) :
    Tends due start (unlock state achievement lore) :=
  before.aside rfl rfl

theorem Tends.updateLoreAndAchievements (before : Tends due start state) :
    Tends due start (updateLoreAndAchievements state) :=
  before.aside rfl rfl

theorem Tends.missDay (before : Tends due start state) :
    Tends due start (missDay state) := by
  unfold Progression.missDay
  split
  · exact before
  · split
    · exact before.aside rfl rfl
    · exact before.aside rfl rfl

theorem Tends.missDays (before : Tends due start state) (gap : UInt32) :
    Tends due start (missDays state gap) := by
  unfold Progression.missDays
  extract_lets missed
  have once : Tends due start missed := by
    unfold missed
    split
    · exact before.missDay
    · exact before
  split
  · exact once.missDay
  · exact once

theorem enqueueCallback_calendar {kind : CallbackKind} {detail : UInt8}
    {dueDay : UInt32} :
    (enqueueCallback state kind detail dueDay).1.calendar = state.calendar := by
  unfold enqueueCallback
  split
  · rfl
  · split
    · rfl
    · rfl

section

variable (before : Tends due start state)

include before

theorem Tends.calendar_eq : state.calendar = start.calendar := by
  induction before with
  | start => rfl
  | aside _ calendar _ induction => exact calendar.trans induction
  | enqueue _ induction => exact enqueueCallback_calendar.trans induction

theorem Tends.currentDay_eq : state.currentDay = start.currentDay :=
  congrArg (·.2.1) before.calendar_eq

theorem Tends.recordPerfectDay (next : addDaysSaturated state.currentDay 1 = due) :
    Tends due start (recordPerfectDay state) := by
  unfold Progression.recordPerfectDay
  rw [next]
  exact Tends.enqueue (before.aside rfl rfl)

theorem Tends.finalizeActiveDay
    (next : addDaysSaturated start.currentDay 1 = due) :
    Tends due start (finalizeActiveDay state).1 := by
  unfold Progression.finalizeActiveDay
  extract_lets completed counted perfect
  have counting : Tends due start counted := by
    unfold counted
    cases completed with
    | false => exact before.missDay.aside rfl rfl
    | true => exact before.aside rfl rfl
  apply Tends.updateLoreAndAchievements
  cases perfect with
  | false => exact counting
  | true =>
    rw [← counting.currentDay_eq] at next
    exact counting.recordPerfectDay next

theorem Tends.noteRhythm (sameDay : Bool) (minuteOfDay : UInt16) :
    Tends due start (noteRhythm state sameDay minuteOfDay) := by
  unfold Progression.noteRhythm
  extract_lets
  split
  · exact before.aside rfl rfl
  · exact before

theorem Tends.updateFavorite : Tends due start (updateFavorite state).1 := by
  unfold Progression.updateFavorite
  extract_lets
  split
  · exact before.aside rfl rfl
  · exact before

theorem Tends.followRitual (action bucket : UInt8) (day : UInt32) :
    Tends due start (followRitual state action bucket day) := by
  unfold Progression.followRitual
  split
  · exact before.aside rfl rfl
  · exact before.aside rfl rfl

theorem Tends.updateRitual (action : UInt8) (bucket : TimeBucket) :
    Tends due start (updateRitual state action bucket due).1 := by
  unfold Progression.updateRitual
  extract_lets followed
  have following : Tends due start followed :=
    before.followRitual action bucket.code due
  split
  · exact before
  · split
    · exact (following.unlock _ _).enqueue
    · exact following

theorem Tends.updateSecretHabit : Tends due start (updateSecretHabit state).1 := by
  unfold Progression.updateSecretHabit
  extract_lets
  split
  · exact before
  · split
    · exact before
    · exact before.aside rfl rfl

theorem Tends.completeRequest
    (index : UInt8) : Tends due start (completeRequest state index).1 := by
  unfold Progression.completeRequest
  split
  · exact before.aside rfl rfl
  · exact before

theorem Tends.updateComfortForAction (action : UInt8) :
    Tends due start (updateComfortForAction state action).1 := by
  unfold Progression.updateComfortForAction
  split
  · exact before.aside rfl rfl
  · exact before

theorem Tends.observeBond (bondLevel : UInt8) :
    Tends due start (observeBond state bondLevel due).1 := by
  unfold Progression.observeBond
  extract_lets
  split
  · exact before
  · exact Tends.enqueue (before.aside rfl rfl)

theorem Tends.performAction {index bondLevel : UInt8} {minuteOfDay : UInt16} :
    Tends due start
      (performAction state index due minuteOfDay bondLevel).1 := by
  unfold Progression.performAction
  extract_lets sameDay followUp repeated repeatNoticed counted dailyVariety advanced
    favorite ritual habit request comfort lifted spoken bonded final
  have counting : Tends due start counted := by
    apply Tends.noteRhythm
    exact before.aside rfl rfl
  have favored : Tends due start favorite.1 := by
    apply Tends.updateFavorite
    exact counting.aside rfl rfl
  have comforting : Tends due start comfort.1 :=
    ((favored.updateRitual index _).updateSecretHabit.completeRequest
      index).updateComfortForAction index
  clear_value comfort
  have bonding : Tends due start bonded := by
    apply Tends.observeBond
    exact comforting.aside rfl rfl
  clear_value bonded
  exact bonding.aside rfl rfl

theorem Tends.offerRequest (vitals : CompanionVitals) (seed : UInt32) :
    Tends due start (offerRequest state vitals seed).1 := by
  unfold Progression.offerRequest
  split
  · exact before.aside rfl rfl
  · exact before

theorem Tends.noteComeback (comebackDay : Bool) :
    Tends due start (noteComeback state comebackDay) := by
  unfold Progression.noteComeback
  split
  · exact before.aside rfl rfl
  · exact before

theorem Tends.celebrate (age : UInt32) :
    Tends due start (celebrate state age due).1 := by
  unfold Progression.celebrate
  split
  · exact Tends.enqueue (before.aside rfl rfl)
  · exact before

theorem Tends.showSeason (seed : UInt32)
    (season : UInt8) : Tends due start (showSeason state seed season).1 := by
  unfold Progression.showSeason
  split
  · exact before.aside rfl rfl
  · exact before

theorem Tends.showRare (seed : UInt32) :
    Tends due start (showRare state seed due).1 := by
  unfold Progression.showRare
  split
  · exact before.aside rfl rfl
  · exact before

/-- What a session does before it notes its day. -/
theorem openSession_tends
    {bondLevel season : UInt8} {vitals : CompanionVitals} {absent : UInt32}
    {previousDayPerfect : Bool} :
    ∃ bonded, Tends due start bonded ∧
      (openSession state due bondLevel vitals season absent
          previousDayPerfect).1.queue = bonded.queue ∧
        (openSession state due bondLevel vitals season absent
          previousDayPerfect).1.calendar =
            (bonded.firstDay, bonded.currentDay, due, bonded.activeDays) := by
  unfold Progression.openSession
  extract_lets comebackDay seed age welcomed request comforted anniversary seasonal
    rare bonded weeklyChapter final
  have requested : Tends due start request.1 :=
    (before.noteComeback comebackDay).offerRequest vitals seed
  have celebrated : Tends due start anniversary.1 := by
    apply Tends.celebrate
    exact requested.aside rfl rfl
  have surprised : Tends due start rare.1 :=
    (celebrated.showSeason seed season).showRare seed
  exact ⟨bonded, surprised.observeBond bondLevel, rfl, rfl⟩

end

/-- A step that leaves both the calendar and the queue alone. -/
def Aside (before after : State) : Prop :=
  after.calendar = before.calendar ∧ after.queue = before.queue

theorem chooseGoal_aside (state : State) (seed : UInt32) :
    Aside state (chooseGoal state seed) := by
  unfold chooseGoal
  extract_lets
  split
  · exact ⟨rfl, rfl⟩
  · split
    · exact ⟨rfl, rfl⟩
    · exact ⟨rfl, rfl⟩

/-- A new day is counted, and touches neither the queue nor the other days. -/
theorem beginFreshDay_aside (state : State) (day : UInt32) :
    (beginFreshDay state day).calendar =
        (state.firstDay, state.currentDay, state.lastSessionDay,
          saturatingIncrement16 state.activeDays) ∧
      (beginFreshDay state day).queue = state.queue := by
  unfold beginFreshDay
  extract_lets seed
  have goal := chooseGoal_aside (clearDay state) seed
  generalize chooseGoal (clearDay state) seed = chosen at goal
  have same : chosen.calendar =
      (state.firstDay, state.currentDay, state.lastSessionDay, state.activeDays) :=
    goal.1
  simp only [State.calendar, Prod.mk.injEq] at same
  rcases same with ⟨first, current, session, active⟩
  refine ⟨?_, goal.2⟩
  rw [← first, ← current, ← session, ← active]
  rfl

/-- The days gone by before a new one begins. -/
theorem tends_turn (state : State) (gap : UInt32) :
    Tends (addDaysSaturated state.currentDay 1) state
      (fadeMomentum (missDays (finalizeActiveDay state).1 gap) gap) := by
  have finalized : Tends (addDaysSaturated state.currentDay 1) state
      (finalizeActiveDay state).1 := Tends.start.finalizeActiveDay rfl
  exact (finalized.missDays gap).aside rfl rfl

/-- What turning to a day does, and when. -/
theorem moveToDay_cases (state : State) (day : UInt32) :
    ((day < state.firstDay ∨ (state.activeDays ≠ 0 ∧ day < state.currentDay)) ∧
        moveToDay state day = ⟨state, false, false⟩) ∨
      (state.firstDay ≤ day ∧ state.activeDays ≠ 0 ∧ day = state.currentDay ∧
        moveToDay state day = ⟨state, true, false⟩) ∨
      (state.firstDay ≤ day ∧ (state.activeDays = 0 ∨ state.currentDay < day) ∧
        (moveToDay state day).moved = true ∧ (moveToDay state day).state.calendar =
          (state.firstDay, day, state.lastSessionDay,
            saturatingIncrement16 state.activeDays) ∧
        ∃ settled, Tends (addDaysSaturated state.currentDay 1) state settled ∧
          (state.activeDays = 0 → settled = state) ∧
          (moveToDay state day).state.queue = settled.queue) := by
  unfold moveToDay
  split
  next early => exact Or.inl ⟨Or.inl early, rfl⟩
  next early =>
    have begun : state.firstDay ≤ day := UInt32.not_lt.mp early
    split
    next fresh =>
      have opened := beginFreshDay_aside { state with currentDay := day } day
      exact Or.inr (Or.inr ⟨begun, Or.inl fresh, rfl, opened.1, state, .start,
        fun _ => rfl, opened.2⟩)
    next active =>
      split
      next past => exact Or.inl ⟨Or.inr ⟨active, past⟩, rfl⟩
      next present =>
        split
        next same => exact Or.inr (Or.inl ⟨begun, active, same, rfl⟩)
        next other =>
          have later : state.currentDay < day :=
            UInt32.lt_of_le_of_ne (UInt32.not_lt.mp present) (Ne.symm other)
          extract_lets gap finalized faded
          have turned : Tends (addDaysSaturated state.currentDay 1) state faded :=
            tends_turn state gap
          have opened := beginFreshDay_aside { faded with currentDay := day } day
          have same := turned.calendar_eq
          simp only [State.calendar, Prod.mk.injEq] at same
          rcases same with ⟨first, -, session, days⟩
          refine Or.inr (Or.inr ⟨begun, Or.inr later, rfl, ?_, faded, turned,
            fun none => absurd none active, opened.2⟩)
          rw [← first, ← session, ← days]
          exact opened.1

theorem saturatingIncrement16_ne_zero (value : UInt16) :
    saturatingIncrement16 value ≠ 0 := by
  unfold saturatingIncrement16
  split
  next full =>
    rw [full]
    decide
  next room =>
    intro zero
    apply room
    have back : value + 1 - 1 = 0 - 1 := congrArg (· - 1) zero
    rw [UInt16.add_sub_cancel] at back
    exact back

/-- A day that was moved to is counted, and the last session stays. -/
theorem moveToDay_counts {day : UInt32} (moved : (moveToDay state day).moved = true) :
    (moveToDay state day).state.activeDays ≠ 0 ∧
      (moveToDay state day).state.lastSessionDay = state.lastSessionDay ∧
      state.firstDay ≤ day ∧
      (state.activeDays ≠ 0 → state.currentDay ≤ day) := by
  rcases moveToDay_cases state day with ⟨_, equal⟩ | ⟨begun, active, same, equal⟩ |
    ⟨begun, order, _, calendar, _⟩
  · rw [equal] at moved
    exact absurd moved Bool.false_ne_true
  · rw [equal]
    exact ⟨active, rfl, begun, fun _ => UInt32.le_of_eq same.symm⟩
  · simp only [State.calendar, Prod.mk.injEq] at calendar
    rcases calendar with ⟨-, -, session, days⟩
    refine ⟨?_, session, begun, ?_⟩
    · rw [days]
      exact saturatingIncrement16_ne_zero _
    · intro active
      exact UInt32.le_of_lt (order.resolve_left active)

theorem moveToDay_still {day : UInt32}
    (still : (moveToDay state day).moved = false) :
    (moveToDay state day).state = state := by
  rcases moveToDay_cases state day with ⟨_, equal⟩ | ⟨_, _, _, equal⟩ |
    ⟨_, _, turned, _⟩
  · exact congrArg Moved.state equal
  · exact congrArg Moved.state equal
  · exact absurd (turned.symm.trans still) (by decide)

theorem answerRequest_aside (state : State) (accept : Bool) :
    Aside state (answerRequest state accept).1 := by
  unfold answerRequest
  split
  · exact ⟨rfl, rfl⟩
  · cases accept with
    | false => exact ⟨rfl, rfl⟩
    | true => exact ⟨rfl, rfl⟩

theorem answerQuestion_aside (state : State) (choice : UInt8) :
    Aside state (answerQuestion state choice).1 := by
  unfold answerQuestion
  split
  · exact ⟨rfl, rfl⟩
  · exact ⟨rfl, rfl⟩

theorem setNickname_aside (state : State) (nickname : Option ByteString.Bytes) :
    Aside state (setNickname state nickname).1 := by
  unfold setNickname
  split
  · exact ⟨rfl, rfl⟩
  · split
    · exact ⟨rfl, rfl⟩
    · split
      · exact ⟨rfl, rfl⟩
      · exact ⟨rfl, rfl⟩

end Steps

/-! ## The two calls that move to a day -/

/-- An action is refused and changes nothing, or is recorded on the day. -/
theorem recordAction_cases (state : State) (action : UInt8) (day : UInt32)
    (minuteOfDay : UInt16) (bondLevel : UInt8) :
    recordAction state action day minuteOfDay bondLevel = (state, {}) ∨
      (validAction action = true ∧ minuteOfDay < 1440 ∧
        (moveToDay state day).moved = true ∧
        recordAction state action day minuteOfDay bondLevel =
          performAction (moveToDay state day).state action day minuteOfDay
            bondLevel) := by
  unfold recordAction
  split
  next => exact Or.inl rfl
  next accepted =>
    rw [not_or, Bool.not_eq_false, UInt16.not_le] at accepted
    extract_lets moved
    split
    next turned => exact Or.inr ⟨accepted.1, accepted.2, turned, rfl⟩
    next still =>
      left
      rw [Bool.not_eq_true] at still
      rw [moveToDay_still still]

/-- A session is refused and changes nothing, or is opened on the day. -/
theorem startSession_cases (state : State) (day : UInt32) (minuteOfDay : UInt16)
    (bondLevel : UInt8) (vitals : CompanionVitals) (season : UInt8) :
    startSession state day minuteOfDay bondLevel vitals season = (state, {}) ∨
      (minuteOfDay < 1440 ∧ season ≤ winter ∧ (moveToDay state day).moved = true ∧
        startSession state day minuteOfDay bondLevel vitals season =
          openSession (moveToDay state day).state day bondLevel vitals season
            (absence state day) (moveToDay state day).previousPerfect) := by
  unfold startSession
  split
  next => exact Or.inl rfl
  next accepted =>
    rw [not_or, UInt16.not_le, UInt8.not_lt] at accepted
    extract_lets moved
    split
    next turned => exact Or.inr ⟨accepted.1, accepted.2, turned, rfl⟩
    next still =>
      left
      rw [Bool.not_eq_true] at still
      rw [moveToDay_still still]

end Kitsu.Progression
