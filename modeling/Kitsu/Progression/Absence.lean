import Kitsu.Progression.CallbackQueue

/-!
# Absence counted from the session before

A history of a companion is told together with what happened in it: the day of the
last session that was started, and whether anything at all happened.  A restored
snapshot brings back the history of the companion that wrote it.
-/

namespace Kitsu.Progression

open Kitsu.Lib
open Kitsu.Lib.ByteString

/-- What a companion went through. -/
structure Memory where
  session : Option UInt32 := none
  active : Bool := false
deriving DecidableEq

/-- What a call adds to it, by its answer. -/
def Memory.note (memory : Memory) : Operation → Answer → Memory
  | .initializeProgression _ _, _ => {}
  | .startSession day _ _ _ _, .session result =>
    if result.valid then { session := some day, active := true } else memory
  | .recordAction _ _ _ _, .action result =>
    if result.valid then { memory with active := true } else memory
  | _, _ => memory

/-- A call that takes a snapshot in. -/
def Restores (state : State) : Operation → Prop
  | .restoreSnapshot source fingerprint =>
    (restoreSnapshot state source fingerprint).2 = true
  | _ => False

/-- The states of a companion, each with what it went through. -/
inductive Lived : State → Memory → Prop
  | fresh : Lived {} {}
  | call {state : State} {memory : Memory} (before : Lived state memory)
      (operation : Operation) (own : ¬ Restores state operation) :
      Lived (act state operation) (memory.note operation (perform state operation).2)
  | restore {state saved : State} {memory kept : Memory}
      (before : Lived state memory) (written : Lived saved kept) {capacity : Nat}
      {bytes : Bytes} (snapshot : writeSnapshot saved (some capacity) = some bytes)
      (fingerprint : UInt32)
      (accepted : (restoreSnapshot state (some bytes) fingerprint).2 = true) :
      Lived (act state (.restoreSnapshot (some bytes) fingerprint)) kept

variable {state : State} {memory : Memory}

/-- The record of a companion tells when its last session was. -/
structure Recorded (state : State) (memory : Memory) : Prop where
  session : ∀ day, memory.session = some day →
    state.activeDays ≠ 0 ∧ state.lastSessionDay = day
  idle : memory.session = none → memory.active = false → state.activeDays = 0

theorem Recorded.of_calendar {next : State} (recorded : Recorded state memory)
    (same : next.calendar = state.calendar) : Recorded next memory := by
  simp only [State.calendar, Prod.mk.injEq] at same
  rcases same with ⟨-, -, session, active⟩
  constructor
  · intro day last
    rw [active, session]
    exact recorded.session day last
  · intro none idle
    rw [active]
    exact recorded.idle none idle

/-- A recorded action counts the day and leaves the last session as it was. -/
theorem recorded_recordAction (recorded : Recorded state memory) (action : UInt8)
    (day : UInt32) (minuteOfDay : UInt16) (bondLevel : UInt8) :
    Recorded (recordAction state action day minuteOfDay bondLevel).1
      (memory.note (.recordAction action day minuteOfDay bondLevel)
        (.action (recordAction state action day minuteOfDay bondLevel).2)) := by
  rcases recordAction_cases state action day minuteOfDay bondLevel with
    refused | ⟨_, _, moved, performed⟩
  · rw [refused]
    exact recorded
  · have counts := moveToDay_counts moved
    have steps : Tends day (moveToDay state day).state
        (recordAction state action day minuteOfDay bondLevel).1 := by
      rw [performed]
      exact Tends.start.performAction
    have valid :
        (recordAction state action day minuteOfDay bondLevel).2.valid = true := by
      rw [performed]
      rfl
    rw [Memory.note, if_pos valid]
    have same := steps.calendar_eq
    simp only [State.calendar, Prod.mk.injEq] at same
    rcases same with ⟨-, -, session, active⟩
    constructor
    · intro last found
      rw [active, session]
      exact ⟨counts.1, counts.2.1.trans (recorded.session last found).2⟩
    · intro _ idle
      exact absurd idle (by simp)

/-- A session is the last one from then on. -/
theorem recorded_startSession (recorded : Recorded state memory) (day : UInt32)
    (minuteOfDay : UInt16) (bondLevel : UInt8) (vitals : CompanionVitals)
    (season : UInt8) :
    Recorded (startSession state day minuteOfDay bondLevel vitals season).1
      (memory.note (.startSession day minuteOfDay bondLevel vitals season)
        (.session (startSession state day minuteOfDay bondLevel vitals season).2)) := by
  rcases startSession_cases state day minuteOfDay bondLevel vitals season with
    refused | ⟨_, _, moved, opened⟩
  · rw [refused]
    exact recorded
  · have counts := moveToDay_counts moved
    have valid : (startSession state day minuteOfDay bondLevel vitals
        season).2.valid = true := by
      rw [opened]
      rfl
    rw [Memory.note, if_pos valid, opened]
    rcases openSession_tends
      (@Tends.start day (moveToDay state day).state) with ⟨bonded, steps, _, calendar⟩
    have same := steps.calendar_eq
    simp only [State.calendar, Prod.mk.injEq] at same calendar
    constructor
    · intro last found
      cases found
      rw [calendar.2.2.2, calendar.2.2.1, same.2.2.2]
      exact ⟨counts.1, rfl⟩
    · intro none
      exact absurd none (by simp)

theorem takeCallback_calendar (state : State) (day : UInt32) :
    (takeCallback state day).1.calendar = state.calendar := by
  rcases takeCallback_cases state day with idle | ⟨_, taken⟩
  · rw [idle]
  · rw [taken]
    rfl

/-- What a companion takes back is what was written. -/
theorem act_restore {saved : State} {capacity : Nat} {bytes : Bytes}
    {fingerprint : UInt32}
    (snapshot : writeSnapshot saved (some capacity) = some bytes)
    (accepted : (restoreSnapshot state (some bytes) fingerprint).2 = true) :
    act state (.restoreSnapshot (some bytes) fingerprint) = saved := by
  have written : Snapshot.layout.write (snapshotOf saved) = bytes := by
    unfold writeSnapshot at snapshot
    dsimp only at snapshot
    split at snapshot
    · simp at snapshot
    · exact Option.some.inj snapshot
  have restored := restoreSnapshot_write state (snapshotOf saved) fingerprint
  rw [written] at restored
  show (restoreSnapshot state (some bytes) fingerprint).1 = saved
  rw [restored] at accepted ⊢
  split at accepted
  next valid =>
    rw [if_pos valid]
    rfl
  next => simp at accepted

theorem Lived.recorded (lived : Lived state memory) : Recorded state memory := by
  induction lived with
  | fresh => exact ⟨fun _ found => by simp at found, fun _ _ => rfl⟩
  | @call state memory before operation own recorded =>
    cases operation with
    | initializeProgression =>
      exact ⟨fun _ found => by simp [Memory.note] at found, fun _ _ => rfl⟩
    | startSession => exact recorded_startSession recorded ..
    | recordAction => exact recorded_recordAction recorded ..
    | rememberEvent =>
      exact recorded.of_calendar (rememberEvent_tends ..).calendar_eq
    | rememberDream =>
      exact recorded.of_calendar (rememberDream_tends ..).calendar_eq
    | rememberExpedition =>
      exact recorded.of_calendar (rememberExpedition_tends ..).calendar_eq
    | rememberFriend =>
      exact recorded.of_calendar (rememberFriend_tends ..).calendar_eq
    | takeCallback => exact recorded.of_calendar (takeCallback_calendar ..)
    | answerRequest => exact recorded.of_calendar (answerRequest_aside ..).1
    | answerQuestion => exact recorded.of_calendar (answerQuestion_aside ..).1
    | observeBond bondLevel day =>
      exact recorded.of_calendar
        (Tends.observeBond (@Tends.start day _) bondLevel).calendar_eq
    | setNickname => exact recorded.of_calendar (setNickname_aside ..).1
    | writeSnapshot => exact recorded
    | restoreSnapshot source fingerprint =>
      rcases restoreSnapshot_cases state source fingerprint with
        ⟨restored, _, accepted⟩ | rejected
      · exact absurd (congrArg Prod.snd accepted) own
      · exact recorded.of_calendar
          (congrArg (fun answer => answer.1.calendar) rejected)
  | restore before written snapshot fingerprint accepted _ recorded =>
    rw [act_restore snapshot accepted]
    exact recorded

/-! ## What a session reports -/

/-- The whole days strictly between two days. -/
def daysBetween (earlier later : UInt32) : Nat :=
  later.toNat - earlier.toNat - 1

/-- What a session says about an absence of so many days. -/
structure Reports (result : SessionResult) (absent : Nat) : Prop where
  absentDays : result.absentDays.toNat = min 65535 absent
  comebackDay : result.comebackDay = decide (3 ≤ absent)
  greeting : result.greeting =
    if 7 ≤ absent then .longAbsence
    else if 3 ≤ absent then .comeback
    else if absent ≠ 0 then .missedYou
    else .normal

theorem toNat_absentDays (absent : UInt32) :
    (absentDays absent).toNat = min 65535 absent.toNat := by
  unfold absentDays
  split
  next long =>
    have beyond := UInt32.lt_iff_toNat_lt.mp long
    exact (Nat.min_eq_left (Nat.le_of_lt beyond)).symm
  next short =>
    have bound : absent.toNat ≤ 65535 :=
      UInt32.le_iff_toNat_le.mp (UInt32.not_lt.mp short)
    rw [UInt32.toNat_toUInt16, Nat.min_eq_right bound]
    exact Nat.mod_eq_of_lt (Nat.lt_succ_of_le bound)

theorem reports_openSession (day : UInt32) (bondLevel : UInt8)
    (vitals : CompanionVitals) (season : UInt8) (absent : UInt32)
    (previousDayPerfect : Bool) :
    Reports (openSession state day bondLevel vitals season absent
      previousDayPerfect).2 absent.toNat := by
  have seven : 7 ≤ absent ↔ 7 ≤ absent.toNat := UInt32.le_iff_toNat_le
  have three : 3 ≤ absent ↔ 3 ≤ absent.toNat := UInt32.le_iff_toNat_le
  have some : absent ≠ 0 ↔ absent.toNat ≠ 0 := not_congr UInt32.toNat_inj.symm
  constructor
  · exact toNat_absentDays absent
  · exact decide_eq_decide.mpr three
  · show greetingFor absent = _
    simp only [greetingFor, seven, three, some]

theorem toNat_absence (state : State) (day : UInt32)
    (session : state.activeDays ≠ 0) :
    (absence state day).toNat = daysBetween state.lastSessionDay day := by
  unfold absence daysBetween
  split
  next away =>
    have order := UInt32.lt_iff_toNat_lt.mp away.2
    have apart := UInt32.toNat_sub_of_le day state.lastSessionDay
      (UInt32.le_of_lt away.2)
    have one : (1 : UInt32) ≤ day - state.lastSessionDay := by
      rw [UInt32.le_iff_toNat_le, apart]
      exact Nat.le_sub_of_add_le' order
    rw [UInt32.toNat_sub_of_le _ _ one, apart]
    rfl
  next near =>
    have order : day ≤ state.lastSessionDay :=
      UInt32.not_lt.mp fun later => near ⟨session, later⟩
    rw [UInt32.le_iff_toNat_le] at order
    rw [Nat.sub_eq_zero_of_le order]
    rfl

/--
A session reports the whole days since the last one, and no absence where nothing
happened before, whatever else the companion went through.  The count stops at the
greatest sixteen-bit number.
-/
theorem absence_since_last_session (lived : Lived state memory) (day : UInt32)
    (minuteOfDay : UInt16) (bondLevel : UInt8) (vitals : CompanionVitals)
    (season : UInt8) (valid : (startSession state day minuteOfDay bondLevel vitals
      season).2.valid = true) :
    (∀ previous, memory.session = some previous →
        Reports (startSession state day minuteOfDay bondLevel vitals season).2
          (daysBetween previous day)) ∧
      (memory.session = none → memory.active = false →
        Reports (startSession state day minuteOfDay bondLevel vitals season).2
          0) := by
  have recorded := lived.recorded
  rcases startSession_cases state day minuteOfDay bondLevel vitals season with
    refused | ⟨_, _, _, opened⟩
  · rw [refused] at valid
    exact absurd valid Bool.false_ne_true
  · have reports := @reports_openSession (moveToDay state day).state day bondLevel
      vitals season (absence state day) (moveToDay state day).previousPerfect
    rw [opened]
    constructor
    · intro previous last
      rcases recorded.session previous last with ⟨active, rfl⟩
      rw [← toNat_absence state day active]
      exact reports
    · intro none idle
      have nothing : absence state day = 0 := by
        unfold absence
        rw [if_neg]
        exact fun counted => counted.1 (recorded.idle none idle)
      rw [nothing] at reports ⊢
      exact reports

/-- A session on the third day and an action on the fifth. -/
def visitedTwice : List Operation :=
  [.startSession 3 600 0 {} 0, .recordAction 0 5 600 0]

theorem absence_since_last_session_visited :
    Reports (startSession (after visitedTwice) 10 600 0 {} 0).2 6 :=
  (absence_since_last_session (.call (.call .fresh (.startSession 3 600 0 {} 0) id)
      (.recordAction 0 5 600 0) id)
    10 600 0 {} 0 (by decide +kernel)).1 3 (by decide +kernel)

/--
An absence beyond sixteen bits is reported as the greatest such number, and actions
before the first session make it report days since day zero.
-/
theorem absence_not_exact :
    (startSession (after [.startSession 0 600 0 {} 0]) 70000 600 0 {} 0).2.valid =
        true ∧
      (startSession (after [.startSession 0 600 0 {} 0]) 70000 600 0 {}
        0).2.absentDays.toNat ≠ daysBetween 0 70000 ∧
      (startSession (after [.recordAction 0 10 600 0]) 10 600 0 {} 0).2.absentDays =
        9 ∧
      (startSession (after [.recordAction 0 10 600 0]) 10 600 0 {}
        0).2.comebackDay = true := by
  decide +kernel

end Kitsu.Progression
