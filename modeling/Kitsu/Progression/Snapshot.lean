import Kitsu.Progression.State

/-!
# Writing and restoring a snapshot

`writeSnapshot` packs the record with a header and a checksum of its own; whatever the
header in memory says is not written.  `restoreSnapshot` takes back exactly the bytes
of a record that `validState` accepts.
-/

namespace Kitsu.Progression

open Kitsu.Lib
open Kitsu.Lib.ByteString

/-- The checksum of a snapshot; its own field counts as zero. -/
def calculateCrc (snapshot : Snapshot) : UInt32 :=
  Crc32.crc32 (Snapshot.layout.write { snapshot with crc32 := 0 })

/-- The snapshot is of the known format and of this companion. -/
def validHeader (candidate : Snapshot) (expectedFingerprint : UInt32) : Bool :=
  candidate.magic = kMagic && candidate.schema = kSchema &&
    candidate.bytes = UInt16.ofNat kSnapshotBytes &&
    candidate.state.companionFingerprint = expectedFingerprint &&
    candidate.crc32 = calculateCrc candidate

/-- A byte that names an action, or stands for none. -/
def actionOrNone (action : UInt8) : Bool :=
  action = kNoAction || validAction action

/-- The fields are in range and fit each other. -/
def validFields (candidate : State) : Bool :=
  !(decide (candidate.currentDay < candidate.firstDay) ||
    (decide (candidate.activeDays ≠ 0) &&
      decide (candidate.currentDay < candidate.lastSessionDay)) ||
    decide (1440 ≤ candidate.lastActionMinute) ||
    !actionOrNone candidate.lastAction ||
    !actionOrNone candidate.lastSuggestedAction ||
    !actionOrNone candidate.favoriteAction ||
    decide (3 < candidate.speechStage) ||
    decide (3 < candidate.highestBondBank) ||
    decide (GoalKind.favorite.code < candidate.goalKind) ||
    !validAction candidate.goalAction ||
    decide (candidate.goalTarget = 0) ||
    decide (RequestState.completed.code < candidate.requestState) ||
    !validAction candidate.requestAction ||
    (decide (candidate.pendingQuestion ≠ kNoQuestion) &&
      decide (2 < candidate.pendingQuestion)) ||
    decide (ComfortKind.restless.code < candidate.comfort) ||
    !actionOrNone candidate.ritualAction ||
    decide (kTimeBucketCount ≤ candidate.ritualBucket.toNat) ||
    (decide (candidate.secretHabit ≠ kNoHabit) &&
      decide (6 ≤ candidate.secretHabit)) ||
    decide (kCallbackCapacity ≤ candidate.callbackHead.toNat) ||
    decide (kCallbackCapacity < candidate.callbackCount.toNat) ||
    decide (candidate.moodMomentum.toInt < -12) ||
    decide (12 < candidate.moodMomentum.toInt) ||
    decide (1 < candidate.dailyComeback) ||
    decide (1 < candidate.rareShownToday) ||
    decide (1 < candidate.anniversaryShownToday) ||
    decide (1 < candidate.graceUsed))

/-- What a nickname is made of. -/
def printable (value : UInt8) : Bool :=
  decide (32 ≤ value) && decide (value ≤ 126)

/-- The loop of `validState` over the nickname: printable up to a terminating zero. -/
def validNickname : Bytes → Bool
  | [] => false
  | value :: rest =>
    if value = 0 then true
    else if printable value then validNickname rest
    else false

/-- The memories in the ring are of known kinds. -/
def validCallbacks (candidate : State) : Bool :=
  (retained candidate).all fun record =>
    decide (record.kind ≤ CallbackKind.anniversary.code)

/-- What a snapshot must meet before it is taken over. -/
def validState (candidate : Snapshot) (expectedFingerprint : UInt32) : Bool :=
  validHeader candidate expectedFingerprint && validFields candidate.state &&
    validNickname candidate.state.nickname.toList &&
    validCallbacks candidate.state

/-- The record as `writeSnapshot` completes it. -/
def unsealed (state : State) : Snapshot where
  magic := kMagic
  schema := kSchema
  bytes := UInt16.ofNat kSnapshotBytes
  state := state
  crc32 := 0

def snapshotOf (state : State) : Snapshot :=
  { unsealed state with crc32 := calculateCrc (unsealed state) }

/-- `capacity` is absent for a null destination. -/
def writeSnapshot (state : State) (capacity : Option Nat) : Option Bytes :=
  match capacity with
  | none => none
  | some capacity =>
    if capacity < kSnapshotBytes then none
    else some (Snapshot.layout.write (snapshotOf state))

/-- Take over a valid snapshot; any other leaves the state as it was. -/
def restoreSnapshot (state : State) (source : Option Bytes)
    (expectedCompanionFingerprint : UInt32) : State × Bool :=
  match source with
  | none => (state, false)
  | some bytes =>
    if bytes.length ≠ kSnapshotBytes then (state, false)
    else
      let candidate := Snapshot.layout.read bytes
      if validState candidate expectedCompanionFingerprint then
        (candidate.state, true)
      else (state, false)

/-! ## What a valid record holds -/

/-- The ranges that `validFields` checks. -/
structure Ranged (state : State) : Prop where
  begun : state.firstDay ≤ state.currentDay
  session : state.activeDays ≠ 0 → state.lastSessionDay ≤ state.currentDay
  minute : state.lastActionMinute < 1440
  lastAction : actionOrNone state.lastAction = true
  suggestion : actionOrNone state.lastSuggestedAction = true
  favorite : actionOrNone state.favoriteAction = true
  speech : state.speechStage ≤ 3
  bond : state.highestBondBank ≤ 3
  goalKind : state.goalKind ≤ GoalKind.favorite.code
  goalAction : validAction state.goalAction = true
  goalTarget : state.goalTarget ≠ 0
  request : state.requestState ≤ RequestState.completed.code
  requestAction : validAction state.requestAction = true
  question : state.pendingQuestion ≠ kNoQuestion → state.pendingQuestion ≤ 2
  comfort : state.comfort ≤ ComfortKind.restless.code
  ritualAction : actionOrNone state.ritualAction = true
  ritualBucket : state.ritualBucket.toNat < kTimeBucketCount
  habit : state.secretHabit ≠ kNoHabit → state.secretHabit < 6
  head : state.callbackHead.toNat < kCallbackCapacity
  count : state.callbackCount.toNat ≤ kCallbackCapacity
  lowMood : -12 ≤ state.moodMomentum.toInt
  highMood : state.moodMomentum.toInt ≤ 12
  comeback : state.dailyComeback ≤ 1
  rare : state.rareShownToday ≤ 1
  anniversary : state.anniversaryShownToday ≤ 1
  grace : state.graceUsed ≤ 1

theorem validFields_iff (state : State) :
    validFields state = true ↔ Ranged state := by
  constructor
  · intro valid
    simp only [validFields, Bool.not_eq_true', Bool.or_eq_false_iff,
      Bool.and_eq_false_imp, decide_eq_true_eq, decide_eq_false_iff_not,
      Bool.not_eq_false', UInt32.not_lt, UInt16.not_le, UInt8.not_lt,
      UInt8.not_le, Nat.not_le, Nat.not_lt, Int.not_lt, and_assoc] at valid
    rcases valid with ⟨begun, session, minute, lastAction, suggestion, favorite,
      speech, bond, goalKind, goalAction, goalTarget, request, requestAction,
      question, comfort, ritualAction, ritualBucket, habit, head, count, lowMood,
      highMood, comeback, rare, anniversary, grace⟩
    constructor <;> assumption
  · rintro ⟨begun, session, minute, lastAction, suggestion, favorite,
      speech, bond, goalKind, goalAction, goalTarget, request, requestAction,
      question, comfort, ritualAction, ritualBucket, habit, head, count, lowMood,
      highMood, comeback, rare, anniversary, grace⟩
    simp only [validFields, Bool.not_eq_true', Bool.or_eq_false_iff,
      Bool.and_eq_false_imp, decide_eq_true_eq, decide_eq_false_iff_not,
      Bool.not_eq_false', UInt32.not_lt, UInt16.not_le, UInt8.not_lt,
      UInt8.not_le, Nat.not_le, Nat.not_lt, Int.not_lt, and_assoc]
    exact ⟨begun, session, minute, lastAction, suggestion, favorite,
      speech, bond, goalKind, goalAction, goalTarget, request, requestAction,
      question, comfort, ritualAction, ritualBucket, habit, head, count, lowMood,
      highMood, comeback, rare, anniversary, grace⟩

/-! ## Restoring -/

theorem length_snapshot (snapshot : Snapshot) :
    (Snapshot.layout.write snapshot).length = kSnapshotBytes :=
  Snapshot.layout.length_write snapshot

/-- A snapshot is restored exactly when its record passes the checks. -/
theorem restoreSnapshot_write (state : State) (snapshot : Snapshot)
    (fingerprint : UInt32) :
    restoreSnapshot state (some (Snapshot.layout.write snapshot)) fingerprint =
      if validState snapshot fingerprint then (snapshot.state, true)
      else (state, false) := by
  rw [restoreSnapshot, if_neg (not_not.mpr (length_snapshot snapshot)),
    Layout.read_write]

/-- The checks on what stands between the header and the checksum. -/
def validRecord (state : State) : Bool :=
  validFields state && validNickname state.nickname.toList &&
    validCallbacks state

theorem validRecord_of_validState {candidate : Snapshot} {fingerprint : UInt32}
    (valid : validState candidate fingerprint = true) :
    validRecord candidate.state = true := by
  rw [validState, Bool.and_assoc, Bool.and_assoc, Bool.and_eq_true] at valid
  rw [validRecord, Bool.and_assoc]
  exact valid.2

/-- A restore takes a record that passes the checks, or leaves the state alone. -/
theorem restoreSnapshot_cases (state : State) (source : Option Bytes)
    (fingerprint : UInt32) :
    (∃ restored, validRecord restored = true ∧
        restoreSnapshot state source fingerprint = (restored, true)) ∨
      restoreSnapshot state source fingerprint = (state, false) := by
  cases source with
  | none => exact Or.inr rfl
  | some bytes =>
    rw [restoreSnapshot]
    dsimp only
    split
    · exact Or.inr rfl
    · split
      next valid => exact Or.inl ⟨_, validRecord_of_validState valid, rfl⟩
      next => exact Or.inr rfl

end Kitsu.Progression
