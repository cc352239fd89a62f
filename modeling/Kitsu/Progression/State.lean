import Kitsu.Crc32
import Kitsu.Lib.Layout
import Kitsu.Lib.RingBuffer
import Kitsu.Mix32

/-!
# The companion progression record

The packed record of `companion_progression.h`, its snapshot and the predicate that
decides whether a snapshot is taken back.  Enumerations are stored as their byte.

The header of the record (magic, schema, size) never changes, and every snapshot
computes its checksum anew; a state here holds what stands between them.  The record
of personal bests is not packed and has one byte of alignment, which copies along.
-/

namespace Kitsu.Progression

open Kitsu.Lib
open Kitsu.Lib.ByteString

abbrev kActionCount : Nat := 8
abbrev kTimeBucketCount : Nat := 4
abbrev kCallbackCapacity : Nat := 6
abbrev kNicknameCapacity : Nat := 12
abbrev kNoAction : UInt8 := 255
abbrev kNoQuestion : UInt8 := 255
abbrev kNoHabit : UInt8 := 255
abbrev kMagic : UInt32 := 0x4B505231
abbrev kSchema : UInt16 := 1

/-- `sizeof(PersistedState)`. -/
abbrev kSnapshotBytes : Nat := 204

/-! ## Enumerations -/

/-- The care actions. -/
inductive Action where
  | pet
  | feed
  | play
  | listen
  | sleep
  | wake
  | meet
  | gift
deriving DecidableEq, Repr

/-- The parts of the day. -/
inductive TimeBucket where
  | morning
  | day
  | evening
  | night
deriving DecidableEq, Repr

/-- What a memory is about. -/
inductive CallbackKind where
  | event
  | dream
  | expedition
  | friend
  | perfectDay
  | bondMilestone
  | ritual
  | anniversary
deriving DecidableEq, Repr

/-- How the companion greets. -/
inductive GreetingKind where
  | normal
  | missedYou
  | longAbsence
  | comeback
deriving DecidableEq, Repr

/-- What the goal of a day asks for. -/
inductive GoalKind where
  | anyCare
  | variety
  | favorite
deriving DecidableEq, Repr

/-- Where a request stands. -/
inductive RequestState where
  | none
  | pending
  | accepted
  | declined
  | completed
deriving DecidableEq, Repr

/-- What the companion has to be comforted for. -/
inductive ComfortKind where
  | none
  | tired
  | lonely
  | restless
deriving DecidableEq, Repr

/-- The byte that stands for an action in the snapshot. -/
def Action.code : Action → UInt8
  | .pet => 0
  | .feed => 1
  | .play => 2
  | .listen => 3
  | .sleep => 4
  | .wake => 5
  | .meet => 6
  | .gift => 7

/-- The byte that stands for a part of the day. -/
def TimeBucket.code : TimeBucket → UInt8
  | .morning => 0
  | .day => 1
  | .evening => 2
  | .night => 3

/-- The byte that stands for a kind in the snapshot. -/
def CallbackKind.code : CallbackKind → UInt8
  | .event => 0
  | .dream => 1
  | .expedition => 2
  | .friend => 3
  | .perfectDay => 4
  | .bondMilestone => 5
  | .ritual => 6
  | .anniversary => 7

/-- The byte that stands for a goal in the snapshot. -/
def GoalKind.code : GoalKind → UInt8
  | .anyCare => 0
  | .variety => 1
  | .favorite => 2

/-- The byte that stands for a request's state in the snapshot. -/
def RequestState.code : RequestState → UInt8
  | .none => 0
  | .pending => 1
  | .accepted => 2
  | .declined => 3
  | .completed => 4

/-- The byte that stands for a comfort in the snapshot. -/
def ComfortKind.code : ComfortKind → UInt8
  | .none => 0
  | .tired => 1
  | .lonely => 2
  | .restless => 3

/-! ## The record -/

/-- A memory and the day from which it can be told. -/
structure CallbackRecord where
  dueDay : UInt32 := 0
  kind : UInt8 := 0
  detail : UInt8 := 0
deriving DecidableEq, Inhabited

/-- The best figures there have been. -/
structure PersonalBests where
  dailyActions : UInt16 := 0
  dailyVariety : UInt8 := 0
  varietyChain : UInt8 := 0
  careRhythm : UInt8 := 0
  alignment : UInt8 := 0
  streak : UInt16 := 0
deriving DecidableEq

/-- The fields of `PersistedState` between its header and its checksum. -/
structure State where
  companionFingerprint : UInt32 := 0
  firstDay : UInt32 := 0
  currentDay : UInt32 := 0
  lastSessionDay : UInt32 := 0
  lastActionDay : UInt32 := 0
  lastPerfectDay : UInt32 := 0
  lastRareDay : UInt32 := 0
  totalActions : UInt32 := 0
  achievements : UInt32 := 0
  lore : UInt16 := 0
  activeDays : UInt16 := 0
  currentStreak : UInt16 := 0
  perfectDays : UInt16 := 0
  acceptedRequests : UInt16 := 0
  declinedRequests : UInt16 := 0
  lastActionMinute : UInt16 := 0
  dailyActions : UInt16 := 0
  actionCounts : Vector UInt16 kActionCount := Vector.replicate kActionCount 0
  actionBucketCounts : Vector (Vector UInt8 kTimeBucketCount) kActionCount :=
    Vector.replicate kActionCount (Vector.replicate kTimeBucketCount 0)
  dailyActionMask : UInt8 := 0
  lastAction : UInt8 := kNoAction
  lastSuggestedAction : UInt8 := kNoAction
  repeatCount : UInt8 := 0
  favoriteAction : UInt8 := kNoAction
  moodMomentum : Int8 := 0
  speechStage : UInt8 := 0
  highestBondBank : UInt8 := 0
  varietyChain : UInt8 := 0
  dailyRhythm : UInt8 := 0
  goalKind : UInt8 := GoalKind.anyCare.code
  goalAction : UInt8 := 0
  goalTarget : UInt8 := 2
  goalProgress : UInt8 := 0
  requestState : UInt8 := RequestState.none.code
  requestAction : UInt8 := 0
  pendingQuestion : UInt8 := kNoQuestion
  questionPreferences : UInt8 := 0
  comfort : UInt8 := ComfortKind.none.code
  ritualAction : UInt8 := kNoAction
  ritualBucket : UInt8 := 0
  ritualStreak : UInt8 := 0
  ritualLastDay : UInt32 := 0
  secretHabit : UInt8 := kNoHabit
  callbackHead : UInt8 := 0
  callbackCount : UInt8 := 0
  callbacks : Vector CallbackRecord kCallbackCapacity :=
    Vector.replicate kCallbackCapacity {}
  nickname : Vector UInt8 (kNicknameCapacity + 1) :=
    Vector.replicate (kNicknameCapacity + 1) 0
  graceUsed : UInt8 := 0
  dailyComeback : UInt8 := 0
  rareShownToday : UInt8 := 0
  anniversaryShownToday : UInt8 := 0
  weeklySeenMask : UInt8 := 0
  reservedFlags : UInt8 := 0
  bests : PersonalBests := {}
deriving DecidableEq

/-- A whole `PersistedState`. -/
structure Snapshot where
  magic : UInt32
  schema : UInt16
  bytes : UInt16
  state : State
  crc32 : UInt32
deriving DecidableEq

/-! ## Its bytes -/

section Layouts

open Layout

def signed : Layout Int8 :=
  byte.as Int8.ofUInt8 Int8.toUInt8 (fun _ => rfl) (fun _ => rfl)

/-- The bytes of a memory. -/
def CallbackRecord.layout : Layout CallbackRecord :=
  (word32.pair <| byte.pair byte).as
    (fun (dueDay, kind, detail) => { dueDay, kind, detail })
    (fun record => (record.dueDay, record.kind, record.detail))
    (fun _ => rfl) (fun _ => rfl)

/-- The bytes of the personal bests. -/
def PersonalBests.layout : Layout PersonalBests :=
  (word16.pair <| byte.pair <| byte.pair <| byte.pair <| byte.pair word16).as
    (fun (dailyActions, dailyVariety, varietyChain, careRhythm, alignment,
        streak) =>
      { dailyActions, dailyVariety, varietyChain, careRhythm, alignment, streak })
    (fun bests =>
      (bests.dailyActions, bests.dailyVariety, bests.varietyChain,
        bests.careRhythm, bests.alignment, bests.streak))
    (fun _ => rfl) (fun _ => rfl)

/-- The bytes of the state, in the order of the source's structure. -/
def State.layout : Layout State :=
  (word32.pair <| word32.pair <| word32.pair <| word32.pair <| word32.pair <|
    word32.pair <| word32.pair <| word32.pair <| word32.pair <|
    word16.pair <| word16.pair <| word16.pair <| word16.pair <| word16.pair <|
    word16.pair <| word16.pair <| word16.pair <|
    (vector kActionCount word16).pair <|
    (vector kActionCount (vector kTimeBucketCount byte)).pair <|
    byte.pair <| byte.pair <| byte.pair <| byte.pair <| byte.pair <|
    signed.pair <| byte.pair <| byte.pair <| byte.pair <| byte.pair <|
    byte.pair <| byte.pair <| byte.pair <| byte.pair <| byte.pair <|
    byte.pair <| byte.pair <| byte.pair <| byte.pair <| byte.pair <|
    byte.pair <| byte.pair <| word32.pair <|
    byte.pair <| byte.pair <| byte.pair <|
    (vector kCallbackCapacity CallbackRecord.layout).pair <|
    (vector (kNicknameCapacity + 1) byte).pair <|
    byte.pair <| byte.pair <| byte.pair <| byte.pair <| byte.pair <|
    byte.pair PersonalBests.layout).as
    (fun (companionFingerprint, firstDay, currentDay, lastSessionDay,
        lastActionDay, lastPerfectDay, lastRareDay, totalActions, achievements,
        lore, activeDays, currentStreak, perfectDays, acceptedRequests,
        declinedRequests, lastActionMinute, dailyActions, actionCounts,
        actionBucketCounts, dailyActionMask, lastAction, lastSuggestedAction,
        repeatCount, favoriteAction, moodMomentum, speechStage, highestBondBank,
        varietyChain, dailyRhythm, goalKind, goalAction, goalTarget,
        goalProgress, requestState, requestAction, pendingQuestion,
        questionPreferences, comfort, ritualAction, ritualBucket, ritualStreak,
        ritualLastDay, secretHabit, callbackHead, callbackCount, callbacks,
        nickname, graceUsed, dailyComeback, rareShownToday,
        anniversaryShownToday, weeklySeenMask, reservedFlags, bests) =>
      { companionFingerprint, firstDay, currentDay, lastSessionDay,
        lastActionDay, lastPerfectDay, lastRareDay, totalActions, achievements,
        lore, activeDays, currentStreak, perfectDays, acceptedRequests,
        declinedRequests, lastActionMinute, dailyActions, actionCounts,
        actionBucketCounts, dailyActionMask, lastAction, lastSuggestedAction,
        repeatCount, favoriteAction, moodMomentum, speechStage, highestBondBank,
        varietyChain, dailyRhythm, goalKind, goalAction, goalTarget,
        goalProgress, requestState, requestAction, pendingQuestion,
        questionPreferences, comfort, ritualAction, ritualBucket, ritualStreak,
        ritualLastDay, secretHabit, callbackHead, callbackCount, callbacks,
        nickname, graceUsed, dailyComeback, rareShownToday,
        anniversaryShownToday, weeklySeenMask, reservedFlags, bests })
    (fun state =>
      (state.companionFingerprint, state.firstDay, state.currentDay,
        state.lastSessionDay, state.lastActionDay, state.lastPerfectDay,
        state.lastRareDay, state.totalActions, state.achievements, state.lore,
        state.activeDays, state.currentStreak, state.perfectDays,
        state.acceptedRequests, state.declinedRequests, state.lastActionMinute,
        state.dailyActions, state.actionCounts, state.actionBucketCounts,
        state.dailyActionMask, state.lastAction, state.lastSuggestedAction,
        state.repeatCount, state.favoriteAction, state.moodMomentum,
        state.speechStage, state.highestBondBank, state.varietyChain,
        state.dailyRhythm, state.goalKind, state.goalAction, state.goalTarget,
        state.goalProgress, state.requestState, state.requestAction,
        state.pendingQuestion, state.questionPreferences, state.comfort,
        state.ritualAction, state.ritualBucket, state.ritualStreak,
        state.ritualLastDay, state.secretHabit, state.callbackHead,
        state.callbackCount, state.callbacks, state.nickname, state.graceUsed,
        state.dailyComeback, state.rareShownToday, state.anniversaryShownToday,
        state.weeklySeenMask, state.reservedFlags, state.bests))
    (fun _ => rfl) (fun _ => rfl)

/-- The bytes of a snapshot: header, state and checksum. -/
def Snapshot.layout : Layout Snapshot :=
  (word32.pair <| word16.pair <| word16.pair <|
    State.layout.pair word32).as
    (fun (magic, schema, bytes, state, crc32) =>
      { magic, schema, bytes, state, crc32 })
    (fun snapshot =>
      (snapshot.magic, snapshot.schema, snapshot.bytes, snapshot.state,
        snapshot.crc32))
    (fun _ => rfl) (fun _ => rfl)

example : Snapshot.layout.size = kSnapshotBytes :=
  rfl

end Layouts

end Kitsu.Progression

/-!
# Callbacks and days

The private helpers of `companion_progression.cpp`: the callback queue, the daily seed,
and the turn from one local day to the next with its streak, grace and goal.
-/

namespace Kitsu.Progression

open Kitsu.Lib

/-! ## Numbers -/

/-- A later day, at most the last one. -/
def addDaysSaturated (day : UInt32) (delay : UInt8) : UInt32 :=
  if 0xFFFFFFFF - day < delay.toUInt32 then 0xFFFFFFFF
  else day + delay.toUInt32

/-- The bits counted so far, and those still in the register. -/
def popcountFrom : Nat → UInt8 → UInt8 → UInt8
  | 0, count, _ => count
  | rounds + 1, count, value =>
    if value = 0 then count
    else popcountFrom rounds (count + (value &&& 1)) (value >>> 1)

/-- How many bits are set. -/
def popcount8 (value : UInt8) : UInt8 :=
  popcountFrom 8 0 value

/-- One more, at most what a byte holds. -/
def saturatingIncrement8 (value : UInt8) : UInt8 :=
  if value = 0xFF then value else value + 1

/-- One more, at most what two bytes hold. -/
def saturatingIncrement16 (value : UInt16) : UInt16 :=
  if value = 0xFFFF then value else value + 1

/-- One more, at most what four bytes hold. -/
def saturatingIncrement32 (value : UInt32) : UInt32 :=
  if value = 0xFFFFFFFF then value else value + 1

/-- The momentum within its bounds. -/
def clampMomentum (value : Int) : Int8 :=
  if 12 < value then 12
  else if value < -12 then -12
  else Int8.ofInt value

def validAction (action : UInt8) : Bool :=
  decide (action.toNat < kActionCount)

/-! ## Unlocks -/

abbrev AchievementFirstCallback : UInt32 := 1
abbrev AchievementFavoriteLearned : UInt32 := 2
abbrev AchievementRitual : UInt32 := 4
abbrev AchievementSecretHabit : UInt32 := 8
abbrev AchievementPerfectDay : UInt32 := 16
abbrev AchievementStreakSeven : UInt32 := 32
abbrev AchievementComeback : UInt32 := 64
abbrev AchievementDreamer : UInt32 := 128
abbrev AchievementExplorer : UInt32 := 256
abbrev AchievementFriendly : UInt32 := 512
abbrev AchievementAnniversary : UInt32 := 1024
abbrev AchievementRareMoment : UInt32 := 2048
abbrev AchievementVarietyFive : UInt32 := 4096
abbrev AchievementHundredActions : UInt32 := 8192

abbrev LoreFirstMemory : UInt16 := 1
abbrev LoreFavorite : UInt16 := 2
abbrev LoreRitual : UInt16 := 4
abbrev LoreSecretHabit : UInt16 := 8
abbrev LoreDream : UInt16 := 16
abbrev LoreExpedition : UInt16 := 32
abbrev LoreFriend : UInt16 := 64
abbrev LorePerfectDay : UInt16 := 128
abbrev LoreBond : UInt16 := 256
abbrev LoreAnniversary : UInt16 := 512

/-- Mark an achievement and a piece of lore as unlocked. -/
def unlock (state : State) (achievement : UInt32) (lore : UInt16) : State :=
  { state with
    achievements := state.achievements ||| achievement
    lore := state.lore ||| lore }

/-- The achievements that figures unlock. -/
def updateLoreAndAchievements (state : State) : State :=
  let variety :=
    if 5 ≤ state.bests.dailyVariety then AchievementVarietyFive else 0
  let hundred :=
    if 100 ≤ state.totalActions then AchievementHundredActions else 0
  let streak :=
    if 7 ≤ state.currentStreak then AchievementStreakSeven else 0
  unlock state (variety ||| hundred ||| streak) 0

/-! ## The callback queue -/

/-- The callbacks held, in the order in which they were queued. -/
def retained (state : State) : List CallbackRecord :=
  FifoRing.items state.callbacks state.callbackHead.toNat
    state.callbackCount.toNat

/-- Whether a callback of this kind and detail is held. -/
def holdsCallback (state : State) (kind : CallbackKind) (detail : UInt8) : Bool :=
  (retained state).any fun existing =>
    existing.kind = kind.code && existing.detail = detail

/-- Put a memory in the ring, unless it is there or the ring is full. -/
def enqueueCallback (state : State) (kind : CallbackKind) (detail : UInt8)
    (dueDay : UInt32) : State × Bool :=
  if holdsCallback state kind detail then (state, true)
  else if kCallbackCapacity ≤ state.callbackCount.toNat then (state, false)
  else
    let tail := (state.callbackHead.toNat + state.callbackCount.toNat) %
      kCallbackCapacity
    ({ state with
        callbacks := state.callbacks.setIfInBounds tail
          { dueDay, kind := kind.code, detail }
        callbackCount := state.callbackCount + 1 }, true)

/-- The oldest callback, which `callbackReady` and `takeCallback` look at. -/
def oldestCallback (state : State) : CallbackRecord :=
  state.callbacks[state.callbackHead.toNat]?.getD default

/-- The oldest memory can be told. -/
def callbackReady (state : State) (day : UInt32) : Bool :=
  if state.callbackCount = 0 then false
  else decide ((oldestCallback state).dueDay ≤ day)

/-! ## The day -/

def hasFavorite (state : State) : Bool :=
  validAction state.favoriteAction

def hasSecretHabit (state : State) : Bool :=
  decide (state.secretHabit < 6)

def dailySeed (state : State) (day : UInt32) : UInt32 :=
  mix32 (state.companionFingerprint ^^^ (day * 0x9E3779B9) ^^^ 0x44535931)

/-- A missed day takes the grace first and then the streak. -/
def missDay (state : State) : State :=
  if state.currentStreak = 0 then state
  else if state.graceUsed = 0 then { state with graceUsed := 1 }
  else { state with currentStreak := 0 }

/-- The streak goes on; every seventh day of it renews the grace. -/
def extendStreak (state : State) : State :=
  let streak := saturatingIncrement16 state.currentStreak
  { state with
    currentStreak := streak
    graceUsed := if streak ≠ 0 ∧ streak % 7 = 0 then 0 else state.graceUsed }

/-- The longest streak there has been. -/
def keepStreakBest (state : State) : State :=
  { state with
    bests := { state.bests with
      streak :=
        if state.bests.streak < state.currentStreak then state.currentStreak
        else state.bests.streak } }

/-- Count a perfect day. -/
def countPerfectDay (state : State) : State :=
  { state with
    perfectDays := saturatingIncrement16 state.perfectDays
    lastPerfectDay := state.currentDay }

/-- A perfect day is counted and remembered for the day after. -/
def recordPerfectDay (state : State) : State :=
  (enqueueCallback
    (unlock (countPerfectDay state) AchievementPerfectDay LorePerfectDay)
    .perfectDay 0 (addDaysSaturated state.currentDay 1)).1

/-- Settle a day on which something was done. -/
def finalizeActiveDay (state : State) : State × Bool :=
  let completed := decide (state.goalTarget ≤ state.goalProgress)
  let counted := keepStreakBest (bif completed then extendStreak state else missDay state)
  let perfect := completed && decide (3 ≤ popcount8 counted.dailyActionMask) &&
    decide (counted.dailyRhythm ≠ 0)
  (updateLoreAndAchievements (bif perfect then recordPerfectDay counted else counted),
    perfect)

/-- What a new day starts without. -/
def clearDay (state : State) : State :=
  { state with
    dailyActions := 0
    dailyActionMask := 0
    dailyRhythm := 0
    varietyChain := 0
    repeatCount := 0
    lastSuggestedAction := kNoAction
    requestState := RequestState.none.code
    requestAction := 0
    comfort := ComfortKind.none.code
    dailyComeback := 0
    rareShownToday := 0
    anniversaryShownToday := 0
    reservedFlags := state.reservedFlags &&& ~~~1 }

/-- A goal for the day. -/
def setGoal (state : State) (kind : GoalKind) (action target : UInt8) : State :=
  { state with
    goalKind := kind.code
    goalAction := action
    goalTarget := target }

/-- The goal of a day, by what was done on average. -/
def chooseGoal (state : State) (seed : UInt32) : State :=
  let average : UInt32 :=
    if state.activeDays = 0 then 0
    else state.totalActions / state.activeDays.toUInt32
  if hasFavorite state = true ∧ seed % 3 = 0 then
    setGoal state .favorite state.favoriteAction (if 5 ≤ average then 3 else 2)
  else if 4 ≤ average then
    setGoal state .variety 0 (if 8 ≤ average then 4 else 3)
  else
    setGoal state .anyCare 0 (if average = 0 then 2 else 3)

/-- The goal starts anew, a question may come up, and the day is counted. -/
def openDay (state : State) (seed : UInt32) : State :=
  { state with
    goalProgress := 0
    pendingQuestion :=
      if seed % 3 = 0 then ((seed >>> 8) % 3).toUInt8 else kNoQuestion
    activeDays := saturatingIncrement16 state.activeDays }

def beginFreshDay (state : State) (day : UInt32) : State :=
  let seed := dailySeed state day
  openDay (chooseGoal (clearDay state) seed) seed

/-- The mood goes back towards its middle, by one a day. -/
def fadeMomentum (state : State) (gap : UInt32) : State :=
  let decay : Int := if 12 < gap then 12 else gap.toNat
  let momentum := state.moodMomentum.toInt
  { state with
    moodMomentum :=
      if 0 < momentum then
        if momentum - decay < 0 then 0 else Int8.ofInt (momentum - decay)
      else if momentum < 0 then
        if 0 < momentum + decay then 0 else Int8.ofInt (momentum + decay)
      else state.moodMomentum }

/-- The days gone by without a visit. -/
def missDays (state : State) (gap : UInt32) : State :=
  let missed := if 1 < gap then missDay state else state
  if 2 < gap ∧ missed.currentStreak ≠ 0 then missDay missed else missed

/-- Where `moveToDay` left the state, and what it told its caller. -/
structure Moved where
  state : State
  moved : Bool
  previousPerfect : Bool

/--
Turn to a day: settle the last one, miss those in between, begin the new one.
-/
def moveToDay (state : State) (day : UInt32) : Moved :=
  if day < state.firstDay then ⟨state, false, false⟩
  else if state.activeDays = 0 then
    ⟨beginFreshDay { state with currentDay := day } day, true, false⟩
  else if day < state.currentDay then ⟨state, false, false⟩
  else if day = state.currentDay then ⟨state, true, false⟩
  else
    let gap := day - state.currentDay
    let finalized := finalizeActiveDay state
    let faded := fadeMomentum (missDays finalized.1 gap) gap
    ⟨beginFreshDay { faded with currentDay := day } day, true, finalized.2⟩

end Kitsu.Progression
