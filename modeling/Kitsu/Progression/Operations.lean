import Kitsu.Progression.State
import Kitsu.Lib.Run
import Kitsu.Progression.Snapshot

/-!
# Recording an action

`CompanionProgression::recordAction` and its helpers.  The action comes as the byte of
its enumeration, which need not name an action.  The call is cut into the steps of the
source, each a function of the record; `performAction` is what follows once the day
was moved to.
-/

namespace Kitsu.Progression

/-- The part of the day of a minute. -/
def timeBucket (minuteOfDay : UInt16) : TimeBucket :=
  if 300 ≤ minuteOfDay ∧ minuteOfDay < 720 then .morning
  else if 720 ≤ minuteOfDay ∧ minuteOfDay < 1020 then .day
  else if 1020 ≤ minuteOfDay ∧ minuteOfDay < 1320 then .evening
  else .night

/-- The bank of dialogues for a bond. -/
def bondDialogueBank (bondLevel : UInt8) : UInt8 :=
  if 5 ≤ bondLevel then 3
  else if 3 ≤ bondLevel then 2
  else if bondLevel = 0 then 0
  else 1

/-- What a care action led to. -/
structure ActionResult where
  valid : Bool := false
  repeatCount : UInt8 := 0
  repeatNoticed : Bool := false
  followUp : Action := .pet
  followedSuggestion : Bool := false
  favoriteChanged : Bool := false
  ritualRecognized : Bool := false
  secretHabitUnlocked : Bool := false
  requestCompleted : Bool := false
  goalCompletedNow : Bool := false
  comforted : Bool := false
  varietyChain : UInt8 := 0
  dailyVariety : UInt8 := 0
  rhythmBonus : UInt8 := 0
  moodMomentum : Int8 := 0
  speechStage : UInt8 := 0
  bondDialogueBank : UInt8 := 0
deriving DecidableEq

/-- What the companion suggests after each action. -/
def kFollowUps : Vector Action kActionCount :=
  #v[.play, .listen, .pet, .gift, .wake, .feed, .listen, .pet]

def kMomentumDelta : Vector Int kActionCount :=
  #v[2, 1, 2, 1, 1, 1, 2, 2]

def kHabitActions : Vector Action 6 :=
  #v[.pet, .feed, .play, .listen, .wake, .gift]

/-- The part of the day of each secret habit. -/
def kHabitBuckets : Vector TimeBucket 6 :=
  #v[.morning, .day, .evening, .night, .morning, .evening]

/-! ## The steps -/

/-- Repetition, the next suggestion and the chain of different actions. -/
def noteRepeat (state : State) (index : UInt8) (sameDay : Bool)
    (followUp : Action) : State :=
  let again := sameDay && decide (state.lastAction = index)
  let change := sameDay && decide (state.lastAction ≠ index)
  { state with
    repeatCount := if again then saturatingIncrement8 state.repeatCount else 1
    lastSuggestedAction := followUp.code
    varietyChain :=
      if change then saturatingIncrement8 state.varietyChain else 1 }

/-- How often an action was done in a part of the day. -/
def bucketCount (state : State) (action bucket : Nat) : UInt8 :=
  (state.actionBucketCounts[action]?.getD default)[bucket]?.getD 0

/-- The totals of the action, of its time of day and of the day. -/
def countAction (state : State) (index : UInt8) (bucket : TimeBucket) : State :=
  let action := index.toNat
  let time := bucket.code.toNat
  { state with
    actionCounts := state.actionCounts.setIfInBounds action
      (saturatingIncrement16 (state.actionCounts[action]?.getD 0))
    actionBucketCounts := state.actionBucketCounts.setIfInBounds action
      ((state.actionBucketCounts[action]?.getD default).setIfInBounds time
        (saturatingIncrement8 (bucketCount state action time)))
    totalActions := saturatingIncrement32 state.totalActions
    dailyActions := saturatingIncrement16 state.dailyActions
    dailyActionMask := state.dailyActionMask ||| (1 <<< index) }

/-- Care at a steady distance from the action before. -/
def noteRhythm (state : State) (sameDay : Bool) (minuteOfDay : UInt16) : State :=
  let spacing := minuteOfDay - state.lastActionMinute
  if sameDay = true ∧ state.lastActionMinute ≤ minuteOfDay ∧ 45 ≤ spacing ∧
      spacing ≤ 360 then
    { state with dailyRhythm := saturatingIncrement8 state.dailyRhythm }
  else state

/-- The goal of the day is reached. -/
def goalComplete (state : State) : Bool :=
  decide (state.goalTarget ≤ state.goalProgress)

/-- The goal of the day after an action, by its kind. -/
def advanceGoal (state : State) (index : UInt8) : State :=
  { state with
    goalProgress :=
      if state.goalKind = GoalKind.anyCare.code then
        saturatingIncrement8 state.goalProgress
      else if state.goalKind = GoalKind.variety.code then
        popcount8 state.dailyActionMask
      else if index = state.goalAction then
        saturatingIncrement8 state.goalProgress
      else state.goalProgress }

/-- The greatest and the second greatest count, and the place of the greatest. -/
structure Leader where
  best : UInt16 := 0
  runner : UInt16 := 0
  place : UInt8 := 0

/-- Compare the next action with the two most frequent ones so far. -/
def Leader.see (leader : Leader) (place : UInt8) (count : UInt16) : Leader :=
  if leader.best < count then
    { best := count, runner := leader.best, place }
  else if leader.runner < count then { leader with runner := count }
  else leader

/-- The loop of `updateFavorite` over the actions. -/
def leadingAction (state : State) : Leader :=
  (List.range kActionCount).foldl
    (fun leader action =>
      leader.see (UInt8.ofNat action) (state.actionCounts[action]?.getD 0)) {}

def setFavorite (state : State) (action : UInt8) : State :=
  { unlock state AchievementFavoriteLearned LoreFavorite with
    favoriteAction := action }

/-- The favorite changes only to an action that is clearly ahead. -/
def updateFavorite (state : State) : State × Bool :=
  let leader := leadingAction state
  if 4 ≤ leader.best ∧ leader.runner.toUInt32 + 2 ≤ leader.best.toUInt32 ∧
      state.favoriteAction ≠ leader.place then
    (setFavorite state leader.place, true)
  else (state, false)

/-- The ritual goes on, or begins anew with this action at this time. -/
def followRitual (state : State) (action bucket : UInt8) (day : UInt32) : State :=
  if (validAction state.ritualAction = true ∧ state.ritualLastDay < day ∧
        day - state.ritualLastDay = 1) ∧
      state.ritualAction = action ∧ state.ritualBucket = bucket then
    { state with
      ritualStreak := saturatingIncrement8 state.ritualStreak
      ritualLastDay := day }
  else
    { state with
      ritualAction := action
      ritualBucket := bucket
      ritualStreak := 1
      ritualLastDay := day }

/-- The same action at the same time of day on three days is a ritual. -/
def updateRitual (state : State) (action : UInt8) (bucket : TimeBucket)
    (day : UInt32) : State × Bool :=
  if state.ritualLastDay = day ∧ validAction state.ritualAction = true then
    (state, false)
  else
    let followed := followRitual state action bucket.code day
    if followed.ritualStreak = 3 then
      ((enqueueCallback (unlock followed AchievementRitual LoreRitual) .ritual
        action day).1, true)
    else (followed, false)

def setHabit (state : State) (habit : UInt8) : State :=
  { unlock state AchievementSecretHabit LoreSecretHabit with
    secretHabit := habit }

/-- The companion's secret habit is found after three times. -/
def updateSecretHabit (state : State) : State × Bool :=
  let habit := (state.companionFingerprint % 6).toNat
  let action := kHabitActions[habit]?.getD .pet
  let bucket := kHabitBuckets[habit]?.getD .morning
  if hasSecretHabit state then (state, false)
  else if bucketCount state action.code.toNat bucket.code.toNat < 3 then
    (state, false)
  else (setHabit state (UInt8.ofNat habit), true)

/-- The action that was asked for completes an accepted request. -/
def completeRequest (state : State) (index : UInt8) : State × Bool :=
  if state.requestState = RequestState.accepted.code ∧
      state.requestAction = index then
    ({ state with requestState := RequestState.completed.code }, true)
  else (state, false)

/-- Which actions help against which discomfort. -/
def comforts (comfort action : UInt8) : Bool :=
  (comfort = ComfortKind.tired.code &&
      (action = Action.feed.code || action = Action.sleep.code)) ||
    (comfort = ComfortKind.lonely.code &&
      (action = Action.pet.code || action = Action.meet.code ||
        action = Action.gift.code)) ||
    (comfort = ComfortKind.restless.code &&
      (action = Action.play.code || action = Action.listen.code))

/-- The right action comforts. -/
def updateComfortForAction (state : State) (action : UInt8) : State × Bool :=
  if comforts state.comfort action then
    ({ state with comfort := ComfortKind.none.code }, true)
  else (state, false)

/-- The mood rises by the action, unless it was noticed to repeat. -/
def liftMood (state : State) (index : UInt8) (repeatNoticed : Bool) : State :=
  let delta := kMomentumDelta[index.toNat]?.getD 0
  let momentum := state.moodMomentum.toInt + delta
  { state with
    moodMomentum :=
      clampMomentum (if repeatNoticed then momentum - 2 else momentum) }

/-- Remember the last action and its time. -/
def noteAction (state : State) (index : UInt8) (day : UInt32)
    (minuteOfDay : UInt16) : State :=
  { state with
    lastAction := index
    lastActionDay := day
    lastActionMinute := minuteOfDay }

/-- The stage of speech grows with the actions or the bond. -/
def updateSpeech (state : State) (bondLevel : UInt8) : State :=
  let actionStage : UInt8 :=
    if 75 ≤ state.totalActions then 3
    else if 30 ≤ state.totalActions then 2
    else if 10 ≤ state.totalActions then 1
    else 0
  let bondStage := bondDialogueBank bondLevel
  { state with
    speechStage := if bondStage < actionStage then actionStage else bondStage }

/-- A closer bond than ever before is remembered. -/
def observeBond (state : State) (bondLevel : UInt8) (day : UInt32) :
    State × Bool :=
  let bank := bondDialogueBank bondLevel
  if bank ≤ state.highestBondBank then (state, false)
  else
    ((enqueueCallback { unlock state 0 LoreBond with highestBondBank := bank }
      .bondMilestone bank day).1, true)

/-- The personal bests after an action. -/
def raiseBests (state : State) (dailyVariety : UInt8) : State :=
  { state with
    bests := { state.bests with
      dailyActions :=
        if state.bests.dailyActions < state.dailyActions then state.dailyActions
        else state.bests.dailyActions
      dailyVariety :=
        if state.bests.dailyVariety < dailyVariety then dailyVariety
        else state.bests.dailyVariety
      varietyChain :=
        if state.bests.varietyChain < state.varietyChain then state.varietyChain
        else state.bests.varietyChain
      careRhythm :=
        if state.bests.careRhythm < state.dailyRhythm then state.dailyRhythm
        else state.bests.careRhythm } }

/-! ## The call -/

/-- An action on a day that has been turned to, in the order of the source. -/
def performAction (state : State) (index : UInt8) (day : UInt32)
    (minuteOfDay : UInt16) (bondLevel : UInt8) : State × ActionResult :=
  let sameDay := validAction state.lastAction && decide (state.lastActionDay = day)
  let followUp := kFollowUps[index.toNat]?.getD .pet
  let repeated := noteRepeat state index sameDay followUp
  let repeatNoticed := decide (3 ≤ repeated.repeatCount)
  let counted := noteRhythm (countAction repeated index (timeBucket minuteOfDay))
    sameDay minuteOfDay
  let dailyVariety := popcount8 counted.dailyActionMask
  let advanced := advanceGoal counted index
  let favorite := updateFavorite advanced
  let ritual := updateRitual favorite.1 index (timeBucket minuteOfDay) day
  let habit := updateSecretHabit ritual.1
  let request := completeRequest habit.1 index
  let comfort := updateComfortForAction request.1 index
  let lifted := liftMood comfort.1 index repeatNoticed
  let spoken := updateSpeech (noteAction lifted index day minuteOfDay) bondLevel
  let bonded := (observeBond spoken bondLevel day).1
  let final := updateLoreAndAchievements (raiseBests bonded dailyVariety)
  (final,
    { valid := true
      repeatCount := repeated.repeatCount
      repeatNoticed
      followUp
      followedSuggestion := decide (state.lastSuggestedAction = index)
      favoriteChanged := favorite.2
      ritualRecognized := ritual.2
      secretHabitUnlocked := habit.2
      requestCompleted := request.2
      goalCompletedNow := !goalComplete counted && goalComplete advanced
      comforted := comfort.2
      varietyChain := repeated.varietyChain
      dailyVariety
      rhythmBonus := counted.dailyRhythm
      moodMomentum := final.moodMomentum
      speechStage := final.speechStage
      bondDialogueBank := bondDialogueBank bondLevel })

/-- Turn to the day, then perform the action. -/
def recordAction (state : State) (action : UInt8) (day : UInt32)
    (minuteOfDay : UInt16) (bondLevel : UInt8) : State × ActionResult :=
  if validAction action = false ∨ 1440 ≤ minuteOfDay then (state, {})
  else
    let moved := moveToDay state day
    if moved.moved then
      performAction moved.state action day minuteOfDay bondLevel
    else (moved.state, {})

end Kitsu.Progression

/-!
# Starting a session

`CompanionProgression::startSession`, cut into its steps like `recordAction`.
`openSession` is what follows once the day was moved to; how long the companion was
left alone is settled before, from the state the call found.
-/

namespace Kitsu.Progression

/-- The vitals that a session starts with. -/
structure CompanionVitals where
  energy : UInt8 := 72
  curiosity : UInt8 := 14
  affection : UInt8 := 5
  sleeping : Bool := false
  listening : Bool := false
deriving DecidableEq

/-- The last of the seasons, `Season::Winter`. -/
abbrev winter : UInt8 := 3

/-- The goal of the day. -/
structure DailyGoal where
  kind : UInt8 := GoalKind.anyCare.code
  action : UInt8 := Action.pet.code
  target : UInt8 := 2
  progress : UInt8 := 0
deriving DecidableEq

/-- The goal as the state keeps it. -/
def goalFromState (state : State) : DailyGoal where
  kind := state.goalKind
  action := state.goalAction
  target := state.goalTarget
  progress := state.goalProgress

/-- What the start of a session led to. -/
structure SessionResult where
  valid : Bool := false
  greeting : GreetingKind := .normal
  absentDays : UInt16 := 0
  callbackReady : Bool := false
  requestOffered : Bool := false
  questionOffered : Bool := false
  comebackDay : Bool := false
  anniversary : Bool := false
  seasonalMoment : Bool := false
  rareMoment : Bool := false
  previousDayPerfect : Bool := false
  weeklyChapter : UInt8 := 0
  season : UInt8 := 0
  comfort : UInt8 := ComfortKind.none.code
  goal : DailyGoal := {}
deriving DecidableEq

/-! ## Absence -/

/-- The days without a session before this one; `activeDays` stands for a session. -/
def absence (state : State) (day : UInt32) : UInt32 :=
  if state.activeDays ≠ 0 ∧ state.lastSessionDay < day then
    day - state.lastSessionDay - 1
  else 0

/-- The days of an absence, as the result reports them. -/
def absentDays (absent : UInt32) : UInt16 :=
  if 0xFFFF < absent then 0xFFFF else absent.toUInt16

/-- The greeting after an absence. -/
def greetingFor (absent : UInt32) : GreetingKind :=
  if 7 ≤ absent then .longAbsence
  else if 3 ≤ absent then .comeback
  else if absent ≠ 0 then .missedYou
  else .normal

/-! ## The steps -/

/-- A comeback is remembered for the day. -/
def noteComeback (state : State) (comebackDay : Bool) : State :=
  if comebackDay then
    { unlock state AchievementComeback 0 with dailyComeback := 1 }
  else state

/-- What may be asked for by lot. -/
def kRequests : Vector Action 5 :=
  #v[.pet, .feed, .play, .listen, .meet]

/-- What the companion asks for, by its vitals, its favorite or by lot. -/
def chooseRequest (state : State) (vitals : CompanionVitals) (seed : UInt32) :
    UInt8 :=
  if vitals.sleeping = true ∨ vitals.energy < 20 then Action.sleep.code
  else if 80 < vitals.curiosity then Action.play.code
  else if vitals.affection < 20 then Action.pet.code
  else if hasFavorite state = true ∧ seed &&& 1 ≠ 0 then state.favoriteAction
  else (kRequests[(seed % 5).toNat]?.getD .pet).code

/-- Ask for an action, unless something was asked for today. -/
def offerRequest (state : State) (vitals : CompanionVitals) (seed : UInt32) :
    State × Bool :=
  if state.requestState = RequestState.none.code then
    ({ state with
        requestAction := chooseRequest state vitals seed
        requestState := RequestState.pending.code }, true)
  else (state, false)

/-- What the companion has to be comforted for. -/
def comfortFor (vitals : CompanionVitals) (absent : UInt32) : ComfortKind :=
  if vitals.sleeping = true ∨ vitals.energy < 20 then .tired
  else if vitals.affection < 15 ∧ absent ≠ 0 then .lonely
  else if 85 < vitals.curiosity then .restless
  else .none

/-- The companion is to be comforted. -/
def noteComfort (state : State) (comfort : ComfortKind) : State :=
  { state with comfort := comfort.code }

def ageInDays (state : State) (day : UInt32) : UInt32 :=
  if state.firstDay ≤ day then day - state.firstDay else 0

/-- The anniversary is celebrated once on its day. -/
def celebrate (state : State) (age day : UInt32) : State × Bool :=
  if 365 ≤ age ∧ age % 365 = 0 ∧ state.anniversaryShownToday = 0 then
    ((enqueueCallback
        { unlock state AchievementAnniversary LoreAnniversary with
          anniversaryShownToday := 1 }
        .anniversary ((age / 365) &&& 0xFF).toUInt8 day).1, true)
  else (state, false)

/-- A moment of the season, on the days that the seed picks. -/
def showSeason (state : State) (seed : UInt32) (season : UInt8) : State × Bool :=
  if state.reservedFlags &&& 1 = 0 ∧ (seed >>> 5) &&& 3 = season.toUInt32 then
    ({ state with reservedFlags := state.reservedFlags ||| 1 }, true)
  else (state, false)

/-- A rare moment, on the days that the seed picks. -/
def showRare (state : State) (seed day : UInt32) : State × Bool :=
  if state.rareShownToday = 0 ∧ seed % 17 = 0 then
    ({ unlock state AchievementRareMoment 0 with
        rareShownToday := 1
        lastRareDay := day }, true)
  else (state, false)

def noteSession (state : State) (day : UInt32) : State :=
  { state with lastSessionDay := day }

def noteChapter (state : State) (chapter : UInt8) : State :=
  { state with weeklySeenMask := state.weeklySeenMask ||| (1 <<< chapter) }

/-! ## The call -/

/-- Open a session on a day that has been turned to. -/
def openSession (state : State) (day : UInt32) (bondLevel : UInt8)
    (vitals : CompanionVitals) (season : UInt8) (absent : UInt32)
    (previousDayPerfect : Bool) : State × SessionResult :=
  let comebackDay := decide (3 ≤ absent)
  let seed := dailySeed state day
  let age := ageInDays state day
  let welcomed := noteComeback state comebackDay
  let request := offerRequest welcomed vitals seed
  let comforted := noteComfort request.1 (comfortFor vitals absent)
  let anniversary := celebrate comforted age day
  let seasonal := showSeason anniversary.1 seed season
  let rare := showRare seasonal.1 seed day
  let bonded := (observeBond rare.1 bondLevel day).1
  let weeklyChapter := (age % 7).toUInt8
  let final := updateLoreAndAchievements
    (noteChapter (noteSession bonded day) weeklyChapter)
  (final,
    { valid := true
      greeting := greetingFor absent
      absentDays := absentDays absent
      callbackReady := callbackReady bonded day
      requestOffered := request.2
      questionOffered := decide (state.pendingQuestion ≠ kNoQuestion)
      comebackDay
      anniversary := anniversary.2
      seasonalMoment := seasonal.2
      rareMoment := rare.2
      previousDayPerfect
      weeklyChapter
      season
      comfort := final.comfort
      goal := goalFromState final })

/-- Turn to the day, then open the session. -/
def startSession (state : State) (day : UInt32) (minuteOfDay : UInt16)
    (bondLevel : UInt8) (vitals : CompanionVitals) (season : UInt8) :
    State × SessionResult :=
  if 1440 ≤ minuteOfDay ∨ winter < season then (state, {})
  else
    let moved := moveToDay state day
    if moved.moved then
      openSession moved.state day bondLevel vitals season (absence state day)
        moved.previousPerfect
    else (moved.state, {})

end Kitsu.Progression

/-!
# The object and its histories

The remaining operations of `CompanionProgression`, and all of them as the steps of
one machine that answers each call.  A nickname is given as the characters a pointer
leads to, and is absent for a null pointer.
-/

namespace Kitsu.Progression

open Kitsu.Lib
open Kitsu.Lib.ByteString

def initializeProgression (companionFingerprint firstDay : UInt32) : State :=
  { companionFingerprint, firstDay, currentDay := firstDay }

/-! ## Callbacks -/

def rememberEvent (state : State) (eventId : UInt8) (day : UInt32)
    (delayDays : UInt8) : State × Bool :=
  enqueueCallback state .event eventId (addDaysSaturated day delayDays)

/-- Remember a dream for the next day. -/
def rememberDream (state : State) (dreamId : UInt8) (day : UInt32) :
    State × Bool :=
  enqueueCallback (unlock state AchievementDreamer LoreDream) .dream dreamId
    (addDaysSaturated day 1)

/-- Remember an expedition for the next day. -/
def rememberExpedition (state : State) (outcomeId : UInt8) (day : UInt32) :
    State × Bool :=
  enqueueCallback (unlock state AchievementExplorer LoreExpedition) .expedition
    outcomeId (addDaysSaturated day 1)

/-- Remember a friend for the next day. -/
def rememberFriend (state : State) (friendDetail : UInt8) (day : UInt32) :
    State × Bool :=
  enqueueCallback (unlock state AchievementFriendly LoreFriend) .friend
    friendDetail (addDaysSaturated day 1)

/-- The oldest callback leaves the queue. -/
def dropOldest (state : State) : State :=
  let head := (state.callbackHead.toNat + 1) % kCallbackCapacity
  let count := state.callbackCount - 1
  { state with
    callbackHead := if count = 0 then 0 else UInt8.ofNat head
    callbackCount := count }

/-- Take the oldest memory if it is due; younger ones wait behind it. -/
def takeCallback (state : State) (day : UInt32) :
    State × Option CallbackRecord :=
  if callbackReady state day then
    (unlock (dropOldest state) AchievementFirstCallback LoreFirstMemory,
      some (oldestCallback state))
  else (state, none)

/-! ## Requests, questions and the nickname -/

/-- What became of a request. -/
structure RequestResult where
  valid : Bool := false
  accepted : Bool := false
  requestedAction : UInt8 := Action.pet.code
deriving DecidableEq

/-- The request is accepted. -/
def acceptRequest (state : State) : State :=
  { state with
    requestState := RequestState.accepted.code
    acceptedRequests := saturatingIncrement16 state.acceptedRequests }

/-- The request is declined. -/
def declineRequest (state : State) : State :=
  { state with
    requestState := RequestState.declined.code
    declinedRequests := saturatingIncrement16 state.declinedRequests }

/-- Answer the request that is pending. -/
def answerRequest (state : State) (accept : Bool) : State × RequestResult :=
  if state.requestState ≠ RequestState.pending.code then (state, {})
  else
    (if accept then acceptRequest state else declineRequest state,
      { valid := true, accepted := accept, requestedAction := state.requestAction })

/-- What became of a question. -/
structure QuestionResult where
  valid : Bool := false
  question : UInt8 := 0
  choice : UInt8 := 0
deriving DecidableEq

/-- Remember the answer to a question. -/
def noteAnswer (state : State) (question choice : UInt8) : State :=
  let choiceMask : UInt8 := 1 <<< question
  let answeredMask : UInt8 := 1 <<< (question + 4)
  { state with
    questionPreferences :=
      (if choice ≠ 0 then state.questionPreferences ||| choiceMask
        else state.questionPreferences &&& ~~~choiceMask) ||| answeredMask
    pendingQuestion := kNoQuestion }

/-- Answer the question that is pending. -/
def answerQuestion (state : State) (choice : UInt8) : State × QuestionResult :=
  if state.pendingQuestion = kNoQuestion ∨ 1 < choice then (state, {})
  else
    (noteAnswer state state.pendingQuestion choice,
      { valid := true, question := state.pendingQuestion, choice })

/-- The loop of `setNickname`; absent where a character is not printable. -/
def nicknameLength : Nat → Bytes → Option Nat
  | length, [] => some length
  | length, value :: rest =>
    if value = 0 ∨ kNicknameCapacity < length then some length
    else if value < 32 ∨ 126 < value then none
    else nicknameLength (length + 1) rest

/-- The nickname with zeros behind it. -/
def copyNickname (state : State) (name : Bytes) : State :=
  { state with nickname := Vector.ofFn fun index => name.getD index 0 }

/-- Change the nickname to a name that fits. -/
def setNickname (state : State) (nickname : Option Bytes) : State × Bool :=
  match nickname with
  | none => (state, false)
  | some characters =>
    match nicknameLength 0 characters with
    | none => (state, false)
    | some length =>
      if kNicknameCapacity < length then (state, false)
      else (copyNickname state (characters.take length), true)

/-! ## The machine -/

/-- The calls of the progression. -/
inductive Operation where
  | initializeProgression (companionFingerprint firstDay : UInt32)
  | startSession (day : UInt32) (minuteOfDay : UInt16) (bondLevel : UInt8)
      (vitals : CompanionVitals) (season : UInt8)
  | recordAction (action : UInt8) (day : UInt32) (minuteOfDay : UInt16)
      (bondLevel : UInt8)
  | rememberEvent (eventId : UInt8) (day : UInt32) (delayDays : UInt8)
  | rememberDream (dreamId : UInt8) (day : UInt32)
  | rememberExpedition (outcomeId : UInt8) (day : UInt32)
  | rememberFriend (friendDetail : UInt8) (day : UInt32)
  | takeCallback (day : UInt32)
  | answerRequest (accept : Bool)
  | answerQuestion (choice : UInt8)
  | observeBond (bondLevel : UInt8) (day : UInt32)
  | setNickname (nickname : Option Bytes)
  | writeSnapshot (capacity : Option Nat)
  | restoreSnapshot (source : Option Bytes) (fingerprint : UInt32)

/-- What a call answers. -/
inductive Answer where
  | nothing
  | flag (value : Bool)
  | session (result : SessionResult)
  | action (result : ActionResult)
  | callback (taken : Option CallbackRecord)
  | request (result : RequestResult)
  | question (result : QuestionResult)
  | snapshot (written : Option Bytes)
deriving DecidableEq

/-- A call by its name. -/
def perform (state : State) : Operation → State × Answer
  | .initializeProgression companionFingerprint firstDay =>
    (initializeProgression companionFingerprint firstDay, .nothing)
  | .startSession day minuteOfDay bondLevel vitals season =>
    (startSession state day minuteOfDay bondLevel vitals season).map id .session
  | .recordAction action day minuteOfDay bondLevel =>
    (recordAction state action day minuteOfDay bondLevel).map id .action
  | .rememberEvent eventId day delayDays =>
    (rememberEvent state eventId day delayDays).map id .flag
  | .rememberDream dreamId day => (rememberDream state dreamId day).map id .flag
  | .rememberExpedition outcomeId day =>
    (rememberExpedition state outcomeId day).map id .flag
  | .rememberFriend friendDetail day =>
    (rememberFriend state friendDetail day).map id .flag
  | .takeCallback day => (takeCallback state day).map id .callback
  | .answerRequest accept => (answerRequest state accept).map id .request
  | .answerQuestion choice => (answerQuestion state choice).map id .question
  | .observeBond bondLevel day => (observeBond state bondLevel day).map id .flag
  | .setNickname nickname => (setNickname state nickname).map id .flag
  | .writeSnapshot capacity => (state, .snapshot (writeSnapshot state capacity))
  | .restoreSnapshot source fingerprint =>
    (restoreSnapshot state source fingerprint).map id .flag

/-- The state after a call. -/
def act (state : State) (operation : Operation) : State :=
  (perform state operation).1

/-- A `CompanionProgression` after a history of calls. -/
def after (history : List Operation) : State :=
  Run.exec act {} history

end Kitsu.Progression
