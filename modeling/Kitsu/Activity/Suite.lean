import Mathlib.Data.Fintype.Basic
import Kitsu.Crc32
import Kitsu.Lib.Saturating
import Kitsu.Mix32

/-!
# The record of the activity suite

The packed record of `activity_suite.h` and the predicate that decides whether it may be
restored.  Enumerations are stored, and passed by callers, as their byte; the code
checks their range itself.  Five activities use the same fields, each in its own way,
and the predicate has a case for each of them.
-/

namespace Kitsu.Activity

open Kitsu.Lib
open Kitsu.Lib.ByteString
open Kitsu.Lib.Flags

/-- The five games, and none. -/
inductive ActivityKind where
  | none
  | morseSignal
  | staticTuner
  | reactionFlash
  | holdSteady
  | pulseBreathing
deriving DecidableEq

/-- The phases of an activity, from its cue to its end. -/
inductive ActivityPhase where
  | idle
  | presenting
  | playing
  | result
  | finished
deriving DecidableEq

/-- What a short press on the pet screen starts. -/
inductive QuickAction where
  | pet
  | feed
  | play
  | listen
  | dailyGame
  | expedition
deriving DecidableEq

/-- What became of an input. -/
inductive InputResult where
  | ignored
  | accepted
  | completed
  | tooEarly
  | invalid
deriving DecidableEq

/-- The byte that stands for a kind in the record. -/
def ActivityKind.code : ActivityKind → UInt8
  | .none => 0
  | .morseSignal => 1
  | .staticTuner => 2
  | .reactionFlash => 3
  | .holdSteady => 4
  | .pulseBreathing => 5

/-- The byte that stands for a phase in the record. -/
def ActivityPhase.code : ActivityPhase → UInt8
  | .idle => 0
  | .presenting => 1
  | .playing => 2
  | .result => 3
  | .finished => 4

/-- The byte that stands for a quick action in the record. -/
def QuickAction.code : QuickAction → UInt8
  | .pet => 0
  | .feed => 1
  | .play => 2
  | .listen => 3
  | .dailyGame => 4
  | .expedition => 5

abbrev kActivityCount : Nat := 5
abbrev kStateSchemaVersion : UInt8 := 1
abbrev kMagic : UInt32 := 0x31544341
abbrev kFlagPressed : UInt8 := 1
abbrev kFlagResumed : UInt8 := 2
abbrev kFlagGhost : UInt8 := 4
abbrev kResultDurationMs : UInt32 := 1200

/-- The size of the packed record, its checksum included. -/
abbrev kActivityStateBytes : Nat := 94

/-- The persisted record, in the field order of its packed layout. -/
structure ActivityState where
  magic : UInt32 := kMagic
  bytes : UInt16 := UInt16.ofNat kActivityStateBytes
  schemaVersion : UInt8 := kStateSchemaVersion
  kind : UInt8 := ActivityKind.none.code
  phase : UInt8 := ActivityPhase.idle.code
  difficulty : UInt8 := 1
  flags : UInt8 := 0
  patternCount : UInt8 := 0
  inputCount : UInt8 := 0
  successCount : UInt8 := 0
  pulseCount : UInt8 := 0
  patternBits : UInt16 := 0
  inputBits : UInt16 := 0
  score : UInt16 := 0
  maximumScore : UInt16 := 1000
  target : UInt16 := 0
  auxiliary : UInt16 := 0
  seed : UInt32 := 1
  dayId : UInt32 := 0
  phaseStartedAt : UInt32 := 0
  inputStartedAt : UInt32 := 0
  bestScores : Vector UInt16 kActivityCount := .replicate _ 0
  ghostSeeds : Vector UInt32 kActivityCount := .replicate _ 0
  ghostDifficulties : Vector UInt8 kActivityCount := .replicate _ 0
  lastDialogueId : UInt16 := 0
  quietStartMinute : UInt16 := 1320
  quietEndMinute : UInt16 := 420
  quickAction : UInt8 := QuickAction.pet.code
  quietHoursEnabled : UInt8 := 0
  modifierSpeedPercent : UInt8 := 100
  modifierTolerancePercent : UInt8 := 100
  modifierRewardPercent : UInt8 := 100
  reserved : UInt8 := 0
  crc32 : UInt32 := 0
deriving DecidableEq

/-! ## Layout and checksum -/

/-- Two bytes of the record. -/
def u16 (value : UInt16) : Bytes :=
  littleEndian 2 value.toNat

/-- Four bytes of the record. -/
def u32 (value : UInt32) : Bytes :=
  littleEndian 4 value.toNat

/-- The packed record up to its checksum. -/
def ActivityState.layout (state : ActivityState) : Bytes :=
  u32 state.magic ++ u16 state.bytes ++
  [state.schemaVersion, state.kind, state.phase, state.difficulty, state.flags,
    state.patternCount, state.inputCount, state.successCount, state.pulseCount] ++
  u16 state.patternBits ++ u16 state.inputBits ++ u16 state.score ++
  u16 state.maximumScore ++ u16 state.target ++ u16 state.auxiliary ++
  u32 state.seed ++ u32 state.dayId ++ u32 state.phaseStartedAt ++
  u32 state.inputStartedAt ++ state.bestScores.toList.flatMap u16 ++
  state.ghostSeeds.toList.flatMap u32 ++ state.ghostDifficulties.toList ++
  u16 state.lastDialogueId ++ u16 state.quietStartMinute ++ u16 state.quietEndMinute ++
  [state.quickAction, state.quietHoursEnabled, state.modifierSpeedPercent,
    state.modifierTolerancePercent, state.modifierRewardPercent, state.reserved]

/-- The checksum of a record. -/
def activityStateCrc (state : ActivityState) : UInt32 :=
  Crc32.crc32 state.layout

/-! ## Validation -/

/-- One of the five games. -/
def validKind (kind : UInt8) : Bool :=
  kind ≥ ActivityKind.morseSignal.code && kind ≤ ActivityKind.pulseBreathing.code

def validPhase (phase : UInt8) : Bool :=
  phase ≤ ActivityPhase.finished.code

/-- The bits of a pattern with so many places. -/
def patternMask (patternCount : UInt8) : UInt16 :=
  ((1 <<< patternCount.toUInt32 : UInt32) - 1).toUInt16

/-- The range of a companion's percentages. -/
def validPercent (percent : UInt8) : Bool :=
  50 ≤ percent && percent ≤ 150

/-- The header names this format and its checksum fits. -/
def headerValid (state : ActivityState) : Bool :=
  state.magic == kMagic && state.bytes == UInt16.ofNat kActivityStateBytes &&
    state.schemaVersion == kStateSchemaVersion && state.reserved == 0 &&
    state.crc32 == activityStateCrc state

/-- The bounds that hold whatever the activity. -/
def boundsValid (state : ActivityState) : Bool :=
  validPhase state.phase && state.difficulty != 0 && state.difficulty ≤ 5 &&
    !flagged state.flags (~~~ (kFlagPressed ||| kFlagResumed ||| kFlagGhost)) &&
    state.patternCount ≤ 8 && state.inputCount ≤ state.patternCount &&
    state.successCount ≤ state.patternCount && state.pulseCount ≤ 3

/-- The score does not exceed what can be reached. -/
def scoreValid (state : ActivityState) : Bool :=
  state.maximumScore != 0 && state.score ≤ state.maximumScore

/-- The settings of the player that the record carries are in range. -/
def settingsValid (state : ActivityState) : Bool :=
  state.quickAction ≤ QuickAction.expedition.code && state.quietHoursEnabled ≤ 1 &&
    state.quietStartMinute < 1440 && state.quietEndMinute < 1440

/-- The percentages of the companion are in range. -/
def modifiersValid (state : ActivityState) : Bool :=
  validPercent state.modifierSpeedPercent &&
    validPercent state.modifierTolerancePercent &&
    validPercent state.modifierRewardPercent

/-- A best score has the seed and the difficulty of its run, and no other has. -/
def ghostValid (maximumScore best : UInt16) (seed : UInt32) (difficulty : UInt8) : Bool :=
  best ≤ maximumScore && (best != 0) == (seed != 0) &&
    (best != 0) == (difficulty != 0) && difficulty ≤ 5

/-- Every best score has the seed and the difficulty it was reached with. -/
def ghostsValid (state : ActivityState) : Bool :=
  (List.finRange kActivityCount).all fun index =>
    ghostValid state.maximumScore state.bestScores[index] state.ghostSeeds[index]
      state.ghostDifficulties[index]

/-- Nothing is left of an activity while there is none. -/
def noneValid (state : ActivityState) : Bool :=
  state.phase == ActivityPhase.idle.code && state.flags == 0 &&
    state.patternCount == 0 && state.inputCount == 0 && state.successCount == 0 &&
    state.pulseCount == 0 && state.patternBits == 0 && state.inputBits == 0 &&
    state.score == 0 && state.target == 0 && state.auxiliary == 0 && state.dayId == 0

/-- What every activity has, and in which phases the button may be down. -/
def commonValid (state : ActivityState) : Bool :=
  state.phase != ActivityPhase.idle.code && state.seed != 0 && state.target != 0 &&
    !(state.phase == ActivityPhase.presenting.code &&
      state.kind != ActivityKind.morseSignal.code) &&
    !(flagged state.flags kFlagPressed &&
      (state.phase != ActivityPhase.playing.code ||
        state.kind != ActivityKind.morseSignal.code &&
          state.kind != ActivityKind.holdSteady.code))

/-- The Morse fields: a pattern, what was put in so far, and nothing else. -/
def morseValid (state : ActivityState) : Bool :=
  4 ≤ state.patternCount && state.auxiliary == 0 && state.pulseCount == 0 &&
    state.successCount == 0 &&
    state.patternBits &&& ~~~ patternMask state.patternCount == 0 &&
    state.inputBits &&& ~~~ patternMask state.patternCount == 0

/-- Only the Morse signal has a pattern. -/
def patternless (state : ActivityState) : Bool :=
  state.patternCount == 0 && state.inputCount == 0 && state.successCount == 0 &&
    state.patternBits == 0 && state.inputBits == 0

/-- The Tuner fields: a target on the scale and a period. -/
def tunerValid (state : ActivityState) : Bool :=
  10 ≤ state.target && state.target ≤ 90 && 2 ≤ state.auxiliary && state.pulseCount == 0

/-- The pulse fields: a period, and fewer than three taps while it is played. -/
def pulseValid (state : ActivityState) : Bool :=
  2 ≤ state.target && state.auxiliary ≤ 3000 &&
    !(state.phase == ActivityPhase.playing.code && state.pulseCount ≥ 3)

/-- The case of the activity that the record is about. -/
def kindValid (state : ActivityState) : Bool :=
  if state.kind == ActivityKind.none.code then noneValid state
  else if !validKind state.kind then false
  else if state.kind == ActivityKind.morseSignal.code then
    commonValid state && morseValid state
  else if state.kind == ActivityKind.staticTuner.code then
    commonValid state && patternless state && tunerValid state
  else if state.kind == ActivityKind.pulseBreathing.code then
    commonValid state && patternless state && pulseValid state
  else
    commonValid state && patternless state && state.auxiliary == 0 &&
      state.pulseCount == 0

/-- What the record must meet before it is taken over. -/
def validateActivityState (state : ActivityState) : Bool :=
  headerValid state && boundsValid state && scoreValid state && settingsValid state &&
    modifiersValid state && ghostsValid state && kindValid state

end Kitsu.Activity

/-!
# The operations of the activity suite

`ActivitySuite` of `activity_suite.cpp`.  The clock is an argument of every call.  A
division by a value of the record is a checked one: where the source would divide by
zero there is no result at all.
-/

namespace Kitsu.Activity

open Kitsu.Lib.Flags

/-- The settings of a companion that make an activity easier or harder. -/
structure CompanionModifier where
  speedPercent : UInt8 := 100
  tolerancePercent : UInt8 := 100
  rewardPercent : UInt8 := 100
deriving DecidableEq

/-- The game of the day. -/
structure DailyActivity where
  kind : UInt8
  difficulty : UInt8
  seed : UInt32
deriving DecidableEq

/-- What the screen shows of an activity. -/
structure ActivityView where
  kind : UInt8 := ActivityKind.none.code
  phase : UInt8 := ActivityPhase.idle.code
  difficulty : UInt8 := 0
  progress : UInt8 := 0
  total : UInt8 := 0
  marker : UInt8 := 0
  target : UInt8 := 0
  cueOn : UInt8 := 0
  resumed : UInt8 := 0
  score : UInt16 := 0
  maximumScore : UInt16 := 0
  ghostScore : UInt16 := 0
  remainingMs : UInt32 := 0
deriving DecidableEq

/-! ## Arithmetic -/

/-- A quotient, unless the divisor is zero. -/
def quotient (dividend divisor : UInt32) : Option UInt32 :=
  if divisor = 0 then none else some (dividend / divisor)

/-- A remainder, unless the divisor is zero. -/
def remainder (dividend divisor : UInt32) : Option UInt32 :=
  if divisor = 0 then none else some (dividend % divisor)

/-- The mixer, but never zero, so that every seed is usable. -/
def mix32 (value : UInt32) : UInt32 :=
  let mixed := Kitsu.mix32 value
  if mixed == 0 then 1 else mixed

/-- The distance of two times, at most what the score can hold. -/
def absDifference (left right : UInt32) : UInt16 :=
  let difference := if left > right then left - right else right - left
  if difference > 0xffff then 0xffff else difference.toUInt16

/-- The bits that are set, counted from the lowest one on. -/
def countBits : Nat → UInt16 → UInt8 → UInt8
  | 0, _, counted => counted
  | places + 1, difference, counted =>
    if difference = 0 then counted
    else countBits places (difference >>> 1) (counted + (difference &&& 1).toUInt8)

/-- The game of the day depends on the day and the companion only. -/
def proceduralDailyActivity (dayId companionFingerprint : UInt32) : DailyActivity :=
  let seed := mix32 (dayId ^^^ companionFingerprint ^^^ 0x4B495453)
  let upper := seed >>> 8
  { kind := (1 + seed % 5).toUInt8
    difficulty := (1 + upper % 5).toUInt8
    seed }

/-! ## The suite -/

/-- The record with the checksum that fits it. -/
def refreshCrc (state : ActivityState) : ActivityState :=
  { state with crc32 := activityStateCrc state }

/--
The activities with the modifier of the companion; not available after a bad
record.
-/
structure Suite where
  state : ActivityState
  modifier : CompanionModifier := {}
  available : Bool := true
deriving DecidableEq

namespace Suite

/-- The suite without any scores. -/
def reset : Suite where
  state := refreshCrc {}

/-- Take over a valid record; any other leaves the suite unavailable. -/
def restore (suite : Suite) (state : ActivityState) : Bool × Suite :=
  if !validateActivityState state then
    (false, { suite with state := refreshCrc {}, available := false })
  else
    (true, {
      state
      modifier := {
        speedPercent := state.modifierSpeedPercent
        tolerancePercent := state.modifierTolerancePercent
        rewardPercent := state.modifierRewardPercent }
      available := true })

/-- The record as it is stored. -/
def snapshot (suite : Suite) : ActivityState :=
  suite.state

end Suite

/-- The place of a game in the tables of scores. -/
def activityIndex (kind : UInt8) : UInt8 :=
  kind - 1

/-- All three percentages are in range. -/
def validModifier (modifier : CompanionModifier) : Bool :=
  validPercent modifier.speedPercent && validPercent modifier.tolerancePercent &&
    validPercent modifier.rewardPercent

/-- The record of an activity that begins, before the activity arranges its fields. -/
def freshState (state : ActivityState) (kind : UInt8) (nowMs seed : UInt32)
    (difficulty : UInt8) (modifier : CompanionModifier) (dayId : UInt32) :
    ActivityState where
  bestScores := state.bestScores
  ghostSeeds := state.ghostSeeds
  ghostDifficulties := state.ghostDifficulties
  lastDialogueId := state.lastDialogueId
  quietStartMinute := state.quietStartMinute
  quietEndMinute := state.quietEndMinute
  quickAction := state.quickAction
  quietHoursEnabled := state.quietHoursEnabled
  kind
  phase :=
    if kind == ActivityKind.morseSignal.code then ActivityPhase.presenting.code
    else ActivityPhase.playing.code
  difficulty
  seed
  dayId
  phaseStartedAt := nowMs
  modifierSpeedPercent := modifier.speedPercent
  modifierTolerancePercent := modifier.tolerancePercent
  modifierRewardPercent := modifier.rewardPercent

/-- Longer the slower the companion is. -/
def scaledBySpeed (duration : UInt32) (modifier : CompanionModifier) : UInt16 :=
  (duration * 100 / modifier.speedPercent.toUInt32).toUInt16

/-- How many dots and dashes a difficulty asks for. -/
def morsePlaces (difficulty : UInt8) : UInt8 :=
  if 3 + difficulty > 8 then 8 else 3 + difficulty

/-- The fields that an activity begins with. -/
def arrange (state : ActivityState) (modifier : CompanionModifier) : ActivityState :=
  if state.kind == ActivityKind.morseSignal.code then
    let patternCount := morsePlaces state.difficulty
    { state with
      patternCount
      patternBits :=
        (mix32 state.seed &&& ((1 <<< patternCount.toUInt32) - 1)).toUInt16
      target := scaledBySpeed 450 modifier }
  else if state.kind == ActivityKind.staticTuner.code then
    { state with
      target := (10 + mix32 state.seed % 81).toUInt16
      auxiliary := scaledBySpeed 2600 modifier }
  else if state.kind == ActivityKind.reactionFlash.code then
    { state with target := scaledBySpeed (900 + mix32 state.seed % 2201) modifier }
  else if state.kind == ActivityKind.holdSteady.code then
    { state with
      target := scaledBySpeed (1000 + state.difficulty.toUInt32 * 350) modifier }
  else
    { state with
      target := scaledBySpeed (1400 - state.difficulty.toUInt32 * 100) modifier }

namespace Suite

/-- Whether an activity may be begun like this, and none is under way. -/
def mayStart (suite : Suite) (kind : UInt8) (seed : UInt32) (difficulty : UInt8)
    (modifier : CompanionModifier) : Bool :=
  suite.available && validKind kind && seed != 0 && difficulty != 0 && difficulty ≤ 5 &&
    validModifier modifier &&
    (suite.state.phase == ActivityPhase.idle.code ||
      suite.state.phase == ActivityPhase.finished.code)

/-- Begin an activity of a kind, with its pattern and targets from the seed. -/
def start (suite : Suite) (kind : UInt8) (nowMs seed : UInt32) (difficulty : UInt8)
    (modifier : CompanionModifier) (dayId : UInt32) : Bool × Suite :=
  if !suite.mayStart kind seed difficulty modifier then (false, suite)
  else
    let begun := freshState suite.state kind nowMs seed difficulty modifier dayId
    (true, { suite with state := refreshCrc (arrange begun modifier), modifier })

/-- Begin the game of the day. -/
def startDaily (suite : Suite) (dayId companionFingerprint nowMs : UInt32)
    (modifier : CompanionModifier) : Bool × Suite :=
  if dayId == 0 then (false, suite)
  else
    let daily := proceduralDailyActivity dayId companionFingerprint
    suite.start daily.kind nowMs daily.seed daily.difficulty modifier dayId

def bestScore (state : ActivityState) (kind : UInt8) : UInt16 :=
  state.bestScores[(activityIndex kind).toNat]?.getD 0

/-- The seed of the best round. -/
def ghostSeed (state : ActivityState) (kind : UInt8) : UInt32 :=
  state.ghostSeeds[(activityIndex kind).toNat]?.getD 0

/-- The difficulty of the best round. -/
def ghostDifficulty (state : ActivityState) (kind : UInt8) : UInt8 :=
  state.ghostDifficulties[(activityIndex kind).toNat]?.getD 0

/-- The run is against the ghost of an earlier one. -/
def againstGhost (state : ActivityState) : ActivityState :=
  { state with flags := state.flags ||| kFlagGhost }

/-- Play the best round of a kind again, with its seed and difficulty. -/
def startGhost (suite : Suite) (kind : UInt8) (nowMs : UInt32)
    (modifier : CompanionModifier) : Bool × Suite :=
  if !validKind kind then (false, suite)
  else if bestScore suite.state kind == 0 || ghostSeed suite.state kind == 0 then
    (false, suite)
  else if ghostDifficulty suite.state kind == 0 then (false, suite)
  else
    let (started, after) := suite.start kind nowMs (ghostSeed suite.state kind)
      (ghostDifficulty suite.state kind) modifier 0
    if !started then (false, after)
    else
      (true, { after with state := refreshCrc (againstGhost after.state) })

/-! ## Timing and scores -/

/-- The time since the phase began, modulo the wrap of the uptime. -/
def elapsed (state : ActivityState) (nowMs : UInt32) : UInt32 :=
  nowMs - state.phaseStartedAt

/-- Full score near the mark, none far from it, and in between by distance. -/
def timingScore (suite : Suite) (errorMs perfectMs maximumMs : UInt32) : Option UInt16 :=
  let perfectMs := perfectMs * suite.modifier.tolerancePercent.toUInt32 / 100
  let maximumMs := maximumMs * suite.modifier.tolerancePercent.toUInt32 / 100
  if errorMs ≤ perfectMs then some 1000
  else if errorMs ≥ maximumMs || maximumMs ≤ perfectMs then some 0
  else
    (quotient ((maximumMs - errorMs) * 1000) (maximumMs - perfectMs)).map
      UInt32.toUInt16

/-- How far a marker has come that runs to and fro within a period. -/
def toAndFro (position period : UInt32) : Option UInt8 :=
  let half := period / 2
  let scaled := if position ≤ half then position else period - position
  (quotient (scaled * 100) half).map UInt32.toUInt8

/-- Where the tuner's marker is; it runs to and fro once a period. -/
def tunerMarker (state : ActivityState) (nowMs : UInt32) : Option UInt8 :=
  let period := if state.auxiliary == 0 then 2000 else state.auxiliary.toUInt32
  (remainder (elapsed state nowMs) period).bind fun position =>
    toAndFro position period

/-- The score of a tap by its distance from the middle of the period. -/
def pulseScore (suite : Suite) (nowMs : UInt32) : Option UInt16 :=
  let period := if suite.state.target == 0 then 1000 else suite.state.target.toUInt32
  (remainder (elapsed suite.state nowMs) period).bind fun position =>
    let peak := period / 2
    suite.timingScore (absDifference position peak).toUInt32 80 (period / 2)

/-- The best score of the activity with the run that made it. -/
def recordBest (state : ActivityState) : ActivityState :=
  let index := (activityIndex state.kind).toNat
  if !flagged state.flags kFlagGhost && state.score > bestScore state state.kind then
    { state with
      bestScores := state.bestScores.setIfInBounds index state.score
      ghostSeeds := state.ghostSeeds.setIfInBounds index state.seed
      ghostDifficulties := state.ghostDifficulties.setIfInBounds index state.difficulty }
  else
    state

/-- The score after the companion's reward percentage, at most a thousand. -/
def rewarded (score : UInt16) (modifier : CompanionModifier) : UInt16 :=
  let rewarded := score.toUInt32 * modifier.rewardPercent.toUInt32 / 100
  if rewarded > 1000 then 1000 else rewarded.toUInt16

/-- The record of an activity that is over, before its score is compared. -/
def settle (state : ActivityState) (score : UInt16) (nowMs : UInt32) : ActivityState :=
  { state with
    score
    phase := ActivityPhase.result.code
    phaseStartedAt := nowMs
    flags := state.flags &&& ~~~ kFlagPressed }

def finish (suite : Suite) (score : UInt16) (nowMs : UInt32) : Suite :=
  { suite with state := refreshCrc (recordBest
      (settle suite.state (rewarded score suite.modifier) nowMs)) }

/-! ## Calls -/

/-- How long a pattern is presented. -/
def morseDuration (state : ActivityState) : UInt32 :=
  state.patternCount.toUInt32 * state.target.toUInt32

/-- The pattern has been presented. -/
def beginPlaying (state : ActivityState) (nowMs : UInt32) : ActivityState :=
  { state with phase := ActivityPhase.playing.code, phaseStartedAt := nowMs }

/-- The result has been shown. -/
def leaveResult (state : ActivityState) : ActivityState :=
  { state with phase := ActivityPhase.finished.code }

/-- What the passing of time alone does to an activity. -/
def tick (suite : Suite) (nowMs : UInt32) : Suite :=
  let state := suite.state
  if !suite.available then suite
  else if state.phase == ActivityPhase.presenting.code &&
      state.kind == ActivityKind.morseSignal.code then
    if elapsed state nowMs ≥ morseDuration state then
      { suite with state := refreshCrc (beginPlaying state nowMs) }
    else
      suite
  else if state.phase == ActivityPhase.playing.code &&
      state.kind == ActivityKind.reactionFlash.code &&
      elapsed state nowMs > state.target.toUInt32 + 1600 then
    suite.finish 0 nowMs
  else if state.phase == ActivityPhase.playing.code &&
      state.kind == ActivityKind.pulseBreathing.code && state.pulseCount ≥ 3 then
    suite.finish (state.auxiliary / 3) nowMs
  else if state.phase == ActivityPhase.result.code &&
      elapsed state nowMs ≥ kResultDurationMs then
    { suite with state := refreshCrc (leaveResult state) }
  else
    suite

/-- The score of a completed pattern. -/
def morseScore (state : ActivityState) : Option UInt16 :=
  let difference := (state.patternBits ^^^ state.inputBits) &&&
    patternMask state.patternCount
  let wrong := countBits 16 difference 0
  (quotient ((state.patternCount.toUInt32 - wrong.toUInt32) * 1000)
    state.patternCount.toUInt32).map UInt32.toUInt16

/-- A tap is a dot. -/
def addDot (state : ActivityState) : ActivityState :=
  { state with inputCount := state.inputCount + 1 }

/-- A tap puts in a dot; the last one settles the score. -/
def tapMorse (suite : Suite) (nowMs : UInt32) : Option (InputResult × Suite) :=
  if suite.state.inputCount ≥ suite.state.patternCount then some (.ignored, suite)
  else
    let tapped := addDot suite.state
    if tapped.inputCount == tapped.patternCount then
      (morseScore tapped).map fun score =>
        (.completed, { suite with state := tapped }.finish score nowMs)
    else
      some (.accepted, { suite with state := refreshCrc tapped })

/-- A tap stops the marker and scores its distance from the target. -/
def tapTuner (suite : Suite) (nowMs : UInt32) : Option (InputResult × Suite) :=
  (tunerMarker suite.state nowMs).bind fun marker =>
    let target := suite.state.target.toUInt8
    let distance := if marker > target then marker - target else target - marker
    (suite.timingScore distance.toUInt32 2 25).map fun score =>
      (.completed, suite.finish score nowMs)

/-- A tap before the cue ends the round with no score. -/
def tapReaction (suite : Suite) (nowMs : UInt32) : Option (InputResult × Suite) :=
  let sinceStart := elapsed suite.state nowMs
  if sinceStart < suite.state.target.toUInt32 then
    some (.tooEarly, suite.finish 0 nowMs)
  else
    (suite.timingScore (sinceStart - suite.state.target.toUInt32) 120 900).map
      fun score => (.completed, suite.finish score nowMs)

/-- One more tap, with its score. -/
def addPulse (state : ActivityState) (score : UInt16) : ActivityState :=
  { state with
    auxiliary := state.auxiliary + score
    pulseCount := state.pulseCount + 1 }

/-- The third tap settles the mean of the three scores. -/
def tapPulse (suite : Suite) (nowMs : UInt32) : Option (InputResult × Suite) :=
  (suite.pulseScore nowMs).map fun score =>
    let tapped := addPulse suite.state score
    if tapped.pulseCount ≥ 3 then
      (.completed, { suite with state := tapped }.finish (tapped.auxiliary / 3) nowMs)
    else
      (.accepted, { suite with state := refreshCrc tapped })

/-- A short press, by the kind of activity that is played. -/
def tap (suite : Suite) (nowMs : UInt32) : Option (InputResult × Suite) :=
  if !suite.available then some (.invalid, suite)
  else if suite.state.phase != ActivityPhase.playing.code then some (.ignored, suite)
  else if suite.state.kind == ActivityKind.morseSignal.code then suite.tapMorse nowMs
  else if suite.state.kind == ActivityKind.staticTuner.code then suite.tapTuner nowMs
  else if suite.state.kind == ActivityKind.reactionFlash.code then
    suite.tapReaction nowMs
  else if suite.state.kind == ActivityKind.pulseBreathing.code then suite.tapPulse nowMs
  else some (.ignored, suite)

/-- The button goes down. -/
def pressDown (state : ActivityState) (nowMs : UInt32) : ActivityState :=
  { state with flags := state.flags ||| kFlagPressed, inputStartedAt := nowMs }

/-- The button goes down in a game that measures how long it is held. -/
def press (suite : Suite) (nowMs : UInt32) : InputResult × Suite :=
  if !suite.available then (.invalid, suite)
  else if suite.state.phase != ActivityPhase.playing.code ||
      suite.state.kind != ActivityKind.holdSteady.code &&
        suite.state.kind != ActivityKind.morseSignal.code ||
      flagged suite.state.flags kFlagPressed then
    (.ignored, suite)
  else
    (.accepted, { suite with state := refreshCrc (pressDown suite.state nowMs) })

/-- The record with the button up again, and a bit for a long press. -/
def releaseMorse (state : ActivityState) (nowMs : UInt32) : ActivityState :=
  let held := nowMs - state.inputStartedAt
  { state with
    flags := state.flags &&& ~~~ kFlagPressed
    inputBits :=
      if held ≥ 350 then
        (state.inputBits.toUInt32 ||| (1 <<< state.inputCount.toUInt32)).toUInt16
      else state.inputBits }

/-- The button goes up. -/
def releaseUp (state : ActivityState) : ActivityState :=
  { state with flags := state.flags &&& ~~~ kFlagPressed }

/-- The button comes up: a dot or dash, or the length that was held. -/
def release (suite : Suite) (nowMs : UInt32) : Option (InputResult × Suite) :=
  if !suite.available then some (.invalid, suite)
  else if suite.state.phase != ActivityPhase.playing.code then some (.ignored, suite)
  else if suite.state.kind == ActivityKind.morseSignal.code then
    if !flagged suite.state.flags kFlagPressed then some (.ignored, suite)
    else if suite.state.inputCount ≥ suite.state.patternCount then some (.ignored, suite)
    else { suite with state := releaseMorse suite.state nowMs }.tap nowMs
  else if suite.state.kind != ActivityKind.holdSteady.code ||
      !flagged suite.state.flags kFlagPressed then
    some (.ignored, suite)
  else
    let held := nowMs - suite.state.inputStartedAt
    (suite.timingScore (absDifference held suite.state.target.toUInt32).toUInt32
      100 900).map fun score =>
        (.completed, { suite with state := releaseUp suite.state }.finish score nowMs)

/-- The record without its activity. -/
def clearActivity (state : ActivityState) : ActivityState :=
  { state with
    kind := ActivityKind.none.code
    phase := ActivityPhase.idle.code
    difficulty := 1
    flags := 0
    patternCount := 0
    inputCount := 0
    successCount := 0
    pulseCount := 0
    patternBits := 0
    inputBits := 0
    score := 0
    maximumScore := 1000
    target := 0
    auxiliary := 0
    seed := 1
    dayId := 0
    phaseStartedAt := 0
    inputStartedAt := 0
    modifierSpeedPercent := 100
    modifierTolerancePercent := 100
    modifierRewardPercent := 100 }

/-- Give the activity up; scores and settings stay. -/
def cancel (suite : Suite) : Suite :=
  if !suite.available then suite
  else
    { suite with state := refreshCrc (clearActivity suite.state), modifier := {} }

/-- The timing window begins again, with the button up. -/
def resume (state : ActivityState) (nowMs : UInt32) : ActivityState :=
  { state with
    phaseStartedAt := nowMs
    inputStartedAt := nowMs
    flags := state.flags &&& ~~~ kFlagPressed ||| kFlagResumed }

/-- An activity that was interrupted goes on from its start after a restart. -/
def resumeAfterCrash (suite : Suite) (nowMs : UInt32) : Bool × Suite :=
  if !suite.available then (false, suite)
  else if suite.state.phase != ActivityPhase.presenting.code &&
      suite.state.phase != ActivityPhase.playing.code &&
      suite.state.phase != ActivityPhase.result.code then
    (false, suite)
  else
    (true, { suite with state := refreshCrc (resume suite.state nowMs) })

/-! ## Drawing -/

/-- How long the result is still shown. -/
def resultRemaining (state : ActivityState) (nowMs : UInt32) : UInt32 :=
  if elapsed state nowMs ≥ kResultDurationMs then 0
  else kResultDurationMs - elapsed state nowMs

/-- What is shown of every activity. -/
def baseView (state : ActivityState) : ActivityView where
  kind := state.kind
  phase := state.phase
  difficulty := state.difficulty
  score := state.score
  maximumScore := state.maximumScore
  resumed := if flagged state.flags kFlagResumed then 1 else 0
  ghostScore := if validKind state.kind then bestScore state state.kind else 0

/-- How much of a pattern has been shown or tapped. -/
def morseProgress (state : ActivityState) (nowMs : UInt32) : Option UInt8 :=
  let shown :=
    if state.phase == ActivityPhase.presenting.code then
      (quotient (elapsed state nowMs) state.target.toUInt32).map UInt32.toUInt8
    else
      some state.inputCount
  shown.map fun progress =>
    if progress > state.patternCount then state.patternCount else progress

/-- The Morse cue while it is presented, and the progress of the answer. -/
def morseView (state : ActivityState) (nowMs : UInt32) : Option ActivityView :=
  (morseProgress state nowMs).map fun progress =>
    let view := { baseView state with total := state.patternCount, progress }
    if state.phase == ActivityPhase.presenting.code &&
        progress < state.patternCount then
      { view with
        cueOn := ((state.patternBits >>> progress.toUInt16) &&& 1).toUInt8
        remainingMs :=
          if elapsed state nowMs ≥ morseDuration state then 0
          else morseDuration state - elapsed state nowMs }
    else
      view

/-- The marker and where it should be stopped. -/
def tunerView (state : ActivityState) (nowMs : UInt32) : Option ActivityView :=
  (tunerMarker state nowMs).map fun marker =>
    { baseView state with marker, target := state.target.toUInt8 }

/-- Whether the cue is on, and how long until it is. -/
def reactionView (state : ActivityState) (nowMs : UInt32) : ActivityView :=
  let cue := elapsed state nowMs ≥ state.target.toUInt32
  { baseView state with
    cueOn := if cue then 1 else 0
    remainingMs := if cue then 0 else state.target.toUInt32 - elapsed state nowMs }

/-- The share of the target that the button has been held, in percent. -/
def heldPercent (state : ActivityState) (nowMs : UInt32) : Option UInt8 :=
  let held := nowMs - state.inputStartedAt
  if held ≥ state.target.toUInt32 then some 100
  else (quotient (held * 100) state.target.toUInt32).map UInt32.toUInt8

/-- How long to hold, and how far the hold has come. -/
def steadyView (state : ActivityState) (nowMs : UInt32) : Option ActivityView :=
  let view := { baseView state with
    target := if state.target > 2550 then 255 else (state.target / 10).toUInt8 }
  if flagged state.flags kFlagPressed then
    (heldPercent state nowMs).map fun progress => { view with progress }
  else
    some view

/-- The pulse and how many taps were made. -/
def pulseView (state : ActivityState) (nowMs : UInt32) : Option ActivityView :=
  let period := state.target.toUInt32
  (remainder (elapsed state nowMs) period).bind fun position =>
    (toAndFro position period).map fun marker =>
      { baseView state with progress := state.pulseCount, total := 3, marker }

/-- What is shown of the activity that the record is about. -/
def kindView (state : ActivityState) (nowMs : UInt32) : Option ActivityView :=
  if state.kind == ActivityKind.morseSignal.code then morseView state nowMs
  else if state.kind == ActivityKind.staticTuner.code then tunerView state nowMs
  else if state.kind == ActivityKind.reactionFlash.code then
    some (reactionView state nowMs)
  else if state.kind == ActivityKind.holdSteady.code then steadyView state nowMs
  else if state.kind == ActivityKind.pulseBreathing.code then pulseView state nowMs
  else some (baseView state)

/-- What the screen shows now; no view where a division by zero would occur. -/
def view (suite : Suite) (nowMs : UInt32) : Option ActivityView :=
  (kindView suite.state nowMs).map fun view =>
    if suite.state.phase == ActivityPhase.result.code then
      { view with remainingMs := resultRemaining suite.state nowMs }
    else
      view

end Suite

end Kitsu.Activity
