import Kitsu.Crc32
import Kitsu.Mix32

/-!
# Expeditions

The decision engine of `expedition_core.cpp`.  `start` fixes the result of a
journey and its duration; `poll` reads the clocks and moves the remaining time
down; `acknowledge` clears a journey that is ready.  A poll has two estimates of
the elapsed time, the monotonic clock of the current boot and the wall clock, and
follows the more advanced one.  The record keeps enumerations as bytes and ends
in a CRC over its packed bytes.
-/

namespace Kitsu.Expedition

open Kitsu.Lib.ByteString

def kExpeditionStateSchemaVersion : UInt8 := 1

def kExpeditionStateBytes : UInt8 := 64

def kReportCount : UInt8 := 24

def kCatalogCreatureCount : UInt8 := 21

def kNoReport : UInt8 := 255

def kNoEncounter : UInt8 := 255

def kMinimumTrustedUnixSeconds : UInt64 := 1577836800

def kStateMagic : UInt32 := 0x3158454B

def kFlagDueUnixValid : UInt8 := 1

def kEligibleEncounterMask : UInt32 := 0x1FFFFF

/-- How long a journey takes. -/
inductive Duration where
  | short
  | medium
  | long
  | count
deriving DecidableEq

/-- The byte that stands for a duration in the record. -/
def Duration.byte : Duration → UInt8
  | .short => 0
  | .medium => 1
  | .long => 2
  | .count => 3

/-- The duration that a byte stands for. -/
def Duration.ofByte (value : UInt8) : Duration :=
  if value = 0 then .short
  else if value = 1 then .medium
  else if value = 2 then .long
  else .count

/-- Where a journey stands. -/
inductive Phase where
  | idle
  | traveling
  | ready
deriving DecidableEq

/-- The byte that stands for a phase in the record. -/
def Phase.byte : Phase → UInt8
  | .idle => 0
  | .traveling => 1
  | .ready => 2

/-- What a journey may change of the personality. -/
inductive PersonalityAxis where
  | none
  | warmth
  | playfulness
  | boldness
  | curiosity
  | count
deriving DecidableEq

/-- The byte that stands for an axis in the record. -/
def PersonalityAxis.byte : PersonalityAxis → UInt8
  | .none => 0
  | .warmth => 1
  | .playfulness => 2
  | .boldness => 3
  | .curiosity => 4
  | .count => 5

/-- The character of the companion. -/
inductive PersonalityKind where
  | gentle
  | bold
  | curious
  | playful
  | shy
  | impish
deriving DecidableEq

/-- The byte that stands for a personality. -/
def PersonalityKind.byte : PersonalityKind → UInt8
  | .gentle => 0
  | .bold => 1
  | .curious => 2
  | .playful => 3
  | .shy => 4
  | .impish => 5

/-- The moods of the companion. -/
inductive CompanionMood where
  | content
  | dreaming
  | listening
  | drowsy
  | lonely
  | curious
  | excited
  | devoted
  | impish
  | loved
  | satisfied
  | playful
  | proud
  | startled
  | awake
deriving DecidableEq

/-- The byte that stands for a mood in the record. -/
def CompanionMood.byte : CompanionMood → UInt8
  | .content => 0
  | .dreaming => 1
  | .listening => 2
  | .drowsy => 3
  | .lonely => 4
  | .curious => 5
  | .excited => 6
  | .devoted => 7
  | .impish => 8
  | .loved => 9
  | .satisfied => 10
  | .playful => 11
  | .proud => 12
  | .startled => 13
  | .awake => 14

/--
The time of a call, by the uptime of its boot and, if known, by the clock.
-/
structure ClockSample where
  bootId : UInt32 := 0
  monotonicMillis : UInt32 := 0
  unixSeconds : UInt64 := 0
  unixValid : UInt8 := 0
deriving DecidableEq

/-- The companion that sets out. -/
structure StartContext where
  personality : PersonalityKind := .gentle
  mood : CompanionMood := .content
  affection : UInt8 := 0
  companionFingerprint : UInt32 := 0
  eligibleEncounterMask : UInt32 := 0
deriving DecidableEq

/-! ## The record -/

/-- The journey as it is stored. -/
structure ExpeditionState where
  magic : UInt32 := kStateMagic
  schemaVersion : UInt8 := kExpeditionStateSchemaVersion
  bytes : UInt8 := kExpeditionStateBytes
  phase : UInt8 := Phase.idle.byte
  duration : UInt8 := Duration.short.byte
  sequence : UInt32 := 0
  expeditionId : UInt32 := 0
  durationSeconds : UInt32 := 0
  remainingSeconds : UInt32 := 0
  dueUnixSeconds : UInt64 := 0
  checkpointBootId : UInt32 := 0
  checkpointMonotonicMillis : UInt32 := 0
  subsecondMillis : UInt16 := 0
  reportIndex : UInt8 := kNoReport
  affectionDelta : Int8 := 0
  mood : UInt8 := CompanionMood.content.byte
  moodStrength : UInt8 := 0
  personalityAxis : UInt8 := PersonalityAxis.none.byte
  personalityDelta : Int8 := 0
  encounterCatalogIndex : UInt8 := kNoEncounter
  memoryReportIndex : UInt8 := kNoReport
  flags : UInt8 := 0
  reserved : ByteVec 9 := .zero 9
  crc32 : UInt32 := 0
deriving DecidableEq

/-- The packed record up to its CRC. -/
def ExpeditionState.packed (state : ExpeditionState) : Bytes :=
  littleEndian 4 state.magic.toNat ++
    [state.schemaVersion, state.bytes, state.phase, state.duration] ++
    littleEndian 4 state.sequence.toNat ++
    littleEndian 4 state.expeditionId.toNat ++
    littleEndian 4 state.durationSeconds.toNat ++
    littleEndian 4 state.remainingSeconds.toNat ++
    littleEndian 8 state.dueUnixSeconds.toNat ++
    littleEndian 4 state.checkpointBootId.toNat ++
    littleEndian 4 state.checkpointMonotonicMillis.toNat ++
    littleEndian 2 state.subsecondMillis.toNat ++
    [state.reportIndex, state.affectionDelta.toUInt8, state.mood,
      state.moodStrength, state.personalityAxis,
      state.personalityDelta.toUInt8, state.encounterCatalogIndex,
      state.memoryReportIndex, state.flags] ++
    state.reserved.bytes

/-- The checksum of a record. -/
def stateCrc (state : ExpeditionState) : UInt32 :=
  Crc32.crc32 state.packed

/-- The seconds of a duration. -/
def durationSeconds : Duration → UInt32
  | .short => 15 * 60
  | .medium => 2 * 60 * 60
  | .long => 8 * 60 * 60
  | .count => 0

def validDuration (duration : Duration) : Bool :=
  duration.byte < Duration.count.byte

def validPhase (value : UInt8) : Bool :=
  value ≤ Phase.ready.byte

def validMood (mood : UInt8) : Bool :=
  mood ≤ CompanionMood.awake.byte

/-- `state.flags & kFlagDueUnixValid`. -/
def dueUnixValid (state : ExpeditionState) : Bool :=
  state.flags &&& kFlagDueUnixValid != 0

/-- What an idle record holds besides its sequence and duration. -/
def idleValid (state : ExpeditionState) : Bool :=
  state.expeditionId == 0 && state.durationSeconds == 0 &&
    state.remainingSeconds == 0 && state.dueUnixSeconds == 0 &&
    state.checkpointBootId == 0 && state.checkpointMonotonicMillis == 0 &&
    state.subsecondMillis == 0 && state.reportIndex == kNoReport &&
    state.affectionDelta == 0 && state.moodStrength == 0 &&
    state.personalityAxis == PersonalityAxis.none.byte &&
    state.personalityDelta == 0 &&
    state.encounterCatalogIndex == kNoEncounter &&
    state.memoryReportIndex == kNoReport && state.flags == 0

/-- The result that `start` fixed is in range. -/
def resultValid (state : ExpeditionState) : Bool :=
  state.reportIndex < kReportCount && 1 ≤ state.affectionDelta &&
    state.affectionDelta ≤ 3 && validMood state.mood &&
    1 ≤ state.moodStrength && state.moodStrength ≤ 3 &&
    PersonalityAxis.none.byte < state.personalityAxis &&
    state.personalityAxis < PersonalityAxis.count.byte &&
    1 ≤ state.personalityDelta && state.personalityDelta ≤ 2 &&
    (state.encounterCatalogIndex == kNoEncounter ||
      state.encounterCatalogIndex < kCatalogCreatureCount) &&
    state.memoryReportIndex == state.reportIndex

/-- What holds of a journey that is under way or done. -/
def journeyValid (state : ExpeditionState) : Bool :=
  validDuration (.ofByte state.duration) && state.sequence != 0 &&
    state.expeditionId != 0 &&
    state.durationSeconds == durationSeconds (.ofByte state.duration) &&
    state.remainingSeconds ≤ state.durationSeconds &&
    state.checkpointBootId != 0 && state.subsecondMillis < 1000 &&
    resultValid state &&
    (state.phase != Phase.traveling.byte || state.remainingSeconds != 0) &&
    (state.phase != Phase.ready.byte ||
      (state.remainingSeconds == 0 && state.subsecondMillis == 0)) &&
    dueUnixValid state ==
      decide (state.dueUnixSeconds ≥ kMinimumTrustedUnixSeconds)

/-- What a stored journey must meet before it is taken over. -/
def validateExpeditionState (state : ExpeditionState) : Bool :=
  state.magic == kStateMagic &&
    state.schemaVersion == kExpeditionStateSchemaVersion &&
    state.bytes == kExpeditionStateBytes && validPhase state.phase &&
    state.crc32 == stateCrc state &&
    state.flags &&& ~~~ kFlagDueUnixValid == 0 && state.reserved.allZero &&
    if state.phase == Phase.idle.byte then idleValid state
    else journeyValid state

/-- The record with the checksum that fits it. -/
def refreshCrc (state : ExpeditionState) : ExpeditionState :=
  { state with crc32 := stateCrc state }

/-- No journey, after so many of them. -/
def canonicalIdle (sequence : UInt32) : ExpeditionState :=
  { sequence := sequence }

/-- No journey yet. -/
def reset : ExpeditionState :=
  refreshCrc (canonicalIdle 0)

/-- What the reading of a stored journey answers. -/
inductive RestoreStatus where
  | ok
  | badMagic
  | unsupportedSchema
  | invalidState
deriving DecidableEq

/-- Take over a valid record; any other leaves the journey as it was. -/
def restore (core state : ExpeditionState) : RestoreStatus × ExpeditionState :=
  if state.magic != kStateMagic then (.badMagic, core)
  else if state.schemaVersion != kExpeditionStateSchemaVersion ||
      state.bytes != kExpeditionStateBytes then (.unsupportedSchema, core)
  else if !validateExpeditionState state then (.invalidState, core)
  else (.ok, state)

/-! ## Clocks -/

/-- A time that a journey may be measured by. -/
def validClock (clock : ClockSample) : Bool :=
  clock.bootId != 0 &&
    !(clock.unixValid != 0 && clock.unixSeconds < kMinimumTrustedUnixSeconds)

/-- The due time, unless the clock would overflow. -/
def safeDueUnix (unixSeconds : UInt64) (seconds : UInt32) : Option UInt64 :=
  if unixSeconds > 0xFFFFFFFFFFFFFFFF - seconds.toUInt64 then none
  else some (unixSeconds + seconds.toUInt64)

/--
The milliseconds that passed, unless the uptime went back or too far ahead.
-/
def monotonicDelta (previous current maximumTrustedDelta : UInt32) :
    Option UInt32 :=
  if current ≥ previous then
    if current - previous > maximumTrustedDelta then none
    else some (current - previous)
  else if previous ≥ 0xF0000000 && current ≤ 0x0FFFFFFF then
    if current + (0xFFFFFFFF - previous) + 1 > maximumTrustedDelta then none
    else some (current + (0xFFFFFFFF - previous) + 1)
  else none

/-! ## Starting -/

/-- What a start answers. -/
inductive StartStatus where
  | started
  | busy
  | invalidDuration
  | invalidContext
  | invalidClock
  | invalidState
  | sequenceExhausted
deriving DecidableEq

/-- How many bits are set. -/
def populationCount (bits : UInt32) : Nat :=
  ((List.range 32).map fun index => (bits.toNat >>> index) % 2).sum

/-- The index of the set bit with this ordinal, from the lowest bit on. -/
def selectedSetBit (bits : UInt32) (ordinal : Nat) : UInt8 :=
  (((List.range kCatalogCreatureCount.toNat).filter
    fun index => bits.toNat.testBit index)[ordinal]?.map UInt8.ofNat).getD
      kNoEncounter

/-- The chance to meet a creature on a journey. -/
def encounterChancePercent : Duration → UInt32
  | .short => 10
  | .medium => 25
  | .long => 40
  | .count => 0

/-- The mood that a personality comes home in. -/
def kResultMoods : PersonalityKind → CompanionMood
  | .gentle => .loved
  | .bold => .proud
  | .curious => .curious
  | .playful => .playful
  | .shy => .content
  | .impish => .impish

/-- What the journey strengthens of a personality. -/
def kResultAxes : PersonalityKind → PersonalityAxis
  | .gentle => .warmth
  | .bold => .boldness
  | .curious => .curiosity
  | .playful => .playfulness
  | .shy => .warmth
  | .impish => .playfulness

/-- The seed of a journey: the companion, its number and the entropy. -/
def startSeed (duration : Duration) (context : StartContext)
    (nextSequence entropy : UInt32) : UInt32 :=
  mix32 (entropy ^^^ context.companionFingerprint ^^^
    (nextSequence * (0x9E3779B9 : UInt32)) ^^^ (duration.byte.toUInt32 <<< 28) ^^^
    (context.personality.byte.toUInt32 <<< 20) ^^^
    (context.mood.byte.toUInt32 <<< 12) ^^^ (context.affection.toUInt32 <<< 4))

/-- The creature that is met, among those that may be, or none. -/
def chosenEncounter (duration : Duration) (context : StartContext)
    (seed : UInt32) : UInt8 :=
  let encounterSeed := mix32 (seed ^^^ 0xC2B2AE35)
  let eligible := context.eligibleEncounterMask &&& kEligibleEncounterMask
  if eligible != 0 && encounterSeed % 100 < encounterChancePercent duration then
    selectedSetBit eligible
      ((mix32 (encounterSeed ^^^ 0x27D4EB2F)).toNat % populationCount eligible)
  else kNoEncounter

/-- The name of a journey; never zero. -/
def expeditionIdOf (seed : UInt32) : UInt32 :=
  if mix32 (seed ^^^ 0xD1B54A35) == 0 then 1 else mix32 (seed ^^^ 0xD1B54A35)

/-- The report is one of the four of the personality. -/
def chosenReport (personality : PersonalityKind) (seed : UInt32) : UInt8 :=
  personality.byte * 4 + (mix32 (seed ^^^ 0x94D049BB) &&& 3).toUInt8

/-- The journey at its start; its results are drawn already. -/
def startedState (duration : Duration) (context : StartContext)
    (now : ClockSample) (due : UInt64) (nextSequence entropy : UInt32) :
    ExpeditionState :=
  let seed := startSeed duration context nextSequence entropy
  { phase := Phase.traveling.byte
    duration := duration.byte
    sequence := nextSequence
    expeditionId := expeditionIdOf seed
    durationSeconds := durationSeconds duration
    remainingSeconds := durationSeconds duration
    dueUnixSeconds := due
    checkpointBootId := now.bootId
    checkpointMonotonicMillis := now.monotonicMillis
    reportIndex := chosenReport context.personality seed
    affectionDelta := (duration.byte + 1).toInt8
    mood := (kResultMoods context.personality).byte
    moodStrength := duration.byte + 1
    personalityAxis := (kResultAxes context.personality).byte
    personalityDelta := if duration = .long then 2 else 1
    encounterCatalogIndex := chosenEncounter duration context seed
    memoryReportIndex := chosenReport context.personality seed
    flags := if now.unixValid != 0 then kFlagDueUnixValid else 0 }

/-- Personality and mood are in range by their types. -/
def start (core : ExpeditionState) (duration : Duration)
    (context : StartContext) (now : ClockSample) (entropy : UInt32) :
    StartStatus × ExpeditionState :=
  if !validateExpeditionState core then (.invalidState, core)
  else if core.phase != Phase.idle.byte then (.busy, core)
  else if !validDuration duration then (.invalidDuration, core)
  else if context.affection > 100 ||
      context.eligibleEncounterMask &&& ~~~ kEligibleEncounterMask != 0 then
    (.invalidContext, core)
  else if !validClock now then (.invalidClock, core)
  else if core.sequence == 0xFFFFFFFF then (.sequenceExhausted, core)
  else
    match if now.unixValid != 0 then
        safeDueUnix now.unixSeconds (durationSeconds duration)
      else some 0 with
    | none => (.invalidClock, core)
    | some due =>
      (.started, refreshCrc
        (startedState duration context now due (core.sequence + 1) entropy))

/-! ## Polling -/

/-- What a poll answers. -/
inductive PollStatus where
  | noChange
  | progressed
  | becameReady
  | invalidClock
  | invalidState
deriving DecidableEq

/-- The record during a poll, with the candidate for its remaining time. -/
structure Reckoning where
  state : ExpeditionState
  candidateRemaining : UInt32
  candidateSubsecond : UInt16
  changed : Bool

/-- Take the elapsed milliseconds off the remaining time. -/
def elapse (state : ExpeditionState) (now : ClockSample)
    (elapsedMillis : UInt32) : Reckoning :=
  let totalMillis := elapsedMillis.toNat + state.subsecondMillis.toNat
  let elapsedSeconds := UInt32.ofNat (totalMillis / 1000)
  { state := { state with checkpointMonotonicMillis := now.monotonicMillis }
    candidateRemaining :=
      if elapsedSeconds ≥ state.remainingSeconds then 0
      else state.remainingSeconds - elapsedSeconds
    candidateSubsecond := UInt16.ofNat (totalMillis % 1000)
    changed := true }

/-- The estimate of the monotonic clock, which does not outlive a boot. -/
def monotonicEstimate (state : ExpeditionState) (now : ClockSample) :
    Reckoning :=
  if now.bootId == state.checkpointBootId then
    match monotonicDelta state.checkpointMonotonicMillis now.monotonicMillis
        (state.durationSeconds * 1000 + 60000) with
    | some elapsedMillis =>
      if elapsedMillis != 0 then elapse state now elapsedMillis
      else
        { state
          candidateRemaining := state.remainingSeconds
          candidateSubsecond := state.subsecondMillis
          changed := false }
    | none =>
      { state := { state with
          checkpointMonotonicMillis := now.monotonicMillis }
        candidateRemaining := state.remainingSeconds
        candidateSubsecond := 0
        changed := true }
  else
    { state := { state with
        checkpointBootId := now.bootId
        checkpointMonotonicMillis := now.monotonicMillis }
      candidateRemaining := state.remainingSeconds
      candidateSubsecond := 0
      changed := true }

/-- The seconds until the due time; none when it has passed. -/
def wallRemaining (dueUnixSeconds unixSeconds : UInt64) : UInt32 :=
  if unixSeconds < dueUnixSeconds then
    if dueUnixSeconds - unixSeconds > 0xFFFFFFFF then 0xFFFFFFFF
    else (dueUnixSeconds - unixSeconds).toUInt32
  else 0

/-- The estimate of the wall clock, or the due time it is bound to. -/
def wallEstimate (reckoning : Reckoning) (now : ClockSample) :
    Option Reckoning :=
  if dueUnixValid reckoning.state && now.unixValid != 0 then
    let wall := wallRemaining reckoning.state.dueUnixSeconds now.unixSeconds
    if wall < reckoning.candidateRemaining then
      some { reckoning with
        candidateRemaining := wall
        candidateSubsecond := 0
        changed := true }
    else some reckoning
  else if !dueUnixValid reckoning.state && now.unixValid != 0 then
    match safeDueUnix now.unixSeconds reckoning.candidateRemaining with
    | none => none
    | some due =>
      some { reckoning with
        state := { reckoning.state with
          dueUnixSeconds := due
          flags := reckoning.state.flags ||| kFlagDueUnixValid }
        changed := true }
  else some reckoning

/-- Write the candidate back and say what became of the journey. -/
def settle (reckoning : Reckoning) : PollStatus × ExpeditionState :=
  let changed := reckoning.changed ||
    reckoning.candidateRemaining != reckoning.state.remainingSeconds ||
    reckoning.candidateSubsecond != reckoning.state.subsecondMillis
  let state := { reckoning.state with
    remainingSeconds := reckoning.candidateRemaining
    subsecondMillis := reckoning.candidateSubsecond }
  if state.remainingSeconds == 0 then
    (.becameReady, refreshCrc { state with
      phase := Phase.ready.byte
      subsecondMillis := 0 })
  else if !changed then (.noChange, state)
  else (.progressed, refreshCrc state)

/-- A due time out of range is noticed after the checkpoint was moved. -/
def poll (core : ExpeditionState) (now : ClockSample) :
    PollStatus × ExpeditionState :=
  if !validateExpeditionState core then (.invalidState, core)
  else if !validClock now then (.invalidClock, core)
  else if core.phase != Phase.traveling.byte then (.noChange, core)
  else
    let estimate := monotonicEstimate core now
    match wallEstimate estimate now with
    | none => (.invalidClock, estimate.state)
    | some reckoning => settle reckoning

/-! ## Completion -/

/-- What a finished journey brings home. -/
structure CompletionHooks where
  expeditionId : UInt32
  affectionDelta : Int8
  mood : UInt8
  moodStrength : UInt8
  personalityAxis : UInt8
  personalityDelta : Int8
  encounterCatalogIndex : UInt8
  memoryReportIndex : UInt8
deriving DecidableEq

/-- The hooks as the record keeps them. -/
def ExpeditionState.hooks (state : ExpeditionState) : CompletionHooks where
  expeditionId := state.expeditionId
  affectionDelta := state.affectionDelta
  mood := state.mood
  moodStrength := state.moodStrength
  personalityAxis := state.personalityAxis
  personalityDelta := state.personalityDelta
  encounterCatalogIndex := state.encounterCatalogIndex
  memoryReportIndex := state.memoryReportIndex

/-- The results, once the journey is done. -/
def completion (core : ExpeditionState) : Option CompletionHooks :=
  if !validateExpeditionState core || core.phase != Phase.ready.byte then none
  else some core.hooks

/-- What an acknowledgement answers. -/
inductive AcknowledgeStatus where
  | acknowledged
  | notReady
  | wrongExpedition
  | invalidState
deriving DecidableEq

/-- The player has seen the results; the next journey may begin. -/
def acknowledge (core : ExpeditionState) (expeditionId : UInt32) :
    AcknowledgeStatus × ExpeditionState :=
  if !validateExpeditionState core then (.invalidState, core)
  else if core.phase != Phase.ready.byte then (.notReady, core)
  else if core.expeditionId != expeditionId then (.wrongExpedition, core)
  else (.acknowledged, refreshCrc (canonicalIdle core.sequence))

end Kitsu.Expedition
