import Kitsu.Adventure.State

/-!
# The operations of the adventure progression

`AdventureProgression` of `adventure_progression.cpp`, as functions from the
record before a call to the status and the record after it.  Every operation
checks the record first and answers `invalidState` without touching it when the
check fails.  The clock, the entropy, the location samples and the results of
the other engines are arguments, as they are in the source.
-/

namespace Kitsu.Adventure

open Kitsu.Lib.ByteString

/-- What a call answers. -/
inductive Status where
  | ok
  | noChange
  | duplicate
  | invalidArgument
  | invalidClock
  | invalidState
  | busy
  | wrongPhase
  | privacyDisabled
  | privacyModeMismatch
  | decisionLimit
  | commuteRestricted
  | rescueRequired
  | wrongRoute
deriving DecidableEq

/-- What the reading of a stored state answers. -/
inductive RestoreStatus where
  | ok
  | badMagic
  | unsupportedSchema
  | invalidState
deriving DecidableEq

/-! ## Arguments and outputs -/

/-- The time as far as it is known; an untrusted one says nothing. -/
structure ClockSample where
  unixSeconds : UInt64 := 0
  dayId : UInt32 := 0
  minuteOfDay : UInt16 := 0
  trusted : UInt8 := 0
deriving DecidableEq

/-- What a route is asked to be. -/
structure RouteRequest where
  terrain : UInt8 := Terrain.meadow.code
  objective : UInt8 := Objective.explore.code
  risk : UInt8 := Risk.balanced.code
  personality : UInt8 := PersonalityKind.gentle.code
  weather : UInt8 := 0
  baseTargetSteps : UInt32 := 1000
  commuteSafe : UInt8 := 0
deriving DecidableEq

/-- A position in ten-millionths of a degree, with its accuracy. -/
structure PreciseLocationSample where
  latitudeE7 : Int32 := 0
  longitudeE7 : Int32 := 0
  accuracyMeters : UInt16 := 0
deriving DecidableEq

/-- What an observed zone is reported as. -/
structure LocationUpdate where
  zoneToken : UInt32
  totalDistanceMeters : UInt32
  familiarity : Familiarity
  newZone : Bool
  homeComfort : Bool
  storedZoneCount : UInt8
deriving DecidableEq

/-- What an observed hotspot is reported as. -/
structure HotspotUpdate where
  hotspotVisits : UInt16
  communityDayBonuses : UInt16
  participantCount : UInt8
  trustedTime : UInt8
  communityDayActive : Bool
  bonusAwarded : Bool
deriving DecidableEq

/-- What `applyExpedition` reads of an expedition's completion. -/
structure CompletionHooks where
  expeditionId : UInt32 := 0
  affectionDelta : Int8 := 0
  encounterCatalogIndex : UInt8 := 255
deriving DecidableEq

/-- What the adventure reads of a party's hunt result. -/
structure HuntResult where
  participantCount : UInt8 := 0
  completedRounds : UInt8 := 0
  tier : UInt8 := 0
  score : UInt16 := 0
  maximumScore : UInt16 := 0
  proof : UInt32 := 0
deriving DecidableEq

/-- The record of an encounter that is brought to a route. -/
structure EncounterRecord where
  schemaVersion : UInt8 := 1
  operationKind : UInt8 := 6
  encounterOccurred : UInt8 := 0
  guaranteed : UInt8 := 0
  rarity : UInt8 := 0
  codeOutcome : UInt8 := 0
  encounterRollBasisPoints : UInt16 := 0
  rarityRollBasisPoints : UInt16 := 0
  codeRollBasisPoints : UInt16 := 0
  operationId : UInt64 := 0
deriving DecidableEq

/-! ## Arithmetic and clock -/

/-- The sum, at most the largest number of four bytes. -/
def saturatingAddU32 (left right : UInt32) : UInt32 :=
  if right > 0xffffffff - left then 0xffffffff else left + right

/-- The sum, at most the largest number of two bytes. -/
def saturatingAddU16 (left : UInt16) (right : UInt32) : UInt16 :=
  if right > (0xffff - left).toUInt32 then 0xffff
  else (left.toUInt32 + right).toUInt16

/-- The progression has its own copy of the mixer. -/
def mix32 (value : UInt32) : UInt32 :=
  let value := value ^^^ (value >>> 16)
  let value := value * 0x7feb352d
  let value := value ^^^ (value >>> 15)
  let value := value * 0x846ca68b
  value ^^^ (value >>> 16)

/-- A trusted time is after the first one that can be meant, within its day. -/
def validClock (clock : ClockSample) : Bool :=
  if clock.trusted > 1 then false
  else if clock.trusted == 0 then true
  else
    clock.unixSeconds ≥ kMinimumTrustedUnixSeconds && clock.dayId != 0 &&
      clock.minuteOfDay < 1440

/-- The part of the day, if the time is trusted. -/
def timeBandFor (clock : ClockSample) : TimeBand :=
  if clock.trusted == 0 then .unknown
  else if clock.minuteOfDay ≥ 300 && clock.minuteOfDay < 480 then .dawn
  else if clock.minuteOfDay < 1020 && clock.minuteOfDay ≥ 480 then .day
  else if clock.minuteOfDay ≥ 1020 && clock.minuteOfDay < 1200 then .dusk
  else .night

/-- The phase of a moon of twenty-nine days, if the time is trusted. -/
def moonFor (clock : ClockSample) : MoonPhase :=
  if clock.trusted == 0 then .unknown
  else
    let lunarDay := (clock.unixSeconds / 86400 % 29).toUInt8
    if lunarDay < 4 then .newMoon
    else if lunarDay < 11 then .waxing
    else if lunarDay < 18 then .fullMoon
    else .waning

def communityDayFor (clock : ClockSample) : Bool :=
  clock.trusted != 0 && clock.dayId % 7 == 0

/-! ## The record -/

/-- Store the checksum of the record. -/
def refreshCrc (state : ProgressState) : ProgressState :=
  { state with crc32 := stateCrc state }

/-- The record of a device without progress. -/
def reset : ProgressState :=
  refreshCrc { bytes := UInt16.ofNat kProgressStateBytes }

/-- The record after restoring a snapshot over it. -/
def restore (state snapshot : ProgressState) :
    RestoreStatus × ProgressState :=
  if snapshot.magic != kStateMagic then (.badMagic, state)
  else if snapshot.schemaVersion != kProgressSchemaVersion ||
      snapshot.bytes != UInt16.ofNat kProgressStateBytes then
    (.unsupportedSchema, state)
  else if !validateProgressState snapshot then (.invalidState, state)
  else (.ok, snapshot)

/-- The home zone is the zone the device is in. -/
def homeComfort (state : ProgressState) : Bool :=
  state.homeZoneToken != 0 && state.homeZoneToken == state.currentZoneToken

/-- The share of the base target a route asks for, in percent. -/
def targetPercent (state : ProgressState) : Int :=
  let percent : Int := 100
  let percent :=
    if state.terrain == Terrain.forest.code ||
        state.terrain == Terrain.waterfront.code then percent + 10
    else if state.terrain == Terrain.ridge.code then percent + 20
    else if state.terrain == Terrain.town.code then percent - 10
    else percent
  let percent := if state.objective == Objective.followSignal.code
    then percent + 5 else percent
  let percent := if state.objective == Objective.meetCreature.code
    then percent + 10 else percent
  let percent := if state.objective == Objective.community.code
    then percent - 10 else percent
  let percent := if state.objective == Objective.returnHome.code
    then percent - 20 else percent
  let percent := if state.risk == Risk.careful.code
    then percent - 10 else percent
  let percent := if state.risk == Risk.bold.code
    then percent + 15 else percent
  let suits :=
    state.personality == PersonalityKind.gentle.code &&
      state.risk == Risk.careful.code ||
    state.personality == PersonalityKind.bold.code &&
      state.risk == Risk.bold.code ||
    state.personality == PersonalityKind.curious.code &&
      (state.objective == Objective.explore.code ||
        state.objective == Objective.followSignal.code) ||
    state.personality == PersonalityKind.playful.code &&
      state.objective == Objective.community.code
  let percent := if suits then percent - 5 else percent
  let percent := if homeComfort state then percent - 15 else percent
  let percent := if state.partySize == 2 then percent - 10 else percent
  let percent := if state.partySize == 3 then percent - 15 else percent
  let percent := if state.partySize == 4 then percent - 25 else percent
  let percent := if flagged state.flags kFlagCommuteSafe
    then percent - 15 else percent
  let percent := if flagged state.flags kFlagCommunityDay
    then percent - 5 else percent
  let percent := if percent < 50 then 50 else percent
  if percent > 180 then 180 else percent

/-- The target kept between the smallest and the largest one. -/
def clampTarget (target : Nat) : Nat :=
  let target := if target < 100 then 100 else target
  if target > 100000 then 100000 else target

/-- The steps a route under way asks for. -/
def targetStepsFor (state : ProgressState) : UInt32 :=
  if state.phase == RoutePhase.idle.code || state.baseTargetSteps == 0 then
    0
  else
    let target :=
      state.baseTargetSteps.toNat * (targetPercent state).toNat / 100
    UInt32.ofNat (clampTarget target)

/-- The steps of a route, computed anew. -/
def recalculateTarget (state : ProgressState) : ProgressState :=
  { state with targetSteps := targetStepsFor state }

/-! ## Location -/

/-- Forget the location and enter the given mode. -/
def clearLocation (state : ProgressState) (mode : UInt8) (salt : UInt32) :
    ProgressState :=
  { state with
    privacyMode := mode
    locationSalt := salt
    currentZoneToken := 0
    homeZoneToken := 0
    totalDistanceMeters := 0
    routeDistanceMeters := 0
    zoneCount := 0
    flags := state.flags &&& ~~~ kFlagCurrentZoneNew
    zones := .replicate _ {} }

/-- Only the precise mode keeps a salt. -/
def saltFor (mode : UInt8) (locationSalt : UInt32) : UInt32 :=
  if mode != PrivacyMode.preciseTransient.code then 0 else locationSalt

/-- Change what may be known of the location; a change forgets what was. -/
def setPrivacyMode (state : ProgressState) (mode : UInt8)
    (locationSalt : UInt32) : Status × ProgressState :=
  if !validateProgressState state then (.invalidState, state)
  else if !validPrivacy mode then (.invalidArgument, state)
  else if mode == PrivacyMode.preciseTransient.code &&
      locationSalt == 0 then
    (.invalidArgument, state)
  else
    let salt := saltFor mode locationSalt
    if state.privacyMode == mode && state.locationSalt == salt then
      (.noChange, state)
    else
      (.ok, refreshCrc (recalculateTarget (clearLocation state mode salt)))

/-- Make a zone the home zone. -/
def setHomeZone (state : ProgressState) (coarseZoneToken : UInt32) :
    Status × ProgressState :=
  if !validateProgressState state then (.invalidState, state)
  else if state.privacyMode == PrivacyMode.off.code then
    (.privacyDisabled, state)
  else if coarseZoneToken == 0 then (.invalidArgument, state)
  else if state.homeZoneToken == coarseZoneToken then (.noChange, state)
  else
    (.ok, refreshCrc
      (recalculateTarget { state with homeZoneToken := coarseZoneToken }))

/-- Division that rounds down, also below zero. -/
def floorDivide (value divisor : Int32) : Int32 :=
  let quotient := value / divisor
  let remainder := value % divisor
  if remainder != 0 && value < 0 then quotient - 1 else quotient

/-- The salted token of the coarse cell a sample lies in. -/
def preciseZoneToken (sample : PreciseLocationSample) (salt : UInt32) :
    UInt32 :=
  let latitudeCell := floorDivide sample.latitudeE7 250000
  let longitudeCell := floorDivide sample.longitudeE7 250000
  let value := latitudeCell.toUInt32 * 0x9e3779b9
  let value := value ^^^ (longitudeCell.toUInt32 * 0x85ebca6b)
  let value := mix32 (value ^^^ salt ^^^ 0xc2b2ae35)
  if value == 0 then 1 else value

/-- How well a zone is known, by its visits. -/
def familiarityFor (zone : ZoneState) (home : Bool) : Familiarity :=
  if home then .home
  else if zone.visits ≤ 1 then .newZone
  else if zone.visits < 4 then .familiar
  else .wellKnown

/-- Where a zone is stored, and the record that has it there. -/
structure Placement where
  slot : Fin kMaximumZones
  isNew : Bool
  state : ProgressState

/--
The slot of a zone; a new one takes the least visited slot of a full table.
-/
def placeZone (state : ProgressState) (zoneToken : UInt32) : Placement :=
  match zoneSlot state zoneToken with
  | some slot => { slot, isNew := false, state }
  | none =>
    if room : state.zoneCount.toNat < kMaximumZones then
      { slot := ⟨state.zoneCount.toNat, room⟩
        isNew := true
        state := { state with
          zoneCount := state.zoneCount + 1
          zones := state.zones.set state.zoneCount.toNat
            { token := zoneToken } } }
    else
      { slot := leastVisited state
        isNew := true
        state := { state with
          zones := state.zones.set (leastVisited state)
            { token := zoneToken } } }

/-- One more visit of a zone and the distance walked there. -/
def visitZone (zone : ZoneState) (segmentMeters : UInt32) : ZoneState :=
  let decameters := segmentMeters / 10
  let decameters :=
    if segmentMeters != 0 && decameters == 0 then 1 else decameters
  { zone with
    visits := saturatingAddU16 zone.visits 1
    distanceDecameters :=
      saturatingAddU16 zone.distanceDecameters decameters }

/-- A route under way counts the steps and the distance of an observation. -/
def walkRoute (state : ProgressState) (stepDelta segmentMeters : UInt32) :
    ProgressState :=
  if state.phase == RoutePhase.active.code then
    recalculateTarget { state with
      steps := saturatingAddU32 state.steps stepDelta
      routeDistanceMeters :=
        saturatingAddU32 state.routeDistanceMeters segmentMeters }
  else
    state

/-- The record after an accepted observation of a zone. -/
def enterZone (state : ProgressState)
    (zoneToken stepDelta segmentMeters : UInt32) : ProgressState :=
  let place := placeZone state zoneToken
  let placed := place.state
  walkRoute { placed with
    zones := placed.zones.set place.slot
      (visitZone placed.zones[place.slot] segmentMeters)
    currentZoneToken := zoneToken
    flags := if place.isNew then placed.flags ||| kFlagCurrentZoneNew
      else placed.flags &&& ~~~ kFlagCurrentZoneNew
    totalDistanceMeters :=
      saturatingAddU32 placed.totalDistanceMeters segmentMeters }
    stepDelta segmentMeters

/-- Enter a zone with the steps and the distance walked. -/
def observeZoneToken (state : ProgressState)
    (zoneToken stepDelta segmentMeters : UInt32) :
    Status × ProgressState × Option LocationUpdate :=
  if stepDelta > kMaximumStepDelta ||
      segmentMeters > kMaximumSegmentMeters then
    (.invalidArgument, state, none)
  else
    let place := placeZone state zoneToken
    let entered := enterZone state zoneToken stepDelta segmentMeters
    let home := entered.homeZoneToken != 0 &&
      entered.homeZoneToken == zoneToken
    (.ok, refreshCrc entered, some {
      zoneToken
      totalDistanceMeters := entered.totalDistanceMeters
      familiarity := familiarityFor entered.zones[place.slot] home
      newZone := place.isNew
      homeComfort := home
      storedZoneCount := entered.zoneCount })

/-- A zone that the phone names, in the coarse mode only. -/
def observeCoarseZone (state : ProgressState)
    (coarseZoneToken stepDelta segmentMeters : UInt32) :
    Status × ProgressState × Option LocationUpdate :=
  if !validateProgressState state then (.invalidState, state, none)
  else if state.privacyMode == PrivacyMode.off.code then
    (.privacyDisabled, state, none)
  else if state.privacyMode != PrivacyMode.coarse.code then
    (.privacyModeMismatch, state, none)
  else if coarseZoneToken == 0 then (.invalidArgument, state, none)
  else observeZoneToken state coarseZoneToken stepDelta segmentMeters

/-- A position is hashed to a zone at once; the position itself is not kept. -/
def observePreciseTransient (state : ProgressState)
    (sample : PreciseLocationSample) (stepDelta segmentMeters : UInt32) :
    Status × ProgressState × Option LocationUpdate :=
  if !validateProgressState state then (.invalidState, state, none)
  else if state.privacyMode == PrivacyMode.off.code then
    (.privacyDisabled, state, none)
  else if state.privacyMode != PrivacyMode.preciseTransient.code then
    (.privacyModeMismatch, state, none)
  else if sample.latitudeE7 < -900000000 || sample.latitudeE7 > 900000000 ||
      sample.longitudeE7 < -1800000000 || sample.longitudeE7 > 1800000000 ||
      sample.accuracyMeters == 0 || sample.accuracyMeters > 10000 then
    (.invalidArgument, state, none)
  else
    observeZoneToken state (preciseZoneToken sample state.locationSalt)
      stepDelta segmentMeters

/-! ## Hotspots -/

/-- The report of a hotspot, with the totals so far. -/
def hotspotUpdate (state : ProgressState) (participantCount trustedTime : UInt8)
    (communityDayActive bonusAwarded : Bool) : HotspotUpdate where
  hotspotVisits := state.communityHotspotVisits
  communityDayBonuses := state.communityDayBonuses
  participantCount
  trustedTime
  communityDayActive
  bonusAwarded

/-- The bonus of the first visit on a community day. -/
def awardCommunityDay (state : ProgressState) (participantCount : UInt8)
    (dayId : UInt32) : ProgressState :=
  { state with
    lastCommunityDayId := dayId
    communityDayBonuses := saturatingAddU16 state.communityDayBonuses 1
    progressPoints :=
      if state.phase == RoutePhase.active.code then
        saturatingAddU16 state.progressPoints participantCount.toUInt32
      else state.progressPoints }

/-- The first hotspot visit of a community day that has had no bonus yet. -/
def earnsBonus (state : ProgressState) (now : ClockSample) : Bool :=
  communityDayFor now && state.lastCommunityDayId != now.dayId

/-- The record after an accepted visit of a hotspot. -/
def visitHotspot (state : ProgressState) (hotspotToken : UInt32)
    (participantCount : UInt8) (now : ClockSample) : ProgressState :=
  let visited : ProgressState := { state with
    communityHotspotVisits :=
      saturatingAddU16 state.communityHotspotVisits 1
    lastHotspotToken := hotspotToken
    lastHotspotDayId := if now.trusted != 0 then now.dayId else 0 }
  if earnsBonus state now
  then awardCommunityDay visited participantCount now.dayId else visited

/-- Meet others at a hotspot, once a trusted day for each hotspot. -/
def observeHotspot (state : ProgressState) (hotspotToken : UInt32)
    (participantCount : UInt8) (now : ClockSample) :
    Status × ProgressState × Option HotspotUpdate :=
  if !validateProgressState state then (.invalidState, state, none)
  else if !validClock now then (.invalidClock, state, none)
  else if hotspotToken == 0 || participantCount < kMinimumParticipants ||
      participantCount > kMaximumParticipants then
    (.invalidArgument, state, none)
  else if now.trusted != 0 && state.lastHotspotToken == hotspotToken &&
      state.lastHotspotDayId == now.dayId then
    (.duplicate, state, some (hotspotUpdate state participantCount 1
      (communityDayFor now) false))
  else
    let visited := visitHotspot state hotspotToken participantCount now
    (.ok, refreshCrc visited, some (hotspotUpdate visited participantCount
      now.trusted (communityDayFor now) (earnsBonus state now)))

/-! ## Routes -/

/-- How far the route is done, by steps, decisions and distance. -/
def progressPercent (state : ProgressState) : Nat :=
  if state.targetSteps == 0 then 0
  else
    let stepPercent :=
      if state.steps ≥ state.targetSteps then 100
      else state.steps.toNat * 100 / state.targetSteps.toNat
    let decisionAndHookBonus := min state.progressPoints.toNat 30
    let distanceBonus := min (state.routeDistanceMeters.toNat / 250) 10
    min (stepPercent + (decisionAndHookBonus + distanceBonus)) 100

/--
A number that tells terrain, objective and variant of a route; never zero.
-/
def routeSignature (terrain objective variant : UInt8) : UInt16 :=
  1 + terrain.toUInt16 * 60 + objective.toUInt16 * 12 + variant.toUInt16

/-- Remember the signature of a route over the oldest one. -/
def appendHistory (state : ProgressState) (signature : UInt16) :
    ProgressState :=
  { state with
    routeHistory :=
      state.routeHistory.setIfInBounds state.historyNext.toNat signature
    historyCount :=
      if state.historyCount.toNat < kRouteHistoryCapacity
      then state.historyCount + 1 else state.historyCount
    historyNext :=
      (state.historyNext + 1) % UInt8.ofNat kRouteHistoryCapacity }

/-- The routes that follow each other in a chain have the same key. -/
def chainKeyFor (request : RouteRequest) : UInt32 :=
  let value := request.terrain.toUInt32
  let value := value ||| (request.objective.toUInt32 <<< 4)
  let value := value ||| (request.personality.toUInt32 <<< 8)
  let value := mix32 (value ^^^ 0xa5c31d27)
  if value == 0 then 1 else value

/-- The first variant not among the recent routes, in a number of attempts. -/
def freshVariant (state : ProgressState) (terrain objective : UInt8) :
    Nat → UInt8 → UInt8
  | 0, variant => variant
  | attempts + 1, variant =>
    if !historyContains state (routeSignature terrain objective variant)
    then variant
    else freshVariant state terrain objective attempts
      ((variant + 1) % kRouteVariantCount)

/--
The seed of a route: entropy, number, request, time and the zone one is in.
-/
def routeSeedFor (state : ProgressState) (request : RouteRequest)
    (now : ClockSample) (entropy : UInt32) : UInt32 :=
  let nextSequence := state.sequence + 1
  let seed := entropy ^^^ (nextSequence * 0x9e3779b9)
  let seed := seed ^^^ request.terrain.toUInt32
  let seed := seed ^^^ (request.objective.toUInt32 <<< 4)
  let seed := seed ^^^ (request.risk.toUInt32 <<< 8)
  let seed := seed ^^^ (request.personality.toUInt32 <<< 12)
  let seed := seed ^^^ (request.weather.toUInt32 <<< 16)
  let seed := seed ^^^ ((timeBandFor now).code.toUInt32 <<< 20)
  let seed := seed ^^^ ((moonFor now).code.toUInt32 <<< 24)
  let seed := seed ^^^ (state.currentZoneToken ^^^ chainKeyFor request)
  let seed := mix32 seed
  if seed == 0 then 0x6d2b79f5 else seed

/-- The name of a route; never zero. -/
def routeIdFor (seed nextSequence : UInt32) (signature : UInt16) : UInt32 :=
  let routeId := mix32
    (seed ^^^ nextSequence ^^^ signature.toUInt32 ^^^ 0xd1b54a35)
  if routeId == 0 then 1 else routeId

/-- How many routes of one kind were finished in a row with this one. -/
def chainDepthFor (state : ProgressState) (request : RouteRequest) : UInt8 :=
  if flagged state.flags kFlagChainEligible &&
      state.lastChainKey == chainKeyFor request then
    if state.chainDepth == 255 then 255 else state.chainDepth + 1
  else
    1

/-- What is known of a route when it begins. -/
def startFlags (flags : UInt8) (request : RouteRequest)
    (now : ClockSample) : UInt8 :=
  let flags := flags &&& kFlagCurrentZoneNew
  let flags := if request.commuteSafe != 0
    then flags ||| kFlagCommuteSafe else flags
  let flags := if now.trusted != 0
    then flags ||| kFlagTrustedStartClock else flags
  if communityDayFor now then flags ||| kFlagCommunityDay else flags

/-- All choices of a request are in range. -/
def validRequest (request : RouteRequest) : Bool :=
  validTerrain request.terrain && validObjective request.objective &&
    validRisk request.risk && validPersonality request.personality &&
    validWeather request.weather && 100 ≤ request.baseTargetSteps &&
    request.baseTargetSteps ≤ 100000 && request.commuteSafe ≤ 1

/-- The record of a route that has just begun. -/
def startRoute (state : ProgressState) (request : RouteRequest)
    (now : ClockSample) (entropy : UInt32) : ProgressState :=
  let nextSequence := state.sequence + 1
  let seed := routeSeedFor state request now entropy
  let variant := freshVariant state request.terrain request.objective
    kRouteVariantCount.toNat (seed % kRouteVariantCount.toUInt32).toUInt8
  let signature := routeSignature request.terrain request.objective variant
  recalculateTarget (appendHistory { state with
    phase := RoutePhase.active.code
    outcome := Outcome.none.code
    terrain := request.terrain
    objective := request.objective
    risk := request.risk
    personality := request.personality
    weather := request.weather
    timeBand := (timeBandFor now).code
    moonPhase := (moonFor now).code
    decisionCount := 0
    branchCode := 0
    partySize := 0
    chainDepth := chainDepthFor state request
    routeVariant := variant
    progressPoints := 0
    riskPoints := 0
    sequence := nextSequence
    routeId := routeIdFor seed nextSequence signature
    routeSeed := seed
    baseTargetSteps := request.baseTargetSteps
    steps := 0
    routeDistanceMeters := 0
    lastChainKey := chainKeyFor request
    flags := startFlags state.flags request now } signature)

/-- Begin a route, if none is under way. -/
def begin (state : ProgressState) (request : RouteRequest)
    (now : ClockSample) (entropy : UInt32) : Status × ProgressState :=
  if !validateProgressState state then (.invalidState, state)
  else if state.phase != RoutePhase.idle.code then (.busy, state)
  else if !validRequest request then (.invalidArgument, state)
  else if !validClock now then (.invalidClock, state)
  else if request.commuteSafe != 0 && request.risk != Risk.careful.code then
    (.commuteRestricted, state)
  else if state.sequence == 0xffffffff then (.invalidState, state)
  else (.ok, refreshCrc (startRoute state request now entropy))

/-- Count steps of an active route. -/
def addSteps (state : ProgressState) (stepDelta : UInt32) :
    Status × ProgressState :=
  if !validateProgressState state then (.invalidState, state)
  else if state.phase != RoutePhase.active.code then (.wrongPhase, state)
  else if stepDelta > kMaximumStepDelta then (.invalidArgument, state)
  else if stepDelta == 0 then (.noChange, state)
  else
    (.ok, refreshCrc
      { state with steps := saturatingAddU32 state.steps stepDelta })

/-- Count a decision and mix it into the branch taken. -/
def countDecision (state : ProgressState) (decision : UInt8) :
    ProgressState :=
  { state with
    decisionCount := state.decisionCount + 1
    branchCode := ((state.branchCode.toUInt16 * 5 +
      decision.toUInt16 + 1) % 251).toUInt8 }

/-- What a decision does to the points and the flags of the route. -/
def followDecision (state : ProgressState) (decision : UInt8) :
    ProgressState :=
  if decision == MidDecision.continueOn.code then
    { state with progressPoints := saturatingAddU16 state.progressPoints 5 }
  else if decision == MidDecision.detour.code then
    { state with
      progressPoints := saturatingAddU16 state.progressPoints 10
      riskPoints := saturatingAddU16 state.riskPoints
        (5 * (state.risk.toUInt32 + 1)) }
  else if decision == MidDecision.help.code then
    { state with progressPoints := saturatingAddU16 state.progressPoints 8 }
  else
    { state with flags := state.flags ||| kFlagEarlyReturn }

/--
Decide on the way; an early return can be chosen once and ends the deciding.
-/
def decide (state : ProgressState) (decision : UInt8) :
    Status × ProgressState :=
  if !validateProgressState state then (.invalidState, state)
  else if state.phase != RoutePhase.active.code ||
      flagged state.flags kFlagEarlyReturn then
    (.wrongPhase, state)
  else if !(decision < 4 : Bool) then (.invalidArgument, state)
  else if state.decisionCount ≥ kMaximumMidDecisions then
    (.decisionLimit, state)
  else if flagged state.flags kFlagCommuteSafe &&
      decision == MidDecision.detour.code then
    (.commuteRestricted, state)
  else
    (.ok, refreshCrc (followDecision (countDecision state decision) decision))

/-! ## The other engines -/

/-- The points that an expedition brings to a route. -/
def expeditionPoints (completion : CompletionHooks) : UInt32 :=
  let points : UInt32 := 4
  let points := if completion.affectionDelta > 0
    then points + completion.affectionDelta.toUInt8.toUInt32 else points
  if completion.encounterCatalogIndex != 255 then points + 5 else points

/-- Bring a finished expedition to the route, once. -/
def applyExpedition (state : ProgressState) (completion : CompletionHooks) :
    Status × ProgressState :=
  if !validateProgressState state then (.invalidState, state)
  else if state.phase != RoutePhase.active.code then (.wrongPhase, state)
  else if completion.expeditionId == 0 then (.invalidArgument, state)
  else if completion.expeditionId == state.lastExpeditionId then
    (.duplicate, state)
  else
    (.ok, refreshCrc { state with
      lastExpeditionId := completion.expeditionId
      progressPoints :=
        saturatingAddU16 state.progressPoints (expeditionPoints completion) })

/-- A party result has its full rounds, a score in range and a proof. -/
def validPartyResult (result : HuntResult) : Bool :=
  kMinimumParticipants ≤ result.participantCount &&
    result.participantCount ≤ kMaximumParticipants &&
    result.completedRounds == 3 && result.tier ≤ 3 &&
    result.maximumScore != 0 && result.score ≤ result.maximumScore &&
    result.proof != 0

/-- The party of a result joins the route. -/
def joinParty (state : ProgressState) (result : HuntResult)
    (points : UInt32) : ProgressState :=
  recalculateTarget { state with
    lastPartyProof := result.proof
    partySize := result.participantCount
    progressPoints := saturatingAddU16 state.progressPoints points }

/-- Bring a party result to the route, once in a row. -/
def applyParty (state : ProgressState) (result : HuntResult) :
    Status × ProgressState :=
  if !validateProgressState state then (.invalidState, state)
  else if state.phase != RoutePhase.active.code &&
      state.phase != RoutePhase.awaitingRescue.code then
    (.wrongPhase, state)
  else if !validPartyResult result then (.invalidArgument, state)
  else if state.lastPartyProof == result.proof then (.duplicate, state)
  else
    (.ok, refreshCrc
      (joinParty state result (result.participantCount.toUInt32 * 2)))

/-- An encounter record is of the known format and consistent. -/
def validEncounterRecord (encounter : EncounterRecord) : Bool :=
  if encounter.schemaVersion != 1 || encounter.operationId == 0 ||
      encounter.operationKind ≥ 8 || encounter.encounterOccurred > 1 ||
      encounter.guaranteed > 1 || encounter.rarity ≥ 7 ||
      encounter.codeOutcome > 2 ||
      encounter.encounterRollBasisPoints ≥ 10000 ||
      encounter.rarityRollBasisPoints ≥ 10000 ||
      encounter.codeRollBasisPoints ≥ 10000 then
    false
  else if encounter.encounterOccurred == 0 then
    encounter.guaranteed == 0 && encounter.codeOutcome == 0
  else
    true

/-- The record after an accepted encounter record. -/
def meetEncounter (state : ProgressState) (encounter : EncounterRecord) :
    ProgressState :=
  let points : UInt32 :=
    if state.objective == Objective.meetCreature.code then 12 else 7
  { state with
    lastEncounterOperationId := encounter.operationId
    progressPoints :=
      if encounter.encounterOccurred != 0
      then saturatingAddU16 state.progressPoints points
      else state.progressPoints }

/-- Bring an encounter to the route; operations come in ascending order. -/
def applyEncounter (state : ProgressState) (encounter : EncounterRecord) :
    Status × ProgressState :=
  if !validateProgressState state then (.invalidState, state)
  else if state.phase != RoutePhase.active.code then (.wrongPhase, state)
  else if !validEncounterRecord encounter then (.invalidArgument, state)
  else if encounter.operationId == state.lastEncounterOperationId then
    (.duplicate, state)
  else if encounter.operationId < state.lastEncounterOperationId then
    (.invalidArgument, state)
  else
    (.ok, refreshCrc (meetEncounter state encounter))

/-! ## The end of a route -/

/--
The postcard of an outcome, by terrain, objective, company or personality.
-/
def postcardIdFor (state : ProgressState) : UInt8 :=
  if state.outcome == Outcome.complete.code then
    ((state.terrain.toUInt32 + state.personality.toUInt32) % 4).toUInt8
  else if state.outcome == Outcome.partly.code then
    4 + (state.objective &&& 1)
  else if state.outcome == Outcome.earlyReturn.code then
    6 + (state.terrain &&& 1)
  else if state.outcome == Outcome.rescued.code then
    if state.partySize == kMaximumParticipants then 9 else 8
  else
    kNoPostcard

/-- The journal flags of a route that ends now. -/
def journalFlags (state : ProgressState) (now : ClockSample) : UInt8 :=
  let flags : UInt8 := 0
  let flags := if now.trusted != 0
    then flags ||| kJournalFlagTrustedTime else flags
  let flags := if flagged state.flags kFlagCommunityDay
    then flags ||| kJournalFlagCommunityDay else flags
  let flags := if homeComfort state
    then flags ||| kJournalFlagHomeComfort else flags
  if flagged state.flags kFlagCommuteSafe
    then flags ||| kJournalFlagCommuteSafe else flags

/-- The journal entry of a route that ends now. -/
def journalEntry (state : ProgressState) (now : ClockSample) :
    JournalEntry where
  routeId := state.routeId
  dayId := if now.trusted != 0 then now.dayId else 0
  zoneToken := state.currentZoneToken
  outcome := state.outcome
  terrain := state.terrain
  objective := state.objective
  postcardId := postcardIdFor state
  partySize := state.partySize
  chainDepth := state.chainDepth
  routeVariant := state.routeVariant
  flags := journalFlags state now

/-- Write the route in the journal over its oldest entry. -/
def appendJournal (state : ProgressState) (now : ClockSample) :
    ProgressState :=
  { state with
    journal := state.journal.setIfInBounds state.journalNext.toNat
      (journalEntry state now)
    journalCount :=
      if state.journalCount.toNat < kJournalCapacity
      then state.journalCount + 1 else state.journalCount
    journalNext := (state.journalNext + 1) % UInt8.ofNat kJournalCapacity }

/-- The route is over; a completed or rescued one can be continued. -/
def settle (state : ProgressState) (outcome : Outcome) : ProgressState :=
  { state with
    outcome := outcome.code
    phase := RoutePhase.returned.code
    flags :=
      if outcome == .complete || outcome == .rescued
      then state.flags ||| kFlagChainEligible
      else state.flags &&& ~~~ kFlagChainEligible }

/-- A route ends: it is settled and written in the journal. -/
def finalize (state : ProgressState) (outcome : Outcome)
    (now : ClockSample) : ProgressState :=
  refreshCrc (appendJournal (settle state outcome) now)

/-- Try to end the route; a bold one that is far from done needs a rescue. -/
def finish (state : ProgressState) (now : ClockSample) :
    Status × ProgressState :=
  if !validateProgressState state then (.invalidState, state)
  else if !validClock now then (.invalidClock, state)
  else if state.phase != RoutePhase.active.code then (.wrongPhase, state)
  else if flagged state.flags kFlagEarlyReturn then
    (.ok, finalize state .earlyReturn now)
  else if progressPercent state ≥ 100 then
    (.ok, finalize state .complete now)
  else if state.risk == Risk.bold.code && progressPercent state < 40 then
    (.rescueRequired,
      refreshCrc { state with phase := RoutePhase.awaitingRescue.code })
  else
    (.ok, finalize state .partly now)

/-- A party brings a route home that waits for rescue. -/
def rescue (state : ProgressState) (result : HuntResult)
    (now : ClockSample) : Status × ProgressState :=
  if !validateProgressState state then (.invalidState, state)
  else if !validClock now then (.invalidClock, state)
  else if state.phase != RoutePhase.awaitingRescue.code then
    (.wrongPhase, state)
  else if !validPartyResult result then (.invalidArgument, state)
  else (.ok, finalize (joinParty state result 20) .rescued now)

/-- The record with everything of its route forgotten. -/
def clearRoute (state : ProgressState) : ProgressState :=
  { state with
    phase := RoutePhase.idle.code
    outcome := Outcome.none.code
    terrain := Terrain.meadow.code
    objective := Objective.explore.code
    risk := Risk.balanced.code
    personality := PersonalityKind.gentle.code
    weather := 0
    timeBand := TimeBand.unknown.code
    moonPhase := MoonPhase.unknown.code
    decisionCount := 0
    branchCode := 0
    partySize := 0
    routeVariant := 0
    progressPoints := 0
    riskPoints := 0
    routeId := 0
    routeSeed := 0
    baseTargetSteps := 0
    targetSteps := 0
    steps := 0
    routeDistanceMeters := 0
    flags := state.flags &&& (kFlagCurrentZoneNew ||| kFlagChainEligible) }

/-- The player has seen how the route ended; the next one may begin. -/
def acknowledge (state : ProgressState) (routeId : UInt32) :
    Status × ProgressState :=
  if !validateProgressState state then (.invalidState, state)
  else if state.phase != RoutePhase.returned.code then (.wrongPhase, state)
  else if routeId == 0 || routeId != state.routeId then (.wrongRoute, state)
  else (.ok, refreshCrc (clearRoute state))

/-! ## Calls -/

/-- One call of the progression's interface. -/
inductive Call where
  | setPrivacyMode (mode : UInt8) (locationSalt : UInt32)
  | setHomeZone (coarseZoneToken : UInt32)
  | observeCoarseZone (coarseZoneToken stepDelta segmentMeters : UInt32)
  | observePreciseTransient (sample : PreciseLocationSample)
      (stepDelta segmentMeters : UInt32)
  | observeHotspot (hotspotToken : UInt32) (participantCount : UInt8)
      (now : ClockSample)
  | begin (request : RouteRequest) (now : ClockSample) (entropy : UInt32)
  | addSteps (stepDelta : UInt32)
  | decide (decision : UInt8)
  | applyExpedition (completion : CompletionHooks)
  | applyParty (result : HuntResult)
  | applyEncounter (encounter : EncounterRecord)
  | finish (now : ClockSample)
  | rescue (result : HuntResult) (now : ClockSample)
  | acknowledge (routeId : UInt32)
deriving DecidableEq

/-- What a caller learns from a call. -/
structure Reply where
  status : Status
  location : Option LocationUpdate := none
  hotspot : Option HotspotUpdate := none
deriving DecidableEq

/-- A call by its name. -/
def perform (state : ProgressState) : Call → Reply × ProgressState
  | .setPrivacyMode mode salt =>
    let (status, after) := setPrivacyMode state mode salt
    ({ status }, after)
  | .setHomeZone token =>
    let (status, after) := setHomeZone state token
    ({ status }, after)
  | .observeCoarseZone token stepDelta segmentMeters =>
    let (status, after, location) :=
      observeCoarseZone state token stepDelta segmentMeters
    ({ status, location }, after)
  | .observePreciseTransient sample stepDelta segmentMeters =>
    let (status, after, location) :=
      observePreciseTransient state sample stepDelta segmentMeters
    ({ status, location }, after)
  | .observeHotspot token participantCount now =>
    let (status, after, hotspot) :=
      observeHotspot state token participantCount now
    ({ status, hotspot }, after)
  | .begin request now entropy =>
    let (status, after) := begin state request now entropy
    ({ status }, after)
  | .addSteps stepDelta =>
    let (status, after) := addSteps state stepDelta
    ({ status }, after)
  | .decide decision =>
    let (status, after) := decide state decision
    ({ status }, after)
  | .applyExpedition completion =>
    let (status, after) := applyExpedition state completion
    ({ status }, after)
  | .applyParty result =>
    let (status, after) := applyParty state result
    ({ status }, after)
  | .applyEncounter encounter =>
    let (status, after) := applyEncounter state encounter
    ({ status }, after)
  | .finish now =>
    let (status, after) := finish state now
    ({ status }, after)
  | .rescue result now =>
    let (status, after) := rescue state result now
    ({ status }, after)
  | .acknowledge routeId =>
    let (status, after) := acknowledge state routeId
    ({ status }, after)

/-- The record after a call. -/
def step (state : ProgressState) (call : Call) : ProgressState :=
  (perform state call).2

end Kitsu.Adventure
