import Mathlib.Data.Fintype.Basic
import Kitsu.Crc32
import Kitsu.Lib.RingBuffer

/-!
# The adventure progression record

The persisted record of `adventure_progression.h` and the predicate that decides
whether it may be restored.  Enumerations are stored, and passed by callers, as
their byte: an `enum class` of the source can hold any value of its underlying
type, and the code checks the range itself.

`validateProgressState` keeps the tests of the source, grouped by what they are
about.  `Valid` is the same conjunction with a name for every group.
-/

namespace Kitsu.Adventure

open Kitsu.Lib
open Kitsu.Lib.ByteString

/-! ## Enumerations -/

/-- Where a route leads through. -/
inductive Terrain where
  | meadow
  | forest
  | ridge
  | waterfront
  | town
deriving DecidableEq

/-- What a route is for. -/
inductive Objective where
  | explore
  | followSignal
  | meetCreature
  | community
  | returnHome
deriving DecidableEq

/-- How much a route dares. -/
inductive Risk where
  | careful
  | balanced
  | bold
deriving DecidableEq

/-- What can be decided on the way. -/
inductive MidDecision where
  | continueOn
  | detour
  | help
  | returnEarly
deriving DecidableEq

/-- Where a route stands. -/
inductive RoutePhase where
  | idle
  | active
  | awaitingRescue
  | returned
deriving DecidableEq

/-- How a route ended. -/
inductive Outcome where
  | none
  | partly
  | complete
  | earlyReturn
  | rescued
deriving DecidableEq

/-- What may be known of the location. -/
inductive PrivacyMode where
  | off
  | coarse
  | preciseTransient
deriving DecidableEq

/-- How well a zone is known. -/
inductive Familiarity where
  | newZone
  | familiar
  | wellKnown
  | home
deriving DecidableEq

/-- The part of the day. -/
inductive TimeBand where
  | unknown
  | dawn
  | day
  | dusk
  | night
deriving DecidableEq

/-- The phase of the moon. -/
inductive MoonPhase where
  | unknown
  | newMoon
  | waxing
  | fullMoon
  | waning
deriving DecidableEq

/-- The character of the companion. -/
inductive PersonalityKind where
  | gentle
  | bold
  | curious
  | playful
  | shy
  | impish
deriving DecidableEq

/-- The byte of a terrain. -/
def Terrain.code : Terrain → UInt8
  | .meadow => 0
  | .forest => 1
  | .ridge => 2
  | .waterfront => 3
  | .town => 4

/-- The byte that stands for an objective in the record. -/
def Objective.code : Objective → UInt8
  | .explore => 0
  | .followSignal => 1
  | .meetCreature => 2
  | .community => 3
  | .returnHome => 4

/-- The byte that stands for a risk in the record. -/
def Risk.code : Risk → UInt8
  | .careful => 0
  | .balanced => 1
  | .bold => 2

/-- The byte that stands for a decision. -/
def MidDecision.code : MidDecision → UInt8
  | .continueOn => 0
  | .detour => 1
  | .help => 2
  | .returnEarly => 3

/-- The byte that stands for a phase in the record. -/
def RoutePhase.code : RoutePhase → UInt8
  | .idle => 0
  | .active => 1
  | .awaitingRescue => 2
  | .returned => 3

/-- The byte that stands for an outcome in the record. -/
def Outcome.code : Outcome → UInt8
  | .none => 0
  | .partly => 1
  | .complete => 2
  | .earlyReturn => 3
  | .rescued => 4

/-- The byte that stands for a privacy mode in the record. -/
def PrivacyMode.code : PrivacyMode → UInt8
  | .off => 0
  | .coarse => 1
  | .preciseTransient => 2

/-- The byte that stands for a part of the day in the record. -/
def TimeBand.code : TimeBand → UInt8
  | .unknown => 0
  | .dawn => 1
  | .day => 2
  | .dusk => 3
  | .night => 4

/-- The byte that stands for a phase of the moon in the record. -/
def MoonPhase.code : MoonPhase → UInt8
  | .unknown => 0
  | .newMoon => 1
  | .waxing => 2
  | .fullMoon => 3
  | .waning => 4

/-- The byte that stands for a personality in the record. -/
def PersonalityKind.code : PersonalityKind → UInt8
  | .gentle => 0
  | .bold => 1
  | .curious => 2
  | .playful => 3
  | .shy => 4
  | .impish => 5

/-! ## Constants -/

abbrev kProgressSchemaVersion : UInt8 := 1
abbrev kMaximumZones : Nat := 5
abbrev kRouteHistoryCapacity : Nat := 4
abbrev kJournalCapacity : Nat := 5
abbrev kMaximumMidDecisions : UInt8 := 3
abbrev kRouteVariantCount : UInt8 := 12
abbrev kNoPostcard : UInt8 := 255
abbrev kMinimumTrustedUnixSeconds : UInt64 := 1577836800
abbrev kStateMagic : UInt32 := 0x3150414b
abbrev kPostcardCount : UInt8 := 10
abbrev kMaximumStepDelta : UInt32 := 1000000
abbrev kMaximumSegmentMeters : UInt32 := 200000
abbrev kMinimumParticipants : UInt8 := 2
abbrev kMaximumParticipants : UInt8 := 4

abbrev kFlagCommuteSafe : UInt8 := 1
abbrev kFlagEarlyReturn : UInt8 := 2
abbrev kFlagCurrentZoneNew : UInt8 := 4
abbrev kFlagChainEligible : UInt8 := 8
abbrev kFlagTrustedStartClock : UInt8 := 16
abbrev kFlagCommunityDay : UInt8 := 32
abbrev kAllowedFlags : UInt8 := 63

abbrev kJournalFlagTrustedTime : UInt8 := 1
abbrev kJournalFlagCommunityDay : UInt8 := 2
abbrev kJournalFlagHomeComfort : UInt8 := 4
abbrev kJournalFlagCommuteSafe : UInt8 := 8
abbrev kAllowedJournalFlags : UInt8 := 15

/-- The size of the packed record, its checksum included. -/
abbrev kProgressStateBytes : Nat := 272

/-! ## Records -/

/-- A zone that was visited; only its token is known. -/
structure ZoneState where
  token : UInt32 := 0
  visits : UInt16 := 0
  distanceDecameters : UInt16 := 0
deriving DecidableEq, Inhabited

/-- A route that ended, as the journal keeps it. -/
structure JournalEntry where
  routeId : UInt32 := 0
  dayId : UInt32 := 0
  zoneToken : UInt32 := 0
  outcome : UInt8 := Outcome.none.code
  terrain : UInt8 := Terrain.meadow.code
  objective : UInt8 := Objective.explore.code
  postcardId : UInt8 := kNoPostcard
  partySize : UInt8 := 0
  chainDepth : UInt8 := 0
  routeVariant : UInt8 := 0
  flags : UInt8 := 0
deriving DecidableEq, Inhabited

/-- The persisted record, in the field order of its packed layout. -/
structure ProgressState where
  magic : UInt32 := kStateMagic
  bytes : UInt16 := 0
  schemaVersion : UInt8 := kProgressSchemaVersion
  phase : UInt8 := RoutePhase.idle.code
  privacyMode : UInt8 := PrivacyMode.off.code
  outcome : UInt8 := Outcome.none.code
  terrain : UInt8 := Terrain.meadow.code
  objective : UInt8 := Objective.explore.code
  risk : UInt8 := Risk.balanced.code
  personality : UInt8 := PersonalityKind.gentle.code
  weather : UInt8 := 0
  timeBand : UInt8 := TimeBand.unknown.code
  moonPhase : UInt8 := MoonPhase.unknown.code
  decisionCount : UInt8 := 0
  branchCode : UInt8 := 0
  partySize : UInt8 := 0
  chainDepth : UInt8 := 0
  routeVariant : UInt8 := 0
  historyCount : UInt8 := 0
  historyNext : UInt8 := 0
  journalCount : UInt8 := 0
  journalNext : UInt8 := 0
  zoneCount : UInt8 := 0
  flags : UInt8 := 0
  communityHotspotVisits : UInt16 := 0
  communityDayBonuses : UInt16 := 0
  progressPoints : UInt16 := 0
  riskPoints : UInt16 := 0
  sequence : UInt32 := 0
  routeId : UInt32 := 0
  routeSeed : UInt32 := 0
  baseTargetSteps : UInt32 := 0
  targetSteps : UInt32 := 0
  steps : UInt32 := 0
  routeDistanceMeters : UInt32 := 0
  totalDistanceMeters : UInt32 := 0
  currentZoneToken : UInt32 := 0
  homeZoneToken : UInt32 := 0
  locationSalt : UInt32 := 0
  lastChainKey : UInt32 := 0
  lastExpeditionId : UInt32 := 0
  lastPartyProof : UInt32 := 0
  lastEncounterOperationId : UInt64 := 0
  lastHotspotToken : UInt32 := 0
  lastHotspotDayId : UInt32 := 0
  lastCommunityDayId : UInt32 := 0
  zones : Vector ZoneState kMaximumZones := .replicate _ {}
  routeHistory : Vector UInt16 kRouteHistoryCapacity := .replicate _ 0
  journal : Vector JournalEntry kJournalCapacity := .replicate _ {}
  reserved : Vector UInt8 8 := .replicate _ 0
  crc32 : UInt32 := 0
deriving DecidableEq

/-! ## Layout and checksum -/

/-- Two bytes of the record. -/
def u16 (value : UInt16) : Bytes :=
  littleEndian 2 value.toNat

/-- Four bytes of the record. -/
def u32 (value : UInt32) : Bytes :=
  littleEndian 4 value.toNat

/-- Eight bytes of the record. -/
def u64 (value : UInt64) : Bytes :=
  littleEndian 8 value.toNat

/-- The bytes of a zone, as the checksum runs over them. -/
def ZoneState.layout (zone : ZoneState) : Bytes :=
  u32 zone.token ++ u16 zone.visits ++ u16 zone.distanceDecameters

/-- The bytes of an entry, as the checksum runs over them. -/
def JournalEntry.layout (entry : JournalEntry) : Bytes :=
  u32 entry.routeId ++ u32 entry.dayId ++ u32 entry.zoneToken ++
    [entry.outcome, entry.terrain, entry.objective, entry.postcardId,
      entry.partySize, entry.chainDepth, entry.routeVariant, entry.flags]

/-- The packed record up to its checksum. -/
def ProgressState.layout (state : ProgressState) : Bytes :=
  u32 state.magic ++ u16 state.bytes ++
  [state.schemaVersion, state.phase, state.privacyMode, state.outcome,
    state.terrain, state.objective, state.risk, state.personality,
    state.weather, state.timeBand, state.moonPhase, state.decisionCount,
    state.branchCode, state.partySize, state.chainDepth, state.routeVariant,
    state.historyCount, state.historyNext, state.journalCount,
    state.journalNext, state.zoneCount, state.flags] ++
  u16 state.communityHotspotVisits ++ u16 state.communityDayBonuses ++
  u16 state.progressPoints ++ u16 state.riskPoints ++
  u32 state.sequence ++ u32 state.routeId ++ u32 state.routeSeed ++
  u32 state.baseTargetSteps ++ u32 state.targetSteps ++ u32 state.steps ++
  u32 state.routeDistanceMeters ++ u32 state.totalDistanceMeters ++
  u32 state.currentZoneToken ++ u32 state.homeZoneToken ++
  u32 state.locationSalt ++ u32 state.lastChainKey ++
  u32 state.lastExpeditionId ++ u32 state.lastPartyProof ++
  u64 state.lastEncounterOperationId ++ u32 state.lastHotspotToken ++
  u32 state.lastHotspotDayId ++ u32 state.lastCommunityDayId ++
  state.zones.toList.flatMap ZoneState.layout ++
  state.routeHistory.toList.flatMap u16 ++
  state.journal.toList.flatMap JournalEntry.layout ++
  state.reserved.toList

/-- The checksum of a record. -/
def stateCrc (state : ProgressState) : UInt32 :=
  Crc32.crc32 state.layout

/-! ## Validation -/

def validTerrain (value : UInt8) : Bool := value < 5
def validObjective (value : UInt8) : Bool := value < 5
def validRisk (value : UInt8) : Bool := value < 3
/-- One of the known personalities. -/
def validPersonality (value : UInt8) : Bool :=
  value ≤ PersonalityKind.impish.code
def validWeather (value : UInt8) : Bool := value < 5
/-- One of the known parts of the day. -/
def validTimeBand (value : UInt8) : Bool := value < 5
/-- One of the known phases of the moon. -/
def validMoon (value : UInt8) : Bool := value < 5
def validPhase (value : UInt8) : Bool := value < 4
def validOutcome (value : UInt8) : Bool := value < 5
/-- One of the known privacy modes. -/
def validPrivacy (value : UInt8) : Bool := value < 3

/-- A party is none, or of a size that the hunts allow. -/
def validPartySize (partySize : UInt8) : Bool :=
  partySize == 0 ||
    kMinimumParticipants ≤ partySize && partySize ≤ kMaximumParticipants

/-- A zone that was never visited. -/
def emptyZone (zone : ZoneState) : Bool :=
  zone.token == 0 && zone.visits == 0 && zone.distanceDecameters == 0

/-- An entry that was never written. -/
def emptyJournal (entry : JournalEntry) : Bool :=
  entry.routeId == 0 && entry.dayId == 0 && entry.zoneToken == 0 &&
    entry.outcome == Outcome.none.code &&
    entry.terrain == Terrain.meadow.code &&
    entry.objective == Objective.explore.code &&
    entry.postcardId == kNoPostcard && entry.partySize == 0 &&
    entry.chainDepth == 0 && entry.routeVariant == 0 && entry.flags == 0

/-- Whether a flag byte has a bit of the mask. -/
def flagged (flags mask : UInt8) : Bool :=
  flags &&& mask != 0

/-- An entry of a route that ended, its flags in keeping with its day. -/
def validJournal (entry : JournalEntry) : Bool :=
  if entry.routeId == 0 || entry.outcome ≤ Outcome.none.code ||
      entry.outcome ≥ 5 || !validTerrain entry.terrain ||
      !validObjective entry.objective || entry.postcardId ≥ kPostcardCount ||
      !validPartySize entry.partySize || entry.chainDepth == 0 ||
      entry.routeVariant ≥ kRouteVariantCount ||
      flagged entry.flags (~~~ kAllowedJournalFlags) then
    false
  else if flagged entry.flags kJournalFlagTrustedTime !=
      (entry.dayId != 0) then
    false
  else
    !flagged entry.flags kJournalFlagCommunityDay ||
      flagged entry.flags kJournalFlagTrustedTime

/-- Magic, size, schema and checksum. -/
def headerValid (state : ProgressState) : Bool :=
  state.magic == kStateMagic &&
    state.bytes == UInt16.ofNat kProgressStateBytes &&
    state.schemaVersion == kProgressSchemaVersion &&
    state.crc32 == stateCrc state

/-- The enumerations and flags are known ones and nothing is reserved. -/
def rangesValid (state : ProgressState) : Bool :=
  validPhase state.phase && validPrivacy state.privacyMode &&
    validOutcome state.outcome && !flagged state.flags (~~~ kAllowedFlags) &&
    state.reserved.all (· == 0)

/-- The ring of signatures is filled from its first slot on. -/
def historyValid (state : ProgressState) : Bool :=
  state.historyCount.toNat ≤ kRouteHistoryCapacity &&
  state.historyNext.toNat < kRouteHistoryCapacity &&
  (!(state.historyCount.toNat < kRouteHistoryCapacity) ||
    state.historyNext == state.historyCount &&
    (List.finRange kRouteHistoryCapacity).all fun slot =>
      !(state.historyCount.toNat ≤ slot) || state.routeHistory[slot] == 0) &&
  (List.finRange kRouteHistoryCapacity).all fun slot =>
    !(slot < state.historyCount.toNat) || state.routeHistory[slot] != 0

/-- The journal is filled from its first slot on with entries of routes. -/
def journalValid (state : ProgressState) : Bool :=
  state.journalCount.toNat ≤ kJournalCapacity &&
  state.journalNext.toNat < kJournalCapacity &&
  (!(state.journalCount.toNat < kJournalCapacity) ||
    state.journalNext == state.journalCount &&
    (List.finRange kJournalCapacity).all fun slot =>
      !(state.journalCount.toNat ≤ slot) ||
        emptyJournal state.journal[slot]) &&
  (List.finRange kJournalCapacity).all fun slot =>
    !(slot < state.journalCount.toNat) || validJournal state.journal[slot]

/-- Stored zones are visited and distinct, and the free slots are empty. -/
def zonesValid (state : ProgressState) : Bool :=
  state.zoneCount.toNat ≤ kMaximumZones &&
  ((List.finRange kMaximumZones).all fun slot =>
    !(slot < state.zoneCount.toNat) ||
      state.zones[slot].token != 0 && state.zones[slot].visits != 0 &&
      (List.finRange kMaximumZones).all fun other =>
        !(slot < other && other < state.zoneCount.toNat) ||
          state.zones[slot].token != state.zones[other].token) &&
  (List.finRange kMaximumZones).all fun slot =>
    !(state.zoneCount.toNat ≤ slot) || emptyZone state.zones[slot]

/-- Nothing of a location is kept where the privacy mode forbids it. -/
def privacyValid (state : ProgressState) : Bool :=
  if state.privacyMode == PrivacyMode.off.code then
    state.currentZoneToken == 0 && state.homeZoneToken == 0 &&
      state.locationSalt == 0 && state.totalDistanceMeters == 0 &&
      state.routeDistanceMeters == 0 && state.zoneCount == 0 &&
      !flagged state.flags kFlagCurrentZoneNew
  else if state.privacyMode == PrivacyMode.coarse.code then
    state.locationSalt == 0
  else
    state.locationSalt != 0

/-- The current zone is one of the stored ones. -/
def currentZoneValid (state : ProgressState) : Bool :=
  state.currentZoneToken == 0 ||
    (List.finRange kMaximumZones).any fun slot =>
      slot < state.zoneCount.toNat &&
        state.zones[slot].token == state.currentZoneToken

/-- A day is known only of a bonus or a hotspot that there was. -/
def hotspotValid (state : ProgressState) : Bool :=
  !(state.communityDayBonuses == 0 && state.lastCommunityDayId != 0) &&
    !(state.lastHotspotToken == 0 && state.lastHotspotDayId != 0)

/-- Nothing of a route is left while no route is under way. -/
def idleValid (state : ProgressState) : Bool :=
  state.outcome == Outcome.none.code && state.routeId == 0 &&
    state.routeSeed == 0 && state.baseTargetSteps == 0 &&
    state.targetSteps == 0 && state.steps == 0 &&
    state.routeDistanceMeters == 0 && state.progressPoints == 0 &&
    state.riskPoints == 0 && state.decisionCount == 0 &&
    state.branchCode == 0 && state.partySize == 0 &&
    state.routeVariant == 0 && state.timeBand == TimeBand.unknown.code &&
    state.moonPhase == MoonPhase.unknown.code &&
    !flagged state.flags (kFlagCommuteSafe ||| kFlagEarlyReturn |||
      kFlagTrustedStartClock ||| kFlagCommunityDay)

/-- The fields a route was begun with. -/
def startValid (state : ProgressState) : Bool :=
  validTerrain state.terrain && validObjective state.objective &&
    validRisk state.risk && validPersonality state.personality &&
    validWeather state.weather && state.sequence != 0 &&
    state.routeId != 0 && state.routeSeed != 0 &&
    100 ≤ state.baseTargetSteps && state.baseTargetSteps ≤ 100000 &&
    state.chainDepth != 0 && state.routeVariant < kRouteVariantCount

/-- A target within the bounds of a route. -/
def targetValid (state : ProgressState) : Bool :=
  100 ≤ state.targetSteps && state.targetSteps ≤ 100000

def partyValid (state : ProgressState) : Bool :=
  validPartySize state.partySize &&
    !(state.partySize != 0 && state.lastPartyProof == 0)

/-- Timed features are only there when the route began on a trusted clock. -/
def clockValid (state : ProgressState) : Bool :=
  validTimeBand state.timeBand && validMoon state.moonPhase &&
    (flagged state.flags kFlagTrustedStartClock ||
      state.timeBand == TimeBand.unknown.code &&
      state.moonPhase == MoonPhase.unknown.code &&
      !flagged state.flags kFlagCommunityDay)

/-- What holds of a route from its start on. -/
def routeValid (state : ProgressState) : Bool :=
  startValid state && targetValid state &&
    state.decisionCount ≤ kMaximumMidDecisions && partyValid state &&
    !(flagged state.flags kFlagCommuteSafe && state.risk != Risk.careful.code) &&
    clockValid state

/-- The outcome that goes with the phase of a route. -/
def outcomeValid (state : ProgressState) : Bool :=
  if state.phase == RoutePhase.returned.code then
    Outcome.none.code < state.outcome && state.outcome < 5
  else if state.outcome != Outcome.none.code then
    false
  else if state.phase == RoutePhase.awaitingRescue.code then
    state.risk == Risk.bold.code && !flagged state.flags kFlagEarlyReturn
  else
    state.phase == RoutePhase.active.code

/-- The route fields are those of the phase the state is in. -/
def phaseValid (state : ProgressState) : Bool :=
  if state.phase == RoutePhase.idle.code then
    idleValid state
  else
    routeValid state && outcomeValid state

/-- What a stored state must meet before it is taken over. -/
def validateProgressState (state : ProgressState) : Bool :=
  headerValid state && rangesValid state && historyValid state &&
    journalValid state && zonesValid state && privacyValid state &&
    currentZoneValid state && hotspotValid state && phaseValid state

/-! ## Searching the record -/

/-- The stored slot of a zone, if it has one. -/
def zoneSlot (state : ProgressState) (zoneToken : UInt32) :
    Option (Fin kMaximumZones) :=
  (List.finRange kMaximumZones).find? fun slot =>
    slot < state.zoneCount.toNat && state.zones[slot].token == zoneToken

/-- The first of the least visited slots. -/
def leastVisited (state : ProgressState) : Fin kMaximumZones :=
  (List.finRange kMaximumZones).foldl
    (fun slot index =>
      if state.zones[index].visits < state.zones[slot].visits
      then index else slot) 0

def historyContains (state : ProgressState) (signature : UInt16) : Bool :=
  (List.finRange kRouteHistoryCapacity).any fun slot =>
    slot < state.historyCount.toNat && state.routeHistory[slot] == signature

end Kitsu.Adventure
