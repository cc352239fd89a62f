import Kitsu.Lib.Seniority
import Mathlib.Data.Rat.Init
import Mathlib.Logic.Function.Basic

/-!
# The presence tracker

The tracker of `kitsu_pet_presence.cpp`: eight slots for the peers heard of, which
are present until twenty seconds after their last signal.  Times are milliseconds
of a 32-bit counter that wraps; two of them are compared only when they lie less
than half its range apart.  An observation first expires the peers that fell
silent and then finds its slot.

Signal strengths are single precision numbers; their operations are a parameter.
The event word is a record with one field for each of its bits.
-/

namespace Kitsu.Presence

open Kitsu.Lib

abbrev kPeerCapacity : Nat := 8

def kGoneAfterMs : UInt32 := 20000

def kMinimumFilterSampleGapMs : UInt32 := 1000

def kTrendMinimumSpanMs : UInt32 := 10000

def kTrendVoteGapMs : UInt32 := 3000

def kTrendRequiredVotes : UInt8 := 2

def kMaximumComparableIntervalMs : UInt32 := 0x7FFFFFFF

/-- The operations on single precision numbers that the source uses. -/
structure FloatArithmetic (Float : Type) where
  literal : Rat → Float
  isfinite : Float → Bool
  add : Float → Float → Float
  sub : Float → Float → Float
  mul : Float → Float → Float
  neg : Float → Float
  less : Float → Float → Bool
  lessEqual : Float → Float → Bool
  equal : Float → Float → Bool

/-- How strong a peer is heard. -/
inductive SignalBand where
  | unknown
  | weak
  | medium
  | strong
deriving DecidableEq

/-- Where a peer is going. -/
inductive SignalTrend where
  | unknown
  | steady
  | approaching
  | leaving
deriving DecidableEq

/-- What an observation is answered. -/
inductive ObserveStatus where
  | ok
  | invalidInput
  | staleTimestamp
  | capacityFull
deriving DecidableEq

/-- The bits of the event word. -/
structure Events where
  appeared : Bool := false
  familiar : Bool := false
  bandChanged : Bool := false
  approaching : Bool := false
  leaving : Bool := false
  gone : Bool := false
  groupStarted : Bool := false
  groupEnded : Bool := false
  trendSettled : Bool := false
deriving DecidableEq

section Records

variable (Float : Type)

/-- A peer was heard. -/
structure Observation where
  uid : UInt16
  rssiDbm : Float
  snrDb : Float
  observedAtMs : UInt32
  familiarHint : Bool

/-- What is reported of a peer. -/
structure PeerSnapshot where
  tracked : Bool
  present : Bool
  familiar : Bool
  uid : UInt16
  latestRssiDbm : Float
  smoothedRssiDbm : Float
  latestSnrDb : Float
  lastSeenAtMs : UInt32
  sampleCount : UInt16
  band : SignalBand
  trend : SignalTrend

/-- What is reported of all peers together. -/
structure GroupSummary where
  presentCount : Nat
  familiarCount : Nat
  groupActive : Bool
  strongestSignalAvailable : Bool
  strongestSignalUid : UInt16
  strongestSmoothedRssiDbm : Float
  strongestSignalBand : SignalBand

/-- Who has gone by now. -/
structure ExpireResult where
  timeAccepted : Bool
  events : Events
  /-- `goneUids` with `goneCount`. -/
  goneUids : List UInt16
  group : GroupSummary Float

/-- What an observation led to. -/
structure ObserveResult where
  status : ObserveStatus
  events : Events
  goneUids : List UInt16
  peer : PeerSnapshot Float
  group : GroupSummary Float

/-- What the tracker keeps of a peer. -/
structure Slot where
  used : Bool
  present : Bool
  seenBefore : Bool
  familiar : Bool
  uid : UInt16
  latestRssiDbm : Float
  smoothedRssiDbm : Float
  latestSnrDb : Float
  lastSeenAtMs : UInt32
  lastFilterAtMs : UInt32
  trendBaselineAtMs : UInt32
  lastTrendVoteAtMs : UInt32
  trendBaselineRssiDbm : Float
  sampleCount : UInt16
  trendVotes : UInt8
  band : SignalBand
  trend : SignalTrend
  trendCandidate : SignalTrend

/-- The tracker with its slots and its last time. -/
structure PetPresenceTracker where
  slots : Fin kPeerCapacity → Slot Float
  clockReady : Bool
  lastNowMs : UInt32

end Records

/-- The elapsed time, when it is in the comparable half of the range. -/
def validInterval (later earlier : UInt32) : Option UInt32 :=
  if later - earlier ≤ kMaximumComparableIntervalMs then some (later - earlier)
  else none

/-- The slots in the order of the source's loops. -/
def slotOrder : List (Fin kPeerCapacity) :=
  List.finRange kPeerCapacity

section Arithmetic

variable {Float : Type} (arithmetic : FloatArithmetic Float)

/-! ## Signals -/

def kMinimumRssiDbm : Float := arithmetic.literal (-140)

def kMaximumRssiDbm : Float := arithmetic.literal 0

def kMinimumSnrDb : Float := arithmetic.literal (-32)

def kMaximumSnrDb : Float := arithmetic.literal 32

def kRssiFilterAlpha : Float := arithmetic.literal (1 / 4)

def kStrongBoundaryDbm : Float := arithmetic.literal (-65)

def kMediumBoundaryDbm : Float := arithmetic.literal (-85)

def kBandHysteresisDb : Float := arithmetic.literal 5

def kTrendEnterDeltaDb : Float := arithmetic.literal 5

def kTrendSteadyDeltaDb : Float := arithmetic.literal 2

/-- A peer with a name and a signal in range. -/
def validObservation (observation : Observation Float) : Bool :=
  observation.uid != 0 && arithmetic.isfinite observation.rssiDbm &&
    arithmetic.isfinite observation.snrDb &&
    arithmetic.lessEqual (kMinimumRssiDbm arithmetic) observation.rssiDbm &&
    arithmetic.lessEqual observation.rssiDbm (kMaximumRssiDbm arithmetic) &&
    arithmetic.lessEqual (kMinimumSnrDb arithmetic) observation.snrDb &&
    arithmetic.lessEqual observation.snrDb (kMaximumSnrDb arithmetic)

/-- The band of a first signal. -/
def initialBand (rssiDbm : Float) : SignalBand :=
  if arithmetic.lessEqual (kStrongBoundaryDbm arithmetic) rssiDbm then .strong
  else if arithmetic.lessEqual (kMediumBoundaryDbm arithmetic) rssiDbm then
    .medium
  else .weak

/-- The band of a later signal; near a boundary the band stays. -/
def nextBand (current : SignalBand) (rssiDbm : Float) : SignalBand :=
  let hysteresis := kBandHysteresisDb arithmetic
  let strong := kStrongBoundaryDbm arithmetic
  let medium := kMediumBoundaryDbm arithmetic
  match current with
  | .weak =>
    if arithmetic.lessEqual (arithmetic.add strong hysteresis) rssiDbm then
      .strong
    else if arithmetic.lessEqual (arithmetic.add medium hysteresis)
        rssiDbm then .medium
    else .weak
  | .medium =>
    if arithmetic.lessEqual (arithmetic.add strong hysteresis) rssiDbm then
      .strong
    else if arithmetic.less rssiDbm (arithmetic.sub medium hysteresis) then
      .weak
    else .medium
  | .strong =>
    if arithmetic.less rssiDbm (arithmetic.sub medium hysteresis) then .weak
    else if arithmetic.less rssiDbm (arithmetic.sub strong hysteresis) then
      .medium
    else .strong
  | .unknown => initialBand arithmetic rssiDbm

/-- The trend that a difference speaks for. -/
def trendCandidate (deltaDb : Float) : SignalTrend :=
  let enter := kTrendEnterDeltaDb arithmetic
  let steady := kTrendSteadyDeltaDb arithmetic
  if arithmetic.lessEqual enter deltaDb then .approaching
  else if arithmetic.lessEqual deltaDb (arithmetic.neg enter) then .leaving
  else if arithmetic.lessEqual (arithmetic.neg steady) deltaDb &&
      arithmetic.lessEqual deltaDb steady then .steady
  else .unknown

/-! ## Slots -/

/-- `Slot{}` with the fields that its caller sets at once. -/
def freshSlot (uid : UInt16) : Slot Float where
  used := true
  present := false
  seenBefore := false
  familiar := false
  uid := uid
  latestRssiDbm := arithmetic.literal 0
  smoothedRssiDbm := arithmetic.literal 0
  latestSnrDb := arithmetic.literal 0
  lastSeenAtMs := 0
  lastFilterAtMs := 0
  trendBaselineAtMs := 0
  lastTrendVoteAtMs := 0
  trendBaselineRssiDbm := arithmetic.literal 0
  sampleCount := 0
  trendVotes := 0
  band := .unknown
  trend := .unknown
  trendCandidate := .unknown

/-- The tracker that has heard nobody. -/
def reset : PetPresenceTracker Float where
  slots := fun _ => { freshSlot arithmetic 0 with used := false }
  clockReady := false
  lastNowMs := 0

/-- The slot of a peer. -/
def findSlot (tracker : PetPresenceTracker Float) (uid : UInt16) :
    Option (Fin kPeerCapacity) :=
  slotOrder.find? fun index =>
    (tracker.slots index).used && (tracker.slots index).uid == uid

/-- A peer that is not present and whose silence can still be measured. -/
def replaceable (tracker : PetPresenceTracker Float) (nowMs : UInt32)
    (index : Fin kPeerCapacity) : Bool :=
  !(tracker.slots index).present &&
    (validInterval nowMs (tracker.slots index).lastSeenAtMs).isSome

/-- The slot of a new peer: an unused one, or that of the longest silence. -/
def allocateSlot (tracker : PetPresenceTracker Float) (nowMs : UInt32) :
    Option (Fin kPeerCapacity) :=
  match slotOrder.find? fun index => !(tracker.slots index).used with
  | some index => some index
  | none =>
    match slotOrder.filter (replaceable tracker nowMs) with
    | [] => none
    | first :: rest =>
      some (Seniority.scan
        (fun index oldest =>
          nowMs - (tracker.slots oldest).lastSeenAtMs <
            nowMs - (tracker.slots index).lastSeenAtMs) first rest)

/-- A peer appears, or appears again. -/
def beginAppearance (slot : Slot Float) (observation : Observation Float)
    (events : Events) : Slot Float × Events :=
  let remembered := slot.seenBefore || observation.familiarHint
  ({ slot with
      present := true
      familiar := remembered
      latestRssiDbm := observation.rssiDbm
      smoothedRssiDbm := observation.rssiDbm
      latestSnrDb := observation.snrDb
      lastSeenAtMs := observation.observedAtMs
      lastFilterAtMs := observation.observedAtMs
      trendBaselineAtMs := observation.observedAtMs
      lastTrendVoteAtMs := observation.observedAtMs
      trendBaselineRssiDbm := observation.rssiDbm
      sampleCount := 1
      trendVotes := 0
      band := initialBand arithmetic observation.rssiDbm
      trend := .unknown
      trendCandidate := .unknown
      seenBefore := true },
    { events with
      appeared := true
      familiar := events.familiar || remembered })

/-- A settled trend is reported and becomes the new baseline. -/
def settleTrend (slot : Slot Float) (nowMs : UInt32) (candidate : SignalTrend)
    (events : Events) : Slot Float × Events :=
  ({ slot with
      trend := candidate
      trendBaselineAtMs := nowMs
      trendBaselineRssiDbm := slot.smoothedRssiDbm
      trendCandidate := .unknown
      trendVotes := 0 },
    if slot.trend = candidate then events
    else
      match candidate with
      | .approaching => { events with approaching := true }
      | .leaving => { events with leaving := true }
      | .steady => { events with trendSettled := true }
      | .unknown => events)

/-- A vote counts when it is the first one or far enough from the last. -/
def voteTrend (slot : Slot Float) (nowMs : UInt32) (candidate : SignalTrend) :
    Slot Float :=
  let separatedVote :=
    match validInterval nowMs slot.lastTrendVoteAtMs with
    | some voteGap => decide (kTrendVoteGapMs ≤ voteGap)
    | none => false
  if slot.trendCandidate != candidate then
    { slot with
      trendCandidate := candidate
      trendVotes := 1
      lastTrendVoteAtMs := nowMs }
  else if separatedVote && slot.trendVotes < 255 then
    { slot with
      trendVotes := slot.trendVotes + 1
      lastTrendVoteAtMs := nowMs }
  else slot

/-- The part of `updateSignal` behind the filter's sample gap. -/
def filterSignal (slot : Slot Float) (observation : Observation Float)
    (events : Events) : Slot Float × Events :=
  let smoothed := arithmetic.add slot.smoothedRssiDbm
    (arithmetic.mul (arithmetic.sub observation.rssiDbm slot.smoothedRssiDbm)
      (kRssiFilterAlpha arithmetic))
  let filtered := { slot with
    lastFilterAtMs := observation.observedAtMs
    smoothedRssiDbm := smoothed
    sampleCount :=
      if slot.sampleCount != 0xFFFF then slot.sampleCount + 1
      else slot.sampleCount
    band := nextBand arithmetic slot.band smoothed }
  let banded :=
    if filtered.band = slot.band then events
    else { events with bandChanged := true }
  match validInterval observation.observedAtMs slot.trendBaselineAtMs with
  | none => (filtered, banded)
  | some trendSpan =>
    if trendSpan < kTrendMinimumSpanMs then (filtered, banded)
    else
      let candidate := trendCandidate arithmetic
        (arithmetic.sub smoothed slot.trendBaselineRssiDbm)
      if candidate = .unknown then
        ({ filtered with trendCandidate := .unknown, trendVotes := 0 }, banded)
      else
        let voted := voteTrend filtered observation.observedAtMs candidate
        if voted.trendVotes < kTrendRequiredVotes then (voted, banded)
        else settleTrend voted observation.observedAtMs candidate banded

/-- A peer that is there was heard again. -/
def updateSignal (slot : Slot Float) (observation : Observation Float)
    (events : Events) : Slot Float × Events :=
  let recognized := observation.familiarHint && !slot.familiar
  let heard := { slot with
    latestRssiDbm := observation.rssiDbm
    latestSnrDb := observation.snrDb
    lastSeenAtMs := observation.observedAtMs
    familiar := slot.familiar || recognized }
  let noted := { events with familiar := events.familiar || recognized }
  match validInterval observation.observedAtMs slot.lastFilterAtMs with
  | none => (heard, noted)
  | some filterElapsed =>
    if filterElapsed < kMinimumFilterSampleGapMs then (heard, noted)
    else filterSignal arithmetic heard observation noted

/-! ## Reports -/

/-- The peer of the slot is there. -/
def Slot.inGroup (slot : Slot Float) : Bool :=
  slot.used && slot.present

/-- Stronger than the strongest so far, or as strong under a smaller uid. -/
def strongerThan (slot strongest : Slot Float) : Bool :=
  arithmetic.less strongest.smoothedRssiDbm slot.smoothedRssiDbm ||
    (arithmetic.equal slot.smoothedRssiDbm strongest.smoothedRssiDbm &&
      slot.uid < strongest.uid)

/-- The group: its members, the familiar ones and the strongest signal. -/
def summary (tracker : PetPresenceTracker Float) : GroupSummary Float :=
  let group := (slotOrder.map tracker.slots).filter (·.inGroup)
  let counted : GroupSummary Float :=
    { presentCount := group.length
      familiarCount := group.countP (·.familiar)
      groupActive := 2 ≤ group.length
      strongestSignalAvailable := false
      strongestSignalUid := 0
      strongestSmoothedRssiDbm := arithmetic.literal 0
      strongestSignalBand := .unknown }
  match group with
  | [] => counted
  | first :: rest =>
    let strongest := Seniority.scan (strongerThan arithmetic) first rest
    { counted with
      strongestSignalAvailable := true
      strongestSignalUid := strongest.uid
      strongestSmoothedRssiDbm := strongest.smoothedRssiDbm
      strongestSignalBand := strongest.band }

/-- What is reported of a slot. -/
def snapshot (slot : Slot Float) : PeerSnapshot Float where
  tracked := slot.used
  present := slot.present
  familiar := slot.familiar
  uid := slot.uid
  latestRssiDbm := slot.latestRssiDbm
  smoothedRssiDbm := slot.smoothedRssiDbm
  latestSnrDb := slot.latestSnrDb
  lastSeenAtMs := slot.lastSeenAtMs
  sampleCount := slot.sampleCount
  band := slot.band
  trend := slot.trend

/-- `PeerSnapshot{}`. -/
def noPeer : PeerSnapshot Float :=
  snapshot { freshSlot arithmetic 0 with used := false }

/-! ## Expiring -/

/-- Whether the tracker's clock accepts this time. -/
def clockAccepts (tracker : PetPresenceTracker Float) (nowMs : UInt32) :
    Bool :=
  !tracker.clockReady || (validInterval nowMs tracker.lastNowMs).isSome

/-- A present peer that has been silent for long enough. -/
def fallenSilent (nowMs : UInt32) (slot : Slot Float) : Bool :=
  slot.used && slot.present &&
    match validInterval nowMs slot.lastSeenAtMs with
    | some age => !(age < kGoneAfterMs)
    | none => false

/-- A peer has gone; what was familiar of it stays. -/
def leave (slot : Slot Float) : Slot Float :=
  { slot with
    present := false
    trend := .unknown
    trendCandidate := .unknown
    trendVotes := 0 }

/-- The peers that were silent too long have gone. -/
def expire (tracker : PetPresenceTracker Float) (nowMs : UInt32) :
    ExpireResult Float × PetPresenceTracker Float :=
  if !clockAccepts tracker nowMs then
    ({ timeAccepted := false
       events := {}
       goneUids := []
       group := summary arithmetic tracker }, tracker)
  else
    let gone := slotOrder.filter fun index =>
      fallenSilent nowMs (tracker.slots index)
    let after : PetPresenceTracker Float :=
      { slots := fun index =>
          if fallenSilent nowMs (tracker.slots index) then
            leave (tracker.slots index)
          else tracker.slots index
        clockReady := true
        lastNowMs := nowMs }
    let countBefore := (summary arithmetic tracker).presentCount
    let group := summary arithmetic after
    ({ timeAccepted := true
       events :=
        { gone := gone.length != 0
          groupEnded := 2 ≤ countBefore && group.presentCount < 2 }
       goneUids := gone.map fun index => (tracker.slots index).uid
       group }, after)

/-! ## Observing -/

/-- The observation is older than what its peer's slot holds. -/
def olderThanSlot (tracker : PetPresenceTracker Float)
    (observation : Observation Float) : Bool :=
  match findSlot tracker observation.uid with
  | some index =>
    (validInterval observation.observedAtMs
      (tracker.slots index).lastSeenAtMs).isNone
  | none => false

/-- The refusal of an observation, with the slot of its peer if there is one. -/
def staleResult (tracker : PetPresenceTracker Float) (uid : UInt16) :
    ObserveResult Float where
  status := .staleTimestamp
  events := {}
  goneUids := []
  peer :=
    match findSlot tracker uid with
    | some index => snapshot (tracker.slots index)
    | none => noPeer arithmetic
  group := summary arithmetic tracker

/-- The slot for the observation, claimed for its peer. -/
def claimSlot (tracker : PetPresenceTracker Float)
    (observation : Observation Float) :
    Option (Fin kPeerCapacity × Slot Float) :=
  match findSlot tracker observation.uid with
  | some index => some (index, tracker.slots index)
  | none =>
    match allocateSlot tracker observation.observedAtMs with
    | some index => some (index, freshSlot arithmetic observation.uid)
    | none => none

/-- The signal is new to a peer that is not present. -/
def receive (slot : Slot Float) (observation : Observation Float)
    (events : Events) : Slot Float × Events :=
  if !slot.present then beginAppearance arithmetic slot observation events
  else updateSignal arithmetic slot observation events

/-- A peer was heard; a full tracker replaces one that has gone. -/
def observe (tracker : PetPresenceTracker Float)
    (observation : Observation Float) :
    ObserveResult Float × PetPresenceTracker Float :=
  if !validObservation arithmetic observation then
    ({ status := .invalidInput
       events := {}
       goneUids := []
       peer := noPeer arithmetic
       group := summary arithmetic tracker }, tracker)
  else if !clockAccepts tracker observation.observedAtMs then
    (staleResult arithmetic tracker observation.uid, tracker)
  else if olderThanSlot tracker observation then
    (staleResult arithmetic tracker observation.uid, tracker)
  else
    let (expired, current) := expire arithmetic tracker observation.observedAtMs
    match claimSlot arithmetic current observation with
    | none =>
      ({ status := .capacityFull
         events := expired.events
         goneUids := expired.goneUids
         peer := noPeer arithmetic
         group := summary arithmetic current }, current)
    | some (index, slot) =>
      let (updated, events) :=
        receive arithmetic slot observation expired.events
      let after := { current with
        slots := Function.update current.slots index updated }
      let group := summary arithmetic after
      ({ status := .ok
         events := { events with
           groupStarted := events.groupStarted ||
             (expired.group.presentCount < 2 && 2 ≤ group.presentCount) }
         goneUids := expired.goneUids
         peer := snapshot updated
         group }, after)

end Arithmetic

end Kitsu.Presence
