import Kitsu.Crc32
import Kitsu.Lib.RingBuffer
import Kitsu.Lib.Saturating
import Kitsu.Lib.SlotTable
import Kitsu.Mix32

/-!
# Social progression

The friendship ledger of `social_progression.cpp`: twelve known peers, the peers
seen today as a bit mask over their slots, the challenge of the day, and a ring
of the last eight sessions that parties, shared trails and rare encounters share.
The persisted record ends in a CRC over its packed bytes; every accepted call
refreshes it.
-/

namespace Kitsu.Social

open Kitsu.Lib
open Kitsu.Lib.ByteString

abbrev kPeerCapacity : Nat := 12

abbrev kRecentSessionCapacity : Nat := 8

abbrev kRewardPeerCapacity : Nat := 3

def kStateSchemaVersion : UInt8 := 1

def kMinimumTrustedEpoch : UInt32 := 1577836800

def kRewardCooldownSeconds : UInt32 := 900

def kMagic : UInt32 := 0x31434F53

def kRareEncounterSessionDomain : UInt32 := 0x52415245

def kSharedTrailSessionDomain : UInt32 := 0x54524149

/-- `sizeof(SocialState)`. -/
def kStateBytes : UInt16 := 408

/-- What a meeting is. -/
inductive FriendEvent where
  | none
  | firstMeeting
  | knownFriend
  | reunion
deriving DecidableEq

/-- How a friend is greeted. -/
inductive Greeting where
  | newSignal
  | familiarSignal
  | friendReturned
  | closeFriend
  | mentorWelcome
deriving DecidableEq

/-- What a call answers. -/
inductive SocialStatus where
  | ok
  | invalidInput
  | stateUnavailable
  | stateFull
  | duplicate
  | rateLimited
  | clockRegression
  | wrongSession
  | wrongPhase
  | partyFull
  | alreadyJoined
  | notJoined
  | notReady
  | joinClosed
deriving DecidableEq

/-! ## The record -/

/-- What is known of a friend. -/
structure PeerState where
  uid : UInt16 := 0
  friendshipPoints : UInt16 := 0
  meetings : UInt16 := 0
  successfulParties : UInt16 := 0
  bestPartyScore : UInt16 := 0
  reserved : UInt16 := 0
  firstSeenDay : UInt32 := 0
  lastSeenDay : UInt32 := 0
  lastRewardDay : UInt32 := 0
  lastRewardEpoch : UInt32 := 0
deriving DecidableEq

/-- The social record, as it is stored. -/
structure SocialState where
  magic : UInt32 := kMagic
  bytes : UInt16 := kStateBytes
  schemaVersion : UInt8 := kStateSchemaVersion
  currentDay : UInt32 := 0
  dailySeenMask : UInt16 := 0
  dailyUniquePeers : UInt8 := 0
  dailyChallengeComplete : UInt8 := 0
  dailyChallengeProgress : UInt16 := 0
  dailyChallengeTarget : UInt16 := 0
  completedParties : UInt32 := 0
  cooperativeRareEncounters : UInt32 := 0
  sharedTrailProgress : UInt32 := 0
  /-- `recentSessions` with `recentSessionCount` and `recentSessionNext`. -/
  recentSessions : RingBuffer UInt32 kRecentSessionCapacity :=
    ⟨Vector.replicate kRecentSessionCapacity 0, 0, 0⟩
  reserved : UInt16 := 0
  /-- `peers` with `peerCount`. -/
  peers : SlotTable PeerState kPeerCapacity := .blank {}
  crc32 : UInt32 := 0
deriving DecidableEq

/-- The bytes of a friend, as the checksum runs over them. -/
def PeerState.packed (peer : PeerState) : Bytes :=
  littleEndian 2 peer.uid.toNat ++
    littleEndian 2 peer.friendshipPoints.toNat ++
    littleEndian 2 peer.meetings.toNat ++
    littleEndian 2 peer.successfulParties.toNat ++
    littleEndian 2 peer.bestPartyScore.toNat ++
    littleEndian 2 peer.reserved.toNat ++
    littleEndian 4 peer.firstSeenDay.toNat ++
    littleEndian 4 peer.lastSeenDay.toNat ++
    littleEndian 4 peer.lastRewardDay.toNat ++
    littleEndian 4 peer.lastRewardEpoch.toNat

/-- The packed record up to its CRC. -/
def SocialState.packed (state : SocialState) : Bytes :=
  littleEndian 4 state.magic.toNat ++
    littleEndian 2 state.bytes.toNat ++
    [state.schemaVersion, UInt8.ofNat state.peers.count] ++
    littleEndian 4 state.currentDay.toNat ++
    littleEndian 2 state.dailySeenMask.toNat ++
    [state.dailyUniquePeers, state.dailyChallengeComplete] ++
    littleEndian 2 state.dailyChallengeProgress.toNat ++
    littleEndian 2 state.dailyChallengeTarget.toNat ++
    littleEndian 4 state.completedParties.toNat ++
    littleEndian 4 state.cooperativeRareEncounters.toNat ++
    littleEndian 4 state.sharedTrailProgress.toNat ++
    state.recentSessions.slots.toList.flatMap
      (fun nonce => littleEndian 4 nonce.toNat) ++
    [UInt8.ofNat state.recentSessions.count,
      UInt8.ofNat state.recentSessions.next] ++
    littleEndian 2 state.reserved.toNat ++
    state.peers.slots.toList.flatMap PeerState.packed

example (state : SocialState) :
    state.packed.length + 4 = kStateBytes.toNat := by
  simp [SocialState.packed, List.length_flatMap, PeerState.packed,
    kStateBytes, kRecentSessionCapacity, kPeerCapacity]

/-- The checksum of a record. -/
def socialStateCrc (state : SocialState) : UInt32 :=
  Crc32.crc32 state.packed

/-- `value & 1` summed up while the value is shifted out. -/
def countBits : Nat → Nat → Nat
  | 0, _ => 0
  | fuel + 1, value =>
    if value = 0 then 0 else value % 2 + countBits fuel (value / 2)

/-- How many bits are set. -/
def bitCount16 (value : UInt16) : UInt8 :=
  UInt8.ofNat (countBits 16 value.toNat)

/-- The bits of the slots in use. -/
def validPeerMask (peerCount : Nat) : UInt16 :=
  if peerCount = 0 then 0 else (1 <<< UInt16.ofNat peerCount) - 1

/-- A friend was met at days that fit each other. -/
def peerValid (state : SocialState) (peer : PeerState) : Bool :=
  peer.uid != 0 && peer.meetings != 0 && peer.firstSeenDay != 0 &&
    peer.firstSeenDay ≤ peer.lastSeenDay &&
    peer.lastSeenDay ≤ state.currentDay && peer.reserved == 0 &&
    ((peer.lastRewardDay == 0) == (peer.lastRewardEpoch == 0)) &&
    (peer.lastRewardDay == 0 ||
      (peer.lastRewardDay ≤ state.currentDay &&
        kMinimumTrustedEpoch ≤ peer.lastRewardEpoch))

/-- The challenge is complete just when its target is reached. -/
def challengeValid (state : SocialState) : Bool :=
  if state.dailyChallengeTarget == 0 then
    state.dailyChallengeProgress == 0 && state.dailyChallengeComplete == 0
  else
    state.dailyChallengeComplete ==
      if state.dailyChallengeProgress ≥ state.dailyChallengeTarget then 1 else 0

/-- The ring of sessions is filled from its first slot on, each once. -/
def recentSessionsValid (ring : RingBuffer UInt32 kRecentSessionCapacity) :
    Bool :=
  (!(ring.count < kRecentSessionCapacity) || ring.next == ring.count) &&
    ring.used.all (· != 0) &&
    decide ring.used.Nodup &&
    (ring.slots.toList.drop ring.count).all (· == 0)

/-- What a stored record must meet before it is taken over. -/
def validateSocialState (state : SocialState) : Bool :=
  state.magic == kMagic && state.bytes == kStateBytes &&
    state.schemaVersion == kStateSchemaVersion &&
    state.peers.count ≤ kPeerCapacity &&
    state.recentSessions.count ≤ kRecentSessionCapacity &&
    state.recentSessions.next < kRecentSessionCapacity &&
    state.dailyUniquePeers ≤ UInt8.ofNat kPeerCapacity &&
    state.dailyChallengeComplete ≤ 1 && state.reserved == 0 &&
    state.crc32 == socialStateCrc state &&
    state.dailyUniquePeers == bitCount16 state.dailySeenMask &&
    state.dailySeenMask &&& ~~~ validPeerMask state.peers.count == 0 &&
    challengeValid state &&
    state.peers.entries.all (peerValid state) &&
    decide (state.peers.entries.map (·.uid)).Nodup &&
    state.peers.unused.all (· == {}) &&
    recentSessionsValid state.recentSessions

/-! ## The component -/

/-- The record in memory; not available after a bad one was read. -/
structure SocialProgression where
  state : SocialState
  available : Bool := true
deriving DecidableEq

/-- The record with the checksum that fits it. -/
def refreshCrc (state : SocialState) : SocialState :=
  { state with crc32 := socialStateCrc state }

/-- The record of somebody without friends. -/
def reset : SocialProgression where
  state := refreshCrc {}

/-- Take over a valid record; any other leaves the progression unavailable. -/
def restore (state : SocialState) : SocialStatus × SocialProgression :=
  if !validateSocialState state then
    (.stateUnavailable, { state := refreshCrc {}, available := false })
  else (.ok, { state })

/-- What a call answers; `output` is what it wrote, if anything. -/
structure Reply (Output : Type) where
  status : SocialStatus
  progression : SocialProgression
  output : Option Output := none

/-- An accepted call refreshes the CRC. -/
def accept {Output : Type} (state : SocialState)
    (output : Option Output := none) : Reply Output where
  status := .ok
  progression := { state := refreshCrc state }
  output := output

/-- The slot of a peer. -/
def findPeer (state : SocialState) (uid : UInt16) : Option Nat :=
  state.peers.find (·.uid == uid)

def peerAt (state : SocialState) (index : Nat) : PeerState :=
  state.peers.slots[index]?.getD {}

/-- A new day forgets the challenge and who was seen. -/
def beginDay (state : SocialState) (dayId : UInt32) : SocialState :=
  if state.currentDay == dayId then state
  else
    { state with
      currentDay := dayId
      dailySeenMask := 0
      dailyUniquePeers := 0
      dailyChallengeComplete := 0
      dailyChallengeProgress := 0
      dailyChallengeTarget := 0 }

/-- The level of a friendship, by its points. -/
def friendshipLevel (points : UInt16) : UInt8 :=
  if points ≥ 90 then 4
  else if points ≥ 50 then 3
  else if points ≥ 25 then 2
  else if points ≥ 10 then 1
  else 0

/-! ## Meeting a friend -/

/-- A friend was met. -/
structure FriendObservation where
  uid : UInt16 := 0
  dayId : UInt32 := 0
  epochSeconds : UInt32 := 0
  peerIsNewcomer : UInt8 := 0
  localBondLevel : UInt8 := 0

/-- What a meeting led to. -/
structure FriendOutcome where
  event : FriendEvent := .none
  greeting : Greeting := .newSignal
  friendshipLevel : UInt8 := 0
  pointsAwarded : UInt8 := 0
  diversityBonus : UInt8 := 0
  mentorBonus : UInt8 := 0
  dailyUniquePeers : UInt8 := 0
deriving DecidableEq

/-- The state with a slot for the peer, and the slot. -/
def meetPeer (state : SocialState) (observation : FriendObservation) :
    SocialState × Nat :=
  match findPeer state observation.uid with
  | some index => (state, index)
  | none =>
    ({ state with
        peers := state.peers.push
          { uid := observation.uid
            firstSeenDay := observation.dayId
            lastSeenDay := observation.dayId
            meetings := 1 } },
      state.peers.count)

/-- The bit of a slot in the mask of the day. -/
def peerBit (index : Nat) : UInt16 :=
  1 <<< UInt16.ofNat index

def firstToday (state : SocialState) (index : Nat) : Bool :=
  state.dailySeenMask &&& peerBit index == 0

/-- Mark the slot as seen today. -/
def markSeen (state : SocialState) (index : Nat) : SocialState :=
  if firstToday state index then
    { state with
      dailySeenMask := state.dailySeenMask ||| peerBit index
      dailyUniquePeers :=
        bitCount16 (state.dailySeenMask ||| peerBit index) }
  else state

/-- Every third peer of a day is worth two points more. -/
def diversityBonus (first : Bool) (uniquePeers : UInt8) : UInt8 :=
  if first && (uniquePeers == 3 || uniquePeers == 6 || uniquePeers == 9) then 2
  else 0

/-- A newcomer who is met for the first time brings a bonus. -/
def mentorBonus (firstMeeting : Bool) (observation : FriendObservation) :
    UInt8 :=
  if firstMeeting && observation.peerIsNewcomer != 0 &&
      observation.localBondLevel ≥ 3 then 2
  else 0

/-- The greeting of a friend, the mentor's first. -/
def greetingFor (mentor level : UInt8) (reunion firstMeeting : Bool) :
    Greeting :=
  if mentor != 0 then .mentorWelcome
  else if level ≥ 3 then .closeFriend
  else if reunion then .friendReturned
  else if firstMeeting then .newSignal
  else .familiarSignal

/-- The record of a peer after a meeting. -/
def metPeer (peer : PeerState) (firstMeeting : Bool) (dayId : UInt32)
    (points : UInt8) : PeerState :=
  { peer with
    meetings :=
      if firstMeeting then peer.meetings else saturatingAdd16 peer.meetings 1
    lastSeenDay := dayId
    friendshipPoints :=
      saturatingAdd16 peer.friendshipPoints points.toUInt16 }

/-- Record a meeting. -/
def observeFriend (progression : SocialProgression)
    (observation : FriendObservation) : Reply FriendOutcome :=
  let state := progression.state
  let firstMeeting := (findPeer state observation.uid).isNone
  if !progression.available then { status := .stateUnavailable, progression }
  else if observation.uid == 0 || observation.dayId == 0 ||
      observation.epochSeconds < kMinimumTrustedEpoch ||
      observation.peerIsNewcomer > 1 then
    { status := .invalidInput, progression }
  else if state.currentDay > observation.dayId then
    { status := .clockRegression, progression }
  else if firstMeeting && state.peers.count ≥ kPeerCapacity then
    { status := .stateFull, progression }
  else
    let met := meetPeer (beginDay state observation.dayId) observation
    let peer := peerAt met.1 met.2
    let first := firstToday met.1 met.2
    let reunion := !firstMeeting &&
      observation.dayId - peer.lastSeenDay ≥ 7
    let marked := markSeen met.1 met.2
    let diversity := diversityBonus first marked.dailyUniquePeers
    let mentor := mentorBonus firstMeeting observation
    let points : UInt8 :=
      (if firstMeeting then 5 else if reunion then 3 else if first then 1
        else 0) + diversity + mentor
    let after := metPeer peer firstMeeting observation.dayId points
    let level := friendshipLevel after.friendshipPoints
    accept { marked with peers := marked.peers.write met.2 after } (some {
      event :=
        if firstMeeting then .firstMeeting
        else if reunion then .reunion else .knownFriend
      greeting := greetingFor mentor level reunion firstMeeting
      friendshipLevel := level
      pointsAwarded := points
      diversityBonus := diversity
      mentorBonus := mentor
      dailyUniquePeers := marked.dailyUniquePeers })

/-! ## Sessions -/

/-- The session was recorded lately. -/
def seenSession (state : SocialState) (nonce : UInt32) : Bool :=
  state.recentSessions.used.contains nonce

def rememberSession (state : SocialState) (nonce : UInt32) : SocialState :=
  { state with recentSessions := state.recentSessions.push nonce }

/-- The name of a session for one purpose; never zero. -/
def scopedSessionNonce (nonce domain : UInt32) : UInt32 :=
  let replayNonce := mix32 (nonce ^^^ domain)
  if replayNonce == 0 then mix32 domain else replayNonce

/-! ## Rewards -/

/-- The reward of a session with one friend. -/
structure SessionReward where
  uid : UInt16 := 0
  score : UInt16 := 0
  sessionNonce : UInt32 := 0
  dayId : UInt32 := 0
  epochSeconds : UInt32 := 0

/-- What a friend was rewarded with. -/
structure RewardOutcome where
  pointsAwarded : UInt8 := 0
  friendshipLevel : UInt8 := 0
  firstSuccess : UInt8 := 0
  challengeCompleted : UInt8 := 0
deriving DecidableEq

/-- The reward of a session with several friends. -/
structure PartyRewardRequest where
  sessionNonce : UInt32 := 0
  dayId : UInt32 := 0
  epochSeconds : UInt32 := 0
  score : UInt16 := 0
  peerCount : Nat := 0
  peerUids : Vector UInt16 kRewardPeerCapacity :=
    Vector.replicate kRewardPeerCapacity 0

/-- The uids of the peers to reward. -/
def PartyRewardRequest.uids (reward : PartyRewardRequest) : List UInt16 :=
  reward.peerUids.toList.take reward.peerCount

/-- A reward names its friends, each once, and nothing behind them. -/
def validPartyReward (reward : PartyRewardRequest) : Bool :=
  reward.peerCount != 0 && reward.peerCount ≤ kRewardPeerCapacity &&
    reward.score ≤ 1000 && reward.sessionNonce != 0 && reward.dayId != 0 &&
    kMinimumTrustedEpoch ≤ reward.epochSeconds &&
    reward.uids.all (· != 0) &&
    (reward.peerUids.toList.drop reward.peerCount).all (· == 0) &&
    decide reward.uids.Nodup

/-- Why a peer cannot be rewarded now. -/
def refusePeer (reward : PartyRewardRequest) (peer : PeerState) :
    Option SocialStatus :=
  if peer.lastRewardDay > reward.dayId ||
      (peer.lastRewardEpoch != 0 &&
        reward.epochSeconds < peer.lastRewardEpoch) then
    some .clockRegression
  else if peer.lastRewardEpoch != 0 &&
      (reward.dayId == peer.lastRewardDay ||
        reward.epochSeconds - peer.lastRewardEpoch <
          kRewardCooldownSeconds) then
    some .rateLimited
  else none

def pointsFor (score : UInt16) : UInt8 :=
  2 + if score ≥ 750 then 2 else if score ≥ 400 then 1 else 0

/-- The record of a peer after a reward. -/
def rewardedPeer (reward : PartyRewardRequest) (peer : PeerState) :
    PeerState :=
  { peer with
    friendshipPoints :=
      saturatingAdd16 peer.friendshipPoints (pointsFor reward.score).toUInt16
    successfulParties := saturatingAdd16 peer.successfulParties 1
    bestPartyScore :=
      if reward.score > peer.bestPartyScore then reward.score
      else peer.bestPartyScore
    lastRewardDay := reward.dayId
    lastRewardEpoch := reward.epochSeconds }

/-- What a friend is rewarded with, by the score. -/
def rewardOutcome (reward : PartyRewardRequest) (peer : PeerState) :
    RewardOutcome where
  pointsAwarded := pointsFor reward.score
  friendshipLevel :=
    friendshipLevel (rewardedPeer reward peer).friendshipPoints
  firstSuccess := if peer.successfulParties == 0 then 1 else 0

/-- One pass of the loop over the peers of the party. -/
def rewardSlot (reward : PartyRewardRequest) (state : SocialState)
    (index : Nat) : SocialState :=
  { state with
    peers := state.peers.write index
      (rewardedPeer reward (peerAt state index)) }

/-- The `peers` of the outcome are those of the peers in the party. -/
def recordPartyRewards (progression : SocialProgression)
    (reward : PartyRewardRequest) : Reply (List RewardOutcome) :=
  let state := progression.state
  if !progression.available then { status := .stateUnavailable, progression }
  else if !validPartyReward reward then { status := .invalidInput, progression }
  else if seenSession state reward.sessionNonce then
    { status := .duplicate, progression }
  else
    match reward.uids.mapM (findPeer state) with
    | none => { status := .notJoined, progression }
    | some indices =>
      if state.currentDay > reward.dayId then
        { status := .clockRegression, progression }
      else
        match indices.findSome? (refusePeer reward ∘ peerAt state) with
        | some status => { status, progression }
        | none =>
          let rewarded := indices.foldl (rewardSlot reward)
            (beginDay state reward.dayId)
          accept
            (rememberSession
              { rewarded with
                completedParties :=
                  saturatingAdd32 rewarded.completedParties 1 }
              reward.sessionNonce)
            (some (indices.map (rewardOutcome reward ∘ peerAt state)))

/-- The reward of a session is that of a party with one peer. -/
def SessionReward.batch (reward : SessionReward) : PartyRewardRequest where
  sessionNonce := reward.sessionNonce
  dayId := reward.dayId
  epochSeconds := reward.epochSeconds
  score := reward.score
  peerCount := 1
  peerUids := (Vector.replicate kRewardPeerCapacity 0).set 0 reward.uid

/-- The reward of one friend is that of a party with one. -/
def recordSessionReward (progression : SocialProgression)
    (reward : SessionReward) : Reply RewardOutcome :=
  let batchReply := recordPartyRewards progression reward.batch
  { status := batchReply.status
    progression := batchReply.progression
    output := batchReply.output.bind List.head? }

/-! ## The challenge of the day -/

/-- The output is `completedNow`, which every call writes. -/
def contributeDailyChallenge (progression : SocialProgression)
    (dayId : UInt32) (amount target : UInt16) : Reply UInt8 :=
  let state := progression.state
  if !progression.available then
    { status := .stateUnavailable, progression, output := some 0 }
  else if dayId == 0 || amount == 0 || target == 0 then
    { status := .invalidInput, progression, output := some 0 }
  else if state.currentDay > dayId then
    { status := .clockRegression, progression, output := some 0 }
  else
    let today := beginDay state dayId
    if today.dailyChallengeTarget != 0 &&
        today.dailyChallengeTarget != target then
      { status := .invalidInput
        progression := { progression with state := today }
        output := some 0 }
    else
      let progress := saturatingAdd16 today.dailyChallengeProgress amount
      let completes := today.dailyChallengeComplete == 0 && progress ≥ target
      accept
        { today with
          dailyChallengeTarget := target
          dailyChallengeProgress := progress
          dailyChallengeComplete :=
            if completes then 1 else today.dailyChallengeComplete }
        (some (if completes then 1 else 0))

/-! ## Shared trails and rare encounters -/

/-- The misses of two together, at most twenty. -/
def sharedTrailMisses (localMisses peerMisses : UInt8) : UInt8 :=
  if localMisses.toNat + peerMisses.toNat > 20 then 20
  else localMisses + peerMisses

/-- Record a rare encounter that was shared, once a session. -/
def recordCooperativeRareEncounter (progression : SocialProgression)
    (sessionNonce : UInt32) : Reply Unit :=
  let state := progression.state
  let replayNonce :=
    scopedSessionNonce sessionNonce kRareEncounterSessionDomain
  if !progression.available then { status := .stateUnavailable, progression }
  else if sessionNonce == 0 then { status := .invalidInput, progression }
  else if seenSession state replayNonce then { status := .duplicate, progression }
  else
    accept (rememberSession
      { state with
        cooperativeRareEncounters :=
          saturatingAdd32 state.cooperativeRareEncounters 1 } replayNonce)

/-- Record a shared trail, once a session. -/
def recordSharedTrailResult (progression : SocialProgression)
    (sessionNonce : UInt32) (mergedMisses : UInt8) : Reply Unit :=
  let state := progression.state
  let replayNonce := scopedSessionNonce sessionNonce kSharedTrailSessionDomain
  if !progression.available then { status := .stateUnavailable, progression }
  else if sessionNonce == 0 || mergedMisses > 20 then
    { status := .invalidInput, progression }
  else if seenSession state replayNonce then { status := .duplicate, progression }
  else
    accept (rememberSession
      { state with
        sharedTrailProgress := saturatingAdd32 state.sharedTrailProgress
          mergedMisses.toUInt32 } replayNonce)

/-- The merged misses are written also when the session is a duplicate. -/
def mergeSharedTrail (progression : SocialProgression)
    (sessionNonce : UInt32) (localMisses peerMisses : UInt8) : Reply UInt8 :=
  if !progression.available then { status := .stateUnavailable, progression }
  else if sessionNonce == 0 || localMisses > 20 || peerMisses > 20 then
    { status := .invalidInput, progression }
  else
    let mergedMisses := sharedTrailMisses localMisses peerMisses
    let recorded := recordSharedTrailResult progression sessionNonce mergedMisses
    { status := recorded.status
      progression := recorded.progression
      output := some mergedMisses }

end Kitsu.Social
