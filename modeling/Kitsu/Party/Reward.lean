import Kitsu.Lib.RingBuffer
import Kitsu.Lib.Saturating
import Kitsu.Lib.SlotTable

/-!
# The party reward ledger

The persistent ledger of `kitsu_party_hotspot.h` that turns completed hunts into
Party Bond.  It remembers twelve peers with the day and second of their last
reward, and the nonces of the last eight sessions.  Peer table and session ring
are the tables of the library; the other fields keep the widths of the source,
where counters saturate.

`validateRewardState` keeps the tests of the source.  A call that is refused
writes no outcome.
-/

namespace Kitsu.Party

open Kitsu.Lib

def kMinimumParticipants : Nat := 2

def kMaximumParticipants : Nat := 4

def kRewardStateSchemaVersion : UInt8 := 1

abbrev kRewardPeerCapacity : Nat := 12

abbrev kRecentSessionCapacity : Nat := 8

/-- What is known of the parties with a peer. -/
structure PeerRewardState where
  uid : UInt16 := 0
  rewardedParties : UInt16 := 0
  lastRewardDayId : UInt32 := 0
  lastRewardEpochSeconds : UInt32 := 0
deriving DecidableEq

/-- The rewards of the parties, as they are stored. -/
structure RewardState where
  schemaVersion : UInt8 := kRewardStateSchemaVersion
  partyBond : UInt32 := 0
  completedHunts : UInt32 := 0
  rewardedHunts : UInt32 := 0
  rewardedPeerEvents : UInt32 := 0
  lastObservedDayId : UInt32 := 0
  lastObservedEpochSeconds : UInt32 := 0
  lastStreakDayId : UInt32 := 0
  currentStreakDays : UInt16 := 0
  longestStreakDays : UInt16 := 0
  /-- `peers` with `peerCount`. -/
  peers : SlotTable PeerRewardState kRewardPeerCapacity := .blank {}
  /--
  `recentSessionNonces` with `recentSessionCount` and `recentSessionNext`.
  -/
  recentSessions : RingBuffer UInt32 kRecentSessionCapacity :=
    ⟨Vector.replicate kRecentSessionCapacity 0, 0, 0⟩
deriving DecidableEq

/-- A hunt that was completed, with its party and its time. -/
structure CompletedHuntReward where
  selfUid : UInt16 := 0
  participantUids : Vector UInt16 kMaximumParticipants :=
    Vector.replicate kMaximumParticipants 0
  participantCount : Nat := 0
  tier : Nat := 0
  sessionNonce : UInt32 := 0
  resultProof : UInt32 := 0
  dayId : UInt32 := 0
  nowEpochSeconds : UInt32 := 0

/-- What a hunt was rewarded with. -/
structure RewardOutcome where
  eligibleUniquePeers : Nat := 0
  streakAdvanced : Bool := false
  bondAwarded : Nat := 0
  partyBondAfter : UInt32 := 0
  currentStreakDays : UInt16 := 0
  longestStreakDays : UInt16 := 0
deriving DecidableEq

/-- What the ledger answers. -/
inductive RewardStatus where
  | awarded
  | recordedNoEligiblePeer
  | duplicateSession
  | invalidInput
  | clockRegression
  | unsupportedState
  | invalidState
  | stateUnavailable
deriving DecidableEq

/-! ## What may be restored -/

/-- The slots in use hold distinct nonces, the others are zero. -/
def recentSessionsValid (ring : RingBuffer UInt32 kRecentSessionCapacity) :
    Bool :=
  (!(ring.count < kRecentSessionCapacity) || ring.next == ring.count) &&
    ring.used.all (· != 0) &&
    (ring.slots.toList.drop ring.count).all (· == 0) &&
    decide ring.used.Nodup

/-- A peer in use was rewarded, and not later than the last observation. -/
def peerValid (state : RewardState) (peer : PeerRewardState) : Bool :=
  peer.uid != 0 && peer.rewardedParties != 0 && peer.lastRewardDayId != 0 &&
    peer.lastRewardEpochSeconds != 0 &&
    peer.lastRewardDayId ≤ state.lastObservedDayId &&
    peer.lastRewardEpochSeconds ≤ state.lastObservedEpochSeconds

/-- What a stored ledger must meet before it is taken over. -/
def validateRewardState (state : RewardState) : Bool :=
  state.schemaVersion == kRewardStateSchemaVersion &&
    state.peers.count ≤ kRewardPeerCapacity &&
    state.recentSessions.count ≤ kRecentSessionCapacity &&
    state.recentSessions.next < kRecentSessionCapacity &&
    state.rewardedHunts ≤ state.completedHunts &&
    (if state.completedHunts == 0 then
      state.lastObservedDayId == 0 && state.lastObservedEpochSeconds == 0 &&
        state.recentSessions.count == 0
    else
      state.lastObservedDayId != 0 && state.lastObservedEpochSeconds != 0 &&
        state.recentSessions.count != 0) &&
    recentSessionsValid state.recentSessions &&
    state.peers.unused.all (· == {}) &&
    state.peers.entries.all (peerValid state) &&
    decide (state.peers.entries.map (·.uid)).Nodup &&
    (if state.rewardedHunts == 0 then
      state.partyBond == 0 && state.rewardedPeerEvents == 0 &&
        state.lastStreakDayId == 0 && state.currentStreakDays == 0 &&
        state.longestStreakDays == 0 && state.peers.count == 0
    else
      state.partyBond != 0 && state.rewardedPeerEvents != 0 &&
        state.lastStreakDayId != 0 && state.currentStreakDays != 0 &&
        state.currentStreakDays ≤ state.longestStreakDays &&
        state.lastStreakDayId ≤ state.lastObservedDayId &&
        state.peers.count != 0)

/-! ## Recording a hunt -/

/-- The class of the source: its state, and whether it may be used. -/
structure PartyRewardLedger where
  state : RewardState := {}
  available : Bool := true
deriving DecidableEq

/-- The slot of a peer. -/
def findPeer (state : RewardState) (uid : UInt16) : Option Nat :=
  state.peers.find (·.uid == uid)

/-- Rewarded on an earlier day, earlier that day, or under a smaller uid. -/
def olderReward (peer other : PeerRewardState) : Bool :=
  peer.lastRewardDayId < other.lastRewardDayId ||
    (peer.lastRewardDayId == other.lastRewardDayId &&
      peer.lastRewardEpochSeconds < other.lastRewardEpochSeconds) ||
    (peer.lastRewardDayId == other.lastRewardDayId &&
      peer.lastRewardEpochSeconds == other.lastRewardEpochSeconds &&
      peer.uid < other.uid)

/-- The slot of the peer whose reward is the oldest. -/
def oldestPeer (peers : Vector PeerRewardState kRewardPeerCapacity) :
    Fin kRewardPeerCapacity :=
  (List.finRange kRewardPeerCapacity).tail.foldl
    (fun oldest index =>
      if olderReward peers[index] peers[oldest] then index else oldest) 0

/-- The table with a slot for the peer, and the slot. -/
def allocatePeer (state : RewardState) (uid : UInt16) :
    SlotTable PeerRewardState kRewardPeerCapacity × Nat :=
  match findPeer state uid with
  | some index => (state.peers, index)
  | none =>
    if state.peers.count < kRewardPeerCapacity then
      (state.peers.push { uid := uid }, state.peers.count)
    else
      let oldest := oldestPeer state.peers.slots
      (state.peers.write oldest { uid := uid }, oldest)

/-- The session was recorded lately. -/
def seenSession (state : RewardState) (nonce : UInt32) : Bool :=
  state.recentSessions.used.contains nonce

/-- Remember a session over the oldest one. -/
def rememberSession (ring : RingBuffer UInt32 kRecentSessionCapacity)
    (nonce : UInt32) : RingBuffer UInt32 kRecentSessionCapacity :=
  if ring.count < kRecentSessionCapacity then
    { slots := ring.slots.setIfInBounds ring.count nonce
      count := ring.count + 1
      next := (ring.count + 1) % kRecentSessionCapacity }
  else
    { ring with
      slots := ring.slots.setIfInBounds ring.next nonce
      next := (ring.next + 1) % kRecentSessionCapacity }

/-- The uids of the party. -/
def CompletedHuntReward.participants (completed : CompletedHuntReward) :
    List UInt16 :=
  completed.participantUids.toList.take completed.participantCount

/-- Two to four distinct participants, this device among them. -/
def validCompletedHunt (completed : CompletedHuntReward) : Bool :=
  completed.selfUid != 0 && completed.sessionNonce != 0 &&
    completed.resultProof != 0 && completed.dayId != 0 &&
    completed.nowEpochSeconds != 0 &&
    kMinimumParticipants ≤ completed.participantCount &&
    completed.participantCount ≤ kMaximumParticipants &&
    completed.tier ≤ 3 &&
    completed.participants.all (· != 0) &&
    decide completed.participants.Nodup &&
    (completed.participantUids.toList.drop completed.participantCount).all
      (· == 0) &&
    completed.participants.count completed.selfUid == 1

/-- The hunt is from before the last one. -/
def clockRegressed (state : RewardState) (completed : CompletedHuntReward) :
    Bool :=
  (state.lastObservedDayId != 0 &&
      completed.dayId < state.lastObservedDayId) ||
    (state.lastObservedEpochSeconds != 0 &&
      completed.nowEpochSeconds < state.lastObservedEpochSeconds)

/-- Whether a peer of the hunt counts towards its reward. -/
def eligiblePeer (state : RewardState) (completed : CompletedHuntReward)
    (peerCooldownSeconds : UInt32) (uid : UInt16) : Bool :=
  uid != completed.selfUid &&
    match state.peers.entries.find? (·.uid == uid) with
    | none => true
    | some peer =>
      peer.lastRewardDayId != completed.dayId &&
        !(completed.nowEpochSeconds - peer.lastRewardEpochSeconds
          < peerCooldownSeconds)

/-- The members of the party who may be rewarded again. -/
def eligibleUids (state : RewardState) (completed : CompletedHuntReward)
    (peerCooldownSeconds : UInt32) : List UInt16 :=
  completed.participants.filter
    (eligiblePeer state completed peerCooldownSeconds)

/-- The record of a peer after this hunt. -/
def rewardedNow (completed : CompletedHuntReward) (peer : PeerRewardState) :
    PeerRewardState :=
  { peer with
    lastRewardDayId := completed.dayId
    lastRewardEpochSeconds := completed.nowEpochSeconds
    rewardedParties := saturatingAdd16 peer.rewardedParties 1 }

/-- One pass of the loop over the eligible peers. -/
def rewardPeer (completed : CompletedHuntReward) (state : RewardState)
    (uid : UInt16) : RewardState :=
  let allocated := allocatePeer state uid
  { state with
    peers := allocated.1.write allocated.2
      (rewardedNow completed (allocated.1.slots[allocated.2]?.getD {})) }

/-- The fields every recorded hunt updates. -/
def observeHunt (state : RewardState) (completed : CompletedHuntReward) :
    RewardState :=
  { state with
    recentSessions := rememberSession state.recentSessions
      completed.sessionNonce
    completedHunts := saturatingAdd32 state.completedHunts 1
    lastObservedDayId := completed.dayId
    lastObservedEpochSeconds := completed.nowEpochSeconds }

/--
The bond of a hunt: by its tier for each peer, and one for each extra member.
-/
def bondFor (completed : CompletedHuntReward) (eligibleCount : Nat) : Nat :=
  eligibleCount * (1 + completed.tier) +
    (completed.participantCount - kMinimumParticipants)

/-- Count the bond and the peers of a hunt. -/
def countRewards (state : RewardState) (completed : CompletedHuntReward)
    (eligibleCount : Nat) : RewardState :=
  { state with
    partyBond := saturatingAdd32 state.partyBond
      (UInt32.ofNat (bondFor completed eligibleCount))
    rewardedHunts := saturatingAdd32 state.rewardedHunts 1
    rewardedPeerEvents := saturatingAdd32 state.rewardedPeerEvents
      (UInt32.ofNat eligibleCount) }

/-- The streak of a day that is not the last one of it. -/
def streakOn (state : RewardState) (dayId : UInt32) : UInt16 :=
  if state.lastStreakDayId != 0 && dayId == state.lastStreakDayId + 1 then
    saturatingAdd16 state.currentStreakDays 1
  else 1

/-- The first rewarded hunt of a day advances the streak or begins a new one. -/
def advanceStreak (state : RewardState) (dayId : UInt32) : RewardState :=
  if state.lastStreakDayId != dayId then
    { state with
      currentStreakDays := streakOn state dayId
      lastStreakDayId := dayId
      longestStreakDays :=
        if streakOn state dayId > state.longestStreakDays then
          streakOn state dayId
        else state.longestStreakDays }
  else state

/-- What the ledger answers, and the ledger after it. -/
structure RewardReply where
  status : RewardStatus
  ledger : PartyRewardLedger
  /-- What was written to the output, if anything. -/
  output : Option RewardOutcome := none

/-- Record a hunt and reward the peers who are eligible. -/
def recordCompletedHunt (ledger : PartyRewardLedger)
    (completed : CompletedHuntReward) (peerCooldownSeconds : UInt32) :
    RewardReply :=
  let state := ledger.state
  if !ledger.available then { status := .stateUnavailable, ledger }
  else if !validCompletedHunt completed then { status := .invalidInput, ledger }
  else if seenSession state completed.sessionNonce then
    { status := .duplicateSession, ledger }
  else if clockRegressed state completed then
    { status := .clockRegression, ledger }
  else
    let eligible := eligibleUids state completed peerCooldownSeconds
    let observed := observeHunt state completed
    if eligible.length == 0 then
      { status := .recordedNoEligiblePeer
        ledger := { ledger with state := observed }
        output := some {
          partyBondAfter := observed.partyBond
          currentStreakDays := observed.currentStreakDays
          longestStreakDays := observed.longestStreakDays } }
    else
      let rewarded := eligible.foldl (rewardPeer completed) observed
      let counted := countRewards rewarded completed eligible.length
      let after := advanceStreak counted completed.dayId
      { status := .awarded
        ledger := { ledger with state := after }
        output := some {
          eligibleUniquePeers := eligible.length
          streakAdvanced := counted.lastStreakDayId != completed.dayId
          bondAwarded := bondFor completed eligible.length
          partyBondAfter := after.partyBond
          currentStreakDays := after.currentStreakDays
          longestStreakDays := after.longestStreakDays } }

/-! ## Saving and restoring -/

/-- The ledger after a bad record. -/
def quarantine : PartyRewardLedger where
  state := { schemaVersion := 0 }
  available := false

/-- Take over a valid record; any other quarantines the ledger. -/
def restore (state : RewardState) : RewardStatus × PartyRewardLedger :=
  if state.schemaVersion != kRewardStateSchemaVersion then
    (.unsupportedState, quarantine)
  else if !validateRewardState state then (.invalidState, quarantine)
  else (.awarded, { state })

/-- The ledger without any hunts. -/
def reset : PartyRewardLedger :=
  {}

end Kitsu.Party
