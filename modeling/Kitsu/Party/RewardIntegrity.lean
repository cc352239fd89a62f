import Kitsu.Lib.Run
import Kitsu.Party.Reward

/-!
# Integrity of the reward ledger

`Valid` restates `validateRewardState` with a name for every group of tests.
`rewardPeer_cases` says what one pass of the reward loop does to the peer table:
it rewrites the record of a known peer, takes a free slot, or gives the slot of
the oldest reward away.  Everything about the table follows from it.
-/

namespace Kitsu.Party

open Kitsu.Lib

/-! ## Valid states -/

/-- The last observation is set exactly when a hunt was completed. -/
structure Observed (state : RewardState) : Prop where
  unhunted : state.completedHunts = 0 →
    state.lastObservedDayId = 0 ∧ state.lastObservedEpochSeconds = 0 ∧
      state.recentSessions.count = 0
  hunted : state.completedHunts ≠ 0 →
    state.lastObservedDayId ≠ 0 ∧ state.lastObservedEpochSeconds ≠ 0 ∧
      state.recentSessions.count ≠ 0

/-- Rewards leave their traces, and nothing else does. -/
structure Counted (state : RewardState) : Prop where
  unrewarded : state.rewardedHunts = 0 →
    state.partyBond = 0 ∧ state.rewardedPeerEvents = 0 ∧
      state.lastStreakDayId = 0 ∧ state.currentStreakDays = 0 ∧
      state.longestStreakDays = 0 ∧ state.peers.count = 0
  rewarded : state.rewardedHunts ≠ 0 →
    state.partyBond ≠ 0 ∧ state.rewardedPeerEvents ≠ 0 ∧
      state.lastStreakDayId ≠ 0 ∧ state.currentStreakDays ≠ 0 ∧
      state.currentStreakDays ≤ state.longestStreakDays ∧
      state.lastStreakDayId ≤ state.lastObservedDayId ∧
      state.peers.count ≠ 0

/-- A peer was rewarded at a time that was observed. -/
structure ValidPeer (state : RewardState) (peer : PeerRewardState) :
    Prop where
  uid : peer.uid ≠ 0
  parties : peer.rewardedParties ≠ 0
  day : peer.lastRewardDayId ≠ 0
  epoch : peer.lastRewardEpochSeconds ≠ 0
  day_le : peer.lastRewardDayId ≤ state.lastObservedDayId
  epoch_le : peer.lastRewardEpochSeconds ≤ state.lastObservedEpochSeconds

variable {peer : PeerRewardState}

theorem peerValid_iff {state : RewardState} :
    peerValid state peer = true ↔ ValidPeer state peer := by
  simp only [peerValid, Bool.and_eq_true, bne_iff_ne, decide_eq_true_eq]
  constructor
  · rintro ⟨⟨⟨⟨⟨uid, parties⟩, day⟩, epoch⟩, dayLe⟩, epochLe⟩
    exact ⟨uid, parties, day, epoch, dayLe, epochLe⟩
  · rintro ⟨uid, parties, day, epoch, dayLe, epochLe⟩
    exact ⟨⟨⟨⟨⟨uid, parties⟩, day⟩, epoch⟩, dayLe⟩, epochLe⟩

/-- The peer table: no record is kept twice, and every record is valid. -/
structure PeersValid (state : RewardState) : Prop where
  packed : state.peers.Packed {}
  valid : ∀ peer ∈ state.peers.entries, ValidPeer state peer
  distinct : (state.peers.entries.map (·.uid)).Nodup

/-- The session ring: the nonces in use are not zero and not kept twice. -/
structure SessionsValid (ring : RingBuffer UInt32 kRecentSessionCapacity) :
    Prop where
  filled : ring.Filled (· = 0) (· ≠ 0)
  distinct : ring.Distinct

/-- What validation asks of a ledger, by parts. -/
structure Valid (state : RewardState) : Prop where
  schema : state.schemaVersion = kRewardStateSchemaVersion
  hunts : state.rewardedHunts ≤ state.completedHunts
  observed : Observed state
  sessions : SessionsValid state.recentSessions
  peers : PeersValid state
  counted : Counted state

variable {ring : RingBuffer UInt32 kRecentSessionCapacity}

theorem recentSessionsValid_iff (bounded : ring.count ≤ kRecentSessionCapacity)
    (inside : ring.next < kRecentSessionCapacity) :
    recentSessionsValid ring = true ↔ SessionsValid ring := by
  have tested := @RingBuffer.filled_and_distinct_iff UInt32 _ ring (· = 0)
    (· ≠ 0) bounded inside
  simp only [recentSessionsValid, Bool.and_eq_true, Bool.or_eq_true,
    Bool.not_eq_true', decide_eq_false_iff_not, beq_iff_eq, List.all_eq_true,
    bne_iff_ne, decide_eq_true_eq, ← imp_iff_not_or]
  constructor
  · rintro ⟨⟨⟨position, good⟩, blank⟩, distinct⟩
    rcases tested.mpr ⟨position, good, distinct, blank⟩ with
      ⟨filled, unrepeated⟩
    exact ⟨filled, unrepeated⟩
  · rintro ⟨filled, distinct⟩
    rcases tested.mp ⟨filled, distinct⟩ with
      ⟨position, good, unrepeated, blank⟩
    exact ⟨⟨⟨position, good⟩, blank⟩, unrepeated⟩

theorem validateRewardState_iff {state : RewardState} :
    validateRewardState state = true ↔ Valid state := by
  simp only [validateRewardState, Bool.and_eq_true, decide_eq_true_eq,
    beq_iff_eq, List.all_eq_true, peerValid_iff]
  constructor
  · rintro ⟨⟨⟨⟨⟨⟨⟨⟨⟨⟨schema, inside⟩, bounded⟩, next⟩, hunts⟩, observed⟩,
      sessions⟩, unused⟩, valid⟩, distinct⟩, counted⟩
    refine ⟨schema, hunts, ?_, (recentSessionsValid_iff bounded next).mp sessions,
      ⟨⟨inside, unused⟩, valid, distinct⟩, ?_⟩
    · constructor
      · intro none
        simpa [none, and_assoc] using observed
      · intro some
        simpa [some, and_assoc] using observed
    · constructor
      · intro none
        simpa [none, and_assoc] using counted
      · intro some
        simpa [some, and_assoc] using counted
  · rintro ⟨schema, hunts, observed, sessions, ⟨⟨inside, unused⟩, valid,
      distinct⟩, counted⟩
    have bounded := sessions.filled.count_le
    have next := sessions.filled.next_lt
    refine ⟨⟨⟨⟨⟨⟨⟨⟨⟨⟨schema, inside⟩, bounded⟩, next⟩, hunts⟩, ?_⟩,
      (recentSessionsValid_iff bounded next).mpr sessions⟩, unused⟩, valid⟩,
      distinct⟩, ?_⟩
    · by_cases none : state.completedHunts = 0
      · simpa [none, and_assoc] using observed.unhunted none
      · simpa [none, and_assoc] using observed.hunted none
    · by_cases none : state.rewardedHunts = 0
      · simpa [none, and_assoc] using counted.unrewarded none
      · simpa [none, and_assoc] using counted.rewarded none

/-! ## One pass of the reward loop -/

@[simp]
theorem rewardedNow_uid (completed : CompletedHuntReward)
    (peer : PeerRewardState) : (rewardedNow completed peer).uid = peer.uid := by
  simp only [rewardedNow]

/-- The records of a table do not name the peer. -/
def Unknown (state : RewardState) (uid : UInt16) : Prop :=
  ∀ peer ∈ state.peers.entries, peer.uid ≠ uid

variable {uid : UInt16}

theorem findPeer_none {state : RewardState} :
    findPeer state uid = none ↔ Unknown state uid := by
  rw [findPeer, SlotTable.find_none]
  simp only [beq_eq_false_iff_ne, Unknown]

/-- What one pass of the loop does to the peer table. -/
inductive Recorded (completed : CompletedHuntReward) (state : RewardState)
    (uid : UInt16) : RewardState → Prop where
  | known (index : Nat) (peer : PeerRewardState)
      (stored : state.peers.entries[index]? = some peer)
      (named : peer.uid = uid) :
      Recorded completed state uid { state with
        peers := state.peers.write index (rewardedNow completed peer) }
  | added (unknown : Unknown state uid)
      (room : state.peers.count < kRewardPeerCapacity) :
      Recorded completed state uid { state with
        peers := state.peers.push (rewardedNow completed { uid := uid }) }
  | evicted (index : Nat) (unknown : Unknown state uid)
      (used : index < state.peers.count) :
      Recorded completed state uid { state with
        peers := state.peers.write index
          (rewardedNow completed { uid := uid }) }

theorem rewardPeer_cases (completed : CompletedHuntReward)
    (state : RewardState) (uid : UInt16) :
    Recorded completed state uid (rewardPeer completed state uid) := by
  simp only [rewardPeer, allocatePeer]
  split
  · rename_i index found
    rcases state.peers.find_some found with ⟨peer, stored, named⟩
    simp only [state.peers.slots_of_entries stored, Option.getD_some]
    exact .known index peer stored (beq_iff_eq.mp named)
  · rename_i missing
    have unknown := findPeer_none.mp missing
    split
    · rename_i room
      have fresh : (state.peers.push { uid := uid }).slots[
          state.peers.count]?.getD {} = { uid := uid } := by
        simp [SlotTable.push, room]
      simp only [fresh, SlotTable.write_push]
      exact .added unknown room
    · rename_i full
      have fresh : (state.peers.write (oldestPeer state.peers.slots)
          { uid := uid }).slots[(oldestPeer state.peers.slots).val]?.getD {} =
            { uid := uid } := by
        simp [SlotTable.write]
      simp only [fresh, SlotTable.write_write]
      exact .evicted _ unknown (by omega)

theorem Recorded.distinct {completed : CompletedHuntReward}
    {state after : RewardState} {uid : UInt16}
    (recorded : Recorded completed state uid after)
    (distinct : (state.peers.entries.map (·.uid)).Nodup) :
    (after.peers.entries.map (·.uid)).Nodup := by
  cases recorded with
  | known index peer stored named =>
    rwa [SlotTable.keys_write _ _ stored (rewardedNow_uid completed peer)]
  | added unknown room =>
    exact SlotTable.nodup_keys_push _ _ room distinct unknown
  | evicted index unknown used =>
    rw [SlotTable.entries_write, List.map_set]
    refine distinct.set fun member => ?_
    rcases List.mem_map.mp member with ⟨peer, kept, named⟩
    exact unknown peer kept named

variable {after : RewardState}

/-- Every record left behind is the peer's new one or an old one of another. -/
theorem Recorded.mem {completed : CompletedHuntReward} {state : RewardState}
    (recorded : Recorded completed state uid after)
    (distinct : (state.peers.entries.map (·.uid)).Nodup)
    (member : peer ∈ after.peers.entries) :
    (∃ old : PeerRewardState, old.uid = uid ∧ peer = rewardedNow completed old) ∨
      (peer.uid ≠ uid ∧ peer ∈ state.peers.entries) := by
  cases recorded with
  | known index old stored named =>
    have same := rewardedNow_uid completed old
    rcases (SlotTable.mem_write _ _ stored same distinct).mp member with
      rfl | ⟨other, kept⟩
    · exact Or.inl ⟨old, named, rfl⟩
    · rw [same, named] at other
      exact Or.inr ⟨other, kept⟩
  | added unknown room =>
    rw [SlotTable.entries_push _ _ room, List.mem_append,
      List.mem_singleton] at member
    rcases member with kept | rfl
    · exact Or.inr ⟨unknown peer kept, kept⟩
    · exact Or.inl ⟨_, rfl, rfl⟩
  | evicted index unknown used =>
    rw [SlotTable.entries_write] at member
    rcases List.mem_or_eq_of_mem_set member with kept | rfl
    · exact Or.inr ⟨unknown peer kept, kept⟩
    · exact Or.inl ⟨_, rfl, rfl⟩

theorem Recorded.frame {completed : CompletedHuntReward} {state : RewardState}
    (recorded : Recorded completed state uid after) :
    after = { state with peers := after.peers } := by
  cases recorded <;> rfl

theorem Recorded.count_ne_zero {completed : CompletedHuntReward}
    {state : RewardState} (recorded : Recorded completed state uid after) :
    after.peers.count ≠ 0 := by
  cases recorded with
  | known index peer stored named =>
    exact Nat.ne_of_gt (Nat.lt_of_le_of_lt (Nat.zero_le _)
      (state.peers.index_lt_count stored))
  | added unknown room => exact Nat.succ_ne_zero _
  | evicted index unknown used =>
    exact Nat.ne_of_gt (Nat.lt_of_le_of_lt (Nat.zero_le _) used)

theorem Recorded.packed {completed : CompletedHuntReward}
    {state after : RewardState} {uid : UInt16}
    (recorded : Recorded completed state uid after)
    (packed : state.peers.Packed {}) : after.peers.Packed {} := by
  cases recorded with
  | known index peer stored named =>
    exact packed.write _ (state.peers.index_lt_count stored)
  | added unknown room => exact packed.push _ room
  | evicted index unknown used => exact packed.write _ used

/-! ## Accepted hunts -/

/-- What the checks before the first change of the state let through. -/
structure Accepted (state : RewardState) (completed : CompletedHuntReward) :
    Prop where
  valid : validCompletedHunt completed = true
  unseen : seenSession state completed.sessionNonce = false
  forward : clockRegressed state completed = false

/-- A hunt that passed the check of its fields. -/
structure WellFormed (completed : CompletedHuntReward) : Prop where
  session : completed.sessionNonce ≠ 0
  day : completed.dayId ≠ 0
  now : completed.nowEpochSeconds ≠ 0
  enough : kMinimumParticipants ≤ completed.participantCount
  few : completed.participantCount ≤ kMaximumParticipants
  tier : completed.tier ≤ 3
  named : ∀ uid ∈ completed.participants, uid ≠ 0
  distinct : completed.participants.Nodup

theorem wellFormed_of_valid {completed : CompletedHuntReward}
    (valid : validCompletedHunt completed = true) : WellFormed completed := by
  simp only [validCompletedHunt, Bool.and_eq_true, bne_iff_ne,
    decide_eq_true_eq, List.all_eq_true] at valid
  rcases valid with ⟨⟨⟨⟨⟨⟨⟨⟨⟨⟨⟨-, session⟩, -⟩, day⟩, now⟩, enough⟩, few⟩,
    tier⟩, named⟩, distinct⟩, -⟩, -⟩
  exact ⟨session, day, now, enough, few, tier, named, distinct⟩

section Accepted

variable {state : RewardState} {completed : CompletedHuntReward}

theorem Accepted.wellFormed (accepted : Accepted state completed) :
    WellFormed completed :=
  wellFormed_of_valid accepted.valid

theorem Accepted.day_le (accepted : Accepted state completed) :
    state.lastObservedDayId ≤ completed.dayId := by
  have forward := accepted.forward
  simp only [clockRegressed, Bool.or_eq_false_iff, Bool.and_eq_false_iff,
    bne_eq_false_iff_eq, decide_eq_false_iff_not] at forward
  rcases forward.1 with zero | ahead
  · rw [zero]
    exact UInt32.le_iff_toNat_le.mpr (Nat.zero_le _)
  · exact UInt32.not_lt.mp ahead

theorem Accepted.epoch_le (accepted : Accepted state completed) :
    state.lastObservedEpochSeconds ≤ completed.nowEpochSeconds := by
  have forward := accepted.forward
  simp only [clockRegressed, Bool.or_eq_false_iff, Bool.and_eq_false_iff,
    bne_eq_false_iff_eq, decide_eq_false_iff_not] at forward
  rcases forward.2 with zero | ahead
  · rw [zero]
    exact UInt32.le_iff_toNat_le.mpr (Nat.zero_le _)
  · exact UInt32.not_lt.mp ahead

theorem rememberSession_eq_push (valid : SessionsValid ring) (nonce : UInt32) :
    rememberSession ring nonce = ring.push nonce := by
  rw [rememberSession, RingBuffer.push]
  split
  · rename_i room
    rw [valid.filled.next_eq room]
  · rfl

theorem Accepted.sessions (accepted : Accepted state completed)
    (valid : SessionsValid state.recentSessions) :
    SessionsValid (state.recentSessions.push completed.sessionNonce) := by
  constructor
  · exact (valid.filled.push_iff _).mpr accepted.wellFormed.session
  · apply valid.filled.distinct_push valid.distinct
    intro slot used same
    have unseen := accepted.unseen
    rw [seenSession, List.contains_eq_mem, decide_eq_false_iff_not] at unseen
    exact unseen ((RingBuffer.mem_used _).mpr ⟨slot, used, same⟩)

theorem ValidPeer.later (valid : ValidPeer state peer)
    (day : state.lastObservedDayId ≤ after.lastObservedDayId)
    (epoch : state.lastObservedEpochSeconds ≤
      after.lastObservedEpochSeconds) : ValidPeer after peer :=
  ⟨valid.uid, valid.parties, valid.day, valid.epoch,
    UInt32.le_trans valid.day_le day, UInt32.le_trans valid.epoch_le epoch⟩

/-- A hunt that is recorded without a reward leaves a valid state. -/
theorem Accepted.observeHunt (accepted : Accepted state completed)
    (valid : Valid state) : Valid (observeHunt state completed) := by
  have formed := accepted.wellFormed
  have sessions := accepted.sessions valid.sessions
  have counted := valid.counted
  have day := accepted.day_le
  have hunted : saturatingAdd32 state.completedHunts 1 ≠ 0 :=
    saturatingAdd32_ne_zero _ (by decide)
  have used : (state.recentSessions.push completed.sessionNonce).count ≠ 0 := by
    rw [valid.sessions.filled.count_push]
    show min _ 8 ≠ 0
    omega
  rw [← rememberSession_eq_push valid.sessions] at sessions used
  constructor
  · exact valid.schema
  · exact UInt32.le_trans valid.hunts (le_saturatingAdd32 _ _)
  · exact ⟨fun none => absurd none hunted,
      fun _ => ⟨formed.day, formed.now, used⟩⟩
  · exact sessions
  · exact ⟨valid.peers.packed, fun peer member =>
      (valid.peers.valid peer member).later accepted.day_le accepted.epoch_le,
      valid.peers.distinct⟩
  · refine ⟨counted.unrewarded, fun rewarded => ?_⟩
    rcases counted.rewarded rewarded with
      ⟨bond, events, last, current, longest, before, known⟩
    exact ⟨bond, events, last, current, longest, UInt32.le_trans before day, known⟩

/-! ## The reward loop -/

theorem rewardPeers_frame (completed : CompletedHuntReward)
    (uids : List UInt16) (state : RewardState) :
    uids.foldl (rewardPeer completed) state =
      { state with
        peers := (uids.foldl (rewardPeer completed) state).peers } := by
  induction uids generalizing state with
  | nil => rfl
  | cons uid uids induction =>
    rw [List.foldl_cons, induction, (rewardPeer_cases completed state uid).frame]

/-- The new record of a peer is valid once its hunt is observed. -/
theorem WellFormed.validPeer (formed : WellFormed completed)
    (named : peer.uid ≠ 0) (day : state.lastObservedDayId = completed.dayId)
    (epoch : state.lastObservedEpochSeconds = completed.nowEpochSeconds) :
    ValidPeer state (rewardedNow completed peer) := by
  have parties : saturatingAdd16 peer.rewardedParties 1 ≠ 0 :=
    saturatingAdd16_ne_zero _ (by decide)
  generalize rewarded : rewardedNow completed peer = after
  subst rewarded
  exact ⟨named, parties, formed.day, formed.now, UInt32.le_of_eq day.symm,
    UInt32.le_of_eq epoch.symm⟩

theorem rewardPeers_valid (formed : WellFormed completed)
    {uids : List UInt16} (named : ∀ uid ∈ uids, uid ≠ 0)
    (day : state.lastObservedDayId = completed.dayId)
    (epoch : state.lastObservedEpochSeconds = completed.nowEpochSeconds)
    (valid : PeersValid state) :
    PeersValid (uids.foldl (rewardPeer completed) state) ∧
      (uids ≠ [] → (uids.foldl (rewardPeer completed) state).peers.count ≠ 0) := by
  induction uids generalizing state with
  | nil => exact ⟨valid, fun empty => absurd rfl empty⟩
  | cons uid uids induction =>
    have recorded := rewardPeer_cases completed state uid
    rw [List.foldl_cons]
    generalize rewardPeer completed state uid = after at recorded ⊢
    have frame := recorded.frame
    have dayAfter : after.lastObservedDayId = completed.dayId := by
      rw [frame]
      exact day
    have epochAfter :
        after.lastObservedEpochSeconds = completed.nowEpochSeconds := by
      rw [frame]
      exact epoch
    have validAfter : PeersValid after := by
      refine ⟨recorded.packed valid.packed, ?_, recorded.distinct valid.distinct⟩
      intro peer member
      rcases recorded.mem valid.distinct member with
        ⟨old, same, rfl⟩ | ⟨-, kept⟩
      · apply formed.validPeer _ dayAfter epochAfter
        rw [same]
        exact named uid List.mem_cons_self
      · apply (valid.valid peer kept).later
        · exact UInt32.le_of_eq (day.trans dayAfter.symm)
        · exact UInt32.le_of_eq (epoch.trans epochAfter.symm)
    have later := induction
      (fun other member => named other (List.mem_cons_of_mem _ member))
      dayAfter epochAfter validAfter
    refine ⟨later.1, fun _ => ?_⟩
    cases uids with
    | nil => exact recorded.count_ne_zero
    | cons next rest => exact later.2 (List.cons_ne_nil _ _)

/-! ## Rewarded hunts -/

theorem streakOn_ne_zero (state : RewardState) (dayId : UInt32) :
    streakOn state dayId ≠ 0 := by
  rw [streakOn]
  split
  · exact saturatingAdd16_ne_zero _ (by decide)
  · decide

theorem toNat_longer (longest current : UInt16) :
    (if current > longest then current else longest).toNat =
      max longest.toNat current.toNat := by
  split
  · rename_i above
    exact (Nat.max_eq_right (Nat.le_of_lt above)).symm
  · rename_i below
    exact (Nat.max_eq_left (UInt16.not_lt.mp below)).symm

theorem advanceStreak_other {state : RewardState} {dayId : UInt32}
    (other : state.lastStreakDayId ≠ dayId) :
    advanceStreak state dayId = { state with
      currentStreakDays := streakOn state dayId
      lastStreakDayId := dayId
      longestStreakDays :=
        if streakOn state dayId > state.longestStreakDays then
          streakOn state dayId
        else state.longestStreakDays } :=
  if_pos (bne_iff_ne.mpr other)

theorem advanceStreak_same {state : RewardState} {dayId : UInt32}
    (same : state.lastStreakDayId = dayId) :
    advanceStreak state dayId = state := by
  rw [advanceStreak, if_neg]
  simp [same]

/-- The state a rewarded hunt leaves. -/
def rewarded (state : RewardState) (completed : CompletedHuntReward)
    (uids : List UInt16) : RewardState :=
  advanceStreak
    (countRewards (uids.foldl (rewardPeer completed)
      (observeHunt state completed)) completed uids.length) completed.dayId

theorem toNat_bondFor (formed : WellFormed completed) {eligibleCount : Nat}
    (few : eligibleCount ≤ kMaximumParticipants) :
    (UInt32.ofNat (bondFor completed eligibleCount)).toNat =
      bondFor completed eligibleCount := by
  apply UInt32.toNat_ofNat_of_lt'
  have product : eligibleCount * (1 + completed.tier) ≤ 4 * 4 :=
    Nat.mul_le_mul few (Nat.add_le_add_left formed.tier 1)
  have bonus := formed.few
  show eligibleCount * (1 + completed.tier) +
    (completed.participantCount - 2) < 4294967296
  have party : completed.participantCount ≤ 4 := bonus
  omega

theorem eligibleUids_length (completed : CompletedHuntReward)
    (state : RewardState) (cooldown : UInt32) :
    (eligibleUids state completed cooldown).length ≤ kMaximumParticipants := by
  calc (eligibleUids state completed cooldown).length
      ≤ completed.participants.length := List.length_filter_le _ _
    _ ≤ completed.participantUids.toList.length := List.length_take_le' _ _
    _ = kMaximumParticipants := Vector.length_toList

/-- A rewarded hunt leaves a valid state. -/
theorem Accepted.rewarded (accepted : Accepted state completed)
    (valid : Valid state) {uids : List UInt16}
    (named : ∀ uid ∈ uids, uid ≠ 0) (some : uids ≠ [])
    (few : uids.length ≤ kMaximumParticipants) :
    Valid (rewarded state completed uids) := by
  have formed := accepted.wellFormed
  have observed := accepted.observeHunt valid
  have frame := rewardPeers_frame completed uids
    (Party.observeHunt state completed)
  have peers := rewardPeers_valid formed named rfl rfl observed.peers
  simp only [Party.rewarded]
  generalize uids.foldl (rewardPeer completed)
    (Party.observeHunt state completed) = table at frame peers
  obtain ⟨slots, rfl⟩ : ∃ slots,
      table = { Party.observeHunt state completed with peers := slots } :=
    ⟨_, frame⟩
  have known := peers.2 some
  have counts : 0 < uids.length := List.length_pos_iff.mpr some
  have bond : saturatingAdd32 state.partyBond
      (UInt32.ofNat (bondFor completed uids.length)) ≠ 0 := by
    apply saturatingAdd32_ne_zero
    rw [toNat_bondFor formed few]
    exact Nat.lt_of_lt_of_le
      (Nat.mul_pos counts (Nat.lt_add_right _ Nat.one_pos))
      (Nat.le_add_right _ _)
  have events : saturatingAdd32 state.rewardedPeerEvents
      (UInt32.ofNat uids.length) ≠ 0 := by
    apply saturatingAdd32_ne_zero
    rw [UInt32.toNat_ofNat_of_lt' (Nat.lt_of_le_of_lt few (by decide))]
    exact counts
  have hunts : saturatingAdd32 state.rewardedHunts 1 ≤
      saturatingAdd32 state.completedHunts 1 :=
    saturatingAdd32_mono valid.hunts 1
  have hunted : saturatingAdd32 state.rewardedHunts 1 ≠ 0 :=
    saturatingAdd32_ne_zero _ (by decide)
  have table := peers.1
  generalize countsRewards : countRewards _ completed uids.length = counted
  have last : counted.lastStreakDayId = state.lastStreakDayId := by
    rw [← countsRewards]
    rfl
  by_cases same : state.lastStreakDayId = completed.dayId
  · rw [advanceStreak_same (last.trans same)]
    subst countsRewards
    have before : state.rewardedHunts ≠ 0 := by
      intro none
      have unset := (valid.counted.unrewarded none).2.2.1
      exact formed.day (same.symm.trans unset)
    rcases observed.counted.rewarded before with
      ⟨-, -, last, current, longest, day, -⟩
    exact ⟨observed.schema, hunts,
      ⟨observed.observed.unhunted, observed.observed.hunted⟩, observed.sessions,
      ⟨table.packed, fun peer member =>
        (table.valid peer member).later (UInt32.le_refl _) (UInt32.le_refl _),
        table.distinct⟩,
      ⟨fun none => absurd none hunted,
        fun _ => ⟨bond, events, last, current, longest, day, known⟩⟩⟩
  · rw [advanceStreak_other (last ▸ same)]
    have current := streakOn_ne_zero counted completed.dayId
    generalize streakOn counted completed.dayId = streak at current ⊢
    subst countsRewards
    have longer : streak ≤
        if streak > state.longestStreakDays then streak
        else state.longestStreakDays := by
      rw [UInt16.le_iff_toNat_le, toNat_longer]
      exact Nat.le_max_right _ _
    exact ⟨observed.schema, hunts,
      ⟨observed.observed.unhunted, observed.observed.hunted⟩, observed.sessions,
      ⟨table.packed, fun peer member =>
        (table.valid peer member).later (UInt32.le_refl _) (UInt32.le_refl _),
        table.distinct⟩,
      ⟨fun none => absurd none hunted,
        fun _ => ⟨bond, events, formed.day, current, longer,
          UInt32.le_refl _, known⟩⟩⟩

end Accepted

theorem valid_reset : Valid reset.state := by
  rw [← validateRewardState_iff]
  decide

end Kitsu.Party
