import Kitsu.Social.Progression

/-!
# Valid social states

`Sound` restates the tests of `validateSocialState` other than the CRC, with a
name for each group.  A new day and a meeting keep the state sound.
-/

namespace Kitsu.Social

open Kitsu.Lib

/-! ## Masks over the slots -/

theorem countBits_le (fuel : Nat) {value bits : Nat}
    (below : value < 2 ^ bits) : countBits fuel value ≤ bits := by
  induction fuel generalizing value bits with
  | zero => exact Nat.zero_le _
  | succ fuel induction =>
    rw [countBits]
    split
    · exact Nat.zero_le _
    · rename_i some
      cases bits with
      | zero => omega
      | succ bits =>
        have half : value / 2 < 2 ^ bits := by
          omega
        have rest := induction half
        omega

variable {count : Nat}

theorem toNat_validPeerMask (few : count ≤ kPeerCapacity) :
    (validPeerMask count).toNat = 2 ^ count - 1 := by
  have every : ∀ slots : Fin 13,
      (validPeerMask slots.val).toNat = 2 ^ slots.val - 1 := by decide
  exact every ⟨count, Nat.lt_succ_of_le few⟩

variable {index : Nat}

theorem toNat_peerBit (inside : index < kPeerCapacity) :
    (peerBit index).toNat = 2 ^ index := by
  have every : ∀ slot : Fin 12, (peerBit slot.val).toNat = 2 ^ slot.val := by
    decide
  exact every ⟨index, inside⟩

/-- The test of the source says that the mask names slots in use only. -/
theorem mask_inside_iff {mask : UInt16} (few : count ≤ kPeerCapacity) :
    mask &&& ~~~ validPeerMask count = 0 ↔ mask.toNat < 2 ^ count := by
  have low : (mask &&& validPeerMask count).toNat =
      mask.toNat % 2 ^ count := by
    rw [UInt16.toNat_and, toNat_validPeerMask few, Nat.and_two_pow_sub_one_eq_mod]
  constructor
  · intro outside
    have whole : mask = mask &&& validPeerMask count := by
      calc mask
          = mask &&& (validPeerMask count ||| ~~~ validPeerMask count) := by
            simp
        _ = (mask &&& validPeerMask count) |||
              (mask &&& ~~~ validPeerMask count) :=
            UInt16.toBitVec_inj.mp BitVec.and_or_distrib_left
        _ = mask &&& validPeerMask count := by
            rw [outside, UInt16.or_zero]
    rw [← whole] at low
    rw [low]
    exact Nat.mod_lt _ (Nat.two_pow_pos _)
  · intro below
    rw [Nat.mod_eq_of_lt below] at low
    rw [← UInt16.toNat.inj low, UInt16.and_assoc, UInt16.and_not_self,
      UInt16.and_zero]

/-! ## Sound states -/

/-- What holds of a friend, each condition by its name. -/
structure ValidPeer (day : UInt32) (peer : PeerState) : Prop where
  uid : peer.uid ≠ 0
  meetings : peer.meetings ≠ 0
  first : peer.firstSeenDay ≠ 0
  ordered : peer.firstSeenDay ≤ peer.lastSeenDay
  recent : peer.lastSeenDay ≤ day
  reserved : peer.reserved = 0
  dated : peer.lastRewardDay = 0 ↔ peer.lastRewardEpoch = 0
  rewarded : peer.lastRewardDay ≠ 0 →
    peer.lastRewardDay ≤ day ∧ kMinimumTrustedEpoch ≤ peer.lastRewardEpoch

/-- The challenge is complete exactly when its progress reached its target. -/
structure ChallengeValid (state : SocialState) : Prop where
  unset : state.dailyChallengeTarget = 0 →
    state.dailyChallengeProgress = 0 ∧ state.dailyChallengeComplete = 0
  chosen : state.dailyChallengeTarget ≠ 0 →
    state.dailyChallengeComplete =
      if state.dailyChallengeProgress ≥ state.dailyChallengeTarget then 1
      else 0

/-- The peers seen today are peers in the table. -/
structure SeenValid (state : SocialState) : Prop where
  inside : state.dailySeenMask.toNat < 2 ^ state.peers.count
  counted : state.dailyUniquePeers = bitCount16 state.dailySeenMask

/-- The friends are in the first slots, each once. -/
structure PeersValid (state : SocialState) : Prop where
  packed : state.peers.Packed {}
  valid : ∀ peer ∈ state.peers.entries, ValidPeer state.currentDay peer
  distinct : (state.peers.entries.map (·.uid)).Nodup

/-- The sessions are in the first slots, each once. -/
structure SessionsValid (ring : RingBuffer UInt32 kRecentSessionCapacity) :
    Prop where
  filled : ring.Filled (· = 0) (· ≠ 0)
  distinct : ring.Distinct

/-- The record is of the known format. -/
structure HeaderValid (state : SocialState) : Prop where
  magic : state.magic = kMagic
  bytes : state.bytes = kStateBytes
  schema : state.schemaVersion = kStateSchemaVersion
  reserved : state.reserved = 0

/-- Everything the validation tests apart from the CRC. -/
structure Sound (state : SocialState) : Prop where
  header : HeaderValid state
  seen : SeenValid state
  challenge : ChallengeValid state
  peers : PeersValid state
  sessions : SessionsValid state.recentSessions

variable {peer : PeerState}

theorem peerValid_iff {state : SocialState} :
    peerValid state peer = true ↔ ValidPeer state.currentDay peer := by
  have both : ((peer.lastRewardDay == 0) == (peer.lastRewardEpoch == 0)) =
      true ↔ (peer.lastRewardDay = 0 ↔ peer.lastRewardEpoch = 0) := by
    rw [beq_iff_eq, Bool.eq_iff_iff, beq_iff_eq, beq_iff_eq]
  simp only [peerValid, Bool.and_eq_true, both]
  simp only [Bool.and_eq_true, bne_iff_ne, decide_eq_true_eq, beq_iff_eq,
    Bool.or_eq_true]
  constructor
  · rintro ⟨⟨⟨⟨⟨⟨⟨uid, meetings⟩, first⟩, ordered⟩, recent⟩, reserved⟩, dated⟩,
      rewarded⟩
    exact ⟨uid, meetings, first, ordered, recent, reserved, dated,
      rewarded.resolve_left⟩
  · rintro ⟨uid, meetings, first, ordered, recent, reserved, dated, rewarded⟩
    exact ⟨⟨⟨⟨⟨⟨⟨uid, meetings⟩, first⟩, ordered⟩, recent⟩, reserved⟩, dated⟩,
      or_iff_not_imp_left.mpr rewarded⟩

theorem challengeValid_iff {state : SocialState} :
    challengeValid state = true ↔ ChallengeValid state := by
  rw [challengeValid]
  by_cases unset : state.dailyChallengeTarget = 0
  · rw [if_pos (beq_iff_eq.mpr unset), Bool.and_eq_true, beq_iff_eq, beq_iff_eq]
    exact ⟨fun valid => ⟨fun _ => valid, fun chosen => absurd unset chosen⟩,
      fun valid => valid.unset unset⟩
  · rw [if_neg (by simpa using unset), beq_iff_eq]
    exact ⟨fun valid => ⟨fun zero => absurd zero unset, fun _ => valid⟩,
      fun valid => valid.chosen unset⟩

theorem recentSessionsValid_iff {ring : RingBuffer UInt32 kRecentSessionCapacity}
    (bounded : ring.count ≤ kRecentSessionCapacity)
    (inside : ring.next < kRecentSessionCapacity) :
    recentSessionsValid ring = true ↔ SessionsValid ring := by
  have tested := @RingBuffer.filled_and_distinct_iff UInt32 _ ring (· = 0)
    (· ≠ 0) bounded inside
  simp only [recentSessionsValid, Bool.and_eq_true, Bool.or_eq_true,
    Bool.not_eq_true', decide_eq_false_iff_not, beq_iff_eq, List.all_eq_true,
    bne_iff_ne, decide_eq_true_eq, ← imp_iff_not_or]
  constructor
  · rintro ⟨⟨⟨position, good⟩, distinct⟩, blank⟩
    rcases tested.mpr ⟨position, good, distinct, blank⟩ with
      ⟨filled, unrepeated⟩
    exact ⟨filled, unrepeated⟩
  · rintro ⟨filled, distinct⟩
    rcases tested.mp ⟨filled, distinct⟩ with
      ⟨position, good, unrepeated, blank⟩
    exact ⟨⟨⟨position, good⟩, unrepeated⟩, blank⟩

/-- A sound count of the peers seen today is in range. -/
theorem SeenValid.few {state : SocialState} (seen : SeenValid state)
    (few : state.peers.count ≤ kPeerCapacity) :
    state.dailyUniquePeers ≤ UInt8.ofNat kPeerCapacity := by
  have bits := Nat.le_trans (countBits_le 16 seen.inside) few
  rw [seen.counted, bitCount16, UInt8.le_iff_toNat_le,
    UInt8.toNat_ofNat_of_lt' (Nat.lt_of_le_of_lt bits (by decide))]
  exact bits

theorem ChallengeValid.flag {state : SocialState}
    (challenge : ChallengeValid state) : state.dailyChallengeComplete ≤ 1 := by
  by_cases unset : state.dailyChallengeTarget = 0
  · rw [(challenge.unset unset).2]
    decide
  · rw [challenge.chosen unset]
    split <;> decide

theorem validateSocialState_iff {state : SocialState} :
    validateSocialState state = true ↔
      Sound state ∧ state.crc32 = socialStateCrc state := by
  simp only [validateSocialState, Bool.and_eq_true, decide_eq_true_eq,
    beq_iff_eq, List.all_eq_true, peerValid_iff, challengeValid_iff]
  constructor
  · rintro ⟨⟨⟨⟨⟨⟨⟨⟨⟨⟨⟨⟨⟨⟨⟨⟨magic, bytes⟩, schema⟩, inside⟩, bounded⟩, next⟩, -⟩, -⟩,
      reserved⟩, crc⟩, counted⟩, mask⟩, challenge⟩, valid⟩, distinct⟩, unused⟩,
      sessions⟩
    exact ⟨⟨⟨magic, bytes, schema, reserved⟩,
      ⟨(mask_inside_iff inside).mp mask, counted⟩, challenge,
      ⟨⟨inside, unused⟩, valid, distinct⟩,
      (recentSessionsValid_iff bounded next).mp sessions⟩, crc⟩
  · rintro ⟨⟨⟨magic, bytes, schema, reserved⟩, seen, challenge,
      ⟨⟨inside, unused⟩, valid, distinct⟩, sessions⟩, crc⟩
    have bounded := sessions.filled.count_le
    have next := sessions.filled.next_lt
    exact ⟨⟨⟨⟨⟨⟨⟨⟨⟨⟨⟨⟨⟨⟨⟨⟨magic, bytes⟩, schema⟩, inside⟩, bounded⟩, next⟩,
      seen.few inside⟩, challenge.flag⟩, reserved⟩, crc⟩, seen.counted⟩,
      (mask_inside_iff inside).mpr seen.inside⟩, challenge⟩, valid⟩,
      distinct⟩, unused⟩, (recentSessionsValid_iff bounded next).mpr sessions⟩

theorem Sound.refreshCrc {state : SocialState} (sound : Sound state) :
    Sound (refreshCrc state) :=
  ⟨⟨sound.header.magic, sound.header.bytes, sound.header.schema,
    sound.header.reserved⟩, ⟨sound.seen.inside, sound.seen.counted⟩,
    ⟨sound.challenge.unset, sound.challenge.chosen⟩,
    ⟨sound.peers.packed, sound.peers.valid, sound.peers.distinct⟩, sound.sessions⟩

/-- A sound state with its CRC refreshed passes the validation. -/
theorem validate_refreshCrc {state : SocialState} (sound : Sound state) :
    validateSocialState (refreshCrc state) = true :=
  validateSocialState_iff.mpr ⟨sound.refreshCrc, rfl⟩

theorem sound_blank : Sound {} := by
  refine ⟨⟨rfl, rfl, rfl, rfl⟩, ⟨Nat.one_pos, rfl⟩,
    ⟨fun _ => ⟨rfl, rfl⟩, fun chosen => absurd rfl chosen⟩,
    ⟨SlotTable.Packed.initial _, ?_, ?_⟩, ?_⟩
  · intro peer member
    simp at member
  · simp
  · exact (recentSessionsValid_iff (by decide) (by decide)).mp (by decide)

/-! ## A new day -/

section Day

variable {state : SocialState} {dayId : UInt32}

theorem beginDay_same (same : state.currentDay = dayId) :
    beginDay state dayId = state :=
  if_pos (beq_iff_eq.mpr same)

theorem beginDay_other (other : state.currentDay ≠ dayId) :
    beginDay state dayId =
      { state with
        currentDay := dayId
        dailySeenMask := 0
        dailyUniquePeers := 0
        dailyChallengeComplete := 0
        dailyChallengeProgress := 0
        dailyChallengeTarget := 0 } :=
  if_neg (by simpa using other)

variable (state dayId)

@[simp]
theorem beginDay_currentDay : (beginDay state dayId).currentDay = dayId := by
  by_cases same : state.currentDay = dayId
  · rw [beginDay_same same, same]
  · rw [beginDay_other same]

@[simp]
theorem beginDay_peers : (beginDay state dayId).peers = state.peers := by
  by_cases same : state.currentDay = dayId
  · rw [beginDay_same same]
  · rw [beginDay_other same]

@[simp]
theorem beginDay_sessions :
    (beginDay state dayId).recentSessions = state.recentSessions := by
  by_cases same : state.currentDay = dayId
  · rw [beginDay_same same]
  · rw [beginDay_other same]

variable {state dayId}

theorem ValidPeer.later {day later : UInt32} {peer : PeerState}
    (valid : ValidPeer day peer) (forward : day ≤ later) : ValidPeer later peer :=
  ⟨valid.uid, valid.meetings, valid.first, valid.ordered,
    UInt32.le_trans valid.recent forward, valid.reserved, valid.dated,
    fun rewarded => ⟨UInt32.le_trans (valid.rewarded rewarded).1 forward,
      (valid.rewarded rewarded).2⟩⟩

theorem Sound.beginDay (sound : Sound state)
    (forward : state.currentDay ≤ dayId) : Sound (beginDay state dayId) := by
  by_cases same : state.currentDay = dayId
  · rwa [beginDay_same same]
  · rw [beginDay_other same]
    refine ⟨⟨sound.header.magic, sound.header.bytes, sound.header.schema,
      sound.header.reserved⟩, ⟨Nat.two_pow_pos _, rfl⟩,
      ⟨fun _ => ⟨rfl, rfl⟩, fun chosen => absurd rfl chosen⟩,
      ⟨sound.peers.packed, ?_, sound.peers.distinct⟩, sound.sessions⟩
    intro peer member
    exact (sound.peers.valid peer member).later forward

end Day

/-! ## Meeting a peer -/

/-- The records of a table do not name the peer. -/
def Unknown (state : SocialState) (uid : UInt16) : Prop :=
  ∀ peer ∈ state.peers.entries, peer.uid ≠ uid

theorem findPeer_none {state : SocialState} {uid : UInt16} :
    findPeer state uid = none ↔ Unknown state uid := by
  rw [findPeer, SlotTable.find_none]
  simp only [beq_eq_false_iff_ne, Unknown]

theorem findPeer_some {state : SocialState} {uid : UInt16}
    (found : findPeer state uid = some index) :
    ∃ peer, state.peers.entries[index]? = some peer ∧ peer.uid = uid := by
  rcases state.peers.find_some found with ⟨peer, stored, named⟩
  exact ⟨peer, stored, beq_iff_eq.mp named⟩

theorem peerAt_stored {state : SocialState}
    (stored : state.peers.entries[index]? = some peer) :
    peerAt state index = peer := by
  rw [peerAt, state.peers.slots_of_entries stored, Option.getD_some]

/-- The record of a peer on its first day. -/
def newPeer (observation : FriendObservation) : PeerState where
  uid := observation.uid
  firstSeenDay := observation.dayId
  lastSeenDay := observation.dayId
  meetings := 1

/-- What a meeting does to the state of its day. -/
inductive Met (today : SocialState) (observation : FriendObservation) :
    SocialState → Prop where
  | known (index : Nat) (peer : PeerState) (points : UInt8)
      (stored : today.peers.entries[index]? = some peer)
      (named : peer.uid = observation.uid) :
      Met today observation { markSeen today index with
        peers := today.peers.write index
          (metPeer peer false observation.dayId points) }
  | added (points : UInt8) (unknown : Unknown today observation.uid)
      (room : today.peers.count < kPeerCapacity) :
      Met today observation { markSeen today today.peers.count with
        peers := today.peers.push
          (metPeer (newPeer observation) true observation.dayId points) }

theorem markSeen_frame (state : SocialState) (index : Nat) :
    ∃ mask unique, markSeen state index =
      { state with dailySeenMask := mask, dailyUniquePeers := unique } := by
  rw [markSeen]
  split
  · exact ⟨_, _, rfl⟩
  · exact ⟨_, _, rfl⟩

@[simp]
theorem markSeen_peers (state : SocialState) (index : Nat) :
    (markSeen state index).peers = state.peers := by
  rcases markSeen_frame state index with ⟨mask, unique, marked⟩
  rw [marked]

theorem markSeen_table (state : SocialState) (index : Nat)
    (table : SlotTable PeerState kPeerCapacity) :
    markSeen { state with peers := table } index =
      { markSeen state index with peers := table } := by
  have same : firstToday { state with peers := table } index =
      firstToday state index := rfl
  rw [markSeen, markSeen, same]
  cases firstToday state index <;> rfl

/-- Marking the slot of a peer keeps the mask inside the table. -/
theorem markSeen_seen {state : SocialState}
    (counted : state.dailyUniquePeers = bitCount16 state.dailySeenMask)
    (inside : state.dailySeenMask.toNat < 2 ^ count) (used : index < count)
    (few : count ≤ kPeerCapacity) :
    (markSeen state index).dailySeenMask.toNat < 2 ^ count ∧
      (markSeen state index).dailyUniquePeers =
        bitCount16 (markSeen state index).dailySeenMask := by
  rw [markSeen]
  split
  · refine ⟨?_, rfl⟩
    rw [UInt16.toNat_or, toNat_peerBit (Nat.lt_of_lt_of_le used few)]
    exact Nat.or_lt_two_pow inside (Nat.pow_lt_pow_right (by decide) used)
  · exact ⟨inside, counted⟩

variable {observation : FriendObservation}

/-- A meeting changes the peers and the peers seen today only. -/
theorem Met.frame {today after : SocialState} (met : Met today observation after) :
    ∃ mask unique table, after =
      { today with
        dailySeenMask := mask
        dailyUniquePeers := unique
        peers := table } := by
  cases met with
  | known index peer points stored named =>
    rcases markSeen_frame today index with ⟨mask, unique, marked⟩
    exact ⟨mask, unique, _, by rw [marked]⟩
  | added points unknown room =>
    rcases markSeen_frame today today.peers.count with
      ⟨mask, unique, marked⟩
    exact ⟨mask, unique, _, by rw [marked]⟩

theorem ValidPeer.met {day : UInt32} (valid : ValidPeer day peer) (first : Bool)
    (points : UInt8) : ValidPeer day (metPeer peer first day points) := by
  have meetings : (metPeer peer first day points).meetings ≠ 0 := by
    cases first with
    | true => exact valid.meetings
    | false => exact saturatingAdd16_ne_zero _ (by decide)
  exact ⟨valid.uid, meetings, valid.first,
    UInt32.le_trans valid.ordered valid.recent, UInt32.le_refl _,
    valid.reserved, valid.dated, valid.rewarded⟩

theorem newPeer_valid (uid : observation.uid ≠ 0) (day : observation.dayId ≠ 0) :
    ValidPeer observation.dayId (newPeer observation) := by
  have once : (newPeer observation).meetings ≠ 0 := by
    show (1 : UInt16) ≠ 0
    decide
  exact ⟨uid, once, day, UInt32.le_refl _, UInt32.le_refl _, rfl,
    ⟨fun _ => rfl, fun _ => rfl⟩, fun rewarded => absurd rfl rewarded⟩

theorem Sound.met {today after : SocialState} {observation : FriendObservation}
    (sound : Sound today) (now : today.currentDay = observation.dayId)
    (uid : observation.uid ≠ 0) (day : observation.dayId ≠ 0)
    (met : Met today observation after) : Sound after := by
  have peers := sound.peers
  cases met with
  | known index peer points stored named =>
    have used := today.peers.index_lt_count stored
    have same : (metPeer peer false observation.dayId points).uid =
        peer.uid := rfl
    have seen := markSeen_seen sound.seen.counted sound.seen.inside used
      peers.packed.inside
    rcases markSeen_frame today index with ⟨mask, unique, marked⟩
    rw [marked] at seen ⊢
    refine ⟨⟨sound.header.magic, sound.header.bytes, sound.header.schema,
      sound.header.reserved⟩, ⟨seen.1, seen.2⟩,
      ⟨sound.challenge.unset, sound.challenge.chosen⟩,
      ⟨peers.packed.write _ used, ?_, ?_⟩, sound.sessions⟩
    · intro other member
      rcases (SlotTable.mem_write _ PeerState.uid stored same
        peers.distinct).mp member with rfl | ⟨-, kept⟩
      · have valid := peers.valid peer (List.mem_of_getElem? stored)
        rw [now] at valid
        rw [now]
        exact valid.met false points
      · exact peers.valid other kept
    · have keys := SlotTable.keys_write _ PeerState.uid stored same
      exact keys ▸ peers.distinct
  | added points unknown room =>
    have wider : today.dailySeenMask.toNat < 2 ^ (today.peers.count + 1) :=
      Nat.lt_of_lt_of_le sound.seen.inside
        (Nat.pow_le_pow_right (by decide) (Nat.le_succ _))
    have seen := markSeen_seen sound.seen.counted wider
      (Nat.lt_succ_self _) room
    rcases markSeen_frame today today.peers.count with
      ⟨mask, unique, marked⟩
    rw [marked] at seen ⊢
    refine ⟨⟨sound.header.magic, sound.header.bytes, sound.header.schema,
      sound.header.reserved⟩, ⟨seen.1, seen.2⟩,
      ⟨sound.challenge.unset, sound.challenge.chosen⟩,
      ⟨peers.packed.push _ room, ?_, ?_⟩, sound.sessions⟩
    · intro other member
      rw [SlotTable.entries_push _ _ room, List.mem_append,
        List.mem_singleton] at member
      rcases member with kept | rfl
      · exact peers.valid other kept
      · rw [now]
        exact (newPeer_valid uid day).met true points
    · exact SlotTable.nodup_keys_push _ PeerState.uid room peers.distinct unknown

end Kitsu.Social
