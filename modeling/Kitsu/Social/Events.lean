import Kitsu.Lib.Run
import Kitsu.Social.Validity

/-!
# What the calls do

An accepted call is an event: a meeting, a reward to the peers of a party, a
contribution to the challenge of the day, or a session of a shared trail or of a
rare encounter.  `Happens` says what each event does to the state and what was
checked before it; `answer_cases` says that every other answer leaves the state
as it was.
-/

namespace Kitsu.Social

open Kitsu.Lib

/-- The calls of the social record. -/
inductive Call where
  | observeFriend (observation : FriendObservation)
  | recordSessionReward (reward : SessionReward)
  | recordPartyRewards (reward : PartyRewardRequest)
  | contributeDailyChallenge (dayId : UInt32) (amount target : UInt16)
  | mergeSharedTrail (sessionNonce : UInt32) (localMisses peerMisses : UInt8)
  | recordSharedTrailResult (sessionNonce : UInt32) (mergedMisses : UInt8)
  | recordCooperativeRareEncounter (sessionNonce : UInt32)
  /-- `restore(snapshot())`. -/
  | saveAndRestore

/-- The part of an answer that the state and its history depend on. -/
structure Answer where
  status : SocialStatus
  progression : SocialProgression
  completedNow : UInt8 := 0

def Reply.answer {Output : Type} (reply : Reply Output) : Answer where
  status := reply.status
  progression := reply.progression

/-- A call by its name. -/
def answer (progression : SocialProgression) : Call → Answer
  | .observeFriend observation =>
    (observeFriend progression observation).answer
  | .recordSessionReward reward =>
    (recordSessionReward progression reward).answer
  | .recordPartyRewards reward => (recordPartyRewards progression reward).answer
  | .contributeDailyChallenge dayId amount target =>
    let reply := contributeDailyChallenge progression dayId amount target
    { reply.answer with completedNow := reply.output.getD 0 }
  | .mergeSharedTrail sessionNonce localMisses peerMisses =>
    (mergeSharedTrail progression sessionNonce localMisses peerMisses).answer
  | .recordSharedTrailResult sessionNonce mergedMisses =>
    (recordSharedTrailResult progression sessionNonce mergedMisses).answer
  | .recordCooperativeRareEncounter sessionNonce =>
    (recordCooperativeRareEncounter progression sessionNonce).answer
  | .saveAndRestore =>
    { status := (restore progression.state).1
      progression := (restore progression.state).2 }

/-! ## Rewards -/

/-- A peer of the party gets the new record, the others keep theirs. -/
def rewardAmong (reward : PartyRewardRequest) (uids : List UInt16)
    (peer : PeerState) : PeerState :=
  if peer.uid ∈ uids then rewardedPeer reward peer else peer

@[simp]
theorem rewardAmong_uid (reward : PartyRewardRequest) (uids : List UInt16)
    (peer : PeerState) : (rewardAmong reward uids peer).uid = peer.uid := by
  rw [rewardAmong]
  split <;> rfl

theorem map_rewardAmong_uid (reward : PartyRewardRequest) (uids : List UInt16)
    (peers : List PeerState) :
    (peers.map (rewardAmong reward uids)).map (·.uid) =
      peers.map (·.uid) := by
  rw [List.map_map]
  exact List.map_congr_left fun peer _ => rewardAmong_uid reward uids peer

variable {state : SocialState}

/-- Which slot a peer has depends on the uids of the records only. -/
theorem findPeer_congr {other : SocialState}
    (same : state.peers.entries.map (·.uid) = other.peers.entries.map (·.uid))
    (uid : UInt16) : findPeer state uid = findPeer other uid := by
  have byUid (state : SocialState) : findPeer state uid =
      (state.peers.entries.map (·.uid)).findIdx? (· == uid) := by
    rw [List.findIdx?_map]
    rfl
  rw [byUid, byUid, same]

/-- The peer table after the loop over the peers of a party. -/
structure RewardedTable (reward : PartyRewardRequest) (uids : List UInt16)
    (before after : SlotTable PeerState kPeerCapacity) : Prop where
  count : after.count = before.count
  unused : after.unused = before.unused
  entries : after.entries = before.entries.map (rewardAmong reward uids)

variable {uids : List UInt16} {indices : List Nat}

theorem rewardSlots {reward : PartyRewardRequest}
    (found : uids.mapM (findPeer state) = some indices) (once : uids.Nodup)
    (distinct : (state.peers.entries.map (·.uid)).Nodup) :
    ∃ table, indices.foldl (rewardSlot reward) state =
        { state with peers := table } ∧
      RewardedTable reward uids state.peers table := by
  induction uids generalizing indices state with
  | nil =>
    cases found
    refine ⟨state.peers, rfl, rfl, rfl, (List.map_id'' ?_ _).symm⟩
    simp [rewardAmong]
  | cons uid uids induction =>
    simp only [List.mapM_cons, bind, pure, Option.bind_eq_some_iff,
      Option.some.injEq] at found
    rcases found with ⟨index, here, rest, others, rfl⟩
    rcases findPeer_some here with ⟨peer, stored, rfl⟩
    rw [List.foldl_cons, rewardSlot, peerAt_stored stored]
    have used := state.peers.index_lt_count stored
    have written := state.peers.entries_update PeerState.uid
      (rewardedPeer reward) stored distinct
    have keys : (state.peers.write index
        (rewardedPeer reward peer)).entries.map (·.uid) =
          state.peers.entries.map (·.uid) :=
      state.peers.keys_write PeerState.uid stored rfl
    have unused := state.peers.unused_write (rewardedPeer reward peer) used
    have counted := state.peers.count_write index (rewardedPeer reward peer)
    generalize state.peers.write index (rewardedPeer reward peer) = table
      at written keys unused counted
    have still : uids.mapM (findPeer { state with peers := table }) =
        some rest := by
      rw [← others]
      congr 1
      funext other
      exact findPeer_congr keys other
    rcases induction still once.of_cons (by rw [keys]; exact distinct) with
      ⟨after, frame, rewarded⟩
    refine ⟨after, frame, rewarded.count.trans counted,
      rewarded.unused.trans unused, ?_⟩
    rw [rewarded.entries, written, List.map_map]
    apply List.map_congr_left
    intro other member
    have absent : peer.uid ∉ uids := (List.nodup_cons.mp once).1
    by_cases named : other.uid = peer.uid
    · have kept : (rewardedPeer reward other).uid = other.uid := rfl
      simp [rewardAmong, named, kept, absent]
    · simp [rewardAmong, named]

theorem ValidPeer.reward {day : UInt32} {reward : PartyRewardRequest}
    {peer : PeerState} (valid : ValidPeer day peer)
    (now : day = reward.dayId) (dated : reward.dayId ≠ 0)
    (trusted : kMinimumTrustedEpoch ≤ reward.epochSeconds) :
    ValidPeer day (rewardedPeer reward peer) := by
  have epoch : reward.epochSeconds ≠ 0 := by
    rintro zero
    rw [zero] at trusted
    exact absurd trusted (by decide)
  exact ⟨valid.uid, valid.meetings, valid.first, valid.ordered, valid.recent,
    valid.reserved,
    ⟨fun zero => absurd zero dated, fun zero => absurd zero epoch⟩,
    fun _ => ⟨UInt32.le_of_eq now.symm, trusted⟩⟩

/-! ## Sessions -/

/-- The three kinds of sessions that share the ring. -/
inductive Purpose where
  | party
  | sharedTrail
  | rareEncounter
deriving DecidableEq

/-- What the ring keeps of a session. -/
def Purpose.replayNonce : Purpose → UInt32 → UInt32
  | .party, nonce => nonce
  | .sharedTrail, nonce => scopedSessionNonce nonce kSharedTrailSessionDomain
  | .rareEncounter, nonce =>
    scopedSessionNonce nonce kRareEncounterSessionDomain

theorem replayNonce_ne_zero (purpose : Purpose) {nonce : UInt32}
    (given : nonce ≠ 0) : purpose.replayNonce nonce ≠ 0 := by
  have domains (domain : UInt32) (mixed : mix32 domain ≠ 0) :
      scopedSessionNonce nonce domain ≠ 0 := by
    rw [scopedSessionNonce]
    split
    · exact mixed
    · rename_i other
      simpa using other
  cases purpose with
  | party => exact given
  | sharedTrail => exact domains _ (by decide)
  | rareEncounter => exact domains _ (by decide)

theorem SessionsValid.push {ring : RingBuffer UInt32 kRecentSessionCapacity}
    (valid : SessionsValid ring) {nonce : UInt32} (given : nonce ≠ 0)
    (unseen : nonce ∉ ring.used) : SessionsValid (ring.push nonce) := by
  constructor
  · exact (valid.filled.push_iff _).mpr given
  · apply valid.filled.distinct_push valid.distinct
    intro slot used same
    exact unseen ((RingBuffer.mem_used _).mpr ⟨slot, used, same⟩)

/-! ## Events -/

/-- What a call has recorded. -/
inductive Event where
  | met (observation : FriendObservation)
  | rewarded (reward : PartyRewardRequest)
  | contributed (dayId : UInt32) (amount target : UInt16)
  | session (purpose : Purpose) (sessionNonce : UInt32)

/-- The event of a call, should it be accepted. -/
def Call.event : Call → Option Event
  | .observeFriend observation => some (.met observation)
  | .recordSessionReward reward => some (.rewarded reward.batch)
  | .recordPartyRewards reward => some (.rewarded reward)
  | .contributeDailyChallenge dayId amount target =>
    some (.contributed dayId amount target)
  | .mergeSharedTrail sessionNonce _ _ =>
    some (.session .sharedTrail sessionNonce)
  | .recordSharedTrailResult sessionNonce _ =>
    some (.session .sharedTrail sessionNonce)
  | .recordCooperativeRareEncounter sessionNonce =>
    some (.session .rareEncounter sessionNonce)
  | .saveAndRestore => none

/-- The contribution makes the challenge of the day complete. -/
def completes (today : SocialState) (amount target : UInt16) : Bool :=
  today.dailyChallengeComplete == 0 &&
    saturatingAdd16 today.dailyChallengeProgress amount ≥ target

/-- The day's challenge after a contribution. -/
def contributed (today : SocialState) (amount target : UInt16) :
    SocialState :=
  { today with
    dailyChallengeTarget := target
    dailyChallengeProgress :=
      saturatingAdd16 today.dailyChallengeProgress amount
    dailyChallengeComplete :=
      if completes today amount target then 1
      else today.dailyChallengeComplete }

/-- What a reward request needs besides a session that is not in the ring. -/
structure Rewardable (state : SocialState) (reward : PartyRewardRequest) :
    Prop where
  once : reward.uids.Nodup
  given : reward.sessionNonce ≠ 0
  dated : reward.dayId ≠ 0
  trusted : kMinimumTrustedEpoch ≤ reward.epochSeconds
  forward : state.currentDay ≤ reward.dayId
  due : ∀ uid ∈ reward.uids, ∃ peer ∈ state.peers.entries,
    peer.uid = uid ∧ refusePeer reward peer = none

/-- What an event checks and what it leaves before the CRC is refreshed. -/
inductive Happens (state : SocialState) : Event → SocialState → Prop where
  | met {observation : FriendObservation} {after : SocialState}
      (uid : observation.uid ≠ 0) (day : observation.dayId ≠ 0)
      (forward : state.currentDay ≤ observation.dayId)
      (meets : Met (beginDay state observation.dayId) observation after) :
      Happens state (.met observation) after
  | rewarded {reward : PartyRewardRequest}
      {table : SlotTable PeerState kPeerCapacity} (parties : UInt32)
      (rewardable : Rewardable state reward)
      (unseen : reward.sessionNonce ∉ state.recentSessions.used)
      (written : RewardedTable reward reward.uids state.peers table) :
      Happens state (.rewarded reward) (rememberSession
        { beginDay state reward.dayId with
          peers := table
          completedParties := parties } reward.sessionNonce)
  | contributed {dayId : UInt32} {amount target : UInt16} (day : dayId ≠ 0)
      (chosen : target ≠ 0)
      (forward : state.currentDay ≤ dayId)
      (agreed : (beginDay state dayId).dailyChallengeTarget = 0 ∨
        (beginDay state dayId).dailyChallengeTarget = target) :
      Happens state (.contributed dayId amount target)
        (contributed (beginDay state dayId) amount target)
  | session {purpose : Purpose} {sessionNonce : UInt32}
      (encounters progress : UInt32) (given : sessionNonce ≠ 0)
      (unseen : purpose.replayNonce sessionNonce ∉ state.recentSessions.used) :
      Happens state (.session purpose sessionNonce) (rememberSession
        { state with
          cooperativeRareEncounters := encounters
          sharedTrailProgress := progress }
        (purpose.replayNonce sessionNonce))

theorem RewardedTable.valid {reward : PartyRewardRequest} {uids : List UInt16}
    {day : UInt32} {before after : SlotTable PeerState kPeerCapacity}
    (written : RewardedTable reward uids before after)
    (valid : ∀ peer ∈ before.entries, ValidPeer day peer)
    (now : day = reward.dayId) (dated : reward.dayId ≠ 0)
    (trusted : kMinimumTrustedEpoch ≤ reward.epochSeconds) :
    ∀ peer ∈ after.entries, ValidPeer day peer := by
  intro peer member
  rw [written.entries] at member
  rcases List.mem_map.mp member with ⟨old, kept, rfl⟩
  rw [rewardAmong]
  split
  · exact (valid old kept).reward now dated trusted
  · exact valid old kept

theorem ChallengeValid.contributed {today : SocialState}
    {amount target : UInt16} (challenge : ChallengeValid today)
    (chosen : target ≠ 0) (agreed : today.dailyChallengeTarget = 0 ∨
      today.dailyChallengeTarget = target) :
    ChallengeValid (contributed today amount target) := by
  refine ⟨fun unset => absurd unset chosen, fun _ => ?_⟩
  have grows := le_saturatingAdd16 today.dailyChallengeProgress amount
  by_cases running : today.dailyChallengeComplete = 0
  · simp [Social.contributed, completes, running]
  · have before : today.dailyChallengeTarget = target := by
      refine agreed.resolve_left fun unset => running ?_
      exact (challenge.unset unset).2
    have complete := challenge.chosen (before ▸ chosen)
    rw [before] at complete
    split at complete
    · rename_i reached
      have still := UInt16.le_trans reached grows
      simp [Social.contributed, completes, complete, still]
    · exact absurd complete running

/-- Every event leaves a sound state. -/
theorem Happens.sound {state after : SocialState} {event : Event}
    (happens : Happens state event after) (sound : Sound state) : Sound after := by
  cases happens with
  | met uid day forward meets =>
    exact (sound.beginDay forward).met (beginDay_currentDay _ _) uid day meets
  | @rewarded reward table parties rewardable unseen written =>
    have today := sound.beginDay rewardable.forward
    have now := beginDay_currentDay state reward.dayId
    have peers := sound.peers
    have seen := today.seen
    have distinct : (table.entries.map (·.uid)).Nodup := by
      rw [written.entries, map_rewardAmong_uid]
      exact peers.distinct
    have inside : (beginDay state reward.dayId).dailySeenMask.toNat <
        2 ^ table.count := by
      rw [written.count, ← beginDay_peers state reward.dayId]
      exact seen.inside
    have valid := today.peers.valid
    rw [beginDay_peers] at valid
    have sessions := today.sessions
    rw [beginDay_sessions] at sessions
    have pushed := sessions.push rewardable.given unseen
    rw [← beginDay_sessions state reward.dayId] at pushed
    exact ⟨⟨today.header.magic, today.header.bytes, today.header.schema,
      today.header.reserved⟩, ⟨inside, seen.counted⟩,
      ⟨today.challenge.unset, today.challenge.chosen⟩,
      ⟨⟨written.count ▸ peers.packed.inside, written.unused ▸ peers.packed.unused⟩,
        written.valid valid now rewardable.dated rewardable.trusted,
        distinct⟩, pushed⟩
  | contributed day chosen forward agreed =>
    have today := sound.beginDay forward
    exact ⟨⟨today.header.magic, today.header.bytes, today.header.schema,
      today.header.reserved⟩, ⟨today.seen.inside, today.seen.counted⟩,
      today.challenge.contributed chosen agreed,
      ⟨today.peers.packed, today.peers.valid, today.peers.distinct⟩,
      today.sessions⟩
  | @session purpose sessionNonce encounters progress given unseen =>
    exact ⟨⟨sound.header.magic, sound.header.bytes, sound.header.schema,
      sound.header.reserved⟩, ⟨sound.seen.inside, sound.seen.counted⟩,
      ⟨sound.challenge.unset, sound.challenge.chosen⟩,
      ⟨sound.peers.packed, sound.peers.valid, sound.peers.distinct⟩,
      sound.sessions.push (replayNonce_ne_zero purpose given) unseen⟩

/-! ## Answers -/

/-- What the caller is told about the challenge of the day. -/
def Event.completedNow (state : SocialState) : Event → UInt8
  | .contributed dayId amount target =>
    if completes (beginDay state dayId) amount target then 1 else 0
  | _ => 0

/-- A refusal changes nothing; otherwise the event of the call happens. -/
inductive Answered (progression : SocialProgression) (event : Event) :
    Answer → Prop where
  | refused {status : SocialStatus} (refusal : status ≠ .ok) :
      Answered progression event { status, progression }
  | accepted {after : SocialState}
      (happens : Happens progression.state event after) :
      Answered progression event
        { status := .ok
          progression := { state := refreshCrc after }
          completedNow := event.completedNow progression.state }

theorem observeFriend_answered (progression : SocialProgression)
    (observation : FriendObservation) :
    Answered progression (.met observation)
      (observeFriend progression observation).answer := by
  simp only [observeFriend]
  split
  · exact .refused nofun
  split
  · exact .refused nofun
  rename_i formed
  split
  · exact .refused nofun
  rename_i forward
  split
  · exact .refused nofun
  rename_i room
  simp only [Bool.or_eq_true, beq_iff_eq, not_or] at formed
  refine .accepted (.met formed.1.1.1 formed.1.1.2 (UInt32.not_lt.mp forward) ?_)
  have peers := beginDay_peers progression.state observation.dayId
  have same : findPeer (beginDay progression.state observation.dayId)
      observation.uid = findPeer progression.state observation.uid := by
    rw [findPeer, findPeer, peers]
  generalize beginDay progression.state observation.dayId = today at peers same
  simp only [meetPeer, same]
  split
  · rename_i index found
    rw [found] at same
    rcases findPeer_some same with ⟨peer, stored, named⟩
    simp only [peerAt_stored stored, markSeen_peers, found, Option.isNone_some]
    exact .known index peer _ stored named
  · rename_i missing
    rw [missing] at same
    have free : today.peers.count < kPeerCapacity := by
      rw [peers]
      simpa [missing] using room
    have fresh : peerAt { today with
        peers := today.peers.push (newPeer observation) }
          today.peers.count = newPeer observation := by
      simp [peerAt, SlotTable.push, free]
    rw [newPeer] at fresh
    simp only [fresh, markSeen_table, SlotTable.write_push, missing,
      Option.isNone_none]
    exact .added _ (findPeer_none.mp same) free

theorem validPartyReward_uids {reward : PartyRewardRequest}
    (valid : validPartyReward reward = true) :
    reward.sessionNonce ≠ 0 ∧ reward.dayId ≠ 0 ∧
      kMinimumTrustedEpoch ≤ reward.epochSeconds ∧ reward.uids.Nodup := by
  simp only [validPartyReward, Bool.and_eq_true, bne_iff_ne,
    decide_eq_true_eq] at valid
  rcases valid with ⟨⟨⟨⟨⟨⟨-, given⟩, dated⟩, trusted⟩, -⟩, -⟩, once⟩
  exact ⟨given, dated, trusted, once⟩

/-- Every peer that was looked up is in the table under its uid. -/
theorem found_due {reward : PartyRewardRequest}
    (found : uids.mapM (findPeer state) = some indices)
    (due : indices.findSome? (refusePeer reward ∘ peerAt state) = none) :
    ∀ uid ∈ uids, ∃ peer ∈ state.peers.entries,
      peer.uid = uid ∧ refusePeer reward peer = none := by
  induction uids generalizing indices with
  | nil =>
    intro uid member
    cases member
  | cons uid uids induction =>
    simp only [List.mapM_cons, bind, pure, Option.bind_eq_some_iff,
      Option.some.injEq] at found
    rcases found with ⟨index, here, rest, others, rfl⟩
    rcases findPeer_some here with ⟨peer, stored, named⟩
    rw [List.findSome?_eq_none_iff] at due
    have first := due index List.mem_cons_self
    rw [Function.comp_apply, peerAt_stored stored] at first
    have later := induction others (List.findSome?_eq_none_iff.mpr
      fun other member => due other (List.mem_cons_of_mem _ member))
    intro other member
    rcases List.mem_cons.mp member with rfl | member
    · exact ⟨peer, List.mem_of_getElem? stored, named, first⟩
    · exact later other member

theorem refusePeer_ne_ok {reward : PartyRewardRequest} {peer : PeerState}
    {status : SocialStatus} (refused : refusePeer reward peer = some status) :
    status ≠ .ok := by
  rw [refusePeer] at refused
  split at refused
  · cases refused
    nofun
  · split at refused
    · cases refused
      nofun
    · cases refused

variable {progression : SocialProgression}

theorem recordPartyRewards_answered
    (distinct : (progression.state.peers.entries.map (·.uid)).Nodup)
    (reward : PartyRewardRequest) :
    Answered progression (.rewarded reward)
      (recordPartyRewards progression reward).answer := by
  simp only [recordPartyRewards]
  split
  · exact .refused nofun
  split
  · exact .refused nofun
  rename_i valid
  have formed := validPartyReward_uids (by simpa using valid)
  split
  · exact .refused nofun
  rename_i unseen
  split
  · exact .refused nofun
  rename_i indices found
  split
  · exact .refused nofun
  rename_i forward
  split
  · rename_i status refusal
    rcases List.exists_of_findSome?_eq_some refusal with ⟨index, -, refused⟩
    exact .refused (refusePeer_ne_ok refused)
  rename_i due
  have peers := beginDay_peers progression.state reward.dayId
  have today : reward.uids.mapM
      (findPeer (beginDay progression.state reward.dayId)) = some indices := by
    rw [← found]
    congr 1
    funext uid
    rw [findPeer, findPeer, peers]
  rcases rewardSlots today formed.2.2.2 (peers ▸ distinct) with
    ⟨table, frame, written⟩
  rw [peers] at written
  rw [frame]
  refine .accepted (.rewarded _ ⟨formed.2.2.2, formed.1, formed.2.1,
    formed.2.2.1, UInt32.not_lt.mp forward, found_due found due⟩ ?_ written)
  simpa [seenSession] using unseen

theorem contributeDailyChallenge_answered (progression : SocialProgression)
    (dayId : UInt32) (amount target : UInt16) :
    Answered progression (.contributed dayId amount target)
      (answer progression (.contributeDailyChallenge dayId amount target)) := by
  simp only [answer, contributeDailyChallenge]
  split
  · exact .refused nofun
  split
  · exact .refused nofun
  rename_i formed
  split
  · exact .refused nofun
  rename_i forward
  simp only [Bool.or_eq_true, beq_iff_eq, not_or] at formed
  split
  · rename_i other
    have same : progression.state.currentDay = dayId := by
      by_contra new
      rw [beginDay_other new] at other
      simp at other
    rw [beginDay_same same]
    exact .refused nofun
  · rename_i agreed
    simp only [Bool.and_eq_true, bne_iff_ne, ne_eq, not_and,
      Decidable.not_not] at agreed
    exact .accepted (.contributed formed.1.1 formed.2
      (UInt32.not_lt.mp forward) (Decidable.or_iff_not_imp_left.mpr agreed))

theorem recordSharedTrailResult_answered (progression : SocialProgression)
    (sessionNonce : UInt32) (mergedMisses : UInt8) :
    Answered progression (.session .sharedTrail sessionNonce)
      (recordSharedTrailResult progression sessionNonce mergedMisses).answer := by
  simp only [recordSharedTrailResult]
  split
  · exact .refused nofun
  split
  · exact .refused nofun
  rename_i formed
  split
  · exact .refused nofun
  rename_i unseen
  simp only [Bool.or_eq_true, beq_iff_eq, not_or] at formed
  refine .accepted (.session _ _ formed.1 ?_)
  simpa [seenSession, Purpose.replayNonce] using unseen

theorem recordCooperativeRareEncounter_answered
    (progression : SocialProgression) (sessionNonce : UInt32) :
    Answered progression (.session .rareEncounter sessionNonce)
      (recordCooperativeRareEncounter progression sessionNonce).answer := by
  simp only [recordCooperativeRareEncounter]
  split
  · exact .refused nofun
  split
  · exact .refused nofun
  rename_i formed
  split
  · exact .refused nofun
  rename_i unseen
  refine .accepted (.session _ _ (by simpa using formed) ?_)
  simpa [seenSession, Purpose.replayNonce] using unseen

theorem mergeSharedTrail_answered (progression : SocialProgression)
    (sessionNonce : UInt32) (localMisses peerMisses : UInt8) :
    Answered progression (.session .sharedTrail sessionNonce)
      (mergeSharedTrail progression sessionNonce localMisses
        peerMisses).answer := by
  simp only [mergeSharedTrail]
  split
  · exact .refused nofun
  split
  · exact .refused nofun
  exact recordSharedTrailResult_answered progression sessionNonce _

/-- What every call answers. -/
theorem answer_cases (sound : Sound progression.state) {call : Call}
    {event : Event} (asked : call.event = some event) :
    Answered progression event (answer progression call) := by
  cases call with
  | saveAndRestore => cases asked
  | observeFriend observation =>
    cases asked
    exact observeFriend_answered progression observation
  | recordSessionReward reward =>
    cases asked
    exact recordPartyRewards_answered sound.peers.distinct reward.batch
  | recordPartyRewards reward =>
    cases asked
    exact recordPartyRewards_answered sound.peers.distinct reward
  | contributeDailyChallenge dayId amount target =>
    cases asked
    exact contributeDailyChallenge_answered progression dayId amount target
  | mergeSharedTrail sessionNonce localMisses peerMisses =>
    cases asked
    exact mergeSharedTrail_answered progression sessionNonce localMisses
      peerMisses
  | recordSharedTrailResult sessionNonce mergedMisses =>
    cases asked
    exact recordSharedTrailResult_answered progression sessionNonce
      mergedMisses
  | recordCooperativeRareEncounter sessionNonce =>
    cases asked
    exact recordCooperativeRareEncounter_answered progression sessionNonce

end Kitsu.Social
