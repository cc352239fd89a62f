import Kitsu.Party.RewardRuns

/-!
# When a peer is rewarded twice

The ledger refuses a peer that it remembers as rewarded on the same day or
within the cooldown, but it remembers only twelve peers and gives the slot of
the oldest reward away when a new peer comes.  The rewards given so far are kept
beside the ledger.  `Latest` says that every record left in the table is the
last reward of its peer; so a peer is rewarded too early exactly when it comes
back after its record was given away.
-/

namespace Kitsu.Party

open Kitsu.Lib
open Kitsu.Lib.Run

/-- A reward of a peer. -/
structure Reward where
  uid : UInt16
  dayId : UInt32
  epochSeconds : UInt32

/-- A ledger with the rewards it has given, the last one first. -/
structure Rewarding where
  ledger : PartyRewardLedger := reset
  rewards : List Reward := []

/-- The rewards of one hunt in front of the earlier ones. -/
def credit (completed : CompletedHuntReward) (rewards : List Reward)
    (uid : UInt16) : List Reward :=
  ⟨uid, completed.dayId, completed.nowEpochSeconds⟩ :: rewards

/-- A call, and the rewards that it gave. -/
def rewardingStep (rewarding : Rewarding) (call : Call) : Rewarding where
  ledger := step rewarding.ledger call
  rewards :=
    match call with
    | .record completed cooldown =>
      if (recordCompletedHunt rewarding.ledger completed cooldown).status =
          .awarded then
        (eligibleUids rewarding.ledger.state completed cooldown).foldl
          (credit completed) rewarding.rewards
      else rewarding.rewards
    | .saveAndRestore => rewarding.rewards

/-- The earlier reward forbids another one at this hunt. -/
def Forbids (completed : CompletedHuntReward) (cooldown : UInt32)
    (uid : UInt16) (reward : Reward) : Prop :=
  reward.uid = uid ∧
    (reward.dayId = completed.dayId ∨ completed.nowEpochSeconds.toNat <
        reward.epochSeconds.toNat + cooldown.toNat)

/--
Every peer the hunt counts as eligible got its earlier rewards on other days and
at least the cooldown ago.
-/
def FairlyCounted (rewarding : Rewarding) : Call → Prop
  | .record completed cooldown =>
    (recordCompletedHunt rewarding.ledger completed cooldown).status =
      .awarded →
    ∀ uid ∈ eligibleUids rewarding.ledger.state completed cooldown,
      ∀ reward ∈ rewarding.rewards, ¬ Forbids completed cooldown uid reward
  | .saveAndRestore => True

/--
Every peer of an acceptable hunt that has a reward which forbids another one is
still among the peers the ledger remembers.
-/
def StillRemembered (rewarding : Rewarding) : Call → Prop
  | .record completed cooldown =>
    Accepted rewarding.ledger.state completed →
    ∀ uid ∈ completed.participants, uid ≠ completed.selfUid →
      (∃ reward ∈ rewarding.rewards, Forbids completed cooldown uid reward) →
      ¬ Unknown rewarding.ledger.state uid
  | .saveAndRestore => True

/-! ## Records and rewards -/

/-- Rewards are ordered, and not later than the last observation. -/
structure Ordered (state : RewardState) (rewards : List Reward) : Prop where
  sorted : rewards.Pairwise fun later earlier =>
    earlier.dayId ≤ later.dayId ∧ earlier.epochSeconds ≤ later.epochSeconds
  observed : ∀ reward ∈ rewards,
    reward.dayId ≤ state.lastObservedDayId ∧
      reward.epochSeconds ≤ state.lastObservedEpochSeconds

/-- Every record is the last reward of its peer. -/
def Latest (state : RewardState) (rewards : List Reward) : Prop :=
  ∀ peer ∈ state.peers.entries,
    rewards.find? (·.uid == peer.uid) =
      some ⟨peer.uid, peer.lastRewardDayId, peer.lastRewardEpochSeconds⟩

/-- The invariant that connects the ledger with the rewards that were given. -/
structure Kept (rewarding : Rewarding) : Prop where
  usable : Usable rewarding.ledger
  ordered : Ordered rewarding.ledger.state rewarding.rewards
  latest : Latest rewarding.ledger.state rewarding.rewards

theorem Recorded.latest {completed : CompletedHuntReward}
    {state after : RewardState} {uid : UInt16} {rewards : List Reward}
    (recorded : Recorded completed state uid after)
    (distinct : (state.peers.entries.map (·.uid)).Nodup)
    (latest : Latest state rewards) :
    Latest after (credit completed rewards uid) := by
  intro peer member
  rcases recorded.mem distinct member with ⟨old, named, rfl⟩ | ⟨other, kept⟩
  · rw [credit, List.find?_cons_of_pos]
    · simp only [rewardedNow, named]
    · simp [named]
  · rw [credit, List.find?_cons_of_neg]
    · exact latest peer kept
    · simpa using fun same => other same.symm

variable {completed : CompletedHuntReward} {state : RewardState}
  {rewards : List Reward}

theorem rewardPeers_latest (uids : List UInt16)
    (distinct : (state.peers.entries.map (·.uid)).Nodup)
    (latest : Latest state rewards) :
    Latest (uids.foldl (rewardPeer completed) state)
      (uids.foldl (credit completed) rewards) := by
  induction uids generalizing state rewards with
  | nil => exact latest
  | cons uid uids induction =>
    have recorded := rewardPeer_cases completed state uid
    exact induction (recorded.distinct distinct)
      (recorded.latest distinct latest)

theorem rewarded_observed (state : RewardState)
    (completed : CompletedHuntReward) (uids : List UInt16) :
    (rewarded state completed uids).lastObservedDayId = completed.dayId ∧
      (rewarded state completed uids).lastObservedEpochSeconds =
        completed.nowEpochSeconds := by
  rw [rewarded, rewardPeers_frame, advanceStreak]
  split <;> exact ⟨rfl, rfl⟩

theorem mem_credits {uids : List UInt16} {reward : Reward} :
    reward ∈ uids.foldl (credit completed) rewards ↔
      (reward.uid ∈ uids ∧ reward.dayId = completed.dayId ∧
        reward.epochSeconds = completed.nowEpochSeconds) ∨
      reward ∈ rewards := by
  induction uids generalizing rewards with
  | nil => simp
  | cons uid uids induction =>
    rw [List.foldl_cons, induction, credit, List.mem_cons, List.mem_cons]
    constructor
    · rintro (⟨later, day, epoch⟩ | rfl | earlier)
      · exact .inl ⟨.inr later, day, epoch⟩
      · exact .inl ⟨.inl rfl, rfl, rfl⟩
      · exact .inr earlier
    · rintro (⟨rfl | later, day, epoch⟩ | earlier)
      · right
        left
        cases reward
        cases day
        cases epoch
        rfl
      · exact .inl ⟨later, day, epoch⟩
      · exact .inr (.inr earlier)

theorem sorted_credits (uids : List UInt16)
    (sorted : rewards.Pairwise fun later earlier =>
      earlier.dayId ≤ later.dayId ∧ earlier.epochSeconds ≤ later.epochSeconds)
    (before : ∀ reward ∈ rewards, reward.dayId ≤ completed.dayId ∧
      reward.epochSeconds ≤ completed.nowEpochSeconds) :
    (uids.foldl (credit completed) rewards).Pairwise fun later earlier =>
      earlier.dayId ≤ later.dayId ∧
        earlier.epochSeconds ≤ later.epochSeconds := by
  induction uids generalizing rewards with
  | nil => exact sorted
  | cons uid uids induction =>
    apply induction
    · exact List.pairwise_cons.mpr ⟨before, sorted⟩
    · intro reward member
      rcases List.mem_cons.mp member with rfl | earlier
      · exact ⟨UInt32.le_refl _, UInt32.le_refl _⟩
      · exact before reward earlier

theorem Ordered.later {after : RewardState} (ordered : Ordered state rewards)
    (day : state.lastObservedDayId ≤ after.lastObservedDayId)
    (epoch : state.lastObservedEpochSeconds ≤
      after.lastObservedEpochSeconds) : Ordered after rewards := by
  refine ⟨ordered.sorted, fun reward member => ?_⟩
  rcases ordered.observed reward member with ⟨dayLe, epochLe⟩
  exact ⟨UInt32.le_trans dayLe day, UInt32.le_trans epochLe epoch⟩

theorem Kept.step {rewarding : Rewarding} (kept : Kept rewarding)
    (call : Call) : Kept (rewardingStep rewarding call) := by
  rcases rewarding with ⟨⟨state, available⟩, rewards⟩
  rcases kept with ⟨⟨rfl, valid⟩, ordered, latest⟩
  have after : Usable (Party.step ⟨state, true⟩ call) :=
    Usable.step ⟨rfl, valid⟩ call
  cases call with
  | saveAndRestore =>
    refine ⟨after, ?_, ?_⟩
    · simpa only [rewardingStep, Party.step, restore_valid valid] using ordered
    · simpa only [rewardingStep, Party.step, restore_valid valid] using latest
  | record completed cooldown =>
    have answer := record_reply state completed cooldown
    simp only [rewardingStep, Party.step] at after ⊢
    generalize recordCompletedHunt ⟨state, true⟩ completed cooldown = reply
      at answer after ⊢
    cases answer with
    | invalid _ => exact ⟨after, ordered, latest⟩
    | duplicate _ => exact ⟨after, ordered, latest⟩
    | regressed _ => exact ⟨after, ordered, latest⟩
    | observed accepted _ =>
      exact ⟨after, ordered.later accepted.day_le accepted.epoch_le, latest⟩
    | awarded accepted _ outcome _ =>
      generalize eligibleUids state completed cooldown = uids at after ⊢
      have before : Ordered (observeHunt state completed) rewards :=
        ordered.later accepted.day_le accepted.epoch_le
      rcases rewarded_observed state completed uids with ⟨day, epoch⟩
      refine ⟨after, ⟨sorted_credits uids before.sorted before.observed, ?_⟩, ?_⟩
      · intro reward member
        rw [day, epoch]
        rcases mem_credits.mp member with ⟨-, same, now⟩ | earlier
        · exact ⟨UInt32.le_of_eq same, UInt32.le_of_eq now⟩
        · exact before.observed reward earlier
      · rw [Latest, rewarded_peers]
        exact rewardPeers_latest uids valid.peers.distinct latest

theorem kept_exec (calls : List Call) : Kept (exec rewardingStep {} calls) := by
  apply exec_invariant
  · exact ⟨⟨rfl, valid_reset⟩, ⟨List.Pairwise.nil, nofun⟩, nofun⟩
  · intro rewarding call kept
    exact kept.step call

/-! ## Fair counting -/

/-- The first reward found of a peer is the latest of its rewards. -/
theorem Ordered.found {state : RewardState} {rewards : List Reward}
    (ordered : Ordered state rewards) {uid : UInt16} {last reward : Reward}
    (found : rewards.find? (·.uid == uid) = some last)
    (member : reward ∈ rewards) (named : reward.uid = uid) :
    reward.dayId ≤ last.dayId ∧ reward.epochSeconds ≤ last.epochSeconds := by
  rcases List.find?_eq_some_iff_append.mp found with
    ⟨-, newer, older, rfl, others⟩
  rcases List.mem_append.mp member with recent | rest
  · have other := others reward recent
    simp [named] at other
  · rcases List.mem_cons.mp rest with rfl | earlier
    · exact ⟨UInt32.le_refl _, UInt32.le_refl _⟩
    · have sorted := (List.pairwise_append.mp ordered.sorted).2.1
      exact (List.pairwise_cons.mp sorted).1 reward earlier

/-- A remembered peer is eligible only when none of its rewards forbids it. -/
theorem Kept.not_forbidden (kept : Kept ⟨⟨state, true⟩, rewards⟩)
    {cooldown : UInt32} (accepted : Accepted state completed) {uid : UInt16}
    (remembered : ¬ Unknown state uid)
    (eligible : eligiblePeer state completed cooldown uid = true)
    {reward : Reward} (member : reward ∈ rewards) :
    ¬ Forbids completed cooldown uid reward := by
  rintro ⟨named, forbids⟩
  rw [eligiblePeer, Bool.and_eq_true] at eligible
  have counted := eligible.2
  cases record : state.peers.entries.find? (·.uid == uid) with
  | none =>
    apply remembered
    intro peer stored same
    have missing := List.find?_eq_none.mp record peer stored
    simp [same] at missing
  | some peer =>
    rw [record] at counted
    have stored := List.mem_of_find?_eq_some record
    have same : peer.uid = uid := by
      simpa using List.find?_some record
    have latest := kept.latest peer stored
    rw [same] at latest
    rcases kept.ordered.found latest member named with ⟨dayLe, epochLe⟩
    have valid := kept.usable.2.peers.valid peer stored
    have day := UInt32.le_trans valid.day_le accepted.day_le
    have epoch := UInt32.le_trans valid.epoch_le accepted.epoch_le
    simp only [Bool.and_eq_true, bne_iff_ne, Bool.not_eq_true',
      decide_eq_false_iff_not] at counted
    rcases forbids with sameDay | early
    · apply counted.1
      exact UInt32.le_antisymm day (sameDay ▸ dayLe)
    · apply counted.2
      rw [UInt32.lt_iff_toNat_lt, UInt32.toNat_sub_of_le _ _ epoch]
      rw [UInt32.le_iff_toNat_le] at epochLe epoch
      simp only at epochLe
      omega

theorem fairly_iff {rewarding : Rewarding} (kept : Kept rewarding) (call : Call) :
    FairlyCounted rewarding call ↔ StillRemembered rewarding call := by
  rcases rewarding with ⟨⟨state, available⟩, rewards⟩
  obtain rfl : available = true := kept.usable.1
  cases call with
  | saveAndRestore => exact Iff.rfl
  | record completed cooldown =>
    have answer := record_reply state completed cooldown
    simp only [FairlyCounted, StillRemembered]
    generalize recordCompletedHunt ⟨state, true⟩ completed cooldown = reply
      at answer
    constructor
    · rintro fair accepted uid member other ⟨reward, given, forbids⟩ unknown
      have missing : state.peers.entries.find? (·.uid == uid) = none := by
        apply List.find?_eq_none.mpr
        intro peer stored
        simpa using unknown peer stored
      have eligible : uid ∈ eligibleUids state completed cooldown := by
        refine List.mem_filter.mpr ⟨member, ?_⟩
        simp [eligiblePeer, missing, other]
      have awarded : reply.status = .awarded := by
        cases answer with
        | invalid invalid => simp [accepted.valid] at invalid
        | duplicate seen => simp [accepted.unseen] at seen
        | regressed regressed => simp [accepted.forward] at regressed
        | observed _ none => simp [none] at eligible
        | awarded _ _ _ _ => rfl
      exact fair awarded uid eligible reward given forbids
    · intro remembered awarded uid eligible reward given forbids
      have accepted : Accepted state completed := by
        cases answer with
        | invalid _ => cases awarded
        | duplicate _ => cases awarded
        | regressed _ => cases awarded
        | observed _ _ => cases awarded
        | awarded accepted _ _ _ => exact accepted
      rcases List.mem_filter.mp eligible with ⟨member, counts⟩
      have other : uid ≠ completed.selfUid := by
        rw [eligiblePeer, Bool.and_eq_true, bne_iff_ne] at counts
        exact counts.1
      exact kept.not_forbidden accepted
        (remembered accepted uid member other ⟨reward, given, forbids⟩)
        counts given forbids

/--
In a run from `reset`, no peer is counted twice on a day or within the cooldown
exactly when every peer that still has to wait is remembered by the ledger at
each hunt it comes back to.
-/
theorem bond_not_farmed_iff (calls : List Call) :
    Throughout rewardingStep {} FairlyCounted calls ↔
      Throughout rewardingStep {} StillRemembered calls := by
  constructor
  · intro fair earlier call later equal
    exact (fairly_iff (kept_exec earlier) call).mp
      (fair earlier call later equal)
  · intro remembered earlier call later equal
    exact (fairly_iff (kept_exec earlier) call).mpr
      (remembered earlier call later equal)

/-- A hunt of four on day 10, from the ledger of uid 1. -/
def partyHunt (nonce : UInt32) (first second third : UInt16) :
    CompletedHuntReward where
  selfUid := 1
  participantUids := #v[1, first, second, third]
  participantCount := 4
  sessionNonce := nonce
  resultProof := 1
  dayId := 10
  nowEpochSeconds := 1000

/-- Thirteen peers on one day, and the first of them once more. -/
def thirteenPeers : List Call :=
  [.record (partyHunt 1 2 3 4) 900, .record (partyHunt 2 5 6 7) 900,
    .record (partyHunt 3 8 9 10) 900, .record (partyHunt 4 11 12 13) 900,
    .record (partyHunt 5 14 3 4) 900]

theorem evicted_peer_rewarded_again :
    ¬ ∀ calls, Throughout rewardingStep {} FairlyCounted calls := by
  intro fair
  have again := fair (thirteenPeers ++ [.record (partyHunt 6 2 3 4) 900])
    thirteenPeers _ [] rfl
  have run : (recordCompletedHunt (exec rewardingStep {} thirteenPeers).ledger
        (partyHunt 6 2 3 4) 900).status = .awarded ∧
      2 ∈ eligibleUids (exec rewardingStep {} thirteenPeers).ledger.state
        (partyHunt 6 2 3 4) 900 ∧
      (exec rewardingStep {} thirteenPeers).rewards.any
        (fun reward => reward.uid == 2 && reward.dayId == 10) = true := by
    decide +kernel
  rcases run with ⟨awarded, eligible, rewardedBefore⟩
  rcases List.any_eq_true.mp rewardedBefore with ⟨reward, given, same⟩
  simp only [Bool.and_eq_true, beq_iff_eq] at same
  exact again awarded 2 eligible reward given ⟨same.1, .inl same.2⟩

end Kitsu.Party
