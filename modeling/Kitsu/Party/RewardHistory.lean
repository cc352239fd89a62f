import Kitsu.Lib.Seniority
import Kitsu.Party.RewardRuns

/-!
# What a hunt does to the history of its peers

The reward loop gives every eligible peer a slot, and a full table gives the slot
of the oldest reward away.  That reward may belong to the hunt itself: to a peer
the loop comes to later, to one that is not eligible, or to one it has just
rewarded.  `HistoryKept` is what the peers of a hunt may expect; `RoomAt` says on
the state before the hunt that the table still has a bystander to forget.
-/

namespace Kitsu.Party

open Kitsu.Lib

/-! ## The order of rewards -/

/-- Smaller for the reward that is forgotten first. -/
def rewardAge (peer : PeerRewardState) : Nat :=
  (peer.lastRewardDayId.toNat * 2 ^ 32 +
    peer.lastRewardEpochSeconds.toNat) * 2 ^ 16 + peer.uid.toNat

theorem olderReward_iff (peer other : PeerRewardState) :
    olderReward peer other = true ↔ rewardAge peer < rewardAge other := by
  have epoch := peer.lastRewardEpochSeconds.toNat_lt
  have otherEpoch := other.lastRewardEpochSeconds.toNat_lt
  have uid := peer.uid.toNat_lt
  have otherUid := other.uid.toNat_lt
  simp only [olderReward, rewardAge, Bool.or_eq_true, Bool.and_eq_true,
    decide_eq_true_eq, beq_iff_eq, UInt32.lt_iff_toNat_lt,
    UInt16.lt_iff_toNat_lt, ← UInt32.toNat_inj]
  omega

variable {peer : PeerRewardState}

theorem rewardAge_inj {other : PeerRewardState}
    (same : rewardAge peer = rewardAge other) : peer.uid = other.uid := by
  have uid := peer.uid.toNat_lt
  have otherUid := other.uid.toNat_lt
  apply UInt16.toNat.inj
  rw [rewardAge, rewardAge] at same
  omega

theorem distinct_ages {peers : List PeerRewardState}
    (distinct : (peers.map (·.uid)).Nodup) : (peers.map rewardAge).Nodup := by
  rw [List.Nodup, List.pairwise_map] at distinct ⊢
  exact distinct.imp fun other same => other (rewardAge_inj same)

/-- The slot that a full table gives away holds its oldest reward. -/
theorem oldestPeer_le (peers : Vector PeerRewardState kRewardPeerCapacity)
    (index : Nat) (inside : index < kRewardPeerCapacity) :
    rewardAge peers[oldestPeer peers] ≤ rewardAge peers[index] := by
  have least := @Seniority.scan_le (Fin kRewardPeerCapacity)
    (fun entry best => olderReward peers[entry] peers[best])
    (fun entry => rewardAge peers[entry])
    (fun _ _ => olderReward_iff _ _) 0
    (List.finRange kRewardPeerCapacity).tail ⟨index, inside⟩
  apply least
  exact List.mem_finRange _

/-! ## One pass of the reward loop, exactly -/

section Pass

variable {completed : CompletedHuntReward} {state : RewardState} {uid : UInt16}

theorem rewardPeer_known (distinct : (state.peers.entries.map (·.uid)).Nodup)
    (member : peer ∈ state.peers.entries) :
    ∃ index, state.peers.entries[index]? = some peer ∧
      rewardPeer completed state peer.uid = { state with
        peers := state.peers.write index (rewardedNow completed peer) } := by
  rcases found : findPeer state peer.uid with _ | index
  · exact absurd rfl (findPeer_none.mp found peer member)
  · rcases state.peers.find_some found with ⟨stored, position, named⟩
    have same : stored = peer :=
      List.inj_on_of_nodup_map distinct (List.mem_of_getElem? position) member
        (beq_iff_eq.mp named)
    subst same
    refine ⟨index, position, ?_⟩
    rw [rewardPeer, allocatePeer, found]
    simp only [state.peers.slots_of_entries position, Option.getD_some]

theorem rewardPeer_added (unknown : Unknown state uid)
    (room : state.peers.count < kRewardPeerCapacity) :
    rewardPeer completed state uid = { state with
      peers := state.peers.push (rewardedNow completed { uid := uid }) } := by
  have fresh : (state.peers.push { uid := uid }).slots[
      state.peers.count]?.getD {} = { uid := uid } := by
    simp [SlotTable.push, room]
  rw [rewardPeer, allocatePeer, findPeer_none.mpr unknown]
  simp only [if_pos room, fresh, SlotTable.write_push]

theorem rewardPeer_evicted (unknown : Unknown state uid)
    (full : ¬ state.peers.count < kRewardPeerCapacity) :
    rewardPeer completed state uid = { state with
      peers := state.peers.write (oldestPeer state.peers.slots)
        (rewardedNow completed { uid := uid }) } := by
  have fresh : (state.peers.write (oldestPeer state.peers.slots)
      { uid := uid }).slots[(oldestPeer state.peers.slots).val]?.getD {} =
        { uid := uid } := by
    simp [SlotTable.write]
  rw [rewardPeer, allocatePeer, findPeer_none.mpr unknown]
  simp only [if_neg full, fresh, SlotTable.write_write]

end Pass

/-! ## The table while the hunt is rewarded -/

/-- The record of a peer before the hunt. -/
def previous (state : RewardState) (uid : UInt16) : PeerRewardState :=
  (state.peers.entries.find? (·.uid == uid)).getD { uid := uid }

/-- The records of peers that are not in the hunt. -/
def bystanders (state : RewardState) (completed : CompletedHuntReward) :
    List PeerRewardState :=
  state.peers.entries.filter fun peer =>
    !completed.participants.contains peer.uid

/-- The records of the hunt's peers once the first of them were rewarded. -/
def huntRecords (state : RewardState) (completed : CompletedHuntReward)
    (before : List UInt16) : List PeerRewardState :=
  (before.map fun uid => rewardedNow completed (previous state uid)) ++
    state.peers.entries.filter fun peer =>
      completed.participants.contains peer.uid && !before.contains peer.uid

/-- The peers that are not in the table before the hunt. -/
def newcomers (state : RewardState) (uids : List UInt16) : List UInt16 :=
  uids.filter fun uid => (findPeer state uid).isNone

/-- How many slots were given away once these peers were rewarded. -/
def evictions (state : RewardState) (before : List UInt16) : Nat :=
  state.peers.count + (newcomers state before).length - kRewardPeerCapacity

/-- The bystanders whose reward is forgotten before this one. -/
def seniors (state : RewardState) (completed : CompletedHuntReward)
    (record : PeerRewardState) : Nat :=
  (bystanders state completed).countP (olderReward · record)

theorem seniors_eq (state : RewardState) (completed : CompletedHuntReward)
    (record : PeerRewardState) :
    seniors state completed record =
      Seniority.rank rewardAge (bystanders state completed)
        (rewardAge record) := by
  apply List.countP_congr
  intro peer _
  rw [olderReward_iff, decide_eq_true_eq]

/--
When this peer needs a slot of a full table, a bystander is left whose reward is
older than every reward of the hunt.
-/
def RoomAt (state : RewardState) (completed : CompletedHuntReward)
    (before : List UInt16) (uid : UInt16) : Prop :=
  Unknown state uid →
    kRewardPeerCapacity ≤
      state.peers.count + (newcomers state before).length →
    ∀ record ∈ huntRecords state completed before,
      evictions state before < seniors state completed record

/-- Every peer of the hunt finds its record when its turn comes. -/
def RoomForHunt (state : RewardState) (completed : CompletedHuntReward)
    (eligible : List UInt16) : Prop :=
  ∀ before uid later, eligible = before ++ uid :: later →
    RoomAt state completed before uid

/-- What the hunt may do to the records of a table. -/
structure HistoryKept (state after : RewardState)
    (completed : CompletedHuntReward) (eligible : List UInt16) : Prop where
  known : ∀ peer ∈ state.peers.entries, peer.uid ∈ eligible →
    ∃ kept ∈ after.peers.entries, kept.uid = peer.uid ∧
      kept.rewardedParties = saturatingAdd16 peer.rewardedParties 1
  fresh : ∀ uid ∈ eligible, Unknown state uid →
    ∃ kept ∈ after.peers.entries, kept.uid = uid ∧ kept.rewardedParties = 1
  outside : ∀ peer ∈ state.peers.entries, Unknown after peer.uid →
    peer.uid ∉ completed.participants
  oldestFirst : ∀ peer ∈ state.peers.entries, Unknown after peer.uid →
    ∀ other ∈ state.peers.entries, other.uid ∉ completed.participants →
      ¬ Unknown after other.uid → olderReward peer other = true

variable {record : PeerRewardState} {later : List UInt16}

section Hunt

variable {state : RewardState} {completed : CompletedHuntReward}

theorem previous_known (distinct : (state.peers.entries.map (·.uid)).Nodup)
    (member : peer ∈ state.peers.entries) : previous state peer.uid = peer := by
  rcases found : state.peers.entries.find? (·.uid == peer.uid) with _ | stored
  · have missing := List.find?_eq_none.mp found peer member
    simp at missing
  · have named := List.find?_some found
    have same : stored = peer :=
      List.inj_on_of_nodup_map distinct (List.mem_of_find?_eq_some found)
        member (beq_iff_eq.mp named)
    rw [previous, found, same]
    rfl

theorem previous_unknown {uid : UInt16} (unknown : Unknown state uid) :
    previous state uid = { uid := uid } := by
  have missing : state.peers.entries.find? (·.uid == uid) = none := by
    rw [List.find?_eq_none]
    intro peer member named
    exact unknown peer member (beq_iff_eq.mp named)
  rw [previous, missing]
  rfl

theorem previous_uid (state : RewardState) (uid : UInt16) :
    (previous state uid).uid = uid := by
  rcases found : state.peers.entries.find? (·.uid == uid) with _ | stored
  · rw [previous, found]
    rfl
  · have named := List.find?_some found
    rw [previous, found]
    exact beq_iff_eq.mp named

theorem mem_bystanders :
    peer ∈ bystanders state completed ↔
      peer ∈ state.peers.entries ∧ peer.uid ∉ completed.participants := by
  simp [bystanders]

theorem mem_huntRecords {before : List UInt16} :
    record ∈ huntRecords state completed before ↔
      (∃ uid ∈ before, record = rewardedNow completed (previous state uid)) ∨
        (record ∈ state.peers.entries ∧ record.uid ∈ completed.participants ∧
          record.uid ∉ before) := by
  simp only [huntRecords, List.mem_append, List.mem_map, List.mem_filter,
    Bool.and_eq_true, Bool.not_eq_true',
    List.contains_eq_mem, decide_eq_true_eq, decide_eq_false_iff_not]
  constructor
  · rintro (⟨uid, member, rfl⟩ | ⟨stored, inside, waiting⟩)
    · exact .inl ⟨uid, member, rfl⟩
    · exact .inr ⟨stored, inside, waiting⟩
  · rintro (⟨uid, member, rfl⟩ | ⟨stored, inside, waiting⟩)
    · exact .inl ⟨uid, member, rfl⟩
    · exact .inr ⟨stored, inside, waiting⟩

theorem rewardedNow_previous_uid (uid : UInt16) :
    (rewardedNow completed (previous state uid)).uid = uid := by
  rw [rewardedNow_uid, previous_uid]

theorem mem_huntRecords_concat {before : List UInt16} {uid : UInt16}
    (waiting : uid ∉ before) :
    record ∈ huntRecords state completed (before ++ [uid]) ↔
      record = rewardedNow completed (previous state uid) ∨
        (record.uid ≠ uid ∧ record ∈ huntRecords state completed before) := by
  simp only [mem_huntRecords, List.mem_append, List.mem_singleton]
  constructor
  · rintro (⟨other, member | rfl, rfl⟩ | ⟨stored, inside, missing⟩)
    · refine .inr ⟨?_, .inl ⟨other, member, rfl⟩⟩
      rw [rewardedNow_previous_uid]
      rintro rfl
      exact waiting member
    · exact .inl rfl
    · exact .inr ⟨fun same => missing (.inr same),
        .inr ⟨stored, inside, fun early => missing (.inl early)⟩⟩
  · rintro (rfl | ⟨different, ⟨other, member, rfl⟩ |
      ⟨stored, inside, missing⟩⟩)
    · exact .inl ⟨uid, .inr rfl, rfl⟩
    · exact .inl ⟨other, .inl member, rfl⟩
    · refine .inr ⟨stored, inside, ?_⟩
      rintro (early | same)
      · exact missing early
      · exact different same

theorem newcomers_concat_known {before : List UInt16}
    (member : peer ∈ state.peers.entries) :
    newcomers state (before ++ [peer.uid]) = newcomers state before := by
  have known : findPeer state peer.uid ≠ none := by
    intro missing
    exact findPeer_none.mp missing peer member rfl
  rw [newcomers, newcomers, List.filter_append]
  simp [known]

theorem newcomers_concat_unknown {before : List UInt16} {uid : UInt16}
    (unknown : Unknown state uid) :
    newcomers state (before ++ [uid]) = newcomers state before ++ [uid] := by
  rw [newcomers, newcomers, List.filter_append]
  simp [findPeer_none.mpr unknown]

/-! ## The invariant of the loop -/

/--
The table after these peers were rewarded, if every slot given away was that of
a bystander: the records of the hunt, and the bystanders with enough seniors.
-/
structure Progress (state : RewardState) (completed : CompletedHuntReward)
    (before : List UInt16) (current : RewardState) : Prop where
  count : current.peers.count = min kRewardPeerCapacity
    (state.peers.count + (newcomers state before).length)
  distinct : (current.peers.entries.map (·.uid)).Nodup
  members : ∀ peer, peer ∈ current.peers.entries ↔
    peer ∈ huntRecords state completed before ∨
      (peer ∈ bystanders state completed ∧
        evictions state before ≤ seniors state completed peer)

variable {current : RewardState} {before : List UInt16} {uid : UInt16}

theorem Progress.first {current : RewardState}
    (bounded : state.peers.count ≤ kRewardPeerCapacity)
    (distinct : (state.peers.entries.map (·.uid)).Nodup)
    (same : current.peers = state.peers) :
    Progress state completed [] current := by
  have none : evictions state [] = 0 := by
    simp only [evictions, newcomers, List.filter_nil, List.length_nil]
    omega
  refine ⟨?_, same ▸ distinct, ?_⟩
  · simp only [newcomers, List.filter_nil, List.length_nil, same]
    omega
  · intro peer
    rw [same, mem_huntRecords, mem_bystanders, none]
    constructor
    · intro member
      by_cases inside : peer.uid ∈ completed.participants
      · exact .inl (.inr ⟨member, inside, List.not_mem_nil⟩)
      · exact .inr ⟨⟨member, inside⟩, Nat.zero_le _⟩
    · rintro ((⟨uid, early, -⟩ | ⟨member, -, -⟩) | ⟨⟨member, -⟩, -⟩)
      · cases early
      · exact member
      · exact member

theorem huntRecords_uid (member : record ∈ huntRecords state completed before)
    (inside : ∀ uid ∈ before, uid ∈ completed.participants) :
    record.uid ∈ completed.participants := by
  rcases mem_huntRecords.mp member with ⟨uid, early, rfl⟩ | ⟨-, participant, -⟩
  · rw [rewardedNow_previous_uid]
    exact inside uid early
  · exact participant

/-- A peer that is in the table stays there under its next count. -/
theorem Progress.known (progress : Progress state completed before current)
    (member : peer ∈ state.peers.entries)
    (distinct : (state.peers.entries.map (·.uid)).Nodup)
    (waiting : peer.uid ∉ before) (inside : peer.uid ∈ completed.participants) :
    Progress state completed (before ++ [peer.uid])
      (rewardPeer completed current peer.uid) := by
  have present : peer ∈ current.peers.entries :=
    (progress.members peer).mpr
      (.inl (mem_huntRecords.mpr (.inr ⟨member, inside, waiting⟩)))
  rcases @rewardPeer_known peer completed current progress.distinct present with
    ⟨index, stored, rewarded⟩
  have uid := rewardedNow_uid completed peer
  have same : evictions state (before ++ [peer.uid]) =
      evictions state before := by
    rw [evictions, newcomers_concat_known member, evictions]
  rw [rewarded]
  refine ⟨?_, ?_, ?_⟩
  · rw [newcomers_concat_known member]
    exact progress.count
  · show ((current.peers.write index _).entries.map (·.uid)).Nodup
    rw [SlotTable.keys_write _ _ stored uid]
    exact progress.distinct
  · intro other
    rw [SlotTable.mem_write _ _ stored uid progress.distinct,
      mem_huntRecords_concat waiting, previous_known distinct member,
      progress.members, same, uid]
    constructor
    · rintro (same | ⟨different, hunted | ⟨bystander, late⟩⟩)
      · exact .inl (.inl same)
      · exact .inl (.inr ⟨different, hunted⟩)
      · exact .inr ⟨bystander, late⟩
    · rintro ((same | ⟨different, hunted⟩) | ⟨bystander, late⟩)
      · exact .inl same
      · exact .inr ⟨different, .inl hunted⟩
      · refine .inr ⟨?_, .inr ⟨bystander, late⟩⟩
        rintro same
        exact (mem_bystanders.mp bystander).2 (same ▸ inside)

/-- A new peer is not in the table yet. -/
theorem Progress.unknown (progress : Progress state completed before current)
    (unknown : Unknown state uid) (waiting : uid ∉ before) :
    Unknown current uid := by
  intro peer member named
  rcases (progress.members peer).mp member with hunted | ⟨bystander, -⟩
  · rcases mem_huntRecords.mp hunted with ⟨other, early, rfl⟩ | ⟨stored, -, -⟩
    · rw [rewardedNow_previous_uid] at named
      exact waiting (named ▸ early)
    · exact unknown peer stored named
  · exact unknown peer (mem_bystanders.mp bystander).1 named

/-- A new peer takes a free slot. -/
theorem Progress.added (progress : Progress state completed before current)
    (unknown : Unknown state uid) (waiting : uid ∉ before)
    (room : state.peers.count + (newcomers state before).length <
      kRewardPeerCapacity) :
    Progress state completed (before ++ [uid])
      (rewardPeer completed current uid) := by
  have missing := progress.unknown unknown waiting
  have count := progress.count
  have space : current.peers.count < kRewardPeerCapacity := by omega
  have none : evictions state before = 0 := by
    rw [evictions]
    omega
  have still : evictions state (before ++ [uid]) = 0 := by
    rw [evictions, newcomers_concat_unknown unknown, List.length_append,
      List.length_singleton]
    omega
  rw [rewardPeer_added missing space]
  refine ⟨?_, ?_, ?_⟩
  · rw [newcomers_concat_unknown unknown, List.length_append,
      List.length_singleton, SlotTable.count_push]
    omega
  · exact SlotTable.nodup_keys_push _ _ space progress.distinct missing
  · intro other
    rw [SlotTable.entries_push _ _ space, List.mem_append, List.mem_singleton,
      mem_huntRecords_concat waiting, previous_unknown unknown,
      progress.members, none, still]
    constructor
    · rintro ((hunted | bystander) | same)
      · refine .inl (.inr ⟨?_, hunted⟩)
        exact missing other ((progress.members other).mpr (.inl hunted))
      · exact .inr bystander
      · exact .inl (.inl same)
    · rintro ((same | ⟨-, hunted⟩) | bystander)
      · exact .inr same
      · exact .inl (.inl hunted)
      · exact .inl (.inr bystander)

/-! ## Giving a slot away -/

theorem bystander_ages (distinct : (state.peers.entries.map (·.uid)).Nodup) :
    ((bystanders state completed).map rewardAge).Nodup := by
  apply distinct_ages
  exact distinct.sublist (List.filter_sublist.map _)

section

variable (progress : Progress state completed before current)

include progress

theorem Progress.full (full : kRewardPeerCapacity ≤
      state.peers.count + (newcomers state before).length) :
    current.peers.count = kRewardPeerCapacity := by
  rw [progress.count]
  omega

/-- The slot that is given away, and what is in it. -/
theorem Progress.victim (full : kRewardPeerCapacity ≤
      state.peers.count + (newcomers state before).length) :
    ∃ victim, current.peers.entries[
        (oldestPeer current.peers.slots).val]? = some victim ∧
      ∀ peer ∈ current.peers.entries, rewardAge victim ≤ rewardAge peer := by
  have count := progress.full full
  have entries : current.peers.entries = current.peers.slots.toList := by
    rw [SlotTable.entries, count, List.take_of_length_le]
    rw [Vector.length_toList]
  refine ⟨current.peers.slots[oldestPeer current.peers.slots], ?_, ?_⟩
  · rw [entries, Vector.getElem?_toList]
    simp
  · intro peer member
    rw [entries, Vector.mem_toList_iff] at member
    rcases Vector.getElem_of_mem member with ⟨index, bound, rfl⟩
    exact oldestPeer_le current.peers.slots index bound

/-- With room for the hunt, the slot is that of the next bystander. -/
theorem Progress.bystander_victim
    (distinct : (state.peers.entries.map (·.uid)).Nodup)
    (room : ∀ record ∈ huntRecords state completed before,
      evictions state before < seniors state completed record)
    {victim : PeerRewardState} (member : victim ∈ current.peers.entries)
    (least : ∀ peer ∈ current.peers.entries, rewardAge victim ≤ rewardAge peer) :
    victim ∈ bystanders state completed ∧
      seniors state completed victim = evictions state before := by
  have enough : ¬ evictions state before < seniors state completed victim := by
    intro more
    rw [seniors_eq] at more
    rcases Seniority.exists_of_lt_rank (bystander_ages distinct) more with
      ⟨senior, bystander, older, ranked⟩
    rw [← seniors_eq] at ranked
    have present := (progress.members senior).mpr
      (.inr ⟨bystander, Nat.le_of_eq ranked.symm⟩)
    have later := least senior present
    omega
  rcases (progress.members victim).mp member with hunted | ⟨bystander, late⟩
  · exact absurd (room victim hunted) enough
  · exact ⟨bystander, by omega⟩

/-- Without it, the slot is that of a peer of the hunt. -/
theorem Progress.hunted_victim
    (inside : ∀ uid ∈ before, uid ∈ completed.participants)
    (hunted : record ∈ huntRecords state completed before)
    (crowded : seniors state completed record ≤ evictions state before)
    {victim : PeerRewardState} (member : victim ∈ current.peers.entries)
    (least : ∀ peer ∈ current.peers.entries, rewardAge victim ≤ rewardAge peer) :
    victim ∈ huntRecords state completed before := by
  rcases (progress.members victim).mp member with found | ⟨bystander, late⟩
  · exact found
  · have younger := least record ((progress.members record).mpr (.inl hunted))
    have different : rewardAge victim ≠ rewardAge record := by
      intro same
      apply (mem_bystanders.mp bystander).2
      rw [rewardAge_inj same]
      exact huntRecords_uid hunted inside
    have outranked := Seniority.rank_lt bystander
      (Nat.lt_of_le_of_ne younger different)
    rw [← seniors_eq, ← seniors_eq] at outranked
    omega

/-- A new peer takes the slot of the next bystander. -/
theorem Progress.evicted (distinct : (state.peers.entries.map (·.uid)).Nodup)
    (inside : ∀ uid ∈ before, uid ∈ completed.participants)
    (unknown : Unknown state uid) (waiting : uid ∉ before)
    (full : kRewardPeerCapacity ≤
      state.peers.count + (newcomers state before).length)
    (room : ∀ record ∈ huntRecords state completed before,
      evictions state before < seniors state completed record) :
    Progress state completed (before ++ [uid])
      (rewardPeer completed current uid) := by
  have missing := progress.unknown unknown waiting
  have count := progress.full full
  rcases progress.victim full with ⟨victim, stored, least⟩
  have member := List.mem_of_getElem? stored
  rcases progress.bystander_victim distinct room member least with
    ⟨bystander, ranked⟩
  have next : evictions state (before ++ [uid]) =
      evictions state before + 1 := by
    rw [evictions, newcomers_concat_unknown unknown, List.length_append,
      List.length_singleton, evictions]
    omega
  rw [rewardPeer_evicted missing (by omega)]
  refine ⟨?_, ?_, ?_⟩
  · rw [newcomers_concat_unknown unknown, List.length_append,
      List.length_singleton, SlotTable.count_write]
    omega
  · show ((current.peers.write _ _).entries.map (·.uid)).Nodup
    rw [SlotTable.entries_write, List.map_set]
    refine progress.distinct.set fun found => ?_
    rcases List.mem_map.mp found with ⟨peer, kept, named⟩
    exact missing peer kept named
  · intro other
    rw [SlotTable.mem_replaced _ (·.uid) stored progress.distinct,
      mem_huntRecords_concat waiting, previous_unknown unknown,
      progress.members, next]
    constructor
    · rintro (same | ⟨different, hunted | ⟨kept, late⟩⟩)
      · exact .inl (.inl same)
      · refine .inl (.inr ⟨?_, hunted⟩)
        exact missing other ((progress.members other).mpr (.inl hunted))
      · refine .inr ⟨kept, Nat.lt_of_le_of_ne late fun equal => ?_⟩
        have younger := least other
          ((progress.members other).mpr (.inr ⟨kept, late⟩))
        have apart : rewardAge victim ≠ rewardAge other :=
          fun same => different (rewardAge_inj same).symm
        have outranked := Seniority.rank_lt bystander
          (Nat.lt_of_le_of_ne younger apart)
        rw [← seniors_eq, ← seniors_eq] at outranked
        omega
    · rintro ((same | ⟨different, hunted⟩) | ⟨kept, late⟩)
      · exact .inl same
      · refine .inr ⟨?_, .inl hunted⟩
        intro same
        apply (mem_bystanders.mp bystander).2
        rw [← same]
        exact huntRecords_uid hunted inside
      · refine .inr ⟨?_, .inr ⟨kept, by omega⟩⟩
        intro same
        have equal : other = victim :=
          List.inj_on_of_nodup_map distinct (mem_bystanders.mp kept).1
            (mem_bystanders.mp bystander).1 same
        rw [equal] at late
        omega

end

/-! ## The end of the loop -/

/-- A loop that only ever gave bystanders' slots away kept the history. -/
theorem Progress.kept {eligible : List UInt16}
    (progress : Progress state completed eligible current)
    (distinct : (state.peers.entries.map (·.uid)).Nodup)
    (inside : ∀ uid ∈ eligible, uid ∈ completed.participants) :
    HistoryKept state current completed eligible := by
  have rewarded (uid : UInt16) (member : uid ∈ eligible) :
      rewardedNow completed (previous state uid) ∈ current.peers.entries :=
    (progress.members _).mpr
      (.inl (mem_huntRecords.mpr (.inl ⟨uid, member, rfl⟩)))
  have outside : ∀ peer ∈ state.peers.entries, Unknown current peer.uid →
      peer.uid ∉ completed.participants := by
    intro peer member gone participant
    by_cases counted : peer.uid ∈ eligible
    · exact gone _ (rewarded peer.uid counted) (rewardedNow_previous_uid _)
    · apply gone peer _ rfl
      exact (progress.members peer).mpr
        (.inl (mem_huntRecords.mpr (.inr ⟨member, participant, counted⟩)))
  refine ⟨?_, ?_, outside, ?_⟩
  · intro peer member counted
    refine ⟨_, rewarded peer.uid counted, rewardedNow_previous_uid _, ?_⟩
    rw [previous_known distinct member, rewardedNow]
  · intro uid counted unknown
    refine ⟨_, rewarded uid counted, rewardedNow_previous_uid _, ?_⟩
    rw [previous_unknown unknown]
    exact (by decide : saturatingAdd16 0 1 = 1)
  · intro peer member gone other stored apart present
    have bystander : peer ∈ bystanders state completed :=
      mem_bystanders.mpr ⟨member, outside peer member gone⟩
    have early : seniors state completed peer < evictions state eligible := by
      apply Nat.lt_of_not_le
      intro late
      exact gone peer ((progress.members peer).mpr (.inr ⟨bystander, late⟩)) rfl
    simp only [Unknown, not_forall, not_not] at present
    rcases present with ⟨copy, found, named⟩
    have late : evictions state eligible ≤ seniors state completed other := by
      rcases (progress.members copy).mp found with hunted | ⟨kept, late⟩
      · exact absurd (named ▸ huntRecords_uid hunted inside) apart
      · have same : copy = other :=
          List.inj_on_of_nodup_map distinct (mem_bystanders.mp kept).1 stored
            named
        exact same ▸ late
    rw [olderReward_iff]
    apply Nat.lt_of_not_le
    intro older
    have outranked := @Seniority.rank_mono _ rewardAge
      (bystanders state completed) _ _ older
    rw [← seniors_eq, ← seniors_eq] at outranked
    omega

/-- What the records of a peer satisfy, they satisfy until its own turn. -/
theorem rewardPeers_other {property : PeerRewardState → Prop}
    {uids : List UInt16} (absent : uid ∉ uids)
    (distinct : (current.peers.entries.map (·.uid)).Nodup)
    (holds : ∀ peer ∈ current.peers.entries, peer.uid = uid → property peer) :
    ∀ peer ∈ (uids.foldl (rewardPeer completed) current).peers.entries,
      peer.uid = uid → property peer := by
  induction uids generalizing current with
  | nil => exact holds
  | cons next uids induction =>
    have recorded := rewardPeer_cases completed current next
    apply induction (fun later => absent (List.mem_cons_of_mem _ later))
      (recorded.distinct distinct)
    intro peer member named
    rcases recorded.mem distinct member with ⟨old, same, rfl⟩ | ⟨-, kept⟩
    · rw [rewardedNow_uid, same] at named
      exact absurd (named ▸ List.mem_cons_self) absent
    · exact holds peer kept named

/-- A peer that lost its record starts again from one. -/
theorem rewardPeers_anew {uids : List UInt16} (unrepeated : uids.Nodup)
    (distinct : (current.peers.entries.map (·.uid)).Nodup)
    (gone : Unknown current uid) :
    ∀ peer ∈ (uids.foldl (rewardPeer completed) current).peers.entries,
      peer.uid = uid → peer.rewardedParties = 1 := by
  induction uids generalizing current with
  | nil => exact fun peer member named => absurd named (gone peer member)
  | cons next uids induction =>
    have recorded := rewardPeer_cases completed current next
    rw [List.nodup_cons] at unrepeated
    by_cases turn : next = uid
    · subst turn
      have single : saturatingAdd16 0 1 = 1 := by decide
      refine @rewardPeers_other completed _ next (·.rewardedParties = 1) uids
        unrepeated.1 (recorded.distinct distinct) ?_
      generalize rewardPeer completed current next = after at recorded ⊢
      intro peer member named
      cases recorded with
      | known index old stored same =>
        exact absurd same (gone old (List.mem_of_getElem? stored))
      | added unknown room =>
        rw [SlotTable.entries_push _ _ room, List.mem_append,
          List.mem_singleton] at member
        rcases member with kept | rfl
        · exact absurd named (gone peer kept)
        · exact single
      | evicted index unknown used =>
        rw [SlotTable.entries_write] at member
        rcases List.mem_or_eq_of_mem_set member with kept | rfl
        · exact absurd named (gone peer kept)
        · exact single
    · apply induction unrepeated.2 (recorded.distinct distinct)
      intro peer member named
      rcases recorded.mem distinct member with ⟨old, same, rfl⟩ | ⟨-, kept⟩
      · rw [rewardedNow_uid, same] at named
        exact turn named
      · exact gone peer kept named

/-- A record of the hunt whose slot was given away is missed at the end. -/
theorem history_lost {victim : PeerRewardState}
    (parties : ∀ peer ∈ state.peers.entries, peer.rewardedParties ≠ 0)
    (unrepeated : (before ++ uid :: later).Nodup)
    (hunted : victim ∈ huntRecords state completed before)
    (distinct : (current.peers.entries.map (·.uid)).Nodup)
    (gone : Unknown current victim.uid) :
    ¬ HistoryKept state (later.foldl (rewardPeer completed) current) completed
      (before ++ uid :: later) := by
  intro history
  have vanished (absent : victim.uid ∉ later) :
      Unknown (later.foldl (rewardPeer completed) current) victim.uid := by
    intro peer member named
    exact @rewardPeers_other completed current victim.uid (fun _ => False)
      later absent distinct (fun peer member named => gone peer member named)
      peer member named
  rw [List.nodup_append] at unrepeated
  rcases unrepeated with ⟨-, after, separate⟩
  rcases mem_huntRecords.mp hunted with ⟨early, member, rfl⟩ |
    ⟨stored, participant, waiting⟩
  · rw [rewardedNow_previous_uid] at vanished gone
    have absent : early ∉ later := fun again =>
      separate early member early (List.mem_cons_of_mem _ again) rfl
    have counted : early ∈ before ++ uid :: later :=
      List.mem_append_left _ member
    by_cases known : Unknown state early
    · rcases history.fresh early counted known with ⟨kept, found, named, -⟩
      exact vanished absent kept found named
    · simp only [Unknown, not_forall, not_not] at known
      rcases known with ⟨peer, stored, rfl⟩
      rcases history.known peer stored counted with ⟨kept, found, named, -⟩
      exact vanished absent kept found named
  · by_cases turn : victim.uid ∈ later
    · have counted : victim.uid ∈ before ++ uid :: later :=
        List.mem_append_right _ (List.mem_cons_of_mem _ turn)
      rcases history.known victim stored counted with
        ⟨kept, found, named, grown⟩
      have anew := @rewardPeers_anew completed current victim.uid later
        (List.nodup_cons.mp after).2 distinct gone kept found named
      rw [anew] at grown
      have sum := toNat_saturatingAdd16 victim.rewardedParties 1
      rw [← grown] at sum
      have positive : victim.rewardedParties.toNat ≠ 0 := by
        intro zero
        exact parties victim stored (UInt16.toNat.inj zero)
      have one : (1 : UInt16).toNat = 1 := rfl
      omega
    · exact history.outside victim stored (vanished turn) participant

/-- A full table without a bystander to forget gives a hunt's slot away. -/
theorem Progress.lost (progress : Progress state completed before current)
    (parties : ∀ peer ∈ state.peers.entries, peer.rewardedParties ≠ 0)
    (unrepeated : (before ++ uid :: later).Nodup)
    (inside : ∀ uid ∈ before, uid ∈ completed.participants)
    (unknown : Unknown state uid) (full : kRewardPeerCapacity ≤
      state.peers.count + (newcomers state before).length)
    (hunted : record ∈ huntRecords state completed before)
    (crowded : seniors state completed record ≤ evictions state before) :
    ¬ HistoryKept state
      (later.foldl (rewardPeer completed) (rewardPeer completed current uid))
      completed (before ++ uid :: later) := by
  have waiting : uid ∉ before := fun early =>
    (List.nodup_append.mp unrepeated).2.2 uid early uid List.mem_cons_self rfl
  have missing := progress.unknown unknown waiting
  have count := progress.full full
  rcases progress.victim full with ⟨victim, stored, least⟩
  have member := List.mem_of_getElem? stored
  have found := progress.hunted_victim inside hunted crowded member least
  apply history_lost parties unrepeated found
  · exact (rewardPeer_cases completed current uid).distinct progress.distinct
  · rw [rewardPeer_evicted missing (by omega)]
    intro other kept named
    rcases (SlotTable.mem_replaced _ (·.uid) stored progress.distinct).mp kept
      with rfl | ⟨different, -⟩
    · exact missing victim member named.symm
    · exact different named

/-- The history is kept if and only if there is room at every newcomer. -/
theorem Progress.history_iff (progress : Progress state completed before current)
    (distinct : (state.peers.entries.map (·.uid)).Nodup)
    (parties : ∀ peer ∈ state.peers.entries, peer.rewardedParties ≠ 0)
    (unrepeated : (before ++ later).Nodup)
    (inside : ∀ uid ∈ before ++ later, uid ∈ completed.participants) :
    HistoryKept state (later.foldl (rewardPeer completed) current) completed
        (before ++ later) ↔
      ∀ middle uid rest, later = middle ++ uid :: rest →
        RoomAt state completed (before ++ middle) uid := by
  induction later generalizing before current with
  | nil =>
    constructor
    · intro _ middle uid rest split
      simp at split
    · intro _
      rw [List.append_nil] at inside ⊢
      exact progress.kept distinct inside
  | cons uid later induction =>
    have waiting : uid ∉ before := fun early =>
      (List.nodup_append.mp unrepeated).2.2 uid early uid List.mem_cons_self
        rfl
    have early : ∀ other ∈ before, other ∈ completed.participants :=
      fun other member => inside other (List.mem_append_left _ member)
    have shift : before ++ uid :: later = (before ++ [uid]) ++ later := by
      simp
    have onward (next : Progress state completed (before ++ [uid])
          (rewardPeer completed current uid))
        (room : RoomAt state completed before uid) :
        HistoryKept state ((uid :: later).foldl (rewardPeer completed)
            current) completed (before ++ uid :: later) ↔
          ∀ middle other rest, uid :: later = middle ++ other :: rest →
            RoomAt state completed (before ++ middle) other := by
      rw [List.foldl_cons, shift, induction next (shift ▸ unrepeated)
        (shift ▸ inside)]
      constructor
      · intro later middle other rest split
        cases middle with
        | nil =>
          cases split
          rw [List.append_nil]
          exact room
        | cons first middle =>
          cases split
          simpa using later middle other rest rfl
      · rintro all middle other rest rfl
        simpa using all (uid :: middle) other rest rfl
    by_cases unknown : Unknown state uid
    · by_cases full : kRewardPeerCapacity ≤
          state.peers.count + (newcomers state before).length
      · by_cases room : ∀ record ∈ huntRecords state completed before,
            evictions state before < seniors state completed record
        · exact onward (progress.evicted distinct early unknown waiting full
            room) (fun _ _ => room)
        · constructor
          · intro history
            simp only [not_forall, Nat.not_lt] at room
            rcases room with ⟨record, hunted, crowded⟩
            exact absurd history (progress.lost parties unrepeated early
              unknown full hunted crowded)
          · intro all
            have here := all [] uid later rfl
            rw [List.append_nil] at here
            exact absurd (here unknown full) room
      · exact onward (progress.added unknown waiting (by omega))
          (fun _ crowded => absurd crowded full)
    · have room : RoomAt state completed before uid :=
        fun new => absurd new unknown
      simp only [Unknown, not_forall, not_not] at unknown
      rcases unknown with ⟨peer, member, rfl⟩
      exact onward (progress.known member distinct waiting
        (inside _ (by simp))) room

end Hunt

/-! ## Awarded hunts -/

theorem HistoryKept.congr {state left right : RewardState}
    {completed : CompletedHuntReward} {eligible : List UInt16}
    (same : left.peers = right.peers)
    (history : HistoryKept state left completed eligible) :
    HistoryKept state right completed eligible := by
  rcases history with ⟨known, fresh, outside, oldestFirst⟩
  simp only [Unknown, same] at known fresh outside oldestFirst
  exact ⟨known, fresh, outside, oldestFirst⟩

theorem Valid.parties {state : RewardState} (valid : Valid state) :
    ∀ peer ∈ state.peers.entries, peer.rewardedParties ≠ 0 :=
  fun peer member => (valid.peers.valid peer member).parties

/-- An awarded hunt does to the table what the reward loop does. -/
theorem awarded_loop {state : RewardState} {completed : CompletedHuntReward}
    {peerCooldownSeconds : UInt32}
    (awarded : (recordCompletedHunt { state } completed
      peerCooldownSeconds).status = .awarded) :
    Accepted state completed ∧
      (HistoryKept state (recordCompletedHunt { state } completed
            peerCooldownSeconds).ledger.state completed
          (eligibleUids state completed peerCooldownSeconds) ↔ HistoryKept state
          ((eligibleUids state completed peerCooldownSeconds).foldl
            (rewardPeer completed) (observeHunt state completed)) completed
          (eligibleUids state completed peerCooldownSeconds)) := by
  have answer := record_reply state completed peerCooldownSeconds
  generalize recordCompletedHunt { state } completed peerCooldownSeconds =
    reply at answer awarded
  cases answer with
  | invalid _ => cases awarded
  | duplicate _ => cases awarded
  | regressed _ => cases awarded
  | observed _ _ => cases awarded
  | awarded accepted rewarding outcome bond =>
    have table := rewarded_peers state completed
      (eligibleUids state completed peerCooldownSeconds)
    exact ⟨accepted, HistoryKept.congr table, HistoryKept.congr table.symm⟩

/--
An awarded hunt keeps the history of its peers exactly when at every newcomer
that finds the table full a bystander is left to forget.
-/
theorem history_kept_iff {state : RewardState}
    (valid : validateRewardState state = true)
    {completed : CompletedHuntReward} {peerCooldownSeconds : UInt32}
    (awarded : (recordCompletedHunt { state } completed
      peerCooldownSeconds).status = .awarded) :
    HistoryKept state
        (recordCompletedHunt { state } completed
          peerCooldownSeconds).ledger.state completed
        (eligibleUids state completed peerCooldownSeconds) ↔
      RoomForHunt state completed
        (eligibleUids state completed peerCooldownSeconds) := by
  have sound := validateRewardState_iff.mp valid
  rcases awarded_loop awarded with ⟨accepted, loop⟩
  rw [loop]
  have first := @Progress.first state completed (observeHunt state completed)
    sound.peers.packed.inside sound.peers.distinct rfl
  exact first.history_iff sound.peers.distinct
    sound.parties (accepted.wellFormed.distinct.filter _)
    (fun uid member => (List.mem_filter.mp member).1)

/-! ## A newcomer before the oldest peer -/

/-- Twelve peers, met one after another on day 9. -/
def fullTable : RewardState where
  partyBond := 60
  completedHunts := 60
  rewardedHunts := 60
  rewardedPeerEvents := 60
  lastObservedDayId := 9
  lastObservedEpochSeconds := 200
  lastStreakDayId := 9
  currentStreakDays := 1
  longestStreakDays := 1
  peers := ⟨Vector.ofFn fun index =>
    { uid := UInt16.ofNat (index.val + 2)
      rewardedParties := 5
      lastRewardDayId := 9
      lastRewardEpochSeconds := UInt32.ofNat (index.val + 100) }, 12⟩
  recentSessions := ⟨#v[7, 0, 0, 0, 0, 0, 0, 0], 1, 1⟩

/-- The next day, with a newcomer and the peer met first. -/
def newcomerFirst : CompletedHuntReward where
  selfUid := 1
  participantUids := #v[1, 20, 2, 0]
  participantCount := 3
  sessionNonce := 8
  resultProof := 1
  dayId := 10
  nowEpochSeconds := 1000

theorem fullTable_valid : validateRewardState fullTable = true := by
  decide

theorem newcomerFirst_awarded :
    (recordCompletedHunt { state := fullTable } newcomerFirst 600).status =
      .awarded := by
  decide

theorem newcomerFirst_history_iff :
    HistoryKept fullTable
        (recordCompletedHunt { state := fullTable } newcomerFirst
          600).ledger.state newcomerFirst
        (eligibleUids fullTable newcomerFirst 600) ↔
      RoomForHunt fullTable newcomerFirst
        (eligibleUids fullTable newcomerFirst 600) :=
  history_kept_iff fullTable_valid newcomerFirst_awarded

/-- The peer met first starts again from one. -/
theorem history_not_kept :
    ¬ ∀ state completed peerCooldownSeconds,
      validateRewardState state = true →
      (recordCompletedHunt { state } completed
        peerCooldownSeconds).status = .awarded →
      HistoryKept state
        (recordCompletedHunt { state } completed
          peerCooldownSeconds).ledger.state completed
        (eligibleUids state completed peerCooldownSeconds) := by
  intro kept
  have history := kept fullTable newcomerFirst 600 fullTable_valid
    newcomerFirst_awarded
  have sound := validateRewardState_iff.mp fullTable_valid
  have eligible : eligibleUids fullTable newcomerFirst 600 = [20, 2] := by
    decide
  rw [(awarded_loop newcomerFirst_awarded).2, eligible, List.foldl_cons]
    at history
  have first := @Progress.first fullTable newcomerFirst
    (observeHunt fullTable newcomerFirst) sound.peers.packed.inside
    sound.peers.distinct rfl
  have unrepeated : (([] : List UInt16) ++ 20 :: [2]).Nodup := by decide
  have unknown : Unknown fullTable 20 := findPeer_none.mp (by decide)
  have hunted : (⟨2, 5, 9, 100⟩ : PeerRewardState) ∈
      huntRecords fullTable newcomerFirst [] := by
    decide
  have crowded : seniors fullTable newcomerFirst ⟨2, 5, 9, 100⟩ ≤
      evictions fullTable [] := by
    decide
  have full : kRewardPeerCapacity ≤ fullTable.peers.count +
      (newcomers fullTable []).length := by
    decide
  exact first.lost sound.parties unrepeated nofun unknown full hunted crowded
    history

end Kitsu.Party
