import Mathlib.Data.Set.Insert
import Mathlib.Data.Int.Order.Basic
import Kitsu.Party.RewardIntegrity

/-!
# Runs of the reward ledger

A run is a list of recorded hunts and of restarts that restore the ledger's own
snapshot; `replies` are the answers to its hunts.  `Reply` says what one answer
can be.  From it follow, for whole runs, that the state stays valid, that the
session ring holds the last eight nonces, and that the streak counts consecutive
days with a reward: `Streak` compares the two fields of the streak with the set
of these days, to which a restored snapshot contributes the days it counts.
-/

namespace Kitsu.Party

open Kitsu.Lib
open Kitsu.Lib.Run

/-- The calls of the ledger. -/
inductive Call where
  | record (completed : CompletedHuntReward) (peerCooldownSeconds : UInt32)
  | saveAndRestore

/-- A call by its name. -/
def step (ledger : PartyRewardLedger) : Call → PartyRewardLedger
  | .record completed peerCooldownSeconds =>
    (recordCompletedHunt ledger completed peerCooldownSeconds).ledger
  | .saveAndRestore => (restore ledger.state).2

/-- The hunts of a run with their answers. -/
def replies (ledger : PartyRewardLedger) :
    List Call → List (CompletedHuntReward × RewardReply)
  | [] => []
  | .record completed peerCooldownSeconds :: later =>
    (completed, recordCompletedHunt ledger completed peerCooldownSeconds) ::
      replies (recordCompletedHunt ledger completed
        peerCooldownSeconds).ledger later
  | .saveAndRestore :: later => replies (restore ledger.state).2 later

/-! ## One answer -/

/-- What a ledger in use can answer to a hunt. -/
inductive Reply (state : RewardState) (completed : CompletedHuntReward)
    (peerCooldownSeconds : UInt32) : RewardReply → Prop where
  | invalid : validCompletedHunt completed = false →
      Reply state completed peerCooldownSeconds
        { status := .invalidInput, ledger := { state } }
  | duplicate : seenSession state completed.sessionNonce = true →
      Reply state completed peerCooldownSeconds
        { status := .duplicateSession, ledger := { state } }
  | regressed : clockRegressed state completed = true →
      Reply state completed peerCooldownSeconds
        { status := .clockRegression, ledger := { state } }
  | observed (accepted : Accepted state completed)
      (unrewarding : eligibleUids state completed peerCooldownSeconds = []) :
      Reply state completed peerCooldownSeconds
        { status := .recordedNoEligiblePeer
          ledger := { state := observeHunt state completed }
          output := some {
            partyBondAfter := state.partyBond
            currentStreakDays := state.currentStreakDays
            longestStreakDays := state.longestStreakDays } }
  | awarded (accepted : Accepted state completed)
      (rewarding : eligibleUids state completed peerCooldownSeconds ≠ [])
      (outcome : RewardOutcome)
      (bond : outcome.bondAwarded = bondFor completed
        (eligibleUids state completed peerCooldownSeconds).length) :
      Reply state completed peerCooldownSeconds
        { status := .awarded
          ledger := ⟨rewarded state completed
            (eligibleUids state completed peerCooldownSeconds), true⟩
          output := some outcome }

theorem record_reply (state : RewardState) (completed : CompletedHuntReward)
    (peerCooldownSeconds : UInt32) :
    Reply state completed peerCooldownSeconds
      (recordCompletedHunt { state } completed peerCooldownSeconds) := by
  simp only [recordCompletedHunt, Bool.not_true, Bool.false_eq_true, if_false]
  split
  · rename_i invalid
    exact .invalid (by simpa using invalid)
  · rename_i valid
    split
    · rename_i seen
      exact .duplicate seen
    · rename_i unseen
      split
      · rename_i regressed
        exact .regressed regressed
      · rename_i forward
        have accepted : Accepted state completed :=
          ⟨by simpa using valid, by simpa using unseen, by simpa using forward⟩
        split
        · rename_i unrewarding
          exact .observed accepted (by simpa using unrewarding)
        · rename_i rewarding
          exact .awarded accepted (by simpa using rewarding) _ rfl

theorem restore_valid {state : RewardState} (valid : Valid state) :
    restore state = (.awarded, { state }) := by
  have passed := validateRewardState_iff.mpr valid
  rw [restore, if_neg, if_neg]
  · simp [passed]
  · simp [valid.schema]

theorem eligible_named {state : RewardState} {completed : CompletedHuntReward}
    (accepted : Accepted state completed) (cooldown : UInt32) :
    ∀ uid ∈ eligibleUids state completed cooldown, uid ≠ 0 := by
  intro uid member
  exact accepted.wellFormed.named uid (List.mem_filter.mp member).1

theorem Reply.valid {state : RewardState} {completed : CompletedHuntReward}
    {cooldown : UInt32} {reply : RewardReply}
    (answer : Reply state completed cooldown reply) (valid : Valid state) :
    ∃ after, reply.ledger = { state := after } ∧ Valid after := by
  cases answer with
  | invalid _ => exact ⟨state, rfl, valid⟩
  | duplicate _ => exact ⟨state, rfl, valid⟩
  | regressed _ => exact ⟨state, rfl, valid⟩
  | observed accepted _ => exact ⟨_, rfl, accepted.observeHunt valid⟩
  | awarded accepted rewarding outcome _ =>
    exact ⟨_, rfl, accepted.rewarded valid (eligible_named accepted cooldown)
      rewarding (eligibleUids_length completed state cooldown)⟩

/-- A ledger that may be used, in a valid state. -/
def Usable (ledger : PartyRewardLedger) : Prop :=
  ledger.available = true ∧ Valid ledger.state

theorem Usable.step {ledger : PartyRewardLedger} (usable : Usable ledger)
    (call : Call) : Usable (step ledger call) := by
  rcases ledger with ⟨state, available⟩
  rcases usable with ⟨rfl, valid⟩
  cases call with
  | record completed cooldown =>
    rcases (record_reply state completed cooldown).valid valid with
      ⟨after, same, valid⟩
    rw [Party.step, same]
    exact ⟨rfl, valid⟩
  | saveAndRestore =>
    rw [Party.step, restore_valid valid]
    exact ⟨rfl, valid⟩

variable {ledger : PartyRewardLedger}

theorem usable_exec (usable : Usable ledger) (calls : List Call) :
    Usable (exec Party.step ledger calls) :=
  exec_invariant usable (fun _ call here => here.step call) calls

/-! ## What a reward changes -/

theorem rewarded_peers (state : RewardState) (completed : CompletedHuntReward)
    (uids : List UInt16) :
    (rewarded state completed uids).peers =
      (uids.foldl (rewardPeer completed) (observeHunt state completed)).peers := by
  rw [rewarded, advanceStreak]
  split <;> rfl

section Rewarded

variable (state : RewardState) (completed : CompletedHuntReward)
  (uids : List UInt16)

theorem rewarded_same (same : state.lastStreakDayId = completed.dayId) :
    (rewarded state completed uids).lastStreakDayId = completed.dayId ∧
      (rewarded state completed uids).currentStreakDays =
        state.currentStreakDays ∧
      (rewarded state completed uids).longestStreakDays =
        state.longestStreakDays := by
  rw [rewarded, rewardPeers_frame]
  generalize counts : countRewards _ _ _ = counted
  have last : counted.lastStreakDayId = state.lastStreakDayId := by
    rw [← counts]
    rfl
  rw [advanceStreak_same (last.trans same)]
  subst counts
  exact ⟨same, rfl, rfl⟩

theorem rewarded_other (other : state.lastStreakDayId ≠ completed.dayId) :
    (rewarded state completed uids).lastStreakDayId = completed.dayId ∧
      (rewarded state completed uids).currentStreakDays =
        streakOn state completed.dayId ∧
      (rewarded state completed uids).longestStreakDays.toNat =
        max state.longestStreakDays.toNat
          (streakOn state completed.dayId).toNat := by
  rw [rewarded, rewardPeers_frame]
  generalize counts : countRewards _ _ _ = counted
  have last : counted.lastStreakDayId = state.lastStreakDayId := by
    rw [← counts]
    rfl
  have streak : streakOn counted completed.dayId =
      streakOn state completed.dayId := by
    rw [← counts]
    rfl
  have longest : counted.longestStreakDays = state.longestStreakDays := by
    rw [← counts]
    rfl
  rw [advanceStreak_other (last ▸ other), streak, longest]
  exact ⟨rfl, rfl, toNat_longer _ _⟩

theorem rewarded_bond :
    (rewarded state completed uids).partyBond =
      saturatingAdd32 state.partyBond
        (UInt32.ofNat (bondFor completed uids.length)) := by
  rw [rewarded, rewardPeers_frame, advanceStreak]
  split <;> rfl

theorem rewarded_sessions :
    (rewarded state completed uids).recentSessions =
      rememberSession state.recentSessions completed.sessionNonce := by
  rw [rewarded, rewardPeers_frame, advanceStreak]
  split <;> rfl

end Rewarded

/-! ## The session ring -/

/-- The hunt was counted, with or without a reward. -/
def RewardReply.counted (reply : RewardReply) : Bool :=
  reply.status == .awarded || reply.status == .recordedNoEligiblePeer

/-- The nonces of the counted hunts, the last one first. -/
def recordedNonces (trace : List (CompletedHuntReward × RewardReply)) :
    List UInt32 :=
  ((trace.filter (·.2.counted)).map (·.1.sessionNonce)).reverse

theorem recordedNonces_cons (completed : CompletedHuntReward) (reply : RewardReply)
    (later : List (CompletedHuntReward × RewardReply)) :
    recordedNonces ((completed, reply) :: later) =
      recordedNonces later ++
        if reply.counted then [completed.sessionNonce] else [] := by
  cases counts : reply.counted <;> simp [recordedNonces, counts]

theorem Reply.sessions {state : RewardState} {completed : CompletedHuntReward}
    {cooldown : UInt32} {reply : RewardReply}
    (answer : Reply state completed cooldown reply) (valid : Valid state) :
    reply.ledger.state.recentSessions.newestFirst =
      ((if reply.counted then [completed.sessionNonce] else []) ++
        state.recentSessions.newestFirst).take kRecentSessionCapacity := by
  have short : state.recentSessions.newestFirst.length ≤
      kRecentSessionCapacity := by
    simpa [RingBuffer.newestFirst] using valid.sessions.filled.count_le
  have pushed := valid.sessions.filled.newestFirst_push completed.sessionNonce
  rw [← rememberSession_eq_push valid.sessions] at pushed
  cases answer with
  | invalid _ => exact (List.take_of_length_le short).symm
  | duplicate _ => exact (List.take_of_length_le short).symm
  | regressed _ => exact (List.take_of_length_le short).symm
  | observed _ _ => exact pushed
  | awarded _ _ _ _ =>
    rw [rewarded_sessions]
    exact pushed

/-- The ring holds the nonces of the last eight counted hunts. -/
theorem sessions_of_replies (usable : Usable ledger) (calls : List Call) :
    (exec step ledger calls).state.recentSessions.newestFirst =
      (recordedNonces (replies ledger calls) ++
        ledger.state.recentSessions.newestFirst).take
          kRecentSessionCapacity := by
  induction calls generalizing ledger with
  | nil =>
    refine (List.take_of_length_le ?_).symm
    simpa [recordedNonces, replies, RingBuffer.newestFirst] using
      usable.2.sessions.filled.count_le
  | cons call later induction =>
    have next := induction (usable.step call)
    rcases ledger with ⟨state, available⟩
    rcases usable with ⟨rfl, valid⟩
    cases call with
    | record completed cooldown =>
      have answer := (record_reply state completed cooldown).sessions valid
      simp only [exec, List.foldl_cons, step, replies] at next ⊢
      rw [next, answer, take_append_take, recordedNonces_cons, List.append_assoc]
    | saveAndRestore =>
      simp only [exec, List.foldl_cons, step, replies,
        restore_valid valid] at next ⊢
      exact next

/-! ## The streak -/

/-- The number of consecutive days of a set that end with this one. -/
def IsStreak (days : Set ℤ) (last : ℤ) (length : ℕ) : Prop :=
  (∀ back : ℕ, back < length → last - back ∈ days) ∧ last - length ∉ days

/-- The streak fields describe this set of days with a reward. -/
structure Streak (days : Set ℤ) (state : RewardState) : Prop where
  bounded : ∀ day ∈ days, day ≤ state.lastStreakDayId.toNat
  unrewarded : state.lastStreakDayId = 0 → days = ∅
  counted : ∃ length, IsStreak days state.lastStreakDayId.toNat length ∧
    state.currentStreakDays.toNat = min length 65535

/-- The days a snapshot counts: as many as its streak is long. -/
def snapshotDays (state : RewardState) : Set ℤ :=
  { day | (state.lastStreakDayId.toNat : ℤ) - state.currentStreakDays.toNat < day ∧
    day ≤ state.lastStreakDayId.toNat }

/-- The days of the rewarded hunts of a run. -/
def awardedDays (trace : List (CompletedHuntReward × RewardReply)) : Set ℤ :=
  { day | ∃ entry ∈ trace, entry.2.status = .awarded ∧
    day = entry.1.dayId.toNat }

theorem streak_snapshot {state : RewardState} (valid : Valid state) :
    Streak (snapshotDays state) state := by
  refine ⟨fun day member => member.2, ?_, state.currentStreakDays.toNat, ?_, ?_⟩
  · intro unset
    have unrewarded : state.currentStreakDays = 0 := by
      by_cases none : state.rewardedHunts = 0
      · exact (valid.counted.unrewarded none).2.2.2.1
      · exact absurd unset (valid.counted.rewarded none).2.2.1
    apply Set.eq_empty_iff_forall_notMem.mpr
    rintro day ⟨after, before⟩
    rw [unset, unrewarded] at after
    rw [unset] at before
    simp at after before
    omega
  · constructor
    · intro back inside
      show _ < _ ∧ _ ≤ _
      omega
    · rintro ⟨after, -⟩
      omega
  · have bound := state.currentStreakDays.toNat_lt
    omega

/-- A rewarded hunt adds its day to the streak. -/
theorem Streak.rewarded {days : Set ℤ} {state : RewardState}
    (streak : Streak days state) {completed : CompletedHuntReward}
    (formed : WellFormed completed)
    (later : state.lastStreakDayId ≤ completed.dayId)
    (running : state.lastStreakDayId ≠ 0 → state.currentStreakDays ≠ 0)
    (uids : List UInt16) :
    Streak (insert (completed.dayId.toNat : ℤ) days)
      (rewarded state completed uids) := by
  rcases streak.counted with ⟨length, ⟨inside, outside⟩, counts⟩
  have known : state.lastStreakDayId = completed.dayId ∨
      state.lastStreakDayId ≠ completed.dayId :=
    eq_or_ne _ _
  rcases known with same | other
  · rcases rewarded_same state completed uids same with ⟨last, current, -⟩
    have started : (completed.dayId.toNat : ℤ) ∈ days := by
      have first := inside 0
      rw [same] at first
      apply (by simpa using first)
      have positive : state.currentStreakDays.toNat ≠ 0 := by
        intro zero
        exact running (same ▸ formed.day) (UInt16.toNat_inj.mp zero)
      omega
    rw [Set.insert_eq_of_mem started]
    refine ⟨?_, ?_, length, ?_, ?_⟩
    · rw [last, ← same]
      exact streak.bounded
    · intro unset
      exact absurd (last.symm.trans unset) formed.day
    · rw [last, ← same]
      exact ⟨inside, outside⟩
    · rw [current]
      exact counts
  · rcases rewarded_other state completed uids other with ⟨last, current, -⟩
    have strictly : state.lastStreakDayId.toNat < completed.dayId.toNat := by
      apply Nat.lt_of_le_of_ne later
      intro equal
      exact other (UInt32.toNat_inj.mp equal)
    refine ⟨?_, ?_, ?_⟩
    · intro day member
      rw [last]
      rcases member with rfl | member
      · exact le_refl _
      · have before := streak.bounded day member
        omega
    · intro unset
      exact absurd (last.symm.trans unset) formed.day
    · rw [last, current, streakOn]
      split
      · rename_i consecutive
        simp only [Bool.and_eq_true, beq_iff_eq] at consecutive
        have next : completed.dayId.toNat = state.lastStreakDayId.toNat + 1 := by
          have sum := congrArg UInt32.toNat consecutive.2
          simp only [UInt32.toNat_add, UInt32.toNat_one] at sum
          omega
        refine ⟨length + 1, ⟨?_, ?_⟩, ?_⟩
        · intro back below
          rcases back with - | back
          · exact Or.inl (by simp)
          · right
            have earlier := inside back (by omega)
            convert earlier using 1
            omega
        · rintro (equal | member)
          · omega
          · apply outside
            convert member using 1
            omega
        · rw [toNat_saturatingAdd16, counts]
          simp only [UInt16.toNat_one]
          omega
      · rename_i gap
        simp only [Bool.and_eq_true, bne_iff_ne, beq_iff_eq, not_and] at gap
        refine ⟨1, ⟨?_, ?_⟩, rfl⟩
        · intro back below
          have first : back = 0 := by omega
          rw [first]
          exact Or.inl (by simp)
        · rintro (equal | member)
          · omega
          · have before := streak.bounded _ member
            have next : completed.dayId = state.lastStreakDayId + 1 := by
              apply UInt32.toNat_inj.mp
              have bound := completed.dayId.toNat_lt
              simp only [UInt32.toNat_add, UInt32.toNat_one]
              omega
            have unset : state.lastStreakDayId = 0 := by
              by_contra set
              exact gap set next
            rw [streak.unrewarded unset] at member
            exact member

theorem Streak.kept {days : Set ℤ} {state after : RewardState}
    (streak : Streak days state)
    (last : after.lastStreakDayId = state.lastStreakDayId)
    (current : after.currentStreakDays = state.currentStreakDays) :
    Streak days after := by
  constructor
  · rw [last]
    exact streak.bounded
  · rw [last]
    exact streak.unrewarded
  · rw [last, current]
    exact streak.counted

theorem union_awardedDays (days : Set ℤ) (completed : CompletedHuntReward)
    {reply : RewardReply} (awarded : reply.status = .awarded) :
    days ∪ awardedDays [(completed, reply)] =
      insert (completed.dayId.toNat : ℤ) days := by
  ext day
  simp [awardedDays, awarded, or_comm]

theorem Reply.streak {days : Set ℤ} {state : RewardState}
    {completed : CompletedHuntReward} {cooldown : UInt32} {reply : RewardReply}
    (answer : Reply state completed cooldown reply) (valid : Valid state)
    (streak : Streak days state) :
    Streak (days ∪ awardedDays [(completed, reply)]) reply.ledger.state := by
  have unrewarded (other : reply.status ≠ .awarded) :
      awardedDays [(completed, reply)] = ∅ := by
    apply Set.eq_empty_iff_forall_notMem.mpr
    rintro day ⟨entry, member, awarded, -⟩
    rw [List.mem_singleton.mp member] at awarded
    exact other awarded
  cases answer with
  | invalid _ => rwa [unrewarded nofun, Set.union_empty]
  | duplicate _ => rwa [unrewarded nofun, Set.union_empty]
  | regressed _ => rwa [unrewarded nofun, Set.union_empty]
  | observed accepted _ =>
    rw [unrewarded nofun, Set.union_empty]
    exact streak.kept rfl rfl
  | awarded accepted _ outcome _ =>
    rw [union_awardedDays days completed rfl]
    have counted := valid.counted
    apply streak.rewarded accepted.wellFormed
    · by_cases none : state.rewardedHunts = 0
      · rw [(counted.unrewarded none).2.2.1]
        exact UInt32.le_iff_toNat_le.mpr (Nat.zero_le _)
      · exact UInt32.le_trans (counted.rewarded none).2.2.2.2.2.1
          accepted.day_le
    · intro set
      by_cases none : state.rewardedHunts = 0
      · exact absurd (counted.unrewarded none).2.2.1 set
      · exact (counted.rewarded none).2.2.2.1

theorem awardedDays_cons (entry : CompletedHuntReward × RewardReply)
    (later : List (CompletedHuntReward × RewardReply)) :
    awardedDays (entry :: later) = awardedDays [entry] ∪ awardedDays later := by
  ext day
  simp [awardedDays]

theorem streak_of_replies (usable : Usable ledger) {days : Set ℤ}
    (streak : Streak days ledger.state) (calls : List Call) :
    Streak (days ∪ awardedDays (replies ledger calls))
      (exec step ledger calls).state := by
  induction calls generalizing ledger days with
  | nil =>
    have none : awardedDays (replies ledger []) = ∅ := by
      simp [awardedDays, replies]
    rw [none, Set.union_empty]
    exact streak
  | cons call later induction =>
    have after := usable.step call
    rcases ledger with ⟨state, available⟩
    rcases usable with ⟨rfl, valid⟩
    cases call with
    | record completed cooldown =>
      have next := (record_reply state completed cooldown).streak valid streak
      rw [replies, awardedDays_cons, ← Set.union_assoc]
      exact induction after next
    | saveAndRestore =>
      rw [replies]
      simp only [step, restore_valid valid] at after
      simp only [exec, List.foldl_cons, step, restore_valid valid]
      exact induction after streak

/-! ## The longest streak and the bond -/

theorem Valid.current_le {state : RewardState} (valid : Valid state) :
    state.currentStreakDays.toNat ≤ state.longestStreakDays.toNat := by
  by_cases none : state.rewardedHunts = 0
  · rcases valid.counted.unrewarded none with ⟨-, -, -, current, longest, -⟩
    rw [current, longest]
  · exact (valid.counted.rewarded none).2.2.2.2.1

theorem Reply.longest {state : RewardState} {completed : CompletedHuntReward}
    {cooldown : UInt32} {reply : RewardReply}
    (answer : Reply state completed cooldown reply) (valid : Valid state) :
    reply.ledger.state.longestStreakDays.toNat =
      max state.longestStreakDays.toNat
        reply.ledger.state.currentStreakDays.toNat := by
  have idle := (Nat.max_eq_left valid.current_le).symm
  cases answer with
  | invalid _ => exact idle
  | duplicate _ => exact idle
  | regressed _ => exact idle
  | observed _ _ => exact idle
  | awarded accepted _ _ _ =>
    generalize eligibleUids state completed cooldown = uids
    by_cases same : state.lastStreakDayId = completed.dayId
    · rcases rewarded_same state completed uids same with
        ⟨-, current, longest⟩
      rw [current, longest]
      exact idle
    · rcases rewarded_other state completed uids same with
        ⟨-, current, longest⟩
      rw [current, longest]

/-- The longest streak is the largest one seen in a run. -/
structure RunningMaximum (longest : ℕ)
    (trace : List (CompletedHuntReward × RewardReply)) (final : ℕ) :
    Prop where
  start_le : longest ≤ final
  current_le : ∀ entry ∈ trace,
    entry.2.ledger.state.currentStreakDays.toNat ≤ final
  attained : final = longest ∨ ∃ entry ∈ trace,
    final = entry.2.ledger.state.currentStreakDays.toNat

theorem longest_of_replies (usable : Usable ledger) (calls : List Call) :
    RunningMaximum ledger.state.longestStreakDays.toNat (replies ledger calls)
      (exec step ledger calls).state.longestStreakDays.toNat := by
  induction calls generalizing ledger with
  | nil => exact ⟨le_refl _, fun _ member => absurd member List.not_mem_nil, .inl rfl⟩
  | cons call later induction =>
    have next := induction (usable.step call)
    rcases ledger with ⟨state, available⟩
    rcases usable with ⟨rfl, valid⟩
    cases call with
    | record completed cooldown =>
      have longest := (record_reply state completed cooldown).longest valid
      simp only [exec, List.foldl_cons, step, replies] at next ⊢
      constructor
      · have start := next.start_le
        omega
      · intro entry member
        rcases List.mem_cons.mp member with rfl | member
        · exact Nat.le_trans (longest ▸ Nat.le_max_right _ _) next.start_le
        · exact next.current_le entry member
      · rcases next.attained with equal | ⟨entry, member, equal⟩
        · rcases Nat.le_total state.longestStreakDays.toNat
            (recordCompletedHunt ⟨state, true⟩ completed
              cooldown).ledger.state.currentStreakDays.toNat with
            overtaken | kept
          · exact .inr ⟨_, List.mem_cons_self,
              equal.trans (longest.trans (Nat.max_eq_right overtaken))⟩
          · exact .inl
              (equal.trans (longest.trans (Nat.max_eq_left kept)))
        · exact .inr ⟨entry, List.mem_cons_of_mem _ member, equal⟩
    | saveAndRestore =>
      simp only [exec, List.foldl_cons, step, replies,
        restore_valid valid] at next ⊢
      exact next

/-- The bond a reply reports. -/
def RewardReply.bondReported (reply : RewardReply) : ℕ :=
  reply.output.elim 0 (·.bondAwarded)

theorem Reply.bond {state : RewardState} {completed : CompletedHuntReward}
    {cooldown : UInt32} {reply : RewardReply}
    (answer : Reply state completed cooldown reply) :
    reply.ledger.state.partyBond.toNat =
      min (state.partyBond.toNat + reply.bondReported) 4294967295 := by
  have unchanged : state.partyBond.toNat =
      min (state.partyBond.toNat + 0) 4294967295 := by
    have bound := state.partyBond.toNat_lt
    omega
  cases answer with
  | invalid _ => exact unchanged
  | duplicate _ => exact unchanged
  | regressed _ => exact unchanged
  | observed _ _ => exact unchanged
  | awarded accepted _ outcome bond =>
    rw [rewarded_bond, toNat_saturatingAdd32, toNat_bondFor accepted.wellFormed
        (eligibleUids_length completed state cooldown), ← bond]
    rfl

theorem Reply.unseen {state : RewardState} {completed : CompletedHuntReward}
    {cooldown : UInt32} {reply : RewardReply}
    (answer : Reply state completed cooldown reply) (valid : Valid state)
    (known : completed.sessionNonce ∈ state.recentSessions.newestFirst) :
    reply.counted = false := by
  have uncounted (accepted : Accepted state completed) : False := by
    have distinct := (valid.sessions.filled.forall_newestFirst
      (· ≠ completed.sessionNonce)).mpr ?_ _ known
    · exact distinct rfl
    · intro slot used same
      have unseen := accepted.unseen
      rw [seenSession, List.contains_eq_mem, decide_eq_false_iff_not] at unseen
      exact unseen ((RingBuffer.mem_used _).mpr ⟨slot, used, same⟩)
  cases answer with
  | invalid _ => rfl
  | duplicate _ => rfl
  | regressed _ => rfl
  | observed accepted _ => exact (uncounted accepted).elim
  | awarded accepted _ _ _ => exact (uncounted accepted).elim

theorem Reply.refused {state : RewardState} {completed : CompletedHuntReward}
    {cooldown : UInt32} {reply : RewardReply}
    (answer : Reply state completed cooldown reply)
    (refused : reply.status = .invalidInput ∨
      reply.status = .duplicateSession ∨ reply.status = .clockRegression) :
    reply.ledger = { state } := by
  cases answer with
  | invalid _ => rfl
  | duplicate _ => rfl
  | regressed _ => rfl
  | observed _ _ => simp at refused
  | awarded _ _ _ _ => simp at refused

/-! ## Integrity -/

/-- What the ledger promises after a run from this snapshot. -/
structure Intact (start : RewardState) (calls : List Call) : Prop where
  valid : validateRewardState (exec step { state := start } calls).state = true
  refused : ∀ completed cooldown,
    let reply := recordCompletedHunt (exec step { state := start } calls)
      completed cooldown
    (reply.status = .invalidInput ∨ reply.status = .duplicateSession ∨
      reply.status = .clockRegression) →
    reply.ledger = exec step { state := start } calls
  replayed : ∀ completed cooldown,
    completed.sessionNonce ∈
      (recordedNonces (replies { state := start } calls) ++
        start.recentSessions.newestFirst).take kRecentSessionCapacity →
    (recordCompletedHunt (exec step { state := start } calls) completed
      cooldown).counted = false
  bond : ∀ completed cooldown,
    let ledger := exec step { state := start } calls
    let reply := recordCompletedHunt ledger completed cooldown
    reply.ledger.state.partyBond.toNat =
      min (ledger.state.partyBond.toNat + reply.bondReported) 4294967295
  streak : ∃ length,
    IsStreak (snapshotDays start ∪
        awardedDays (replies { state := start } calls))
      (exec step { state := start } calls).state.lastStreakDayId.toNat length ∧
    (exec step { state := start } calls).state.currentStreakDays.toNat =
      min length 65535
  longest : RunningMaximum start.longestStreakDays.toNat
    (replies { state := start } calls)
    (exec step { state := start } calls).state.longestStreakDays.toNat

/--
After every run of hunts and restarts from `reset` or from a valid snapshot, the
snapshot is valid, a refused hunt changes nothing, none of the last eight nonces
is counted again, the bond grows by what is reported, and the streak fields
count the days with a reward.
-/
theorem ledger_intact (start : RewardState)
    (valid : validateRewardState start = true) (calls : List Call) :
    Intact start calls := by
  have usable : Usable { state := start } :=
    ⟨rfl, validateRewardState_iff.mp valid⟩
  have after := usable_exec usable calls
  have sessions := sessions_of_replies usable calls
  have streak := streak_of_replies usable (streak_snapshot usable.2) calls
  have longest := longest_of_replies usable calls
  constructor
  · exact validateRewardState_iff.mpr after.2
  · intro completed cooldown
    generalize exec step { state := start } calls = ledger at *
    rcases ledger with ⟨state, available⟩
    rcases after with ⟨rfl, valid⟩
    exact (record_reply state completed cooldown).refused
  · intro completed cooldown recent
    rw [← sessions] at recent
    generalize exec step { state := start } calls = ledger at *
    rcases ledger with ⟨state, available⟩
    rcases after with ⟨rfl, valid⟩
    exact (record_reply state completed cooldown).unseen valid recent
  · intro completed cooldown
    generalize exec step { state := start } calls = ledger at *
    rcases ledger with ⟨state, available⟩
    rcases after with ⟨rfl, valid⟩
    exact (record_reply state completed cooldown).bond
  · exact streak.counted
  · exact longest

/-- A hunt of two, from the ledger of uid 1. -/
def pairHunt (nonce dayId epoch : UInt32) : CompletedHuntReward where
  selfUid := 1
  participantUids := #v[1, 2, 0, 0]
  participantCount := 2
  sessionNonce := nonce
  resultProof := 1
  dayId := dayId
  nowEpochSeconds := epoch

theorem reset_intact :
    Intact reset.state [.record (pairHunt 7 10 1000) 900, .saveAndRestore,
      .record (pairHunt 8 11 90000) 900] :=
  ledger_intact reset.state (by decide) _

end Kitsu.Party
