import Kitsu.Social.Events

/-!
# Runs of the social ledger

A run is a list of calls with their answers.  Three histories are read off it:
the rewards given to each peer, the sessions accepted for each purpose, and the
contributions to the challenges of the days.  Each of them is compared with what
the state remembers of it: the last reward of every peer, the ring of the last
eight sessions, and whether the challenge of the current day is complete.
-/

namespace Kitsu.Social

open Kitsu.Lib
open Kitsu.Lib.Run

def step (progression : SocialProgression) (call : Call) : SocialProgression :=
  (answer progression call).progression

/-- The calls of a run with their answers. -/
def answers (progression : SocialProgression) :
    List Call → List (Call × Answer)
  | [] => []
  | call :: later =>
    (call, answer progression call) :: answers (step progression call) later

/-- A call, or a restore of an arbitrary record. -/
inductive Input where
  | call (call : Call)
  | restore (state : SocialState)

/-- A call, or the reading of another record. -/
def receive (progression : SocialProgression) : Input → SocialProgression
  | .call call => step progression call
  | .restore state => (restore state).2

/-! ## Validity -/

/-- A progression whose snapshot passes the validation. -/
def Restorable (progression : SocialProgression) : Prop :=
  validateSocialState progression.state = true

theorem restore_valid {state : SocialState}
    (valid : validateSocialState state = true) :
    restore state = (.ok, { state }) := by
  rw [restore, if_neg]
  simp [valid]

/-- What a call does to a valid ledger. -/
inductive Stepped (progression : SocialProgression) (call : Call) :
    Answer → Prop where
  | refused {status : SocialStatus} (refusal : status ≠ .ok) :
      Stepped progression call { status, progression }
  | accepted {event : Event} {after : SocialState}
      (asked : call.event = some event)
      (happens : Happens progression.state event after) :
      Stepped progression call
        { status := .ok
          progression := { state := refreshCrc after }
          completedNow := event.completedNow progression.state }
  | restored (asked : call.event = none) :
      Stepped progression call
        { status := .ok, progression := { state := progression.state } }

variable {progression : SocialProgression}

theorem answer_stepped (valid : Restorable progression) (call : Call) :
    Stepped progression call (answer progression call) := by
  rcases asked : call.event with _ | event
  · cases call with
    | saveAndRestore =>
      simp only [answer, restore_valid valid]
      exact .restored rfl
    | _ => cases asked
  · have sound := (validateSocialState_iff.mp valid).1
    generalize given : answer progression call = answered
    have answers := answer_cases sound asked
    rw [given] at answers
    cases answers with
    | refused refusal => exact .refused refusal
    | accepted happens => exact .accepted asked happens

theorem Restorable.step {progression : SocialProgression}
    (valid : Restorable progression) (call : Call) :
    Restorable (step progression call) := by
  have stepped := answer_stepped valid call
  rw [Social.step]
  generalize answer progression call = answered at stepped
  cases stepped with
  | refused refusal => exact valid
  | accepted asked happens =>
    exact validate_refreshCrc
      (happens.sound (validateSocialState_iff.mp valid).1)
  | restored asked => exact valid

theorem Restorable.receive {progression : SocialProgression}
    (valid : Restorable progression) (input : Input) :
    Restorable (receive progression input) := by
  cases input with
  | call call => exact valid.step call
  | restore state =>
    rw [Social.receive, restore, Restorable]
    split
    · exact validate_refreshCrc sound_blank
    · rename_i accepted
      simpa using accepted

theorem restorable_reset : Restorable reset :=
  validate_refreshCrc sound_blank

theorem restorable_reached (inputs : List Input) :
    Restorable (exec receive reset inputs) :=
  exec_invariant restorable_reset
    (fun _ input valid => valid.receive input) inputs

theorem restorable_exec (valid : Restorable progression) (calls : List Call) :
    Restorable (exec step progression calls) :=
  exec_invariant valid (fun _ call valid => valid.step call) calls

/-- The event of a call, if it was accepted. -/
def happened (entry : Call × Answer) : Option Event :=
  if entry.2.status = .ok then entry.1.event else none

/-! ## Rewards -/

/-- A reward of a friend. -/
structure Reward where
  uid : UInt16
  dayId : UInt32
  epochSeconds : UInt32

/-- The friends that an event rewards. -/
def Event.rewards : Event → List Reward
  | .rewarded reward => reward.uids.map fun uid =>
    { uid, dayId := reward.dayId, epochSeconds := reward.epochSeconds }
  | _ => []

/-- The rewards of a run, the first one first. -/
def rewards (trace : List (Call × Answer)) : List Reward :=
  (trace.filterMap happened).flatMap Event.rewards

/-- Two rewards of one peer are on different days and far enough apart. -/
def Spaced (earlier later : Reward) : Prop :=
  earlier.uid = later.uid →
    earlier.dayId < later.dayId ∧
      earlier.epochSeconds.toNat + kRewardCooldownSeconds.toNat ≤
        later.epochSeconds.toNat

/-- The reward comes late enough after the last one of its peer. -/
def After (state : SocialState) (reward : Reward) : Prop :=
  ∀ peer ∈ state.peers.entries, peer.uid = reward.uid →
    peer.lastRewardEpoch ≠ 0 →
    Spaced ⟨peer.uid, peer.lastRewardDay, peer.lastRewardEpoch⟩ reward

variable {reward : PartyRewardRequest} {peer : PeerState}

theorem refusePeer_none (due : refusePeer reward peer = none)
    (before : peer.lastRewardEpoch ≠ 0) :
    peer.lastRewardDay < reward.dayId ∧
      peer.lastRewardEpoch.toNat + kRewardCooldownSeconds.toNat ≤
        reward.epochSeconds.toNat := by
  rw [refusePeer] at due
  split at due
  · cases due
  rename_i forward
  split at due
  · cases due
  rename_i allowed
  simp only [Bool.or_eq_true, Bool.and_eq_true, decide_eq_true_eq, bne_iff_ne,
    before, ne_eq, not_false_eq_true, true_and, not_or, beq_iff_eq,
    UInt32.not_lt, gt_iff_lt] at forward allowed
  rcases forward with ⟨day, epoch⟩
  rcases allowed with ⟨other, apart⟩
  rw [UInt32.le_iff_toNat_le] at day epoch apart
  rw [UInt32.toNat_sub_of_le _ _ (UInt32.le_iff_toNat_le.mpr epoch)] at apart
  rw [UInt32.lt_iff_toNat_lt]
  have different : reward.dayId.toNat ≠ peer.lastRewardDay.toNat :=
    fun same => other (UInt32.toNat.inj same)
  omega

/-- The record of a peer after an event covers its record before it. -/
structure Covers (before after : PeerState) : Prop where
  uid : after.uid = before.uid
  day : before.lastRewardDay ≤ after.lastRewardDay
  epoch : before.lastRewardEpoch ≤ after.lastRewardEpoch

theorem Covers.refl (peer : PeerState) : Covers peer peer :=
  ⟨rfl, UInt32.le_refl _, UInt32.le_refl _⟩

theorem Covers.rewarded (due : refusePeer reward peer = none)
    (dated : peer.lastRewardDay = 0 ↔ peer.lastRewardEpoch = 0) :
    Covers peer (rewardedPeer reward peer) := by
  by_cases before : peer.lastRewardEpoch = 0
  · refine ⟨rfl, ?_, ?_⟩
    · rw [dated.mpr before]
      exact UInt32.zero_le
    · rw [before]
      exact UInt32.zero_le
  · rcases refusePeer_none due before with ⟨day, epoch⟩
    refine ⟨rfl, UInt32.le_of_lt day, ?_⟩
    exact Nat.le_trans (Nat.le_add_right _ _) epoch

/-- No event forgets a peer or its last reward. -/
theorem Happens.covers {state after : SocialState} {event : Event}
    (happens : Happens state event after) (sound : Sound state)
    (known : peer ∈ state.peers.entries) :
    ∃ later ∈ after.peers.entries, Covers peer later := by
  cases happens with
  | @met observation after uid day forward meets =>
    have peers := beginDay_peers state observation.dayId
    generalize beginDay state observation.dayId = today at meets peers
    rw [← peers] at known
    cases meets with
    | known index old points stored named =>
      have distinct : (today.peers.entries.map PeerState.uid).Nodup :=
        peers ▸ sound.peers.distinct
      have same : (metPeer old false observation.dayId points).uid =
          old.uid := rfl
      by_cases here : peer.uid = old.uid
      · have equal := List.inj_on_of_nodup_map distinct known
          (List.mem_of_getElem? stored) here
        subst equal
        refine ⟨_, (SlotTable.mem_write _ _ stored same distinct).mpr
          (Or.inl rfl), rfl, UInt32.le_refl _, UInt32.le_refl _⟩
      · exact ⟨peer, (SlotTable.mem_write _ _ stored same distinct).mpr
          (Or.inr ⟨here, known⟩), Covers.refl peer⟩
    | added points unknown room =>
      refine ⟨peer, ?_, Covers.refl peer⟩
      rw [SlotTable.entries_push _ _ room]
      exact List.mem_append_left _ known
  | @rewarded reward table parties rewardable unseen written =>
    refine ⟨rewardAmong reward reward.uids peer, ?_, ?_⟩
    · show _ ∈ table.entries
      rw [written.entries]
      exact List.mem_map_of_mem known
    · rw [rewardAmong]
      split
      · rename_i among
        rcases rewardable.due peer.uid among with ⟨other, stored, named, due⟩
        have equal := List.inj_on_of_nodup_map sound.peers.distinct stored
          known named
        subst equal
        exact Covers.rewarded due (sound.peers.valid other known).dated
      · exact Covers.refl peer
  | @contributed dayId amount target day chosen forward agreed =>
    refine ⟨peer, ?_, Covers.refl peer⟩
    show _ ∈ (beginDay state dayId).peers.entries
    rwa [beginDay_peers]
  | session encounters progress given unseen =>
    exact ⟨peer, known, Covers.refl peer⟩

theorem After.before {state later : SocialState} {reward : Reward}
    (after : After later reward) (covers : ∀ peer ∈ state.peers.entries,
      ∃ other ∈ later.peers.entries, Covers peer other) : After state reward := by
  intro peer known named rewarded same
  rcases covers peer known with ⟨other, kept, covered⟩
  have epoch := covered.epoch
  have day := covered.day
  rw [UInt32.le_iff_toNat_le] at epoch day
  have positive : other.lastRewardEpoch ≠ 0 := by
    intro zero
    rw [zero] at epoch
    exact rewarded (UInt32.toNat.inj (Nat.le_zero.mp epoch))
  have apart := after other kept (covered.uid.trans named) positive
    (covered.uid.trans named)
  simp only [UInt32.lt_iff_toNat_lt] at apart ⊢
  omega

section Happens

variable {state after : SocialState} {event : Event}

theorem Happens.rewards_after (happens : Happens state event after)
    (sound : Sound state) : ∀ reward ∈ event.rewards, After state reward := by
  intro reward member
  cases happens with
  | @rewarded request table parties rewardable unseen written =>
    rcases List.mem_map.mp member with ⟨uid, among, rfl⟩
    intro peer known named before same
    rcases rewardable.due uid among with ⟨other, stored, other_named, due⟩
    have equal := List.inj_on_of_nodup_map sound.peers.distinct stored known
      (other_named.trans named.symm)
    subst equal
    exact refusePeer_none due before
  | _ => cases member

/-- The state remembers the rewards of the event it just had. -/
theorem Happens.rewards_recorded (happens : Happens state event after) :
    ∀ reward ∈ event.rewards, ∃ peer ∈ after.peers.entries,
      (⟨peer.uid, peer.lastRewardDay, peer.lastRewardEpoch⟩ : Reward) =
        reward ∧ peer.lastRewardEpoch ≠ 0 := by
  intro reward member
  cases happens with
  | @rewarded request table parties rewardable unseen written =>
    rcases List.mem_map.mp member with ⟨uid, among, rfl⟩
    rcases rewardable.due uid among with ⟨peer, stored, rfl, due⟩
    have epoch : request.epochSeconds ≠ 0 := by
      intro zero
      have trusted := rewardable.trusted
      rw [zero] at trusted
      exact absurd trusted (by decide)
    refine ⟨rewardedPeer request peer, ?_, rfl, epoch⟩
    show _ ∈ table.entries
    rw [written.entries]
    have image := List.mem_map_of_mem (f := rewardAmong request request.uids)
      stored
    rwa [rewardAmong, if_pos among] at image
  | _ => cases member

theorem Happens.rewards_once (happens : Happens state event after) :
    event.rewards.Pairwise Spaced := by
  cases happens with
  | @rewarded request table parties rewardable unseen written =>
    apply List.pairwise_map.mpr
    apply rewardable.once.imp
    intro first second different same
    exact absurd same different
  | _ => exact List.Pairwise.nil

end Happens

theorem rewards_cons (call : Call) (answered : Answer)
    (later : List (Call × Answer)) :
    rewards ((call, answered) :: later) =
      ((happened (call, answered)).elim [] Event.rewards) ++ rewards later := by
  rw [rewards, List.filterMap_cons]
  cases happened (call, answered) with
  | none => rfl
  | some event => rw [List.flatMap_cons]; rfl

/-- The rewards of a run are spaced, also from those the state remembers. -/
theorem rewards_spaced (valid : Restorable progression) (calls : List Call) :
    (∀ reward ∈ rewards (answers progression calls),
      After progression.state reward) ∧
      (rewards (answers progression calls)).Pairwise Spaced := by
  induction calls generalizing progression with
  | nil =>
    refine ⟨?_, List.Pairwise.nil⟩
    intro reward member
    cases member
  | cons call later induction =>
    have next := induction (valid.step call)
    have stepped := answer_stepped valid call
    rw [answers, rewards_cons]
    rw [step] at next ⊢
    generalize answer progression call = answered at stepped next ⊢
    cases stepped with
    | refused refusal =>
      rw [happened, if_neg refusal]
      exact next
    | restored asked =>
      rw [happened, if_pos rfl, asked]
      exact next
    | accepted asked happens =>
      have sound := (validateSocialState_iff.mp valid).1
      rw [happened, if_pos rfl, asked]
      constructor
      · intro reward member
        rcases List.mem_append.mp member with now | afterwards
        · exact happens.rewards_after sound reward now
        · exact (next.1 reward afterwards).before
            fun peer known => happens.covers sound known
      · refine List.pairwise_append.mpr
          ⟨happens.rewards_once, next.2, ?_⟩
        intro first now second afterwards same
        rcases happens.rewards_recorded first now with
          ⟨peer, known, rfl, positive⟩
        exact next.1 second afterwards peer known same positive same

/-! ## Sessions -/

/-- The session that an event was recorded for. -/
def Event.session? : Event → Option (Purpose × UInt32)
  | .rewarded reward => some (.party, reward.sessionNonce)
  | .session purpose sessionNonce => some (purpose, sessionNonce)
  | _ => none

/-- The sessions a run accepted, the first one first. -/
def sessions (trace : List (Call × Answer)) : List (Purpose × UInt32) :=
  (trace.filterMap happened).filterMap Event.session?

/-- What the ring keeps of the sessions, the last one first. -/
def replayNonces (accepted : List (Purpose × UInt32)) : List UInt32 :=
  (accepted.map fun session => session.1.replayNonce session.2).reverse

theorem replayNonces_append (earlier later : List (Purpose × UInt32)) :
    replayNonces (earlier ++ later) =
      replayNonces later ++ replayNonces earlier := by
  simp [replayNonces]

theorem sessions_cons (call : Call) (answered : Answer)
    (later : List (Call × Answer)) :
    sessions ((call, answered) :: later) =
      ((happened (call, answered)).bind Event.session?).toList ++
        sessions later := by
  rw [sessions, List.filterMap_cons]
  cases happened (call, answered) with
  | none => rfl
  | some event =>
    rw [List.filterMap_cons, Option.bind_some]
    cases event.session? <;> rfl

theorem Happens.newestFirst {state after : SocialState} {event : Event}
    (happens : Happens state event after) (sound : Sound state) :
    after.recentSessions.newestFirst =
      (replayNonces event.session?.toList ++
        state.recentSessions.newestFirst).take kRecentSessionCapacity := by
  have filled := sound.sessions.filled
  have short := filled.length_newestFirst
  cases happens with
  | @met observation after uid day forward meets =>
    rcases meets.frame with ⟨mask, unique, table, rfl⟩
    rw [beginDay_sessions]
    exact (List.take_of_length_le short).symm
  | @rewarded reward table parties rewardable unseen written =>
    show ((beginDay state reward.dayId).recentSessions.push _).newestFirst = _
    rw [beginDay_sessions]
    exact filled.newestFirst_push reward.sessionNonce
  | @contributed dayId amount target day chosen forward agreed =>
    show (beginDay state dayId).recentSessions.newestFirst = _
    rw [beginDay_sessions]
    exact (List.take_of_length_le short).symm
  | @session purpose sessionNonce encounters progress given unseen =>
    exact filled.newestFirst_push _

/-- The ring holds the last eight sessions that were accepted. -/
theorem ring_of_sessions (valid : Restorable progression) (calls : List Call) :
    (exec step progression calls).state.recentSessions.newestFirst =
      (replayNonces (sessions (answers progression calls)) ++
        progression.state.recentSessions.newestFirst).take
          kRecentSessionCapacity := by
  induction calls generalizing progression with
  | nil =>
    have sound := (validateSocialState_iff.mp valid).1
    exact (List.take_of_length_le sound.sessions.filled.length_newestFirst).symm
  | cons call later induction =>
    have next := induction (valid.step call)
    have stepped := answer_stepped valid call
    rw [answers, sessions_cons]
    rw [exec_cons, next, step]
    generalize answer progression call = answered at stepped ⊢
    cases stepped with
    | refused refusal =>
      rw [happened, if_neg refusal]
      rfl
    | restored asked =>
      rw [happened, if_pos rfl, asked]
      rfl
    | accepted asked happens =>
      have kept := happens.newestFirst (validateSocialState_iff.mp valid).1
      rw [happened, if_pos rfl, asked, Option.bind_some,
        replayNonces_append, List.append_assoc]
      refine Eq.trans ?_ (take_append_take _ _ _)
      rw [← kept]
      rfl

variable {session : Purpose × UInt32}

/-- A session that is still in the ring is refused for its purpose. -/
theorem recent_session_refused (valid : Restorable progression) {call : Call}
    {event : Event} (asked : call.event = some event)
    (wanted : event.session? = some session)
    (recent : session.1.replayNonce session.2 ∈
      progression.state.recentSessions.used) :
    (answer progression call).status ≠ .ok := by
  have stepped := answer_cases (validateSocialState_iff.mp valid).1 asked
  generalize answer progression call = answered at stepped ⊢
  cases stepped with
  | refused refusal => exact refusal
  | accepted happens =>
    cases happens with
    | rewarded parties rewardable unseen written =>
      cases wanted
      exact absurd recent unseen
    | session encounters progress given unseen =>
      cases wanted
      exact absurd recent unseen
    | _ => cases wanted

/-! ## The challenge of the day -/

/-- A contribution to the challenge of a day. -/
structure Contribution where
  dayId : UInt32
  target : UInt16
  /-- The progress after the contribution. -/
  progress : UInt16
  completedNow : UInt8

/-- The contribution reports completion of the day. -/
def Contribution.completes (day : UInt32) (given : Contribution) : Bool :=
  given.dayId == day && given.completedNow == 1

def Contribution.reaches (day : UInt32) (given : Contribution) : Bool :=
  given.dayId == day && given.target ≤ given.progress

/-- The contribution that an answered call made. -/
def contribution (entry : Call × Answer) : Option Contribution :=
  match happened entry with
  | some (.contributed dayId _ target) =>
    some {
      dayId, target
      progress := entry.2.progression.state.dailyChallengeProgress
      completedNow := entry.2.completedNow }
  | _ => none

/-- The accepted contributions of a run. -/
def contributions (trace : List (Call × Answer)) : List Contribution :=
  trace.filterMap contribution

/-- How often the challenge of a day was reported complete. -/
def completions (day : UInt32) (trace : List (Call × Answer)) : Nat :=
  (contributions trace).countP (·.completes day)

/-- The progress of the day reached its target. -/
def reached (day : UInt32) (trace : List (Call × Answer)) : Bool :=
  (contributions trace).any (·.reaches day)

/-- The challenge of the day is complete in this state. -/
def done (day : UInt32) (state : SocialState) : Bool :=
  state.currentDay == day && state.dailyChallengeComplete != 0

theorem contributions_cons (entry : Call × Answer) (later : List (Call × Answer)) :
    contributions (entry :: later) =
      (contribution entry).toList ++ contributions later := by
  rw [contributions, List.filterMap_cons]
  cases contribution entry <;> rfl

/-- What an event that is no contribution does to the day and its challenge. -/
inductive DayKept (state after : SocialState) : Prop where
  | same (day : after.currentDay = state.currentDay)
      (complete : after.dailyChallengeComplete = state.dailyChallengeComplete)
  | new (later : state.currentDay < after.currentDay)
      (complete : after.dailyChallengeComplete = 0)

theorem dayKept_beginDay {state : SocialState} {dayId : UInt32}
    (forward : state.currentDay ≤ dayId) :
    DayKept state (beginDay state dayId) := by
  by_cases same : state.currentDay = dayId
  · rw [beginDay_same same]
    exact .same rfl rfl
  · refine .new ?_ ?_
    · rw [beginDay_currentDay]
      exact UInt32.lt_of_le_of_ne forward same
    · rw [beginDay_other same]

theorem DayKept.forward {state after : SocialState}
    (kept : DayKept state after) : state.currentDay ≤ after.currentDay := by
  cases kept with
  | same day complete => exact UInt32.le_of_eq day.symm
  | new later complete => exact UInt32.le_of_lt later

/-- What a call contributes and what it leaves of the day. -/
inductive Contributes (state : SocialState) :
    Option Contribution → SocialState → Prop where
  | nothing {after : SocialState} (kept : DayKept state after) :
      Contributes state none after
  | given {dayId : UInt32} {amount target : UInt16} (chosen : target ≠ 0)
      (forward : state.currentDay ≤ dayId)
      (agreed : (beginDay state dayId).dailyChallengeTarget = 0 ∨
        (beginDay state dayId).dailyChallengeTarget = target) :
      Contributes state
        (some {
          dayId, target
          progress := saturatingAdd16
            (beginDay state dayId).dailyChallengeProgress amount
          completedNow :=
            if completes (beginDay state dayId) amount target then 1 else 0 })
        (refreshCrc (contributed (beginDay state dayId) amount target))

theorem Stepped.contributes {call : Call} {answered : Answer}
    (stepped : Stepped progression call answered) :
    Contributes progression.state (contribution (call, answered))
      answered.progression.state := by
  cases stepped with
  | refused refusal =>
    rw [contribution, happened, if_neg refusal]
    exact .nothing (.same rfl rfl)
  | restored asked =>
    rw [contribution, happened, if_pos rfl, asked]
    exact .nothing (.same rfl rfl)
  | accepted asked happens =>
    rw [contribution, happened, if_pos rfl, asked]
    cases happens with
    | @met observation after uid day forward meets =>
      rcases meets.frame with ⟨mask, unique, table, rfl⟩
      cases dayKept_beginDay forward with
      | same day complete => exact .nothing (.same day complete)
      | new later complete => exact .nothing (.new later complete)
    | rewarded parties rewardable unseen written =>
      cases dayKept_beginDay rewardable.forward with
      | same day complete => exact .nothing (.same day complete)
      | new later complete => exact .nothing (.new later complete)
    | contributed day chosen forward agreed =>
      exact .given chosen forward agreed
    | session encounters progress given unseen =>
      exact .nothing (.same rfl rfl)

/-- No contribution is for a day before the current one. -/
theorem contributions_forward (valid : Restorable progression)
    (calls : List Call) :
    ∀ given ∈ contributions (answers progression calls),
      progression.state.currentDay ≤ given.dayId := by
  induction calls generalizing progression with
  | nil =>
    intro given member
    cases member
  | cons call later induction =>
    have next := induction (valid.step call)
    have contributes := (answer_stepped valid call).contributes
    rw [answers, contributions_cons]
    rw [step] at next ⊢
    generalize contribution (call, answer progression call) = given
      at contributes ⊢
    generalize (answer progression call).progression = after
      at contributes next ⊢
    rcases after with ⟨after, available⟩
    intro other member
    rcases List.mem_append.mp member with now | afterwards
    · cases contributes with
      | nothing kept => cases now
      | given chosen forward agreed =>
        rw [Option.toList_some, List.mem_singleton] at now
        rw [now]
        exact forward
    · refine UInt32.le_trans ?_ (next other afterwards)
      cases contributes with
      | nothing kept => exact kept.forward
      | @given dayId amount target chosen forward agreed =>
        show _ ≤ (beginDay progression.state dayId).currentDay
        rwa [beginDay_currentDay]

/-- A day that is over gets no contribution. -/
theorem unreached (valid : Restorable progression) (calls : List Call)
    {day : UInt32} (past : day < progression.state.currentDay) :
    reached day (answers progression calls) = false := by
  rw [reached, List.any_eq_false]
  intro given member
  have forward := contributions_forward valid calls given member
  have other : given.dayId ≠ day := by
    rintro rfl
    exact UInt32.lt_irrefl _ (UInt32.lt_of_lt_of_le past forward)
  simp [Contribution.reaches, other]

theorem done_beginDay {state : SocialState} {dayId : UInt32} :
    done dayId state =
      ((beginDay state dayId).dailyChallengeComplete != 0) := by
  by_cases same : state.currentDay = dayId
  · rw [beginDay_same same]
    simp [done, same]
  · rw [beginDay_other same]
    simp [done, same]

section Contributed

variable {today : SocialState} {amount target : UInt16}

theorem complete_contributed
    (challenge : ChallengeValid (refreshCrc (contributed today amount target)))
    (chosen : target ≠ 0) :
    ((contributed today amount target).dailyChallengeComplete != 0) =
      decide (target ≤ saturatingAdd16 today.dailyChallengeProgress amount) := by
  have complete : (contributed today amount target).dailyChallengeComplete =
      if target ≤ saturatingAdd16 today.dailyChallengeProgress amount then 1
      else 0 := challenge.chosen chosen
  rw [complete]
  by_cases reaches : target ≤ saturatingAdd16 today.dailyChallengeProgress amount
  · simp [reaches]
  · simp [reaches]

/-- A complete challenge stays reached. -/
theorem stays_contributed
    (challenge : ChallengeValid (refreshCrc (contributed today amount target)))
    (chosen : target ≠ 0) (already : today.dailyChallengeComplete ≠ 0) :
    target ≤ saturatingAdd16 today.dailyChallengeProgress amount := by
  have kept : (contributed today amount target).dailyChallengeComplete =
      today.dailyChallengeComplete := by
    simp [contributed, completes, already]
  have complete := complete_contributed challenge chosen
  rw [kept, bne_iff_ne.mpr already] at complete
  exact of_decide_eq_true complete.symm

end Contributed

/--
One call keeps the count: what it reports itself, and what the rest of the run
reports when it is `again` reached there.
-/
theorem Contributes.count {state after : SocialState}
    {given : Option Contribution} (contributes : Contributes state given after)
    (challenge : ChallengeValid after) {day : UInt32} {again : Bool}
    (past : day < after.currentDay → again = false) :
    given.toList.countP (·.completes day) +
        (if again && !done day after then 1 else 0) =
      if (given.toList.any (·.reaches day) || again) && !done day state then 1
      else 0 := by
  cases contributes with
  | nothing kept =>
    simp only [Option.toList_none, List.countP_nil, List.any_nil,
      Bool.false_or, Nat.zero_add]
    cases kept with
    | same today complete => rw [done, done, today, complete]
    | new later complete =>
      have undoneNow : done day after = false := by simp [done, complete]
      by_cases same : state.currentDay = day
      · rw [past (same ▸ later)]
        rfl
      · have undone : done day state = false := by simp [done, same]
        rw [undoneNow, undone]
  | @given dayId amount target chosen forward agreed =>
    have today := beginDay_currentDay state dayId
    have before := @done_beginDay state dayId
    generalize beginDay state dayId = begun at *
    have now : (refreshCrc (contributed begun amount target)).currentDay =
        dayId := today
    by_cases same : dayId = day
    · subst same
      have doneAfter : done dayId
          (refreshCrc (contributed begun amount target)) =
            decide (target ≤ saturatingAdd16
              begun.dailyChallengeProgress amount) := by
        rw [done, now, beq_self_eq_true, Bool.true_and]
        exact complete_contributed challenge chosen
      rw [doneAfter, before]
      simp only [Option.toList_some, List.countP_singleton, List.any_cons,
        List.any_nil, Contribution.completes, Contribution.reaches,
        beq_self_eq_true, Bool.true_and, Bool.or_false, completes]
      by_cases already : begun.dailyChallengeComplete = 0
      · by_cases reaches : target ≤ saturatingAdd16
            begun.dailyChallengeProgress amount
        · simp [already, reaches]
        · simp [already, reaches]
      · simp [already, stays_contributed challenge chosen already]
    · have undoneNow : done day
          (refreshCrc (contributed begun amount target)) = false := by
        simp [done, now, same]
      simp only [Option.toList_some, List.countP_singleton, List.any_cons,
        List.any_nil, Contribution.completes, Contribution.reaches,
        beq_eq_false_iff_ne.mpr same, Bool.false_and, Bool.or_false,
        Bool.false_or, Bool.false_eq_true, if_false, Nat.zero_add]
      by_cases old : state.currentDay = day
      · have later : day < dayId :=
          UInt32.lt_of_le_of_ne (old ▸ forward) (Ne.symm same)
        rw [past (now ▸ later)]
        rfl
      · have undone : done day state = false := by simp [done, old]
        rw [undoneNow, undone]

/-- Each day the challenge is reported complete once, if it is reached at all. -/
theorem completions_of_run (valid : Restorable progression) (day : UInt32)
    (calls : List Call) :
    completions day (answers progression calls) =
      if reached day (answers progression calls) &&
        !done day progression.state then 1 else 0 := by
  induction calls generalizing progression with
  | nil => rfl
  | cons call later induction =>
    have validNext := valid.step call
    have contributes := (answer_stepped valid call).contributes
    have challenge := (validateSocialState_iff.mp validNext).1.challenge
    rw [answers, completions, reached, contributions_cons,
      List.countP_append, List.any_append]
    rw [← completions, ← reached, induction validNext]
    exact contributes.count challenge
      fun past => unreached validNext later past

/-! ## The ledger over a run -/

/-- What the calls of a run leave, and what they were answered. -/
structure LedgerKept (start : SocialProgression) (calls : List Call) :
    Prop where
  valid : validateSocialState (exec step start calls).state = true
  /-- A call that is not accepted leaves the snapshot as it was. -/
  unchanged : ∀ call,
    (answer (exec step start calls) call).status ≠ .ok →
      (answer (exec step start calls) call).progression.state =
        (exec step start calls).state
  unique : ((exec step start calls).state.peers.entries.map (·.uid)).Nodup
  spaced : (rewards (answers start calls)).Pairwise Spaced
  /-- The same holds of the rewards that the start record remembers. -/
  later : ∀ reward ∈ rewards (answers start calls), After start.state reward
  /-- None of the last eight sessions is accepted again for its purpose. -/
  replayed : ∀ call event session, call.event = some event →
    event.session? = some session →
    session ∈ (sessions (answers start calls)).reverse.take
      kRecentSessionCapacity →
    (answer (exec step start calls) call).status ≠ .ok
  /-- Nor is one of the start record that no newer session has pushed out. -/
  remembered : ∀ call event session, call.event = some event →
    event.session? = some session →
    session.1.replayNonce session.2 ∈ start.state.recentSessions.newestFirst.take
      (kRecentSessionCapacity - (sessions (answers start calls)).length) →
    (answer (exec step start calls) call).status ≠ .ok
  challenge : ∀ day, completions day (answers start calls) =
    if reached day (answers start calls) && !done day start.state then 1 else 0

theorem recent_of_sessions (valid : Restorable progression) (calls : List Call)
    (recent : session ∈ (sessions (answers progression calls)).reverse.take
      kRecentSessionCapacity) :
    session.1.replayNonce session.2 ∈
      (exec step progression calls).state.recentSessions.used := by
  have sound := (validateSocialState_iff.mp (restorable_exec valid calls)).1
  apply sound.sessions.filled.mem_newestFirst
  rw [ring_of_sessions valid calls, List.take_append]
  apply List.mem_append_left
  rw [replayNonces, ← List.map_reverse, ← List.map_take]
  exact List.mem_map_of_mem recent

/-- What the ring held before is in it until newer sessions have pushed it out. -/
theorem recent_of_start (valid : Restorable progression) (calls : List Call)
    (recent : session.1.replayNonce session.2 ∈
      progression.state.recentSessions.newestFirst.take
        (kRecentSessionCapacity - (sessions (answers progression calls)).length)) :
    session.1.replayNonce session.2 ∈
      (exec step progression calls).state.recentSessions.used := by
  have sound := (validateSocialState_iff.mp (restorable_exec valid calls)).1
  have newer : (replayNonces (sessions (answers progression calls))).length =
      (sessions (answers progression calls)).length := by
    rw [replayNonces, List.length_reverse, List.length_map]
  apply sound.sessions.filled.mem_newestFirst
  rw [ring_of_sessions valid calls, List.take_append, newer]
  exact List.mem_append_right _ recent

/--
Whatever was restored or called before, and whatever is called now: the ledger
stays valid, and its histories are those the state remembers.
-/
theorem social_ledger_kept (inputs : List Input) (calls : List Call) :
    LedgerKept (exec receive reset inputs) calls := by
  have valid := restorable_reached inputs
  generalize exec receive reset inputs = start at valid
  have ended := restorable_exec valid calls
  constructor
  · exact ended
  · intro call refusal
    have stepped := answer_stepped ended call
    generalize answer (exec step start calls) call = answered
      at stepped refusal ⊢
    cases stepped with
    | refused _ => rfl
    | accepted asked happens => exact absurd rfl refusal
    | restored asked => rfl
  · exact (validateSocialState_iff.mp ended).1.peers.distinct
  · exact (rewards_spaced valid calls).2
  · exact (rewards_spaced valid calls).1
  · intro call event session asked wanted recent
    exact recent_session_refused ended asked wanted
      (recent_of_sessions valid calls recent)
  · intro call event session asked wanted recent
    exact recent_session_refused ended asked wanted
      (recent_of_start valid calls recent)
  · intro day
    exact completions_of_run valid day calls

/-! ## Friends -/

/-- Every peer is still known, and its last reward has not gone back. -/
def Remembers (before after : SocialProgression) : Prop :=
  ∀ peer ∈ before.state.peers.entries,
    ∃ later ∈ after.state.peers.entries, Covers peer later

theorem step_remembers (valid : Restorable progression) (call : Call) :
    Remembers progression (step progression call) := by
  have stepped := answer_stepped valid call
  rw [step]
  generalize answer progression call = answered at stepped
  cases stepped with
  | accepted asked happens =>
    intro peer
    exact happens.covers (validateSocialState_iff.mp valid).1
  | _ => exact fun peer known => ⟨peer, known, .refl peer⟩

/-- No call makes the ledger forget a friend. -/
theorem friends_remembered (inputs : List Input) (calls : List Call) :
    Remembers (exec receive reset inputs)
      (exec step (exec receive reset inputs) calls) := by
  have valid := restorable_reached inputs
  generalize exec receive reset inputs = start at valid ⊢
  induction calls generalizing start with
  | nil => exact fun peer known => ⟨peer, known, .refl peer⟩
  | cons call later induction =>
    intro peer known
    obtain ⟨next, kept, first⟩ := step_remembers valid call peer known
    obtain ⟨last, lastKept, second⟩ :=
      induction _ (valid.step call) next kept
    exact ⟨last, lastKept, second.uid.trans first.uid,
      UInt32.le_trans first.day second.day,
      UInt32.le_trans first.epoch second.epoch⟩

end Kitsu.Social
