import Kitsu.PartyModes.HostSession

/-!
# What a call does to the host session

A call is refused and changes nothing, or has one effect: it sends a packet of
its own type, lets a member in, stores a contribution, or moves the phase on.
`perform_effect` reads the effects off the calls.  Everything that is said about
a run afterwards is said by the effects: a member has a contribution for a
round exactly when it submitted one, and it is a valid one.
-/

namespace Kitsu.PartyModes

open Kitsu.Lib
open Kitsu.Lib.Run
open Kitsu.Lib.WrapClock

/-! ## The effects -/

/-- The types of packets that carry the public seed. -/
def PacketType.announces : PacketType → Bool
  | .beacon | .welcome | .roundOpen => true
  | _ => false

/-- The packet carries the public seed of the session. -/
def Announced (state : HostState) (packet : Packet) : Prop :=
  packet.type.announces = true ∧
    packet.dataA = publicSeedFor state.mode state.seed

/-- The packet that tells the members their result. -/
def resultPacket (result : ModeResult) (state : HostState) : Packet :=
  hostPacket .result state.currentRound
    (kFlagActive ||| if result.rareEncounter then kFlagRareEncounter else 0)
    result.score (packedResult result) result.proof 0 state

/-- What a call that is not refused does. -/
inductive Effect (state : HostState) :
    Call → Option Packet → HostState → Prop
  | refused (call : Call) : Effect state call none state
  | expired (call : Call) (other : call.advances = false)
      (lobby : state.phase = .lobby) :
      Effect state call none { state with phase := .expired, deadlineMs := 0 }
  | beacon (nowMs : UInt32) {packet : Packet} (txSequence : UInt16)
      (running : state.phase = .lobby ∨ state.phase = .active)
      (announced : Announced state packet) :
      Effect state (.makeBeacon nowMs) (some packet) { state with txSequence }
  | joined (request : Packet) (nowMs : UInt32) {packet : Packet}
      (txSequence : UInt16) (ready : Bool) (joinedRound : Nat)
      (replay : ReplayCursor)
      (running : state.phase = .lobby ∨ state.phase = .active)
      (room : state.participantCount < kMaximumParticipants)
      (announced : Announced state packet) :
      Effect state (.acceptJoin request nowMs) (some packet)
        { state with
          txSequence
          members := state.members ++
            [{ uid := request.sourceUid, ready, joinedRound, replay }] }
  | hostReady (ready : Bool) (lobby : state.phase = .lobby) :
      Effect state (.setHostReady ready) none
        { state with
          members := state.members.modify 0 fun host => { host with ready } }
  | memberReady (readyPacket : Packet) (index : Nat) (ready : Bool)
      (lobby : state.phase = .lobby)
      (found : state.member readyPacket.sourceUid = some index) :
      Effect state (.acceptReady readyPacket) none
        { state with
          members := state.members.set index
            { state.members.getD index {} with
              ready
              replay := rememberPacket readyPacket } }
  | begun (nowMs : UInt32) {packet : Packet} (txSequence : UInt16)
      (ready : canStart state = true) (announced : Announced state packet) :
      Effect state (.begin nowMs) (some packet)
        { state with
          phase := .active
          currentRound := 1
          txSequence
          deadlineMs := deadline nowMs state.roundWindowSeconds }
  | notBegun (nowMs deadlineMs : UInt32) (lobby : state.phase = .lobby) :
      Effect state (.begin nowMs) none
        { state with phase := .lobby, currentRound := 0, deadlineMs }
  | hostSubmitted (contribution : Contribution)
      (active : state.phase = .active)
      (valid : validContribution state.mode contribution
        (promptFor state.mode state.seed state.currentRound) = true) :
      Effect state (.submitHostContribution contribution) none
        { state with
          members := state.members.modify 0
            (·.submit state.currentRound contribution) }
  | submitted (packet : Packet) (nowMs : UInt32) (index : Nat)
      (contribution : Contribution) (active : state.phase = .active)
      (found : state.member packet.sourceUid = some index)
      (valid : validContribution state.mode contribution
        (promptFor state.mode state.seed state.currentRound) = true) :
      Effect state (.acceptContribution packet nowMs) none
        { state with
          members := state.members.set index
            { (state.members.getD index {}).submit state.currentRound
                contribution with
              replay := rememberPacket packet } }
  | opened (nowMs : UInt32) (packet : Option Packet) (txSequence : UInt16)
      (active : state.phase = .active)
      (more : state.currentRound < state.totalRounds)
      (type : ∀ sent ∈ packet, sent.type = .roundOpen) :
      Effect state (.advance nowMs) packet
        { state with
          currentRound := state.currentRound + 1
          txSequence
          deadlineMs := deadline nowMs state.roundWindowSeconds }
  | completed (nowMs : UInt32) (result : ModeResult)
      (active : state.phase = .active)
      (due : allCurrentContributions state = true ∨
        deadlineReached nowMs state.deadlineMs = true)
      (resolved : resolveResult state = .ok result)
      (next : state.txSequence ≠ 65535) :
      Effect state (.advance nowMs) (some (resultPacket result state))
        { state with
          txSequence := state.txSequence + 1
          result
          phase := .complete
          deadlineMs := 0 }
  | cancelled {packet : Packet} (txSequence : UInt16)
      (running : state.phase = .lobby ∨ state.phase = .active)
      (type : packet.type = .cancel) :
      Effect state .cancel (some packet)
        { state with txSequence, phase := .cancelled, deadlineMs := 0 }

section Effects

variable {state : HostState}

/-- The host refuses the packet, or sends it and counts on. -/
theorem makeHostPacket_cases (state : HostState) (type : PacketType)
    (round : Nat) (flags : UInt8) (value : Int) (dataA dataB : UInt32)
    (windowSeconds : Nat) :
    let answer :=
      makeHostPacket type round flags value dataA dataB windowSeconds state
    let candidate :=
      hostPacket type round flags value dataA dataB windowSeconds state
    answer.status ≠ .ok ∧ answer.packet = none ∧ answer.state = state ∨
      answer.status = .ok ∧ answer.packet = some candidate ∧
        answer.state = { state with txSequence := state.txSequence + 1 } := by
  unfold makeHostPacket
  simp only
  split
  · exact .inl ⟨by simp [HostState.refuse], rfl, rfl⟩
  split
  · rename_i invalid
    exact .inl ⟨invalid, rfl, rfl⟩
  · exact .inr ⟨rfl, rfl, rfl⟩

theorem makeHostPacket_next {type : PacketType} {round : Nat} {flags : UInt8}
    {value : Int} {dataA dataB : UInt32} {windowSeconds : Nat}
    (sent : (makeHostPacket type round flags value dataA dataB windowSeconds
      state).status = .ok) : state.txSequence ≠ 65535 := by
  intro exhausted
  rw [makeHostPacket, if_pos exhausted] at sent
  cases sent

theorem expireIfNeeded_cases (state : HostState) (nowMs : UInt32) :
    (expireIfNeeded nowMs state).packet = none ∧
      ((expireIfNeeded nowMs state).state = state ∨
        state.phase = .lobby ∧ (expireIfNeeded nowMs state).state =
          { state with phase := .expired, deadlineMs := 0 }) := by
  unfold expireIfNeeded
  split
  · split
    · rename_i lobby
      exact ⟨rfl, .inr ⟨lobby, rfl⟩⟩
    · exact ⟨rfl, .inl rfl⟩
  · exact ⟨rfl, .inl rfl⟩

theorem expired_effect {call : Call} (other : call.advances = false)
    (nowMs : UInt32) :
    Effect state call none (expireIfNeeded nowMs state).state := by
  rcases expireIfNeeded_cases state nowMs with
    ⟨_, same | ⟨lobby, moved⟩⟩
  · rw [same]
    exact .refused call
  · rw [moved]
    exact .expired call other lobby

theorem running_of_phase
    (running : ¬(state.phase ≠ .lobby && state.phase ≠ .active) = true) :
    state.phase = .lobby ∨ state.phase = .active := by
  simp only [ne_eq, Bool.and_eq_true, decide_eq_true_eq, not_and,
    not_not] at running
  exact or_iff_not_imp_left.mpr running

theorem makeBeacon_effect (nowMs : UInt32) :
    Effect state (.makeBeacon nowMs) (makeBeacon nowMs state).packet
      (makeBeacon nowMs state).state := by
  unfold makeBeacon
  split
  · exact .refused _
  rename_i running
  simp only
  split
  · exact expired_effect rfl nowMs
  · generalize sent : makeHostPacket .beacon _ _ _ _ _ _ state = answer
    rcases makeHostPacket_cases state .beacon _ _ _ _ _ _ with
      ⟨_, packet, same⟩ | ⟨_, packet, moved⟩
    · rw [← sent, packet, same]
      exact .refused _
    · rw [← sent, packet, moved]
      exact .beacon nowMs _ (running_of_phase running) ⟨rfl, rfl⟩

theorem letIn_effect (request : Packet) (nowMs : UInt32)
    (running : state.phase = .lobby ∨ state.phase = .active)
    (room : state.participantCount < kMaximumParticipants) :
    Effect state (.acceptJoin request nowMs) (letIn request nowMs state).packet
      (letIn request nowMs state).state := by
  unfold letIn welcome joining
  generalize sent : makeHostPacket .welcome _ _ _ _ _ _ _ = answer
  rcases makeHostPacket_cases _ .welcome _ _ _ _ _ _ with
    ⟨refused, _, _⟩ | ⟨ok, packet, moved⟩
  · rw [sent] at refused
    rw [if_pos refused]
    exact .refused _
  · rw [sent] at ok packet moved
    rw [if_neg (not_not.mpr ok), packet, moved]
    exact .joined request nowMs _ _ _ _ running room ⟨rfl, rfl⟩

theorem acceptJoin_effect (request : Packet) (nowMs : UInt32) :
    Effect state (.acceptJoin request nowMs)
      (acceptJoin request nowMs state).packet
      (acceptJoin request nowMs state).state := by
  unfold acceptJoin
  split
  · exact .refused _
  rename_i running
  split
  · exact expired_effect rfl nowMs
  split
  · exact .refused _
  split
  · exact .refused _
  split
  · exact .refused _
  split
  · exact .refused _
  split
  · exact .refused _
  split
  · exact .refused _
  split
  · exact .refused _
  · split
    · exact .refused _
    · rename_i room
      exact letIn_effect request nowMs (running_of_phase running)
        (Nat.lt_of_not_ge room)

theorem setHostReady_effect (ready : Bool) :
    Effect state (.setHostReady ready) (setHostReady ready state).packet
      (setHostReady ready state).state := by
  unfold setHostReady
  split
  · exact .refused _
  · rename_i lobby
    exact .hostReady ready (not_not.mp lobby)

theorem acceptReady_effect (readyPacket : Packet) :
    Effect state (.acceptReady readyPacket) (acceptReady readyPacket state).packet
      (acceptReady readyPacket state).state := by
  unfold acceptReady
  split
  · exact .refused _
  rename_i lobby
  split
  · exact .refused _
  split
  · exact .refused _
  split
  · exact .refused _
  split
  · exact .refused _
  · rename_i index found
    simp only
    split
    · exact .refused _
    · exact .memberReady readyPacket index _ (not_not.mp lobby) found

theorem begin_effect (nowMs : UInt32) :
    Effect state (.begin nowMs) (begin nowMs state).packet
      (begin nowMs state).state := by
  unfold begin openRound
  split
  · exact .refused _
  rename_i lobby
  split
  · exact .refused _
  rename_i ready
  generalize sent : makeHostPacket .roundOpen _ _ _ _ _ _ _ = answer
  rcases makeHostPacket_cases _ .roundOpen _ _ _ _ _ _ with
    ⟨refused, packet, same⟩ | ⟨ok, packet, moved⟩
  · rw [sent] at refused packet same
    rw [if_pos refused, packet, same]
    exact .notBegun nowMs _ (not_not.mp lobby)
  · rw [sent] at ok packet moved
    rw [if_neg (not_not.mpr ok), packet, moved]
    refine .begun nowMs _ ?_ ⟨rfl, rfl⟩
    simpa using ready

theorem submitHostContribution_effect (contribution : Contribution) :
    Effect state (.submitHostContribution contribution)
      (submitHostContribution contribution state).packet
      (submitHostContribution contribution state).state := by
  unfold submitHostContribution
  split
  · exact .refused _
  rename_i active
  split
  · exact .refused _
  split
  · exact .refused _
  · rename_i valid
    refine .hostSubmitted contribution (not_not.mp active) ?_
    simpa using valid

theorem acceptContribution_effect (packet : Packet) (nowMs : UInt32) :
    Effect state (.acceptContribution packet nowMs)
      (acceptContribution packet nowMs state).packet
      (acceptContribution packet nowMs state).state := by
  unfold acceptContribution
  split
  · exact .refused _
  rename_i active
  split
  · exact .refused _
  split
  · exact .refused _
  split
  · exact .refused _
  split
  · exact .refused _
  split
  · exact .refused _
  split
  · exact .refused _
  · rename_i index found
    simp only
    split
    · exact .refused _
    split
    · exact .refused _
    split
    · exact .refused _
    · rename_i valid
      refine .submitted packet nowMs index _ (not_not.mp active) found ?_
      simpa using valid

theorem publish_effect (nowMs : UInt32) (result : ModeResult)
    (active : state.phase = .active) (due : allCurrentContributions state = true ∨
      deadlineReached nowMs state.deadlineMs = true)
    (resolved : resolveResult state = .ok result) :
    Effect state (.advance nowMs) (publish result state).packet
      (publish result state).state := by
  unfold publish
  generalize sent : makeHostPacket .result _ _ _ _ _ _ state = answer
  rcases makeHostPacket_cases state .result _ _ _ _ _ _ with
    ⟨refused, packet, same⟩ | ⟨ok, packet, moved⟩
  · rw [sent] at refused packet same
    rw [if_pos refused, packet, same]
    exact .refused _
  · have next := makeHostPacket_next ok
    rw [sent] at ok packet moved
    rw [if_neg (not_not.mpr ok), packet, moved]
    exact .completed nowMs result active due resolved next

theorem advance_effect (nowMs : UInt32) :
    Effect state (.advance nowMs) (advance nowMs state).packet
      (advance nowMs state).state := by
  unfold advance
  split
  · exact .refused _
  rename_i active
  split
  · exact .refused _
  rename_i waiting
  have due : allCurrentContributions state = true ∨
      deadlineReached nowMs state.deadlineMs = true := by
    simpa [or_iff_not_imp_left] using waiting
  split
  · rename_i more
    unfold openRound
    generalize sent : makeHostPacket .roundOpen _ _ _ _ _ _ _ = answer
    rcases makeHostPacket_cases _ .roundOpen _ _ _ _ _ _ with
      ⟨_, packet, same⟩ | ⟨_, packet, moved⟩
    · rw [sent] at packet same
      rw [packet, same]
      exact .opened nowMs _ state.txSequence (not_not.mp active) more nofun
    · rw [sent] at packet moved
      rw [packet, moved]
      refine .opened nowMs _ _ (not_not.mp active) more ?_
      rintro _ ⟨⟩
      rfl
  · split
    · exact .refused _
    · rename_i resolved
      exact publish_effect nowMs _ (not_not.mp active) due resolved

theorem cancel_effect :
    Effect state .cancel (cancel state).packet (cancel state).state := by
  unfold cancel
  split
  · exact .refused _
  rename_i running
  generalize sent : makeHostPacket .cancel _ _ _ _ _ _ state = answer
  rcases makeHostPacket_cases state .cancel _ _ _ _ _ _ with
    ⟨refused, packet, same⟩ | ⟨ok, packet, moved⟩
  · rw [sent] at refused packet same
    rw [if_pos refused, packet, same]
    exact .refused _
  · rw [sent] at ok packet moved
    rw [if_neg (not_not.mpr ok), packet, moved]
    exact .cancelled _ (running_of_phase running) rfl

/-- Every call is refused or has its effect. -/
theorem perform_effect (call : Call) :
    Effect state call (perform call state).packet
      (perform call state).state := by
  cases call with
  | makeBeacon nowMs => exact makeBeacon_effect nowMs
  | acceptJoin request nowMs => exact acceptJoin_effect request nowMs
  | setHostReady ready => exact setHostReady_effect ready
  | acceptReady readyPacket => exact acceptReady_effect readyPacket
  | begin nowMs => exact begin_effect nowMs
  | submitHostContribution contribution =>
    exact submitHostContribution_effect contribution
  | acceptContribution packet nowMs =>
    exact acceptContribution_effect packet nowMs
  | advance nowMs => exact advance_effect nowMs
  | cancel => exact cancel_effect
  | expireIfNeeded nowMs =>
    change Effect state _ (expireIfNeeded nowMs state).packet _
    rw [(expireIfNeeded_cases state nowMs).1]
    exact expired_effect rfl nowMs

end Effects

/-! ## Contributions -/

/-- The members have a contribution where they submitted one, and none else. -/
structure MemberState.Sound (mode : Mode) (seed : UInt32)
    (member : MemberState) : Prop where
  mask : member.submittedMask.toNat < 2 ^ roundsForMode mode
  kept : ∀ index : Fin kMaximumRounds,
    if member.submitted (index + 1) then
      validContribution mode ⟨member.signals[index], member.values[index]⟩
        (promptFor mode seed (index + 1)) = true
    else member.signals[index] = 0 ∧ member.values[index] = 0

section Contributions

variable {mode : Mode} {seed : UInt32} {member : MemberState}

theorem MemberState.sound_blank {uid : UInt16} {ready : Bool}
    {joinedRound : Nat} {replay : ReplayCursor} :
    MemberState.Sound mode seed { uid, ready, joinedRound, replay } := by
  constructor
  · exact Nat.two_pow_pos _
  · intro index
    rw [if_neg (by simp [MemberState.submitted])]
    simp

/-- The other fields of a member are free. -/
theorem MemberState.Sound.update (sound : member.Sound mode seed)
    (ready : Bool) (replay : ReplayCursor) :
    MemberState.Sound mode seed { member with ready, replay } :=
  ⟨sound.mask, sound.kept⟩

theorem roundMask_meet (first second : Fin kMaximumRounds) :
    roundMask (first + 1) &&& roundMask (second + 1) ≠ 0 ↔
      first = second := by
  revert first second
  decide

theorem roundMask_lt {rounds round : Nat} (positive : 1 ≤ round)
    (last : round ≤ rounds) (few : rounds ≤ kMaximumRounds) :
    (roundMask round).toNat < 2 ^ rounds := by
  have small : ∀ rounds round : Fin (kMaximumRounds + 1), 1 ≤ round.val →
      round ≤ rounds → (roundMask round).toNat < 2 ^ rounds.val := by
    decide
  exact small ⟨rounds, by omega⟩ ⟨round, by omega⟩ positive last

theorem mask_or (first second round : UInt8) :
    (first ||| second) &&& round ≠ 0 ↔
      first &&& round ≠ 0 ∨ second &&& round ≠ 0 := by
  have distributes : (first ||| second) &&& round =
      (first &&& round) ||| (second &&& round) :=
    UInt8.toBitVec_inj.mp BitVec.and_or_distrib_right
  rw [distributes, ne_eq, UInt8.or_eq_zero_iff, not_and_or]

theorem submit_submitted (contribution : Contribution)
    (current index : Fin kMaximumRounds) :
    (member.submit (current + 1) contribution).submitted (index + 1) = true ↔
      member.submitted (index + 1) = true ∨ current = index := by
  unfold MemberState.submitted
  rw [decide_eq_true_eq, decide_eq_true_eq]
  exact (mask_or _ _ _).trans (or_congr_right (roundMask_meet current index))

/-- A valid contribution to the current round keeps the member sound. -/
theorem MemberState.Sound.submit (sound : member.Sound mode seed)
    {round : Nat} (positive : 1 ≤ round) (last : round ≤ roundsForMode mode)
    {contribution : Contribution} (valid : validContribution mode contribution
      (promptFor mode seed round) = true) :
    (member.submit round contribution).Sound mode seed := by
  have few : roundsForMode mode ≤ kMaximumRounds := by
    cases mode
    all_goals decide
  obtain ⟨current, rfl⟩ : ∃ current : Fin kMaximumRounds,
      round = current + 1 :=
    ⟨⟨round - 1, by omega⟩, by simp only; omega⟩
  constructor
  · change (member.submittedMask ||| _).toNat < _
    exact Nat.or_lt_two_pow sound.mask (roundMask_lt positive last few)
  · intro index
    simp only [submit_submitted]
    by_cases same : current = index
    · subst same
      simpa [MemberState.submit] using valid
    · have elsewhere : (current : Nat) ≠ index := by
        intro equal
        exact same (Fin.ext equal)
      simpa [MemberState.submit, same, elsewhere] using sound.kept index

end Contributions

/-! ## Sound sessions -/

/-- The invariant of a host: its phase, round and members fit each other. -/
structure HostState.Sound (state : HostState) : Prop where
  mode : state.mode ≠ .signalHunt
  hostUid : state.hostUid ≠ 0
  sessionNonce : state.sessionNonce ≠ 0
  seed : state.seed ≠ 0
  rounds : state.totalRounds = roundsForMode state.mode
  lobbyWindow : validWindow state.lobbyWindowSeconds = true
  roundWindow : validWindow state.roundWindowSeconds = true
  lobby : state.phase = .lobby → state.currentRound = 0
  active : state.phase = .active → 1 ≤ state.currentRound ∧
    state.currentRound ≤ state.totalRounds ∧
    kMinimumParticipants ≤ state.participantCount
  host : 1 ≤ state.participantCount
  few : state.participantCount ≤ kMaximumParticipants
  members : ∀ member ∈ state.members, member.Sound state.mode state.seed

theorem start_sound {hostUid : UInt16} {sessionNonce : UInt32} {mode : Mode}
    {seed nowMs : UInt32} {lobbyWindowSeconds roundWindowSeconds : Nat}
    {state : HostState}
    (started : start hostUid sessionNonce mode seed nowMs lobbyWindowSeconds
      roundWindowSeconds = .ok state) : state.Sound := by
  unfold start at started
  split at started
  · cases started
  rename_i supported
  split at started
  · cases started
  rename_i arguments
  simp only [Bool.or_eq_true, decide_eq_true_eq, not_or,
    Bool.not_eq_true', Bool.not_eq_false] at arguments
  obtain ⟨⟨⟨⟨hostUid, sessionNonce⟩, seed⟩, lobbyWindow⟩, roundWindow⟩ :=
    arguments
  cases started
  constructor
  · exact supported
  · exact hostUid
  · exact sessionNonce
  · exact seed
  · rfl
  · exact lobbyWindow
  · exact roundWindow
  · intro _
    rfl
  · intro active
    cases active
  · exact Nat.le_refl _
  · exact Nat.le_of_ble_eq_true rfl
  · intro member inside
    rw [List.mem_singleton] at inside
    subst inside
    exact MemberState.sound_blank

section Steps

variable {state after : HostState} {call : Call} {packet : Option Packet}

theorem getD_sound (sound : state.Sound) (index : Nat) :
    (state.members.getD index {}).Sound state.mode state.seed := by
  rw [List.getD_eq_getElem?_getD]
  rcases found : state.members[index]? with _ | member
  · exact MemberState.sound_blank
  · exact sound.members member (List.mem_of_getElem? found)

/-- The members may change where what takes their place is sound. -/
theorem HostState.Sound.withMembers (sound : state.Sound)
    {members : List MemberState} (txSequence : UInt16)
    (same : state.participantCount ≤ members.length)
    (few : members.length ≤ kMaximumParticipants)
    (each : ∀ member ∈ members, member.Sound state.mode state.seed) :
    HostState.Sound { state with members, txSequence } where
  mode := sound.mode
  hostUid := sound.hostUid
  sessionNonce := sound.sessionNonce
  seed := sound.seed
  rounds := sound.rounds
  lobbyWindow := sound.lobbyWindow
  roundWindow := sound.roundWindow
  lobby := sound.lobby
  active phase :=
    ⟨(sound.active phase).1, (sound.active phase).2.1,
      Nat.le_trans (sound.active phase).2.2 same⟩
  host := Nat.le_trans sound.host same
  few := few
  members := each

theorem HostState.Sound.setMember (sound : state.Sound) (index : Nat)
    {member : MemberState} (fits : member.Sound state.mode state.seed) :
    HostState.Sound
      { state with members := state.members.set index member } := by
  apply sound.withMembers state.txSequence
  · rw [List.length_set]
    exact Nat.le_refl _
  · rw [List.length_set]
    exact sound.few
  · intro other inside
    rcases List.mem_or_eq_of_mem_set inside with kept | rfl
    · exact sound.members other kept
    · exact fits

/-- The first member is always there. -/
theorem HostState.Sound.modify_host (sound : state.Sound)
    (change : MemberState → MemberState) :
    state.members.modify 0 change =
      state.members.set 0 (change (state.members.getD 0 {})) := by
  have nonempty := sound.host
  rw [HostState.participantCount] at nonempty
  rcases members : state.members with _ | ⟨host, others⟩
  · rw [members] at nonempty
    cases nonempty
  · rfl

/-- A session that is over keeps what it has. -/
theorem HostState.Sound.close (sound : state.Sound) {phase : HostPhase}
    (txSequence : UInt16) {result : ModeResult} {deadlineMs : UInt32}
    (closed : phase ≠ .lobby ∧ phase ≠ .active) :
    HostState.Sound
      { state with phase, txSequence, result, deadlineMs } where
  mode := sound.mode
  hostUid := sound.hostUid
  sessionNonce := sound.sessionNonce
  seed := sound.seed
  rounds := sound.rounds
  lobbyWindow := sound.lobbyWindow
  roundWindow := sound.roundWindow
  lobby lobby := absurd lobby closed.1
  active active := absurd active closed.2
  host := sound.host
  few := sound.few
  members := sound.members

/-- The session goes on with a round that its mode has. -/
theorem HostState.Sound.openRound (sound : state.Sound) {round : Nat}
    (txSequence : UInt16) (deadlineMs : UInt32) (positive : 1 ≤ round)
    (last : round ≤ state.totalRounds)
    (enough : kMinimumParticipants ≤ state.participantCount) :
    HostState.Sound
      { state with
        phase := .active, currentRound := round, txSequence, deadlineMs } where
  mode := sound.mode
  hostUid := sound.hostUid
  sessionNonce := sound.sessionNonce
  seed := sound.seed
  rounds := sound.rounds
  lobbyWindow := sound.lobbyWindow
  roundWindow := sound.roundWindow
  lobby lobby := by cases lobby
  active _ := ⟨positive, last, enough⟩
  host := sound.host
  few := sound.few
  members := sound.members

theorem roundsForMode_pos {mode : Mode} (supported : mode ≠ .signalHunt) :
    1 ≤ roundsForMode mode := by
  cases mode
  case signalHunt => exact absurd rfl supported
  all_goals decide

/-- Every effect keeps the session sound. -/
theorem Effect.sound (effect : Effect state call packet after)
    (sound : state.Sound) : after.Sound := by
  cases effect with
  | refused => exact sound
  | expired =>
    exact sound.close state.txSequence ⟨nofun, nofun⟩
  | beacon nowMs txSequence =>
    exact sound.withMembers txSequence (Nat.le_refl _) sound.few sound.members
  | joined request nowMs txSequence ready joinedRound replay running room =>
    apply sound.withMembers txSequence
    · rw [List.length_append]
      exact Nat.le_add_right _ _
    · rw [List.length_append]
      exact room
    · intro member inside
      rcases List.mem_append.mp inside with old | new
      · exact sound.members member old
      · rw [List.mem_singleton] at new
        subst new
        exact MemberState.sound_blank
  | hostReady ready =>
    rw [sound.modify_host]
    exact sound.setMember 0 ((getD_sound sound 0).update ready _)
  | memberReady readyPacket index ready =>
    exact sound.setMember index ((getD_sound sound index).update ready _)
  | begun nowMs txSequence ready =>
    apply sound.openRound txSequence _ (Nat.le_refl _)
    · rw [sound.rounds]
      exact roundsForMode_pos sound.mode
    · simp only [canStart, Bool.and_eq_true, decide_eq_true_eq] at ready
      exact ready.1.2
  | notBegun nowMs deadlineMs lobby =>
    have same : state.currentRound = 0 := sound.lobby lobby
    rw [← lobby, ← same]
    exact ⟨sound.mode, sound.hostUid, sound.sessionNonce, sound.seed,
      sound.rounds, sound.lobbyWindow, sound.roundWindow, sound.lobby,
      sound.active, sound.host, sound.few, sound.members⟩
  | hostSubmitted contribution active valid =>
    rw [sound.modify_host]
    have round := sound.active active
    rw [sound.rounds] at round
    exact sound.setMember 0
      ((getD_sound sound 0).submit round.1 round.2.1 valid)
  | submitted packet nowMs index contribution active found valid =>
    have round := sound.active active
    rw [sound.rounds] at round
    exact sound.setMember index
      (((getD_sound sound index).submit round.1 round.2.1 valid).update _ _)
  | opened nowMs packet txSequence active more =>
    have opened := sound.openRound txSequence
      (deadline nowMs state.roundWindowSeconds)
      (Nat.le_add_left 1 _) more (sound.active active).2.2
    rwa [← active] at opened
  | completed =>
    exact sound.close _ ⟨nofun, nofun⟩
  | cancelled txSequence =>
    exact sound.close txSequence ⟨nofun, nofun⟩

/-- Every state of a started session is sound. -/
theorem exec_sound {calls : List Call} (sound : state.Sound) :
    (exec step state calls).Sound :=
  exec_invariant sound (fun _ call sound => (perform_effect call).sound sound)
    calls

end Steps

/-! ## What is settled -/

/-- A member stays who it is, and what it has submitted is final. -/
structure Settled (member later : MemberState) : Prop where
  uid : later.uid = member.uid
  joinedRound : later.joinedRound = member.joinedRound
  rounds : ∀ round : Fin kMaximumRounds,
    member.submitted (round + 1) = true →
      later.submitted (round + 1) = true ∧
        later.signals.get round = member.signals.get round ∧
        later.values.get round = member.values.get round

/-- The member is settled at its place. -/
def Stands (member : MemberState) (index : Nat)
    (members : List MemberState) : Prop :=
  ∃ later, members[index]? = some later ∧ Settled member later

section Settled

variable {member : MemberState} {index slot : Nat}
  {members : List MemberState} {state after : HostState} {call : Call}
  {packet : Option Packet}

/-- A round is submitted once. -/
theorem Settled.submit {next : MemberState} {current : Nat}
    (settled : Settled member next) (fresh : next.submitted current = false)
    (contribution : Contribution) (replay : ReplayCursor) :
    Settled member { next.submit current contribution with replay } := by
  refine ⟨settled.uid, settled.joinedRound, fun round done => ?_⟩
  obtain ⟨kept, signal, value⟩ := settled.rounds round done
  rw [← signal, ← value]
  have other : current - 1 ≠ round := by
    intro same
    rw [MemberState.submitted, roundMask, same] at fresh
    rw [MemberState.submitted, roundMask, Nat.add_sub_cancel, fresh] at kept
    cases kept
  rw [MemberState.submitted, decide_eq_true_eq] at kept ⊢
  refine ⟨(mask_or _ _ _).mpr (.inl kept), ?_, ?_⟩
  all_goals exact Vector.getElem_setIfInBounds_ne round.isLt other

theorem Stands.set (stands : Stands member index members)
    {next : MemberState} (settles : Settled member (members.getD slot {}) →
      Settled member next) : Stands member index (members.set slot next) := by
  obtain ⟨later, found, settled⟩ := stands
  rw [Stands, List.getElem?_set]
  split
  · rename_i same
    rw [same, List.getD_eq_getElem?_getD, found] at settles
    have inside := (List.getElem?_eq_some_iff.mp found).1
    exact ⟨next, if_pos (same ▸ inside), settles settled⟩
  · exact ⟨later, found, settled⟩

theorem modify_host (change : MemberState → MemberState) :
    members.modify 0 change = members.set 0 (change (members.getD 0 {})) := by
  cases members with
  | nil => rfl
  | cons => rfl

/-- The calls that bring a contribution. -/
def Call.submits : Call → Bool
  | .submitHostContribution _ => true
  | .acceptContribution _ _ => true
  | _ => false

theorem Effect.stands (effect : Effect state call packet after)
    (other : call.submits = false) (stands : Stands member index state.members) :
    Stands member index after.members := by
  cases effect with
  | joined =>
    obtain ⟨later, found, settled⟩ := stands
    have inside := (List.getElem?_eq_some_iff.mp found).1
    exact ⟨later, by rw [List.getElem?_append_left inside, found], settled⟩
  | hostReady =>
    rw [modify_host]
    exact stands.set fun settled => ⟨settled.1, settled.2, settled.3⟩
  | memberReady =>
    exact stands.set fun settled => ⟨settled.1, settled.2, settled.3⟩
  | hostSubmitted => cases other
  | submitted => cases other
  | _ => exact stands

/-- A complete session stays as it is and sends nothing. -/
theorem Effect.over (effect : Effect state call packet after)
    (complete : state.phase = .complete) : after = state ∧ packet = none := by
  have lobby : state.phase ≠ .lobby := by
    rw [complete]
    nofun
  cases effect with
  | refused => exact ⟨rfl, rfl⟩
  | begun _ _ ready => simp [canStart, lobby] at ready
  | _ => simp_all

end Settled

end Kitsu.PartyModes
