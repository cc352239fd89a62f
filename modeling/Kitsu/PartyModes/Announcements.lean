import Kitsu.PartyModes.HostSteps

/-!
# When the host announces itself

A sound session never builds a packet that its own checks refuse: a beacon, a
welcome or an open round is sent exactly when the call passes its guards and the
sequence numbers are not used up.
-/

namespace Kitsu.PartyModes

open Kitsu.Lib
open Kitsu.Lib.WrapClock

variable {state : HostState}

/-! ## The guards -/

/-- The session is open and its deadline is not reached. -/
def Running (state : HostState) (nowMs : UInt32) : Prop :=
  (state.phase = .lobby ∨ state.phase = .active) ∧
    deadlineReached nowMs state.deadlineMs = false

/-- The request is one that the session lets in. -/
structure Joins (state : HostState) (request : Packet) : Prop where
  early : state.phase = .active → state.currentRound ≤ kLateJoinLastRound
  valid : validate request = .ok
  type : request.type = .joinRequest
  hostUid : request.hostUid = state.hostUid
  session : ofSession request state = true
  round : request.round = state.currentRound
  flags : (request.flags &&& kFlagActive ≠ 0 : Bool) =
    (state.phase = .active : Bool)
  stranger : state.member request.sourceUid = none
  room : state.participantCount < kMaximumParticipants

/-- The call passes the guards of a packet with the public seed. -/
def Announces (state : HostState) : Call → Prop
  | .makeBeacon nowMs => Running state nowMs ∧ state.txSequence ≠ 65535
  | .acceptJoin request nowMs =>
    Running state nowMs ∧ Joins state request ∧ state.txSequence ≠ 65535
  | .begin _ => canStart state = true ∧ state.txSequence ≠ 65535
  | _ => False

/-! ## The packets are valid -/

variable {nowMs : UInt32}

theorem remainingSeconds_valid {deadlineMs : UInt32}
    (ahead : deadlineReached nowMs deadlineMs = false) :
    validWindow (remainingSeconds nowMs deadlineMs) = true := by
  have nowBound := nowMs.toNat_lt
  have deadlineBound := deadlineMs.toNat_lt
  have remaining : 1 ≤ ((deadlineMs - nowMs + 999) / 1000).toNat := by
    simp only [deadlineReached, UInt32.toNat_sub, decide_eq_false_iff_not]
      at ahead
    rw [UInt32.toNat_div, UInt32.toNat_add, UInt32.toNat_sub]
    simp only [UInt32.reduceToNat]
    omega
  unfold remainingSeconds validWindow
  rw [if_neg (by rw [ahead]; decide)]
  simp only [ne_eq, Bool.and_eq_true, decide_eq_true_eq]
  constructor
  · have window : kMaximumWindowSeconds = 600 := rfl
    omega
  · exact Nat.min_le_right _ _

variable {type : PacketType} {windowSeconds : Nat}

/-- The checks that all the packets of a sound host pass. -/
theorem validate_hostPacket (sound : state.Sound)
    (next : state.txSequence ≠ 65535) {round : Nat} {flags : UInt8}
    {value : Int} {dataA dataB : UInt32} (known : flags &&& ~~~kKnownFlags = 0)
    (inside : round ≤ state.totalRounds) :
    validate (hostPacket type round flags value dataA dataB windowSeconds state) =
    validFields (hostPacket type round flags value dataA dataB windowSeconds
      state) := by
  have sequence : state.txSequence + 1 ≠ 0 := by
    intro zero
    exact next ((UInt16.add_left_inj 1).mp (zero.trans (by decide)))
  have few : ¬state.participantCount > kMaximumParticipants :=
    Nat.not_lt.mpr sound.few
  have host : ¬state.participantCount < 1 := Nat.not_lt.mpr sound.host
  have rounds : ¬round > roundsForMode state.mode := by
    rw [← sound.rounds]
    exact Nat.not_lt.mpr inside
  unfold validate
  simp only [hostPacket, sound.mode, sound.hostUid, sound.sessionNonce,
    sequence, known, few, host, rounds, if_false, decide_false,
    Bool.or_self, ne_eq, not_true, Bool.false_eq_true]

theorem nonZero_ne_zero (value : UInt32) : nonZero value ≠ 0 := by
  unfold nonZero
  split
  · decide
  · rename_i some
    exact some

theorem publicSeed_ne_zero (mode : Mode) {seed : UInt32} (real : seed ≠ 0) :
    publicSeedFor mode seed ≠ 0 := by
  unfold publicSeedFor
  split
  · exact real
  · exact nonZero_ne_zero _

theorem HostState.Sound.round_le (sound : state.Sound)
    (running : state.phase = .lobby ∨ state.phase = .active) :
    state.currentRound ≤ state.totalRounds := by
  rcases running with lobby | active
  · rw [sound.lobby lobby]
    exact Nat.zero_le _
  · exact (sound.active active).2.1

/-- A round is open exactly while the session is active. -/
theorem HostState.Sound.inRound (sound : state.Sound)
    (running : state.phase = .lobby ∨ state.phase = .active) :
    state.currentRound ≠ 0 ↔ state.phase = .active := by
  constructor
  · intro round
    rcases running with lobby | active
    · exact absurd (sound.lobby lobby) round
    · exact active
  · intro active zero
    have positive := (sound.active active).1
    rw [zero] at positive
    cases positive

/-- A valid packet is sent while there are sequence numbers. -/
theorem makeHostPacket_sent (state : HostState) {round : Nat} {flags : UInt8}
    {value : Int} {dataA dataB : UInt32} (valid : state.txSequence ≠ 65535 →
      validate (hostPacket type round flags value dataA dataB windowSeconds
        state) = .ok) :
    (makeHostPacket type round flags value dataA dataB windowSeconds
      state).packet.isSome = true ↔ state.txSequence ≠ 65535 := by
  unfold makeHostPacket
  split
  · rename_i last
    simp [HostState.refuse, last]
  · rename_i next
    rw [if_neg (not_not.mpr (valid next))]
    simp [next]

/-! ## The calls -/

theorem expired_iff (nowMs : UInt32)
    (running : state.phase = .lobby ∨ state.phase = .active) :
    (expireIfNeeded nowMs state).status = .timedOut ↔
      deadlineReached nowMs state.deadlineMs = true := by
  have phase : (state.phase = .lobby || state.phase = .active : Bool) = true := by
    simpa using running
  unfold expireIfNeeded
  rw [phase, Bool.true_and]
  by_cases reached : deadlineReached nowMs state.deadlineMs = true
  · rw [if_pos reached]
    simp only [reached, iff_true]
    split
    · rfl
    · rfl
  · rw [if_neg reached]
    simp only [reached, HostState.refuse, reduceCtorEq]

theorem beacon_valid (sound : state.Sound) (running : Running state nowMs)
    (joinOpen : Bool) (next : state.txSequence ≠ 65535) :
    validate (hostPacket .beacon state.currentRound
      ((if joinOpen then kFlagJoinOpen else 0) |||
        (if state.phase = .active then kFlagActive else 0))
      (readyCount state) (publicSeedFor state.mode state.seed) 0
      (remainingSeconds nowMs state.deadlineMs) state) = .ok := by
  have seed := publicSeed_ne_zero state.mode sound.seed
  have window := remainingSeconds_valid running.2
  have round := sound.inRound running.1
  have ready : ¬(readyCount state : Int) > state.participantCount := by
    have few := List.countP_le_length (p := (·.ready)) (l := state.members)
    simp only [readyCount, HostState.participantCount]
    omega
  have negative : ¬(readyCount state : Int) < 0 := by omega
  rw [validate_hostPacket sound next]
  · by_cases active : state.phase = .active
    · have inRound := round.mpr active
      cases joinOpen
      all_goals
        simp [validFields, hostPacket, seed, window, ready, negative, active,
          inRound]
        decide
    · have noRound := not_not.mp (mt round.mp active)
      cases joinOpen
      · simp [validFields, hostPacket, seed, window, ready, negative, active,
          noRound]
      · simp [validFields, hostPacket, seed, window, ready, negative, active,
          noRound]
        decide
  · split
    · split
      · decide
      · decide
    · split
      · decide
      · decide
  · exact sound.round_le running.1

theorem toUInt32_ne_zero {uid : UInt16} (real : uid ≠ 0) : uid.toUInt32 ≠ 0 := by
  intro zero
  have same := congrArg UInt32.toNat zero
  exact real (UInt16.toNat_inj.mp same)

theorem toUInt32_short (uid : UInt16) : uid.toUInt32 >>> 16 = 0 := by
  apply UInt32.toNat_inj.mp
  rw [UInt32.toNat_shiftRight, UInt16.toNat_toUInt32]
  rw [Nat.shiftRight_eq_div_pow]
  exact Nat.div_eq_of_lt uid.toNat_lt

theorem sourceUid_of_valid {packet : Packet} (valid : validate packet = .ok) :
    packet.sourceUid ≠ 0 := by
  intro zero
  rw [validate, zero] at valid
  split at valid
  · cases valid
  · rw [if_pos rfl] at valid
    cases valid

/-- The session with the member that the request makes. -/
def HostState.grown (request : Packet) (state : HostState) : HostState :=
  { state with members := state.members ++ [joining request state] }

theorem grown_sound (sound : state.Sound) (request : Packet)
    (room : state.participantCount < kMaximumParticipants) :
    (state.grown request).Sound := by
  apply sound.withMembers state.txSequence
  · rw [List.length_append]
    exact Nat.le_add_right _ _
  · rw [List.length_append]
    exact room
  · intro member inside
    rcases List.mem_append.mp inside with old | new
    · exact sound.members member old
    · rw [List.mem_singleton] at new
      subst new
      exact MemberState.sound_blank

theorem grown_count (request : Packet) :
    (state.grown request).participantCount = state.participantCount + 1 := by
  rw [HostState.participantCount, HostState.grown, List.length_append]
  rfl

theorem welcome_sends (sound : state.Sound) {request : Packet}
    (running : Running state nowMs) (valid : validate request = .ok)
    (room : state.participantCount < kMaximumParticipants) :
    (welcome request nowMs state).packet.isSome = true ↔
      state.txSequence ≠ 65535 := by
  have seed := publicSeed_ne_zero state.mode sound.seed
  have window := remainingSeconds_valid running.2
  have round := sound.inRound running.1
  have uid := toUInt32_ne_zero (sourceUid_of_valid valid)
  have short := toUInt32_short request.sourceUid
  have host := sound.host
  have value : ¬((state.participantCount : Int) < 1) ∧
      ¬((state.participantCount : Int) ≥ kMaximumParticipants) := by
    omega
  apply makeHostPacket_sent (state.grown request)
  intro next
  rw [validate_hostPacket (grown_sound sound request room) next]
  · change validFields (hostPacket _ _ _
      ((state.grown request).participantCount - 1 : Nat) _ _ _ _) = _
    rw [grown_count, Nat.add_sub_cancel]
    by_cases active : state.phase = .active
    · have inRound := round.mpr active
      simp [validFields, hostPacket, seed, window, active, inRound, uid, short,
        value]
      decide
    · have noRound := not_not.mp (mt round.mp active)
      simp [validFields, hostPacket, seed, window, active, noRound, uid, short,
        value]
  · split
    · decide
    · decide
  · exact sound.round_le running.1

theorem openRound_sends (sound : state.Sound) (active : state.phase = .active) :
    (openRound state).packet.isSome = true ↔ state.txSequence ≠ 65535 := by
  have seed := publicSeed_ne_zero state.mode sound.seed
  have round := sound.active active
  have positive : ¬state.currentRound = 0 := by omega
  have members : ¬state.participantCount < kMinimumParticipants :=
    Nat.not_lt.mpr round.2.2
  have prompt :
      (promptFor state.mode state.seed state.currentRound).round =
        state.currentRound := by
    have last : ¬state.currentRound > roundsForMode state.mode := by
      rw [← sound.rounds]
      exact Nat.not_lt.mpr round.2.1
    unfold promptFor
    simp [sound.mode, positive, last]
  apply makeHostPacket_sent state
  intro next
  rw [validate_hostPacket sound next]
  · rw [prompt]
    simp [validFields, hostPacket, seed, sound.roundWindow, positive, members]
  · decide
  · exact round.2.1

theorem makeBeacon_sends (sound : state.Sound) (nowMs : UInt32) :
    (makeBeacon nowMs state).packet.isSome = true ↔
      Announces state (.makeBeacon nowMs) := by
  unfold makeBeacon Announces
  by_cases running : state.phase = .lobby ∨ state.phase = .active
  · rw [if_neg (by simpa [or_iff_not_imp_left] using running)]
    by_cases reached : deadlineReached nowMs state.deadlineMs = true
    · rw [if_pos ((expired_iff nowMs running).mpr reached)]
      simp [Running, reached]
    · rw [if_neg (mt (expired_iff nowMs running).mp reached)]
      have ahead : Running state nowMs :=
        ⟨running, Bool.not_eq_true _ ▸ reached⟩
      rw [makeHostPacket_sent state (beacon_valid sound ahead _)]
      simp [ahead]
  · rw [if_pos (by simpa [not_or] using running)]
    simp [HostState.refuse, Running, running]

theorem begin_sends (sound : state.Sound) (nowMs : UInt32) :
    (begin nowMs state).packet.isSome = true ↔
      Announces state (.begin nowMs) := by
  unfold begin Announces
  by_cases ready : canStart state = true
  · have lobby : state.phase = .lobby ∧
        kMinimumParticipants ≤ state.participantCount := by
      simp only [canStart, Bool.and_eq_true, decide_eq_true_eq] at ready
      exact ready.1
    have opened := sound.openRound state.txSequence
      (deadline nowMs state.roundWindowSeconds) (Nat.le_refl 1)
      (sound.rounds ▸ roundsForMode_pos sound.mode) lobby.2
    rw [if_neg (not_not.mpr lobby.1), if_neg (by simp [ready])]
    simp only [ready, true_and]
    rw [apply_ite Answer.packet, ite_self]
    exact openRound_sends opened rfl
  · split
    · simp [HostState.refuse, ready]
    · rw [if_pos (by simpa using ready)]
      simp [HostState.refuse, ready]

theorem letIn_packet (request : Packet) (nowMs : UInt32) :
    (letIn request nowMs state).packet =
      (welcome request nowMs state).packet := by
  unfold letIn
  split
  · rename_i refused
    have none : (welcome request nowMs state).packet = none := by
      rcases makeHostPacket_cases (state.grown request) .welcome _ _ _ _ _ _
        with ⟨_, packet, _⟩ | ⟨ok, _, _⟩
      · exact packet
      · exact absurd ok refused
    rw [none]
    rfl
  · rfl

theorem acceptJoin_sends (sound : state.Sound) (request : Packet)
    (nowMs : UInt32) :
    (acceptJoin request nowMs state).packet.isSome = true ↔
      Announces state (.acceptJoin request nowMs) := by
  have refused : ∀ {answer : Answer}, answer.packet = none →
      ¬(Running state nowMs ∧ Joins state request) →
      (answer.packet.isSome = true ↔
        Announces state (.acceptJoin request nowMs)) := by
    intro answer none guards
    rw [none]
    exact iff_of_false Bool.false_ne_true
      fun announces => guards ⟨announces.1, announces.2.1⟩
  unfold acceptJoin
  split
  · rename_i closed
    refine refused rfl fun guards => ?_
    rcases guards.1.1 with phase | phase
    · simp [phase] at closed
    · simp [phase] at closed
  rename_i running
  replace running := running_of_phase running
  split
  · rename_i expired
    refine refused rfl fun guards => ?_
    simp only [Bool.and_eq_true, decide_eq_true_eq] at expired
    have reached := (expired_iff nowMs running).mp expired.2
    rw [guards.1.2] at reached
    cases reached
  rename_i lobbyAhead
  split
  · rename_i expired
    refine refused rfl fun guards => ?_
    rw [Bool.and_eq_true, guards.1.2] at expired
    cases expired.2
  rename_i activeAhead
  split
  · rename_i late
    refine refused rfl fun guards => ?_
    simp only [Bool.and_eq_true, decide_eq_true_eq] at late
    exact Nat.not_lt.mpr (guards.2.early late.1) late.2
  rename_i early
  split
  · rename_i invalid
    refine refused rfl fun guards => ?_
    simp [guards.2.valid, guards.2.type] at invalid
  rename_i valid
  split
  · rename_i other
    exact refused rfl fun guards => other guards.2.hostUid
  rename_i hostUid
  split
  · rename_i other
    refine refused rfl fun guards => ?_
    simp [guards.2.session] at other
  rename_i session
  split
  · rename_i mismatch
    refine refused rfl fun guards => ?_
    simp only [guards.2.round, guards.2.flags, ne_eq, not_true, decide_false,
      Bool.or_self, Bool.false_eq_true] at mismatch
  rename_i matched
  split
  · rename_i index known
    refine refused rfl fun guards => ?_
    rw [guards.2.stranger] at known
    cases known
  rename_i stranger
  split
  · rename_i full
    exact refused rfl fun guards => Nat.not_lt.mpr full guards.2.room
  rename_i room
  have ahead : Running state nowMs := by
    refine ⟨running, ?_⟩
    rcases running with lobby | active
    · simp only [lobby, decide_true, Bool.true_and, decide_eq_true_eq]
        at lobbyAhead
      exact Bool.eq_false_iff.mpr
        (mt (expired_iff nowMs (.inl lobby)).mpr lobbyAhead)
    · simp only [active, decide_true, Bool.true_and] at activeAhead
      exact Bool.eq_false_iff.mpr activeAhead
  simp only [Bool.or_eq_true, decide_eq_true_eq, not_or, not_not, ne_eq]
    at valid hostUid matched
  have joins : Joins state request :=
    { early := by
        intro active
        simp only [active, decide_true, Bool.true_and, decide_eq_true_eq]
          at early
        exact Nat.not_lt.mp early
      valid := valid.1
      type := valid.2
      hostUid
      session := by simpa using session
      round := matched.1
      flags := by simpa using matched.2
      stranger
      room := Nat.lt_of_not_ge room }
  rw [letIn_packet, welcome_sends sound ahead joins.valid joins.room]
  simp [Announces, ahead, joins]

/-- A call announces the session exactly when its guards let it. -/
theorem announces_iff (sound : state.Sound) {call : Call}
    (other : call.advances = false) :
    Announces state call ↔
      ∃ sent, (perform call state).packet = some sent ∧
        sent.type.announces = true := by
  have sends : ∀ {sent}, (perform call state).packet = some sent →
      ∃ after, Effect state call (some sent) after := by
    intro sent packet
    rw [← packet]
    exact ⟨_, perform_effect call⟩
  have silent : Announces state call = False →
      (∀ sent, (perform call state).packet = some sent →
        sent.type.announces = false) →
      (Announces state call ↔ ∃ sent, (perform call state).packet = some sent ∧
          sent.type.announces = true) := by
    intro never quiet
    rw [never, false_iff]
    rintro ⟨sent, packet, announces⟩
    rw [quiet sent packet] at announces
    cases announces
  cases call with
  | makeBeacon nowMs =>
    rw [← makeBeacon_sends sound, Option.isSome_iff_exists]
    refine exists_congr fun sent => (and_iff_left_of_imp ?_).symm
    intro packet
    rcases sends packet with ⟨after, effect⟩
    cases effect with
    | beacon nowMs txSequence running announced => exact announced.1
  | acceptJoin request nowMs =>
    rw [← acceptJoin_sends sound, Option.isSome_iff_exists]
    refine exists_congr fun sent => (and_iff_left_of_imp ?_).symm
    intro packet
    rcases sends packet with ⟨after, effect⟩
    cases effect with
    | joined request nowMs txSequence ready joinedRound replay running room
        announced => exact announced.1
  | begin nowMs =>
    rw [← begin_sends sound, Option.isSome_iff_exists]
    refine exists_congr fun sent => (and_iff_left_of_imp ?_).symm
    intro packet
    rcases sends packet with ⟨after, effect⟩
    cases effect with
    | begun nowMs txSequence ready announced => exact announced.1
  | advance nowMs => cases other
  | cancel =>
    refine silent rfl fun sent packet => ?_
    rcases sends packet with ⟨after, effect⟩
    cases effect with
    | cancelled txSequence running type =>
      rw [type]
      rfl
  | _ =>
    refine silent rfl fun sent packet => ?_
    rcases sends packet with ⟨after, effect⟩
    cases effect

end Kitsu.PartyModes
