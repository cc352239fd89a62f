import Kitsu.Lib.Tally
import Kitsu.PartyModes.Result
import Kitsu.Lib.Run
import Kitsu.Lib.Saturating

/-!
# What the scores measure

The guesses score at most a thousand, the echo counts matching beats, the taps
are judged by their spread, and the story goes to the most votes.
-/

namespace Kitsu.PartyModes

open Kitsu.Lib.Tally

theorem hideAndSeekScore_le (hidden guess slots : Nat) :
    hideAndSeekScore hidden guess slots ≤ 1000 := by
  have scored : ∀ distance : Nat,
      (if distance = 0 then 1000 else 1000 / (distance + 1)) ≤ 1000 := by
    intro distance
    split
    · exact Nat.le_refl _
    · exact Nat.div_le_self _ _
  unfold hideAndSeekScore
  split
  · exact Nat.zero_le _
  · exact scored _

/-! ## The cooperative echo -/

theorem echo_prompt (seed : UInt32) :
    let prompt := promptFor .coopEcho seed 1
    5 ≤ prompt.echoBeats ∧ prompt.echoBeats ≤ 8 ∧
      prompt.echoPattern.toNat < 2 ^ prompt.echoBeats := by
  have beats : ∀ mixed : UInt32, ((mixed >>> 8) % 4).toNat < 4 := by
    intro mixed
    exact Nat.mod_lt _ (by decide)
  have pattern : ∀ (value : UInt16) (count : Nat), count ≤ 8 →
      (value &&& UInt16.ofNat (2 ^ count - 1)).toNat < 2 ^ count := by
    intro value count few
    rw [UInt16.toNat_and, UInt16.toNat_ofNat']
    have positive := Nat.two_pow_pos count
    have inside := Nat.and_le_right (n := value.toNat)
      (m := (2 ^ count - 1) % 2 ^ 16)
    omega
  intro prompt
  have count := beats (mix32 (seed ^^^ (Mode.coopEcho.code.toUInt32 <<< 24) ^^^
    (UInt32.ofNat 1 * 0x9E3779B9)))
  have most : prompt.echoBeats ≤ 8 := by
    change 5 + _ ≤ 8
    omega
  exact ⟨Nat.le_add_right _ _, most, pattern _ _ most⟩

variable {expected : UInt16} {patterns : List UInt16} {beats : Nat}

theorem cooperativeEchoScore_few (few : patterns.length < 2) :
    cooperativeEchoScore expected patterns beats = 0 := by
  unfold cooperativeEchoScore
  rw [if_pos (by simp [few])]

theorem cooperativeEchoScore_eq (enough : 2 ≤ patterns.length)
    (few : patterns.length ≤ kPartyCapacity) (least : 5 ≤ beats)
    (short : beats ≤ 8) (inside : expected.toNat < 2 ^ beats)
    (valid : ∀ pattern ∈ patterns,
      pattern &&& ~~~UInt16.ofNat (2 ^ beats - 1) = 0) :
    cooperativeEchoScore expected patterns beats =
      (patterns.map fun pattern =>
        beats - bitCount16 (expected ^^^ pattern)).sum * 1000 /
        (beats * patterns.length) := by
  unfold cooperativeEchoScore
  rw [if_neg, if_neg]
  · simp only [List.any_eq_true, not_exists, not_and, decide_eq_true_eq, not_not]
    exact valid
  · simp only [Bool.or_eq_true, decide_eq_true_eq, Bool.and_eq_true, not_or,
      not_and]
    omega

/-- The rounded scores are the same only where the exact ones are. -/
theorem echo_scores {total score count absent : Nat} (least : 5 ≤ beats)
    (short : beats ≤ 8) (enough : 2 ≤ count) (positive : 0 < absent)
    (few : count + absent ≤ 4) :
    total * 1000 / (beats * count) =
        (total + absent * score) * 1000 / (beats * (count + absent)) ↔
      total = count * score := by
  constructor
  · intro same
    obtain ⟨rounded, value⟩ :
        ∃ rounded, total * 1000 / (beats * count) = rounded := ⟨_, rfl⟩
    have present := (Nat.div_eq_iff (Nat.mul_pos (by omega) (by omega))).mp
      value
    have all := (Nat.div_eq_iff (Nat.mul_pos (by omega) (by omega))).mp
      (same.symm.trans value)
    have shapes : count = 2 ∧ absent = 1 ∨ count = 2 ∧ absent = 2 ∨
        count = 3 ∧ absent = 1 := by
      omega
    rw [← Nat.mul_assoc] at present all
    rcases shapes with ⟨rfl, rfl⟩ | ⟨rfl, rfl⟩ | ⟨rfl, rfl⟩
    all_goals omega
  · rintro rfl
    have exact : ∀ shares, 0 < shares →
        shares * score * 1000 / (beats * shares) = score * 1000 / beats := by
      intro shares some
      rw [Nat.mul_assoc, Nat.mul_comm beats]
      exact Nat.mul_div_mul_left _ _ some
    rw [← Nat.add_mul, exact count (by omega), exact _ (by omega)]

/-! ## The taps -/

/-- The score of taps with this spread. -/
def spreadScore (spread : Nat) : Nat :=
  if spread ≤ kSyncPerfectMs then 1000
  else if spread ≥ kSyncMaximumMs then 0
  else
    (kSyncMaximumMs - spread) * 1000 / (kSyncMaximumMs - kSyncPerfectMs)

theorem tapDelta_eq {first tap : UInt32} (firstShort : first.toNat ≤ 65535)
    (tapShort : tap.toNat ≤ 65535) :
    tapDelta first tap = (tap.toNat : Int) - first.toNat := by
  unfold tapDelta
  simp only [UInt32.toNat_sub]
  split
  all_goals omega

theorem synchronizedTapScore_few {taps : List UInt32} (few : taps.length < 2) :
    synchronizedTapScore taps kSyncPerfectMs kSyncMaximumMs = 0 := by
  unfold synchronizedTapScore
  rw [if_pos (by simp [few])]

/-- The code measures the spread of the taps. -/
theorem synchronizedTapScore_spread (taps : List UInt32)
    (enough : 2 ≤ taps.length) (few : taps.length ≤ kPartyCapacity)
    (short : ∀ tap ∈ taps, tap.toNat ≤ 65535) :
    ∃ spread, IsSpread (taps.map UInt32.toNat) spread ∧
      synchronizedTapScore taps kSyncPerfectMs kSyncMaximumMs =
        spreadScore spread := by
  rcases taps with _ | ⟨first, later⟩
  · cases enough
  have firstShort := short first List.mem_cons_self
  have measured : ∀ delta : Int, delta ∈ 0 :: later.map (tapDelta first) ↔
      ∃ tap ∈ (first :: later).map UInt32.toNat,
        delta = (tap : Int) - first.toNat := by
    intro delta
    have shown : ∀ tap ∈ later,
        tapDelta first tap = (tap.toNat : Int) - first.toNat :=
      fun tap inside =>
        tapDelta_eq firstShort (short tap (List.mem_cons_of_mem _ inside))
    rw [List.mem_cons, List.mem_map]
    constructor
    · rintro (rfl | ⟨tap, inside, rfl⟩)
      · exact ⟨first.toNat, List.mem_map_of_mem List.mem_cons_self,
          (Int.sub_self _).symm⟩
      · exact ⟨tap.toNat, List.mem_map_of_mem (List.mem_cons_of_mem _ inside),
          shown tap inside⟩
    · rintro ⟨value, inside, rfl⟩
      rcases List.mem_map.mp inside with ⟨tap, among, rfl⟩
      rcases List.mem_cons.mp among with rfl | after
      · exact .inl (Int.sub_self _)
      · exact .inr ⟨tap, after, shown tap after⟩
  refine ⟨_, isSpread_of_distances measured, ?_⟩
  unfold synchronizedTapScore
  rw [if_neg]
  · rfl
  · have shown : ¬(first :: later).length < 2 ∧
        ¬(first :: later).length > kPartyCapacity := by
      omega
    simp only [shown, decide_false, Bool.false_or]
    decide

/-- A zero keeps the score when the spread stays on its side of the bounds. -/
theorem spreadScore_iff {present all : List Nat} {spread wider : Nat}
    (known : ∀ entry, entry ∈ all ↔ entry ∈ present ∨ entry = 0)
    (inner : IsSpread present spread) (outer : IsSpread all wider) :
    spreadScore spread = spreadScore wider ↔
      0 ∈ present ∨ (∀ tap ∈ present, tap ≤ kSyncPerfectMs) ∨
        ∃ low ∈ present, ∃ high ∈ present,
          low + kSyncMaximumMs ≤ high := by
  obtain ⟨low, lowIn, wide, wideIn, between⟩ := inner.with_zero known outer
  have perfect : kSyncPerfectMs = 80 := rfl
  have maximum : kSyncMaximumMs = 600 := rfl
  simp only [spreadScore, perfect, maximum]
  constructor
  · intro same
    by_contra other
    simp only [not_or, not_forall, not_exists, not_and, Nat.not_le] at other
    obtain ⟨noZero, ⟨tap, tapIn, late⟩, near⟩ := other
    have positive : low ≠ 0 := by
      rintro rfl
      exact noZero lowIn
    have bound := (between tap tapIn).2
    have narrow := near low lowIn wider wideIn
    rw [if_neg (by omega : ¬wider ≤ 80), if_neg (by omega : ¬spread ≥ 600)]
      at same
    split at same
    · split at same
      · omega
      · omega
    · split at same
      · omega
      · omega
  · rintro (zero | early | ⟨first, firstIn, last, lastIn, far⟩)
    · have least := (between 0 zero).1
      have same : spread = wider := by omega
      rw [same]
    · have least := early wider wideIn
      rw [if_pos (by omega), if_pos (by omega)]
    · have left := (between first firstIn).1
      have right := (between last lastIn).2
      rw [if_neg (by omega), if_pos (by omega), if_neg (by omega),
        if_pos (by omega)]

theorem spreadScore_zero {spread : Nat} :
    spreadScore spread = 0 ↔ kSyncMaximumMs ≤ spread := by
  have perfect : kSyncPerfectMs = 80 := rfl
  have maximum : kSyncMaximumMs = 600 := rfl
  simp only [spreadScore, perfect, maximum]
  split
  · omega
  · split
    · omega
    · omega

/-! ## The votes -/

theorem countVotes_eq {members : List MemberState} (valid : ∀ member ∈ members,
      member.firstValue.toNat < kStoryChoiceCount) (choice : Nat) :
    (countVotes members).getD choice 0 =
      members.countP (·.firstValue.toNat = choice) := by
  have counted : ∀ (members : List MemberState) (votes : List Nat),
      (∀ member ∈ members, member.firstValue.toNat < kStoryChoiceCount) →
      votes.length = kStoryChoiceCount →
      (members.foldl (fun votes member =>
        votes.modify member.firstValue.toNat (· + 1)) votes).getD choice 0 =
      votes.getD choice 0 +
        members.countP (·.firstValue.toNat = choice) := by
    intro members
    induction members with
    | nil => simp
    | cons member later induction =>
      intro votes valid size
      have inside := valid member List.mem_cons_self
      rw [List.foldl_cons, induction _ (fun member inside =>
        valid member (List.mem_cons_of_mem _ inside)) (by simpa using size),
        List.countP_cons, List.getD_eq_getElem?_getD,
        List.getD_eq_getElem?_getD, List.getElem?_modify]
      by_cases same : member.firstValue.toNat = choice
      · subst same
        rw [List.getElem?_eq_getElem (by omega)]
        simp
        omega
      · simp [same]
  have blank : (List.replicate kStoryChoiceCount 0).getD choice 0 = 0 := by
    rw [List.getD_eq_getElem?_getD, List.getElem?_replicate]
    split
    · rfl
    · rfl
  rw [countVotes, counted members _ valid List.length_replicate, blank,
    Nat.zero_add]

theorem countVotes_length (members : List MemberState) :
    (countVotes members).length = kStoryChoiceCount := by
  have kept : ∀ (members : List MemberState) (votes : List Nat),
      (members.foldl (fun votes member =>
        votes.modify member.firstValue.toNat (· + 1)) votes).length =
          votes.length := by
    intro members
    induction members with
    | nil =>
      intro votes
      rfl
    | cons member later induction =>
      intro votes
      rw [List.foldl_cons, induction, List.length_modify]
  rw [countVotes, kept, List.length_replicate]

/-- The best count is the one of a choice, and no choice has more. -/
theorem best_votes {votes : List Nat} (size : votes.length = kStoryChoiceCount) :
    (∀ choice, votes.getD choice 0 ≤ votes.foldl max 0) ∧
      ∃ choice < kStoryChoiceCount,
        votes.getD choice 0 = votes.foldl max 0 := by
  obtain ⟨first, second, third, rfl⟩ := List.length_eq_three.mp size
  have best : [first, second, third].foldl max 0 =
      max (max first second) third := by
    simp
  rw [best]
  constructor
  · intro choice
    rcases choice with _ | _ | _ | choice
    · exact (Nat.le_max_left _ _).trans (Nat.le_max_left _ _)
    · exact (Nat.le_max_right _ _).trans (Nat.le_max_left _ _)
    · exact Nat.le_max_right _ _
    · exact Nat.zero_le _
  · rcases Nat.le_total (max first second) third with last | other
    · exact ⟨2, by decide, (max_eq_right last).symm⟩
    · rcases Nat.le_total first second with middle | start
      · refine ⟨1, by decide, ?_⟩
        rw [max_eq_left other, max_eq_right middle]
        rfl
      · refine ⟨0, by decide, ?_⟩
        rw [max_eq_left other, max_eq_left start]
        rfl

/-- The winner has the most votes, and zero wins a tie when it is drawn. -/
theorem storyVoteWinner_spec {votes : List Nat} (tieSeed : UInt32)
    (size : votes.length = kStoryChoiceCount) :
    let winner := storyVoteWinner votes tieSeed
    (∀ choice, votes.getD choice 0 ≤ votes.getD winner 0) ∧
      (winner = 0 ↔ (∀ choice, votes.getD choice 0 ≤ votes.getD 0 0) ∧
        (mix32 tieSeed).toNat % (List.range kStoryChoiceCount).countP
          (fun choice => votes.getD choice 0 = votes.getD 0 0) = 0) := by
  obtain ⟨bound, most, mostInside, reached⟩ := best_votes size
  unfold storyVoteWinner
  simp only
  generalize votes.foldl max 0 = best at bound reached
  have member : ∀ choice, choice ∈ (List.range kStoryChoiceCount).filter
      (fun index => votes.getD index 0 = best) ↔
        choice < kStoryChoiceCount ∧ votes.getD choice 0 = best := by
    intro choice
    rw [List.mem_filter, List.mem_range, decide_eq_true_eq]
  have counted : ((List.range kStoryChoiceCount).filter
      (fun index => votes.getD index 0 = best)).length =
        (List.range kStoryChoiceCount).countP
          (fun index => votes.getD index 0 = best) :=
    List.countP_eq_length_filter.symm
  have ordered : ((List.range kStoryChoiceCount).filter
      (fun index => votes.getD index 0 = best)).Pairwise (· < ·) :=
    List.pairwise_lt_range.filter _
  generalize (List.range kStoryChoiceCount).filter
    (fun index => votes.getD index 0 = best) = candidates
      at member counted ordered ⊢
  have nonempty : 0 < candidates.length :=
    List.length_pos_of_mem ((member most).mpr ⟨mostInside, reached⟩)
  have drawn := Nat.mod_lt (mix32 tieSeed).toNat nonempty
  have front : ∀ (index : Nat) (inside : index < candidates.length),
      candidates[index] = 0 → index = 0 := by
    intro index inside zero
    by_contra later
    have before := List.pairwise_iff_getElem.mp ordered 0 index nonempty inside
      (Nat.pos_of_ne_zero later)
    rw [zero] at before
    cases before
  have winner : candidates.getD
      ((mix32 tieSeed).toNat % candidates.length) 0 =
        candidates[(mix32 tieSeed).toNat % candidates.length] := by
    rw [List.getD_eq_getElem?_getD, List.getElem?_eq_getElem drawn,
      Option.getD_some]
  rw [winner]
  have chosen := (member _).mp (List.getElem_mem drawn)
  constructor
  · rw [chosen.2]
    exact bound
  · constructor
    · intro zero
      rw [zero] at chosen
      rw [chosen.2, ← counted]
      exact ⟨bound, front _ drawn zero⟩
    · rintro ⟨first, draw⟩
      have best : votes.getD 0 0 = best := by
        have least := first most
        rw [reached] at least
        exact Nat.le_antisymm (bound 0) least
      rw [best, ← counted] at draw
      have zeroIn := (member 0).mpr ⟨by decide, best⟩
      obtain ⟨index, inside, zero⟩ := List.getElem_of_mem zeroIn
      have start := front index inside zero
      subst start
      simp only [draw]
      exact zero

end Kitsu.PartyModes

/-!
# The host session

`HostSession` runs one party: a lobby that members join, the rounds of the mode,
and the result.  Every call answers with a status, and some with a packet that
the caller sends.
-/

namespace Kitsu.PartyModes

open Kitsu.Lib
open Kitsu.Lib.WrapClock

/--
What a call answers: a status, a packet if one is sent, and the state after it.
-/
structure Answer where
  status : Status
  packet : Option Packet := none
  state : HostState
deriving DecidableEq

/-- The call is refused and changes nothing. -/
def HostState.refuse (state : HostState) (status : Status) : Answer :=
  { status, state }

/-! ## Time -/

/-- The uptime at which a window ends. -/
def deadline (nowMs : UInt32) (seconds : Nat) : UInt32 :=
  nowMs + UInt32.ofNat seconds * 1000

/-- The seconds that are left of a window, rounded up. -/
def remainingSeconds (nowMs deadlineMs : UInt32) : Nat :=
  if deadlineReached nowMs deadlineMs then 0
  else
    let remainingMs := deadlineMs - nowMs
    min ((remainingMs + 999) / 1000).toNat kMaximumWindowSeconds

/-! ## Replays -/

/-- What a packet is to the ones before it. -/
inductive ReplayDecision where
  | fresh
  | duplicate
  | stale
  | conflict
deriving DecidableEq, Repr

/-- Compare a packet with the last one; half of the numbers lie ahead. -/
def replayDecision (cursor : ReplayCursor) (packet : Packet) :
    ReplayDecision :=
  if cursor.lastSequence = 0 then .fresh
  else if packet.sequence = cursor.lastSequence then
    if packetFingerprint packet = cursor.lastFingerprint then .duplicate
    else .conflict
  else if packet.sequence - cursor.lastSequence < 0x8000 then .fresh
  else .stale

/-- What a packet that is not fresh is answered. -/
def replayStatus : ReplayDecision → Status
  | .duplicate => .duplicate
  | .stale => .staleSequence
  | .conflict => .sequenceConflict
  | .fresh => .ok

def rememberPacket (packet : Packet) : ReplayCursor where
  lastSequence := packet.sequence
  lastFingerprint := packetFingerprint packet

/-! ## The session -/

/-- Open the lobby of a session; the legacy hunt has its own host. -/
def start (hostUid : UInt16) (sessionNonce : UInt32) (mode : Mode)
    (seed nowMs : UInt32) (lobbyWindowSeconds roundWindowSeconds : Nat) :
    Except Status HostState :=
  if mode = .signalHunt then .error .legacySignalHunt
  else if hostUid = 0 || sessionNonce = 0 || seed = 0 ||
      !validWindow lobbyWindowSeconds || !validWindow roundWindowSeconds then
    .error .invalidArgument
  else
    .ok { mode, hostUid, sessionNonce, seed
          lobbyWindowSeconds, roundWindowSeconds
          totalRounds := roundsForMode mode
          deadlineMs := deadline nowMs lobbyWindowSeconds
          members := [{ uid := hostUid }] }

def readyCount (state : HostState) : Nat :=
  state.members.countP (·.ready)

/-- The position of a member. -/
def HostState.member (state : HostState) (uid : UInt16) : Option Nat :=
  state.members.findIdx? fun member => member.uid = uid

/-- A packet of the host with its next number. -/
def hostPacket (type : PacketType) (round : Nat) (flags : UInt8)
    (value : Int) (dataA dataB : UInt32) (windowSeconds : Nat)
    (state : HostState) : Packet :=
  { type, round, flags, value, dataA, dataB, windowSeconds
    mode := state.mode
    participantCount := state.participantCount
    sourceUid := state.hostUid
    hostUid := state.hostUid
    sessionNonce := state.sessionNonce
    sequence := state.txSequence + 1 }

/-- The next packet of the host, if it passes its checks. -/
def makeHostPacket (type : PacketType) (round : Nat) (flags : UInt8)
    (value : Int) (dataA dataB : UInt32) (windowSeconds : Nat)
    (state : HostState) : Answer :=
  if state.txSequence = 65535 then state.refuse .sequenceExhausted
  else
    let candidate :=
      hostPacket type round flags value dataA dataB windowSeconds state
    if validate candidate ≠ .ok then state.refuse (validate candidate)
    else
      { status := .ok
        packet := some candidate
        state := { state with txSequence := candidate.sequence } }

/-- A lobby whose time is over expires; a round only tells so. -/
def expireIfNeeded (nowMs : UInt32) (state : HostState) : Answer :=
  if (state.phase = .lobby || state.phase = .active) &&
      deadlineReached nowMs state.deadlineMs then
    if state.phase = .lobby then
      { status := .timedOut
        state := { state with phase := .expired, deadlineMs := 0 } }
    else state.refuse .timedOut
  else state.refuse .ok

/-- Announce the session, and whether it can still be joined. -/
def makeBeacon (nowMs : UInt32) (state : HostState) : Answer :=
  if state.phase ≠ .lobby && state.phase ≠ .active then
    state.refuse .wrongPhase
  else
    let expired := expireIfNeeded nowMs state
    if expired.status = .timedOut then
      { status := .timedOut, state := expired.state }
    else
      let joinOpen := state.participantCount < kMaximumParticipants &&
        (state.phase = .lobby || state.currentRound ≤ kLateJoinLastRound)
      let flags := (if joinOpen then kFlagJoinOpen else 0) |||
        (if state.phase = .active then kFlagActive else 0)
      makeHostPacket .beacon state.currentRound flags (readyCount state)
        (publicSeedFor state.mode state.seed) 0
        (remainingSeconds nowMs state.deadlineMs) state

/-- The packet is for the session of the host. -/
def ofSession (packet : Packet) (state : HostState) : Bool :=
  packet.sessionNonce = state.sessionNonce && packet.mode = state.mode

/-- The member that the request makes. -/
def joining (request : Packet) (state : HostState) : MemberState :=
  let late : Bool := state.phase = .active
  { uid := request.sourceUid
    ready := late
    joinedRound := if late then state.currentRound else 0
    replay := rememberPacket request }

/-- The packet that lets the member in. -/
def welcome (request : Packet) (nowMs : UInt32) (state : HostState) : Answer :=
  let grown :=
    { state with members := state.members ++ [joining request state] }
  makeHostPacket .welcome state.currentRound
    (if state.phase = .active then kFlagActive ||| kFlagReady else 0)
    (grown.participantCount - 1 : Nat)
    (publicSeedFor state.mode state.seed) request.sourceUid.toUInt32
    (remainingSeconds nowMs state.deadlineMs) grown

/-- Let a member in if the welcome can be sent. -/
def letIn (request : Packet) (nowMs : UInt32) (state : HostState) : Answer :=
  if (welcome request nowMs state).status ≠ .ok then
    state.refuse (welcome request nowMs state).status
  else welcome request nowMs state

/-- Somebody asks to join, in the lobby or in the first rounds. -/
def acceptJoin (request : Packet) (nowMs : UInt32) (state : HostState) :
    Answer :=
  if state.phase ≠ .lobby && state.phase ≠ .active then
    state.refuse .wrongPhase
  else if state.phase = .lobby &&
      (expireIfNeeded nowMs state).status = .timedOut then
    { status := .timedOut, state := (expireIfNeeded nowMs state).state }
  else if state.phase = .active && deadlineReached nowMs state.deadlineMs then
    state.refuse .timedOut
  else if state.phase = .active && state.currentRound > kLateJoinLastRound then
    state.refuse .joinClosed
  else if validate request ≠ .ok || request.type ≠ .joinRequest then
    state.refuse .invalidPacket
  else if request.hostUid ≠ state.hostUid then state.refuse .wrongHost
  else if !ofSession request state then state.refuse .wrongSession
  else if request.round ≠ state.currentRound ||
      (request.flags &&& kFlagActive ≠ 0 : Bool) ≠
        (state.phase = .active : Bool) then
    state.refuse .roundMismatch
  else
    match state.member request.sourceUid with
    | some index =>
      let joined := state.members.getD index {}
      let decision := replayDecision joined.replay request
      state.refuse
        (if decision = .fresh then .duplicate else replayStatus decision)
    | none =>
      if state.participantCount ≥ kMaximumParticipants then
        state.refuse .partyFull
      else letIn request nowMs state

/-- The host says whether it is ready. -/
def setHostReady (ready : Bool) (state : HostState) : Answer :=
  if state.phase ≠ .lobby then state.refuse .wrongPhase
  else
    { status := .ok
      state :=
        { state with
          members := state.members.modify 0 fun host => { host with ready } } }

/-- A member says that it is ready. -/
def acceptReady (readyPacket : Packet) (state : HostState) : Answer :=
  if state.phase ≠ .lobby then state.refuse .wrongPhase
  else if validate readyPacket ≠ .ok || readyPacket.type ≠ .ready then
    state.refuse .invalidPacket
  else if readyPacket.hostUid ≠ state.hostUid then state.refuse .wrongHost
  else if !ofSession readyPacket state then state.refuse .wrongSession
  else
    match state.member readyPacket.sourceUid with
    | none => state.refuse .unknownParticipant
    | some index =>
      let sender := state.members.getD index {}
      let decision := replayDecision sender.replay readyPacket
      if decision ≠ .fresh then state.refuse (replayStatus decision)
      else
        { status := .ok
          state :=
            { state with
              members := state.members.set index
                { sender with
                  ready := readyPacket.value ≠ 0
                  replay := rememberPacket readyPacket } } }

/-- Enough members are there and all of them are ready. -/
def canStart (state : HostState) : Bool :=
  state.phase = .lobby && state.participantCount ≥ kMinimumParticipants &&
    readyCount state = state.participantCount

/-- The packet that opens the current round. -/
def openRound (state : HostState) : Answer :=
  let publicSeed := publicSeedFor state.mode state.seed
  makeHostPacket .roundOpen state.currentRound kFlagActive 0 publicSeed
    (wirePromptFor state.mode publicSeed
      (promptFor state.mode state.seed state.currentRound).round)
    state.roundWindowSeconds state

/-- Close the lobby and open the first round. -/
def begin (nowMs : UInt32) (state : HostState) : Answer :=
  if state.phase ≠ .lobby then state.refuse .wrongPhase
  else if !canStart state then state.refuse .notReady
  else
    let opened := openRound
      { state with
        phase := .active
        currentRound := 1
        deadlineMs := deadline nowMs state.roundWindowSeconds }
    if opened.status ≠ .ok then
      { opened with
        state := { opened.state with phase := .lobby, currentRound := 0 } }
    else opened

/-- The contribution of a member to the current round. -/
def MemberState.submit (member : MemberState) (round : Nat)
    (contribution : Contribution) : MemberState :=
  { member with
    signals := member.signals.setIfInBounds (round - 1) contribution.signalRssi
    values := member.values.setIfInBounds (round - 1) contribution.value
    submittedMask := member.submittedMask ||| roundMask round }

/-- The host's own contribution to the round. -/
def submitHostContribution (contribution : Contribution)
    (state : HostState) : Answer :=
  if state.phase ≠ .active then state.refuse .wrongPhase
  else if (state.members.getD 0 {}).submitted state.currentRound then
    state.refuse .alreadySubmitted
  else if !validContribution state.mode contribution
      (promptFor state.mode state.seed state.currentRound) then
    state.refuse .invalidContribution
  else
    { status := .ok
      state :=
        { state with
          members := state.members.modify 0
            (·.submit state.currentRound contribution) } }

/-- The contribution of a member to the round, once. -/
def acceptContribution (packet : Packet) (nowMs : UInt32)
    (state : HostState) : Answer :=
  if state.phase ≠ .active then state.refuse .wrongPhase
  else if deadlineReached nowMs state.deadlineMs then state.refuse .timedOut
  else if validate packet ≠ .ok || packet.type ≠ .contribution then
    state.refuse .invalidPacket
  else if packet.hostUid ≠ state.hostUid then state.refuse .wrongHost
  else if !ofSession packet state then state.refuse .wrongSession
  else if packet.round ≠ state.currentRound then state.refuse .roundMismatch
  else
    match state.member packet.sourceUid with
    | none => state.refuse .unknownParticipant
    | some index =>
      let sender := state.members.getD index {}
      let decision := replayDecision sender.replay packet
      let contribution : Contribution :=
        { signalRssi := packet.value
          value := (packet.dataA &&& 0xffff).toUInt16 }
      if decision ≠ .fresh then state.refuse (replayStatus decision)
      else if sender.submitted state.currentRound then
        state.refuse .alreadySubmitted
      else if !validContribution state.mode contribution
          (promptFor state.mode state.seed state.currentRound) then
        state.refuse .invalidContribution
      else
        { status := .ok
          state :=
            { state with
              members := state.members.set index
                { sender.submit state.currentRound contribution with
                  replay := rememberPacket packet } } }

/-- Every member that takes part in the round has contributed. -/
def allCurrentContributions (state : HostState) : Bool :=
  if state.currentRound = 0 then false
  else
    state.members.all fun current =>
      current.joinedRound > state.currentRound ||
        current.submitted state.currentRound

/-- The packet with the result, after which the session is complete. -/
def publish (result : ModeResult) (state : HostState) : Answer :=
  let published := makeHostPacket .result state.currentRound
    (kFlagActive ||| if result.rareEncounter then kFlagRareEncounter else 0)
    result.score (packedResult result) result.proof 0 state
  if published.status ≠ .ok then published
  else
    { published with
      state := { published.state with
        result
        phase := .complete
        deadlineMs := 0 } }

/--
Open the next round or resolve the result, when all is in or the time is over.
-/
def advance (nowMs : UInt32) (state : HostState) : Answer :=
  if state.phase ≠ .active then state.refuse .wrongPhase
  else if !allCurrentContributions state &&
      !deadlineReached nowMs state.deadlineMs then state.refuse .notReady
  else if state.currentRound < state.totalRounds then
    openRound
      { state with
        currentRound := state.currentRound + 1
        deadlineMs := deadline nowMs state.roundWindowSeconds }
  else
    match resolveResult state with
    | .error status => state.refuse status
    | .ok result => publish result state

/-- The host cancels the session. -/
def cancel (state : HostState) : Answer :=
  if state.phase ≠ .lobby && state.phase ≠ .active then
    state.refuse .wrongPhase
  else
    let cancelled := makeHostPacket .cancel 0 0 0 0 0 0 state
    if cancelled.status ≠ .ok then cancelled
    else
      { cancelled with
        state := { cancelled.state with
          phase := .cancelled
          deadlineMs := 0 } }

/-! ## Runs -/

/-- The calls of the host. -/
inductive Call where
  | makeBeacon (nowMs : UInt32)
  | acceptJoin (request : Packet) (nowMs : UInt32)
  | setHostReady (ready : Bool)
  | acceptReady (readyPacket : Packet)
  | begin (nowMs : UInt32)
  | submitHostContribution (contribution : Contribution)
  | acceptContribution (packet : Packet) (nowMs : UInt32)
  | advance (nowMs : UInt32)
  | cancel
  | expireIfNeeded (nowMs : UInt32)
deriving DecidableEq

/-- The call that can end in a result. -/
def Call.advances : Call → Bool
  | .advance _ => true
  | _ => false

/-- A call by its name. -/
def perform (call : Call) (state : HostState) : Answer :=
  match call with
  | .makeBeacon nowMs => makeBeacon nowMs state
  | .acceptJoin request nowMs => acceptJoin request nowMs state
  | .setHostReady ready => setHostReady ready state
  | .acceptReady readyPacket => acceptReady readyPacket state
  | .begin nowMs => begin nowMs state
  | .submitHostContribution contribution =>
    submitHostContribution contribution state
  | .acceptContribution packet nowMs => acceptContribution packet nowMs state
  | .advance nowMs => advance nowMs state
  | .cancel => cancel state
  | .expireIfNeeded nowMs => expireIfNeeded nowMs state

def step (state : HostState) (call : Call) : HostState :=
  (perform call state).state

/-- The packets that a run sends. -/
def emitted (state : HostState) : List Call → List Packet
  | [] => []
  | call :: later =>
    (perform call state).packet.toList ++ emitted (step state call) later

end Kitsu.PartyModes
