import Kitsu.Lib.Saturating
import Kitsu.PartyModes.Announcements

/-!
# What the packets tell about the hidden slot

In hide-and-seek the host sends a public seed in place of its private one.  The
public seed is the private one mixed, and the mixer is a permutation: only the
one value that stands in for zero has two private seeds.  Two sessions with the
same calls and different private seeds send the same packets up to the public
seed.
-/

namespace Kitsu.PartyModes

open Kitsu.Lib
open Kitsu.Lib.Run
open Kitsu.Lib.XorShift

/-! ## The public seed -/

/-- The private seeds whose public seed stands in for zero. -/
def sharedSeeds : List UInt32 := [0x48494445, 0xE8D5D7D6]

theorem publicSeed_shared {seed : UInt32} (shared : seed ∈ sharedSeeds) :
    publicSeedFor .hideAndSeek seed = 0x4D385231 := by
  rw [sharedSeeds, List.mem_cons, List.mem_singleton] at shared
  rcases shared with rfl | rfl
  · decide
  · decide

/-- Two private seeds with one public seed are the two that share it. -/
theorem publicSeed_same {first second : UInt32}
    (same : publicSeedFor .hideAndSeek first = publicSeedFor .hideAndSeek second) :
    first = second ∨ first ∈ sharedSeeds ∧ second ∈ sharedSeeds := by
  have cancel : ∀ {left right : UInt32},
      left ^^^ 0x48494445 = right ^^^ 0x48494445 → left = right := by
    intro left right equal
    exact (UInt32.xor_left_inj _).mp equal
  have zero : ∀ {seed : UInt32}, mix32 (seed ^^^ 0x48494445) = 0 →
      seed = 0x48494445 := by
    intro seed mixed
    apply cancel
    exact mix32_injective (mixed.trans (by decide))
  have stands : ∀ {seed : UInt32},
      mix32 (seed ^^^ 0x48494445) = 0x4D385231 → seed = 0xE8D5D7D6 := by
    intro seed mixed
    apply cancel
    exact mix32_injective (mixed.trans (by decide))
  have member : (0x48494445 : UInt32) ∈ sharedSeeds ∧
      (0xE8D5D7D6 : UInt32) ∈ sharedSeeds := by
    decide
  simp only [publicSeedFor, ne_eq, not_true, nonZero, if_false] at same
  split at same
  · rename_i firstZero
    rw [zero firstZero]
    split at same
    · rename_i secondZero
      rw [zero secondZero]
      exact .inl rfl
    · rw [stands same.symm]
      exact .inr member
  · split at same
    · rename_i secondZero
      rw [zero secondZero, stands same]
      exact .inr ⟨member.2, member.1⟩
    · exact .inl (cancel (mix32_injective same))

/-! ## Another seed -/

/-- The session with another private seed. -/
def HostState.reseed (seed : UInt32) (state : HostState) : HostState :=
  { state with seed }

def Packet.carry (dataA : UInt32) (packet : Packet) : Packet :=
  { packet with dataA }

/-- The packet with the public seed of another private one. -/
def Packet.reseed (seed : UInt32) (packet : Packet) : Packet :=
  if packet.type = .cancel then packet
  else packet.carry (publicSeedFor .hideAndSeek seed)

/-- The answer of a host that had another seed. -/
def Answer.reseed (seed : UInt32) (answer : Answer) : Answer where
  status := answer.status
  packet := answer.packet.map (Packet.reseed seed)
  state := answer.state.reseed seed

section Reseed

variable {state : HostState} {seed : UInt32}

/-- The checks only ask that the public seed is not zero. -/
theorem validate_dataA {packet : Packet} {dataA : UInt32}
    (announces : packet.type.announces = true)
    (mode : packet.mode = .hideAndSeek) (before : packet.dataA ≠ 0)
    (after : dataA ≠ 0) : validate (packet.carry dataA) = validate packet := by
  unfold validate validFields Packet.carry
  cases type : packet.type
  all_goals
    first
    | exact absurd announces (by rw [type]; decide)
    | simp only [mode, before, after, wirePromptFor, decide_false,
        Bool.or_false, reduceCtorEq, if_false]

theorem makeHostPacket_reseed (state : HostState) {type : PacketType}
    (announces : type.announces = true) (mode : state.mode = .hideAndSeek)
    (before : state.seed ≠ 0) (after : seed ≠ 0) (round : Nat)
    (flags : UInt8) (value : Int) (dataB : UInt32) (windowSeconds : Nat) :
    makeHostPacket type round flags value (publicSeedFor state.mode seed)
        dataB windowSeconds (state.reseed seed) =
      (makeHostPacket type round flags value
        (publicSeedFor state.mode state.seed) dataB windowSeconds
        state).reseed seed := by
  have noCancel : type ≠ .cancel := by
    rintro rfl
    cases announces
  have candidate : hostPacket type round flags value
      (publicSeedFor state.mode seed) dataB windowSeconds
      (state.reseed seed) =
    (hostPacket type round flags value (publicSeedFor state.mode state.seed)
      dataB windowSeconds state).carry (publicSeedFor state.mode seed) := rfl
  unfold makeHostPacket
  rw [candidate]
  simp only
  rw [validate_dataA announces mode (publicSeed_ne_zero _ before)
    (publicSeed_ne_zero _ after)]
  change (if state.txSequence = 65535 then _ else _) = _
  split
  · rfl
  split
  · rfl
  · simp only [Answer.reseed, Option.map_some, Packet.reseed]
    rw [if_neg (by exact noCancel), ← mode]
    rfl

/-- Every slot is a valid guess, whatever the seed. -/
theorem validContribution_seed (contribution : Contribution)
    (first second : UInt32) (round : Nat) :
    validContribution .hideAndSeek contribution
        (promptFor .hideAndSeek first round) =
      validContribution .hideAndSeek contribution
        (promptFor .hideAndSeek second round) := by
  unfold promptFor
  split
  · rfl
  · simp only [validContribution]

@[simp]
theorem reseed_mode : (state.reseed seed).mode = state.mode :=
  rfl

/-- Answers differ in the seed when those of both branches do. -/
theorem reseed_ite {condition : Prop} [Decidable condition]
    {first second after otherwise : Answer} (left : first = after.reseed seed)
    (right : second = otherwise.reseed seed) :
    (if condition then first else second) =
      (if condition then after else otherwise).reseed seed := by
  rw [left, right]
  exact (apply_ite (Answer.reseed seed) _ _ _).symm

/-! ### The calls with another seed -/

theorem expireIfNeeded_reseed (nowMs : UInt32) :
    expireIfNeeded nowMs (state.reseed seed) =
      (expireIfNeeded nowMs state).reseed seed := by
  unfold expireIfNeeded
  change (if (state.phase = .lobby || state.phase = .active) &&
    WrapClock.deadlineReached nowMs state.deadlineMs then
      if state.phase = .lobby then _ else _ else _) = _
  split
  · split
    · rfl
    · rfl
  · rfl

theorem makeBeacon_reseed (mode : state.mode = .hideAndSeek)
    (before : state.seed ≠ 0) (after : seed ≠ 0) (nowMs : UInt32) :
    makeBeacon nowMs (state.reseed seed) =
      (makeBeacon nowMs state).reseed seed := by
  unfold makeBeacon
  rw [expireIfNeeded_reseed]
  change (if state.phase ≠ .lobby && state.phase ≠ .active then _ else
    if (expireIfNeeded nowMs state).status = .timedOut then _ else _) = _
  split
  · rfl
  simp only
  split
  · rfl
  · exact makeHostPacket_reseed state rfl mode before after _ _ _ _ _

theorem welcome_reseed (mode : state.mode = .hideAndSeek)
    (before : state.seed ≠ 0) (after : seed ≠ 0) (request : Packet)
    (nowMs : UInt32) :
    welcome request nowMs (state.reseed seed) =
      (welcome request nowMs state).reseed seed :=
  makeHostPacket_reseed
    { state with members := state.members ++ [joining request state] }
    rfl mode before after _ _ _ _ _

theorem letIn_reseed (mode : state.mode = .hideAndSeek)
    (before : state.seed ≠ 0) (after : seed ≠ 0) (request : Packet)
    (nowMs : UInt32) :
    letIn request nowMs (state.reseed seed) =
      (letIn request nowMs state).reseed seed := by
  unfold letIn
  rw [welcome_reseed mode before after]
  exact reseed_ite rfl rfl

theorem reseed_member (uid : UInt16) :
    (state.reseed seed).member uid = state.member uid :=
  rfl

theorem acceptJoin_reseed (mode : state.mode = .hideAndSeek)
    (before : state.seed ≠ 0) (after : seed ≠ 0) (request : Packet)
    (nowMs : UInt32) :
    acceptJoin request nowMs (state.reseed seed) =
      (acceptJoin request nowMs state).reseed seed := by
  unfold acceptJoin
  rw [expireIfNeeded_reseed, letIn_reseed mode before after]
  apply reseed_ite
  · rfl
  apply reseed_ite
  · rfl
  apply reseed_ite
  · rfl
  apply reseed_ite
  · rfl
  apply reseed_ite
  · rfl
  apply reseed_ite
  · rfl
  apply reseed_ite
  · rfl
  apply reseed_ite
  · rfl
  rw [reseed_member]
  cases state.member request.sourceUid with
  | some index => rfl
  | none => exact reseed_ite rfl rfl

theorem setHostReady_reseed (ready : Bool) :
    setHostReady ready (state.reseed seed) =
      (setHostReady ready state).reseed seed :=
  reseed_ite rfl rfl

theorem acceptReady_reseed (readyPacket : Packet) :
    acceptReady readyPacket (state.reseed seed) =
      (acceptReady readyPacket state).reseed seed := by
  apply reseed_ite
  · rfl
  apply reseed_ite
  · rfl
  apply reseed_ite
  · rfl
  apply reseed_ite
  · rfl
  rw [reseed_member]
  cases state.member readyPacket.sourceUid with
  | none => rfl
  | some index => exact reseed_ite rfl rfl

theorem openRound_reseed (state : HostState) (mode : state.mode = .hideAndSeek)
    (before : state.seed ≠ 0) (after : seed ≠ 0) :
    openRound (state.reseed seed) = (openRound state).reseed seed := by
  have noPrompt : ∀ publicSeed round,
      wirePromptFor state.mode publicSeed round = 0 := by
    intro publicSeed round
    rw [wirePromptFor, mode]
    rfl
  unfold openRound
  simp only [reseed_mode, noPrompt]
  exact makeHostPacket_reseed state rfl mode before after _ _ _ _ _

theorem begin_reseed (mode : state.mode = .hideAndSeek)
    (before : state.seed ≠ 0) (after : seed ≠ 0) (nowMs : UInt32) :
    begin nowMs (state.reseed seed) = (begin nowMs state).reseed seed := by
  have opened : openRound
      { state.reseed seed with
        phase := .active
        currentRound := 1
        deadlineMs := deadline nowMs (state.reseed seed).roundWindowSeconds } =
      (openRound { state with
        phase := .active
        currentRound := 1
        deadlineMs :=
          deadline nowMs state.roundWindowSeconds }).reseed seed :=
    openRound_reseed
      { state with
        phase := .active
        currentRound := 1
        deadlineMs := deadline nowMs state.roundWindowSeconds }
      mode before after
  have settled : ∀ answer : Answer,
      (if (answer.reseed seed).status ≠ .ok then
        { answer.reseed seed with
          state :=
            { (answer.reseed seed).state with
              phase := .lobby, currentRound := 0 } }
        else answer.reseed seed) =
      Answer.reseed seed
        (if answer.status ≠ .ok then
          { answer with
            state := { answer.state with phase := .lobby, currentRound := 0 } }
        else answer) := by
    intro answer
    exact reseed_ite rfl rfl
  apply reseed_ite
  · rfl
  apply reseed_ite
  · rfl
  rw [opened]
  exact settled _

theorem submitHostContribution_reseed (mode : state.mode = .hideAndSeek)
    (contribution : Contribution) :
    submitHostContribution contribution (state.reseed seed) =
      (submitHostContribution contribution state).reseed seed := by
  unfold submitHostContribution
  simp only [reseed_mode, mode]
  rw [validContribution_seed _ (state.reseed seed).seed state.seed]
  apply reseed_ite
  · rfl
  apply reseed_ite
  · rfl
  exact reseed_ite rfl rfl

theorem acceptContribution_reseed (mode : state.mode = .hideAndSeek)
    (packet : Packet) (nowMs : UInt32) :
    acceptContribution packet nowMs (state.reseed seed) =
      (acceptContribution packet nowMs state).reseed seed := by
  unfold acceptContribution
  simp only [reseed_mode, mode]
  rw [validContribution_seed _ (state.reseed seed).seed state.seed]
  apply reseed_ite
  · rfl
  apply reseed_ite
  · rfl
  apply reseed_ite
  · rfl
  apply reseed_ite
  · rfl
  apply reseed_ite
  · rfl
  apply reseed_ite
  · rfl
  rw [reseed_member]
  cases state.member packet.sourceUid with
  | none => rfl
  | some index =>
    apply reseed_ite
    · rfl
    apply reseed_ite
    · rfl
    exact reseed_ite rfl rfl

theorem cancel_reseed :
    cancel (state.reseed seed) = (cancel state).reseed seed := by
  have sent : makeHostPacket .cancel 0 0 0 0 0 0 (state.reseed seed) =
      (makeHostPacket .cancel 0 0 0 0 0 0 state).reseed seed := by
    apply reseed_ite
    · rfl
    exact reseed_ite rfl rfl
  unfold cancel
  rw [sent]
  apply reseed_ite
  · rfl
  exact reseed_ite rfl rfl

/-- The other calls differ by the public seed in what they send. -/
theorem perform_reseed (mode : state.mode = .hideAndSeek)
    (before : state.seed ≠ 0) (after : seed ≠ 0) {call : Call}
    (other : call.advances = false) :
    perform call (state.reseed seed) = (perform call state).reseed seed := by
  cases call with
  | makeBeacon nowMs => exact makeBeacon_reseed mode before after nowMs
  | acceptJoin request nowMs =>
    exact acceptJoin_reseed mode before after request nowMs
  | setHostReady ready => exact setHostReady_reseed ready
  | acceptReady readyPacket => exact acceptReady_reseed readyPacket
  | begin nowMs => exact begin_reseed mode before after nowMs
  | submitHostContribution contribution =>
    exact submitHostContribution_reseed mode contribution
  | acceptContribution packet nowMs =>
    exact acceptContribution_reseed mode packet nowMs
  | advance nowMs => cases other
  | cancel => exact cancel_reseed
  | expireIfNeeded nowMs => exact expireIfNeeded_reseed nowMs

end Reseed

/-! ## Runs before the result -/

variable {sent : Packet}

section Runs

variable {state after : HostState} {call : Call} {calls : List Call}
  {packet : Option Packet} {seed : UInt32}

theorem Effect.secrets (effect : Effect state call packet after) :
    after.mode = state.mode ∧ after.seed = state.seed := by
  cases effect
  all_goals exact ⟨rfl, rfl⟩

theorem exec_complete (complete : state.phase = .complete) :
    (exec step state calls).phase = .complete := by
  induction calls generalizing state with
  | nil => exact complete
  | cons call later induction =>
    rw [exec_cons]
    have same : step state call = state :=
      ((perform_effect call).over complete).1
    rw [same]
    exact induction complete

/-- The one round of hide-and-seek ends in the result. -/
theorem Effect.advance (sound : state.Sound) (mode : state.mode = .hideAndSeek)
    (effect : Effect state call packet after) (advances : call.advances = true) :
    packet = none ∧ after = state ∨ after.phase = .complete := by
  cases effect with
  | refused => exact .inl ⟨rfl, rfl⟩
  | expired call other =>
    rw [other] at advances
    cases advances
  | opened nowMs packet txSequence active more =>
    have rounds := sound.rounds
    rw [mode] at rounds
    have positive := (sound.active active).1
    rw [rounds] at more
    exact absurd more (Nat.not_lt.mpr positive)
  | completed => exact .inr rfl
  | _ => cases advances

/-- Calls that do not advance send the public seed or a cancellation. -/
theorem Effect.sends (effect : Effect state call (some sent) after)
    (other : call.advances = false) :
    sent.type = .cancel ∨ Announced state sent := by
  cases effect with
  | beacon nowMs txSequence running announced => exact .inr announced
  | joined request nowMs txSequence ready joinedRound replay running room
      announced => exact .inr announced
  | begun nowMs txSequence ready announced => exact .inr announced
  | cancelled txSequence running type => exact .inl type
  | _ => cases other

/-- A run without a result is the run of its other calls. -/
theorem without_advances (sound : state.Sound) (mode : state.mode = .hideAndSeek)
    (before : (exec step state calls).phase ≠ .complete) :
    exec step state (calls.filter (!·.advances)) = exec step state calls ∧
      emitted state (calls.filter (!·.advances)) = emitted state calls := by
  induction calls generalizing state with
  | nil => exact ⟨rfl, rfl⟩
  | cons call later induction =>
    have effect : Effect state call _ (step state call) :=
      perform_effect call
    have rest := induction (effect.sound sound)
      (effect.secrets.1.trans mode) before
    cases advances : call.advances with
    | true =>
      rw [List.filter_cons_of_neg (by simp [advances])]
      rcases effect.advance sound mode advances with
        ⟨none, same⟩ | complete
      · rw [exec_cons, emitted, none]
        rw [same] at rest ⊢
        exact rest
      · exact absurd (exec_complete complete) before
    | false =>
      rw [List.filter_cons_of_pos (by simp [advances]), exec_cons,
        exec_cons, emitted, emitted, rest.1, rest.2]
      exact ⟨rfl, rfl⟩

/-- The run with another seed. -/
theorem run_reseed (calls : List Call) (sound : state.Sound)
    (mode : state.mode = .hideAndSeek) (real : seed ≠ 0)
    (others : ∀ call ∈ calls, call.advances = false) :
    exec step (state.reseed seed) calls =
        (exec step state calls).reseed seed ∧
      emitted (state.reseed seed) calls =
        (emitted state calls).map (Packet.reseed seed) := by
  induction calls generalizing state with
  | nil => exact ⟨rfl, rfl⟩
  | cons call later induction =>
    have performed := perform_reseed mode sound.seed real
      (others call List.mem_cons_self)
    have stepped : step (state.reseed seed) call =
        (step state call).reseed seed := by
      rw [step, performed]
      rfl
    have effect : Effect state call _ (step state call) :=
      perform_effect call
    have rest := induction (effect.sound sound)
      (effect.secrets.1.trans mode)
      fun call inside => others call (List.mem_cons_of_mem _ inside)
    rw [exec_cons, exec_cons, emitted, emitted, stepped]
    refine ⟨rest.1, ?_⟩
    rw [rest.2, performed, List.map_append]
    congr 1
    exact Option.toList_map

/-- The packets of a run without a result. -/
theorem emitted_carries (sound : state.Sound) (mode : state.mode = .hideAndSeek)
    (before : (exec step state calls).phase ≠ .complete) :
    ∀ sent ∈ emitted state calls, sent.type = .cancel ∨
      sent.type.announces = true ∧
        sent.dataA = publicSeedFor .hideAndSeek state.seed := by
  induction calls generalizing state with
  | nil =>
    intro sent inside
    cases inside
  | cons call later induction =>
    have effect : Effect state call _ (step state call) :=
      perform_effect call
    intro sent inside
    rcases List.mem_append.mp inside with first | rest
    · rw [Option.mem_toList] at first
      rw [first] at effect
      cases advances : call.advances with
      | true =>
        rcases effect.advance sound mode advances with
          ⟨none, _⟩ | complete
        · cases none
        · exact absurd (exec_complete complete) before
      | false =>
        rw [← mode]
        exact effect.sends advances
    · rw [← effect.secrets.2]
      exact induction (effect.sound sound) (effect.secrets.1.trans mode)
        before sent rest

/-- No packet announces the session when no call does. -/
theorem emitted_quiet (sound : state.Sound) (mode : state.mode = .hideAndSeek)
    (before : (exec step state calls).phase ≠ .complete) :
    (∀ sent ∈ emitted state calls, sent.type.announces = false) ↔
      Throughout step state (fun state call => ¬Announces state call)
        calls := by
  induction calls generalizing state with
  | nil => simp only [emitted, List.not_mem_nil, false_imp_iff,
      implies_true, Throughout.nil]
  | cons call later induction =>
    have effect : Effect state call _ (step state call) :=
      perform_effect call
    have first : (∀ sent ∈ (perform call state).packet,
        sent.type.announces = false) ↔ ¬Announces state call := by
      simp only [Option.mem_def]
      cases advances : call.advances with
      | true =>
        rcases effect.advance sound mode advances with
          ⟨none, _⟩ | complete
        · have silent : ¬Announces state call := by
            cases call
            case advance => exact id
            all_goals cases advances
          simp only [none, reduceCtorEq, false_imp_iff, implies_true,
            silent, not_false_eq_true]
        · exact absurd (exec_complete complete) before
      | false =>
        rw [announces_iff sound advances]
        simp only [not_exists, not_and, Bool.not_eq_true]
    rw [emitted, throughout_cons, ← first,
      ← induction (effect.sound sound) (effect.secrets.1.trans mode) before]
    simp only [List.mem_append, Option.mem_toList, Option.mem_def, or_imp,
      forall_and]

end Runs

/-! ## The hidden slot -/

/-- The answer of hide-and-seek. -/
def hiddenSlot (seed : UInt32) : Nat :=
  (promptFor .hideAndSeek seed 1).hideSlot

/-- A session with this seed can send these packets before its result. -/
def Produces (packets : List Packet) (seed : UInt32) : Prop :=
  ∃ hostUid sessionNonce nowMs lobbyWindowSeconds roundWindowSeconds state
      calls,
    start hostUid sessionNonce .hideAndSeek seed nowMs lobbyWindowSeconds
        roundWindowSeconds = .ok state ∧
      (exec step state calls).phase ≠ .complete ∧
      emitted state calls = packets

/-- Two seeds with different slots could have sent the packets. -/
def SlotOpen (packets : List Packet) : Prop :=
  ∃ first second, Produces packets first ∧ Produces packets second ∧
    hiddenSlot first ≠ hiddenSlot second

section Sessions

variable {hostUid : UInt16} {sessionNonce seed nowMs : UInt32}
  {lobbyWindowSeconds roundWindowSeconds : Nat} {state : HostState}
  {calls : List Call}

section

variable (started : start hostUid sessionNonce .hideAndSeek seed nowMs
    lobbyWindowSeconds roundWindowSeconds = .ok state)

include started

theorem start_seed : state.mode = .hideAndSeek ∧ state.seed = seed := by
  unfold start at started
  split at started
  · cases started
  split at started
  · cases started
  · cases started
    exact ⟨rfl, rfl⟩

theorem start_reseed {other : UInt32} (real : other ≠ 0) :
    start hostUid sessionNonce .hideAndSeek other nowMs lobbyWindowSeconds
      roundWindowSeconds = .ok (state.reseed other) := by
  unfold start at started ⊢
  split at started
  · cases started
  rename_i supported
  split at started
  · cases started
  rename_i arguments
  cases started
  rw [if_neg supported, if_neg]
  · rfl
  · simp only [Bool.or_eq_true, decide_eq_true_eq, not_or] at arguments ⊢
    exact ⟨⟨⟨arguments.1.1.1, real⟩, arguments.1.2⟩, arguments.2⟩

/-- Another seed sends the packets that do not show the difference. -/
theorem produces_other
    (before : (exec step state calls).phase ≠ .complete) {other : UInt32}
    (real : other ≠ 0)
    (same : ∀ sent ∈ emitted state calls, sent.reseed other = sent) :
    Produces (emitted state calls) other := by
  have sound := start_sound started
  have mode := (start_seed started).1
  have shorter := without_advances sound mode before
  have run := run_reseed (calls.filter (!·.advances)) sound mode real
    fun call inside => by simpa using (List.mem_filter.mp inside).2
  refine ⟨hostUid, sessionNonce, nowMs, lobbyWindowSeconds,
    roundWindowSeconds, state.reseed other, calls.filter (!·.advances),
    start_reseed started real, ?_, ?_⟩
  · rw [run.1, shorter.1]
    exact before
  · rw [run.2, shorter.2]
    exact (List.map_congr_left same).trans (List.map_id' _)

end

/-- What a session announces, only the seeds of its public seed announce. -/
theorem produces_seed {packets : List Packet} (produces : Produces packets seed)
    (inside : sent ∈ packets) (announces : sent.type.announces = true) :
    sent.dataA = publicSeedFor .hideAndSeek seed := by
  rcases produces with ⟨_, _, _, _, _, state, calls, started, before, rfl⟩
  rcases emitted_carries (start_sound started) (start_seed started).1 before
    sent inside with cancel | ⟨_, carried⟩
  · rw [cancel] at announces
    cases announces
  · rw [(start_seed started).2] at carried
    exact carried

/-- A public seed with one private seed tells the slot. -/
theorem slot_told (started : start hostUid sessionNonce .hideAndSeek seed
      nowMs lobbyWindowSeconds roundWindowSeconds = .ok state)
    (before : (exec step state calls).phase ≠ .complete)
    (unshared : seed ∉ sharedSeeds) (inside : sent ∈ emitted state calls)
    (announces : sent.type.announces = true) :
    ¬SlotOpen (emitted state calls) := by
  have own : Produces (emitted state calls) seed :=
    ⟨_, _, _, _, _, _, _, started, before, rfl⟩
  have only : ∀ {other}, Produces (emitted state calls) other →
      other = seed := by
    intro other produces
    have same := (produces_seed produces inside announces).symm.trans
      (produces_seed own inside announces)
    rcases publicSeed_same same with equal | ⟨_, shared⟩
    · exact equal
    · exact absurd shared unshared
  rintro ⟨first, second, firstSends, secondSends, differ⟩
  rw [only firstSends, only secondSends] at differ
  exact differ rfl

theorem shared_slots {seed : UInt32} (shared : seed ∈ sharedSeeds) :
    ∃ other ∈ sharedSeeds, other ≠ 0 ∧ hiddenSlot seed ≠ hiddenSlot other := by
  rw [sharedSeeds, List.mem_cons, List.mem_singleton] at shared
  rcases shared with rfl | rfl
  · exact ⟨0xE8D5D7D6, by decide, by decide, by decide⟩
  · exact ⟨0x48494445, by decide, by decide, by decide⟩

theorem other_slot (seed : UInt32) :
    ∃ other, other ≠ 0 ∧ hiddenSlot seed ≠ hiddenSlot other := by
  by_cases same : hiddenSlot seed = hiddenSlot 1
  · refine ⟨2, by decide, ?_⟩
    rw [same]
    decide
  · exact ⟨1, by decide, same⟩

/--
The packets leave the slot open for the one public seed with two private seeds,
and as long as nothing is announced.
-/
theorem hidden_slot_open (started : start hostUid sessionNonce .hideAndSeek
      seed nowMs lobbyWindowSeconds roundWindowSeconds = .ok state)
    (before : (exec step state calls).phase ≠ .complete) :
    SlotOpen (emitted state calls) ↔
      seed ∈ sharedSeeds ∨
        Throughout step state (fun state call => ¬Announces state call)
          calls := by
  have own : Produces (emitted state calls) seed :=
    ⟨_, _, _, _, _, _, _, started, before, rfl⟩
  have sound := start_sound started
  have real := start_seed started
  have quiet := emitted_quiet sound real.1 before
  constructor
  · intro slotOpen
    by_contra told
    simp only [not_or, ← quiet, not_forall, Bool.not_eq_false] at told
    rcases told with ⟨unshared, sent, inside, announces⟩
    exact slot_told started before unshared inside announces slotOpen
  · rintro (shared | silent)
    · rcases shared_slots shared with ⟨other, otherShared, otherReal, differ⟩
      refine ⟨seed, other, own, produces_other started before otherReal ?_, differ⟩
      intro sent inside
      unfold Packet.reseed
      split
      · rfl
      · rename_i other
        rcases emitted_carries sound real.1 before sent inside with
          cancel | ⟨_, carried⟩
        · exact absurd cancel other
        · rw [publicSeed_shared otherShared, ← publicSeed_shared shared,
            ← real.2, ← carried]
          rfl
    · rcases other_slot seed with ⟨other, otherReal, differ⟩
      refine ⟨seed, other, own, produces_other started before otherReal ?_, differ⟩
      intro sent inside
      rcases emitted_carries sound real.1 before sent inside with
        cancel | ⟨announces, _⟩
      · exact if_pos cancel
      · rw [quiet.mpr silent sent inside] at announces
        cases announces

end Sessions

/-- A host that has just opened its lobby. -/
def freshHost : HostState :=
  { mode := .hideAndSeek
    hostUid := 1
    sessionNonce := 1
    seed := 1
    lobbyWindowSeconds := 60
    roundWindowSeconds := 60
    totalRounds := 1
    deadlineMs := 60000
    members := [{ uid := 1 }] }

theorem freshHost_started : start 1 1 .hideAndSeek 1 0 60 60 = .ok freshHost := by
  rfl

/-- The first beacon of this host tells its slot. -/
theorem freshHost_told :
    start 1 1 .hideAndSeek 1 0 60 60 = .ok freshHost ∧
      (exec step freshHost [.makeBeacon 0]).phase ≠ .complete ∧
      ¬SlotOpen (emitted freshHost [.makeBeacon 0]) := by
  have before : (exec step freshHost [.makeBeacon 0]).phase ≠ .complete := by
    decide
  have announced : ∃ sent ∈ emitted freshHost [.makeBeacon 0],
      sent.type.announces = true := by
    decide
  rcases announced with ⟨sent, inside, announces⟩
  exact ⟨freshHost_started, before,
    slot_told freshHost_started before (by decide) inside announces⟩

theorem freshHost_open_iff :
    SlotOpen (emitted freshHost [.makeBeacon 0]) ↔
      1 ∈ sharedSeeds ∨ Throughout step freshHost
        (fun state call => ¬Announces state call) [.makeBeacon 0] :=
  hidden_slot_open freshHost_started (by decide)

end Kitsu.PartyModes
