import Kitsu.PartyModes.Announcements
import Kitsu.PartyModes.JoinOrder
import Kitsu.PartyModes.MissingContributions

/-!
# One result

A session goes through its phases in one direction.  It completes in the one
advance of its last round that is due and has a sequence number left; what it
resolves there, from the contributions held there, is its result from then on,
and the one result packet of the run tells it.
-/

namespace Kitsu.PartyModes

open Kitsu.Lib
open Kitsu.Lib.Run
open Kitsu.Lib.WrapClock

variable {state after : HostState} {call : Call} {packet : Option Packet}
  {result : ModeResult}

/-! ## The packet with the result -/

/-- The fields of a result that its packet has room for. -/
structure ModeResult.Packed (result : ModeResult) (mode : Mode) : Prop where
  temperature : result.temperature.code ≤ 5
  story : result.storyChoice < kStoryChoiceCount
  outcome : result.outcomeValue < 65536
  vote : mode = .storyVote → result.outcomeValue = result.storyChoice

theorem TemperatureHint.code_le (hint : TemperatureHint) : hint.code ≤ 5 := by
  cases hint
  all_goals decide

theorem storyVoteWinner_lt (votes : List Nat) (tieSeed : UInt32) :
    storyVoteWinner votes tieSeed < kStoryChoiceCount := by
  unfold storyVoteWinner
  simp only
  generalize filtered : (List.range kStoryChoiceCount).filter
    (fun index => votes.getD index 0 = votes.foldl max 0) = candidates
  generalize (mix32 tieSeed).toNat % candidates.length = place
  rw [List.getD_eq_getElem?_getD]
  cases found : candidates[place]? with
  | none => decide
  | some choice =>
    have among := List.mem_of_getElem? found
    rw [← filtered, List.mem_filter] at among
    exact List.mem_range.mp among.1

/-- Every outcome fits the packet of its mode. -/
theorem outcome_packed {mode : Mode} {seed sessionNonce : UInt32}
    {totalRounds participantCount completedRounds : Nat}
    {members : List MemberState}
    (scored : outcome mode seed sessionNonce totalRounds members
      { participantCount, completedRounds } = some result) :
    result.Packed mode := by
  have first : 0 < kStoryChoiceCount := by decide
  have small : 0 < 65536 := by decide
  have other {text : Prop} (differs : mode ≠ .storyVote) : mode = .storyVote → text :=
    fun vote => absurd vote differs
  cases mode with
  | signalHunt => cases scored
  | triangulation | hotCold | syncRhythm | rareEncounter =>
    cases scored
    exact ⟨TemperatureHint.code_le _, first, small, other (by decide)⟩
  | hideAndSeek =>
    cases scored
    have hidden : (promptFor .hideAndSeek seed 1).hideSlot < kHideSlotCount :=
      Nat.mod_lt _ (by decide)
    exact ⟨TemperatureHint.code_le _, first,
      Nat.lt_trans hidden (by decide), other (by decide)⟩
  | coopEcho =>
    cases scored
    exact ⟨TemperatureHint.code_le _, first, UInt16.toNat_lt _, other (by decide)⟩
  | asyncRelay =>
    cases scored
    refine ⟨TemperatureHint.code_le _, first, ?_, other (by decide)⟩
    simp only [asyncRelayOutcome]
    split
    · decide
    · omega
  | sharedTrail =>
    cases scored
    have few : members.foldl (fun merged member =>
        sharedTrailMisses merged member.firstValue.toUInt8.toNat) 0 ≤ 20 :=
      foldl_sharedTrailMisses_le (Nat.zero_le _)
    exact ⟨TemperatureHint.code_le _, first,
      Nat.lt_of_le_of_lt few (by decide), other (by decide)⟩
  | storyVote =>
    cases scored
    have winner := storyVoteWinner_lt (countVotes members) (seed ^^^ sessionNonce)
    exact ⟨TemperatureHint.code_le _, winner,
      Nat.lt_trans winner (by decide), fun _ => rfl⟩

/-- What is read back of the three numbers in one word. -/
theorem packedResult_fields {mode : Mode} (packed : result.Packed mode) :
    ((packedResult result >>> 16) &&& 0xff).toNat = result.temperature.code ∧
      ((packedResult result >>> 24) &&& 0xff).toNat = result.storyChoice ∧
      (packedResult result &&& 0xffff).toNat = result.outcomeValue := by
  have outcome := packed.outcome
  have temperature : result.temperature.code < 256 :=
    Nat.lt_of_le_of_lt packed.temperature (by decide)
  have story : result.storyChoice < 256 :=
    Nat.lt_trans packed.story (by decide)
  have word : (packedResult result).toNat = result.outcomeValue +
      result.temperature.code * 65536 + result.storyChoice * 16777216 := by
    have low : result.outcomeValue ||| result.temperature.code <<< 16 =
        result.temperature.code <<< 16 + result.outcomeValue := by
      rw [Nat.shiftLeft_add_eq_or_of_lt outcome, Nat.or_comm]
    have whole : (result.temperature.code <<< 16 + result.outcomeValue) |||
        result.storyChoice <<< 24 = result.storyChoice <<< 24 +
          (result.temperature.code <<< 16 + result.outcomeValue) := by
      have below : result.temperature.code <<< 16 + result.outcomeValue < 2 ^ 24 := by
        omega
      rw [Nat.shiftLeft_add_eq_or_of_lt below, Nat.or_comm]
    have sixteen : (16 : UInt32).toNat % 32 = 16 := rfl
    have twentyFour : (24 : UInt32).toNat % 32 = 24 := rfl
    simp only [packedResult, UInt32.toNat_or, UInt32.toNat_shiftLeft,
      UInt32.toNat_ofNat', sixteen, twentyFour]
    rw [Nat.mod_eq_of_lt (by omega : result.outcomeValue < 2 ^ 32),
      Nat.mod_eq_of_lt (by omega : result.temperature.code < 2 ^ 32),
      Nat.mod_eq_of_lt (by omega : result.storyChoice < 2 ^ 32),
      Nat.mod_eq_of_lt (by rw [Nat.shiftLeft_eq]; omega),
      Nat.mod_eq_of_lt (by rw [Nat.shiftLeft_eq]; omega), low, whole,
      Nat.shiftLeft_eq, Nat.shiftLeft_eq]
    omega
  have eight (value : Nat) : value &&& 255 = value % 256 :=
    Nat.and_two_pow_sub_one_eq_mod value 8
  have half (value : Nat) : value &&& 65535 = value % 65536 :=
    Nat.and_two_pow_sub_one_eq_mod value 16
  have byte : (0xff : UInt32).toNat = 255 := rfl
  have short : (0xffff : UInt32).toNat = 65535 := rfl
  have sixteen : (16 : UInt32).toNat % 32 = 16 := rfl
  have twentyFour : (24 : UInt32).toNat % 32 = 24 := rfl
  simp only [UInt32.toNat_and, UInt32.toNat_shiftRight, byte, short, sixteen,
    twentyFour, word, eight, half, Nat.shiftRight_eq_div_pow]
  omega

theorem resolveResult_packed (resolved : resolveResult state = .ok result) :
    result.Packed state.mode ∧ result.proof ≠ 0 := by
  rw [resolveResult] at resolved
  split at resolved
  · cases resolved
  · split at resolved
    · cases resolved
    · rename_i scored
      cases resolved
      have packed := outcome_packed scored
      exact ⟨⟨packed.temperature, packed.story, packed.outcome, packed.vote⟩,
        nonZero_ne_zero _⟩

/-- The host never builds a result packet that its own checks refuse. -/
theorem resultPacket_valid (sound : state.Sound) (active : state.phase = .active)
    (next : state.txSequence ≠ 65535) (resolved : resolveResult state = .ok result) :
    validate (resultPacket result state) = .ok := by
  have last := resolveResult_ok resolved
  obtain ⟨packed, proof⟩ := resolveResult_packed resolved
  have score : result.score ≤ 1000 := resolveResult_score_le resolved
  have round := sound.active active
  have rounds : state.currentRound = roundsForMode state.mode := by
    rw [last, sound.rounds]
  have positive : state.currentRound ≠ 0 := by omega
  have members : ¬state.participantCount < kMinimumParticipants :=
    Nat.not_lt.mpr round.2.2
  obtain ⟨temperature, story, outcome⟩ := packedResult_fields packed
  have warm : ¬((packedResult result >>> 16) &&& 0xff).toNat > 5 := by
    rw [temperature]
    exact Nat.not_lt.mpr packed.temperature
  have told : ¬((packedResult result >>> 24) &&& 0xff).toNat ≥ kStoryChoiceCount := by
    rw [story]
    exact Nat.not_le.mpr packed.story
  have voted : ¬(state.mode = .storyVote ∧ (packedResult result &&& 0xffff).toNat ≠
      ((packedResult result >>> 24) &&& 0xff).toNat) := by
    rintro ⟨vote, differ⟩
    rw [outcome, story] at differ
    exact differ (packed.vote vote)
  have known : (kFlagActive ||| if result.rareEncounter then kFlagRareEncounter
      else 0) &&& ~~~kKnownFlags = 0 := by
    split
    all_goals decide
  have flags : ¬(kFlagActive ||| if result.rareEncounter then kFlagRareEncounter
        else 0) &&& ~~~(kFlagActive ||| kFlagRareEncounter) ≠ 0 ∧
      ¬(kFlagActive ||| if result.rareEncounter then kFlagRareEncounter
        else 0) &&& kFlagActive = 0 := by
    split
    all_goals decide
  unfold resultPacket
  rw [validate_hostPacket sound next known round.2.1]
  unfold validFields hostPacket
  simp only
  rw [if_neg, if_neg]
  · simp only [Bool.or_eq_true, Bool.and_eq_true, decide_eq_true_eq, not_or]
    exact ⟨⟨warm, told⟩, voted⟩
  · have low : ¬(result.score : Int) < 0 := by omega
    have high : ¬(result.score : Int) > 1000 := by omega
    simp [rounds, rounds ▸ positive, members, flags, low, high, proof]

/-! ## The advance that completes -/

/-- An advance of the last round that is due, with a sequence number left. -/
structure Closes (state : HostState) (nowMs : UInt32) : Prop where
  active : state.phase = .active
  last : state.currentRound = state.totalRounds
  due : allCurrentContributions state = true ∨
    deadlineReached nowMs state.deadlineMs = true
  next : state.txSequence ≠ 65535

/-- It resolves the contributions held, and tells the result. -/
theorem advance_closes (sound : state.Sound) {nowMs : UInt32}
    (closes : Closes state nowMs) :
    ∃ result, resolveResult state = .ok result ∧
      advance nowMs state =
        { status := .ok
          packet := some (resultPacket result state)
          state :=
            { state with
              txSequence := state.txSequence + 1
              result
              phase := .complete
              deadlineMs := 0 } } := by
  obtain ⟨_, result, _, resolved, _⟩ := resolveResult_outcome sound
    (sound.active closes.active).2.2 closes.last
  have valid := resultPacket_valid sound closes.active closes.next resolved
  have waiting : ¬(!allCurrentContributions state &&
      !deadlineReached nowMs state.deadlineMs) = true := by
    simpa [or_iff_not_imp_left] using closes.due
  refine ⟨result, resolved, ?_⟩
  unfold advance
  rw [if_neg (not_not.mpr closes.active), if_neg waiting,
    if_neg (Nat.not_lt.mpr (Nat.le_of_eq closes.last.symm)), resolved]
  have published : makeHostPacket .result state.currentRound
      (kFlagActive ||| if result.rareEncounter then kFlagRareEncounter else 0)
      result.score (packedResult result) result.proof 0 state =
        { status := .ok
          packet := some (resultPacket result state)
          state := { state with txSequence := state.txSequence + 1 } } := by
    unfold makeHostPacket
    rw [if_neg closes.next]
    extract_lets candidate
    have accepted : validate candidate = .ok := valid
    rw [if_neg (not_not.mpr accepted)]
    rfl
  simp only [publish, published]
  rfl

/-! ## One direction -/

/-- The phases that a session in this phase can come to. -/
def HostPhase.leadsTo : HostPhase → HostPhase → Bool
  | .lobby, _ => true
  | .active, later => later = .active || later = .complete || later = .cancelled
  | phase, later => phase = later

theorem HostPhase.leadsTo_refl (phase : HostPhase) : phase.leadsTo phase = true := by
  cases phase
  all_goals rfl

theorem HostPhase.leadsTo_trans {first second third : HostPhase}
    (left : first.leadsTo second = true) (right : second.leadsTo third = true) :
    first.leadsTo third = true := by
  revert left right
  cases first
  all_goals
    cases second
    all_goals cases third
    all_goals decide

/-- Neither the phase nor the round goes back. -/
structure Onward (before after : HostState) : Prop where
  phase : before.phase.leadsTo after.phase = true
  round : before.currentRound ≤ after.currentRound

theorem Onward.refl (state : HostState) : Onward state state :=
  ⟨state.phase.leadsTo_refl, Nat.le_refl _⟩

theorem Onward.trans {first second third : HostState} (left : Onward first second)
    (right : Onward second third) : Onward first third :=
  ⟨HostPhase.leadsTo_trans left.phase right.phase, left.round.trans right.round⟩

theorem Effect.onward (effect : Effect state call packet after)
    (sound : state.Sound) : Onward state after := by
  have running (open_ : state.phase = .lobby ∨ state.phase = .active) :
      state.phase.leadsTo .cancelled = true := by
    rcases open_ with lobby | active
    · rw [lobby]
      rfl
    · rw [active]
      rfl
  cases effect with
  | expired _ _ lobby => exact ⟨by rw [lobby]; rfl, Nat.le_refl _⟩
  | begun nowMs txSequence ready =>
    simp only [canStart, Bool.and_eq_true, decide_eq_true_eq] at ready
    refine ⟨by rw [ready.1.1]; rfl, ?_⟩
    rw [sound.lobby ready.1.1]
    exact Nat.zero_le _
  | notBegun _ _ lobby =>
    refine ⟨by rw [lobby]; rfl, ?_⟩
    rw [sound.lobby lobby]
  | opened => exact ⟨HostPhase.leadsTo_refl _, Nat.le_succ _⟩
  | completed _ _ active => exact ⟨by rw [active]; rfl, Nat.le_refl _⟩
  | cancelled _ open_ => exact ⟨running open_, Nat.le_refl _⟩
  | _ => exact ⟨HostPhase.leadsTo_refl _, Nat.le_refl _⟩

theorem exec_onward (sound : state.Sound) (calls : List Call) :
    Onward state (exec step state calls) := by
  have both : (exec step state calls).Sound ∧ Onward state (exec step state calls) := by
    refine @exec_invariant _ _ step state
      (fun later => later.Sound ∧ Onward state later) ⟨sound, .refl state⟩ ?_ calls
    rintro later call ⟨reached, onward⟩
    have effect := @perform_effect later call
    exact ⟨effect.sound reached, onward.trans (effect.onward reached)⟩
  exact both.2

/-! ## The result of a run -/

/-- The packets that the calls send, in their order. -/
def sent : HostState → List Call → List Packet
  | _, [] => []
  | state, call :: later =>
    (perform call state).packet.toList ++ sent (step state call) later

/-- Those of them that tell a result. -/
def results (state : HostState) (calls : List Call) : List Packet :=
  (sent state calls).filter fun packet => packet.type = .result

theorem results_cons (state : HostState) (call : Call) (later : List Call) :
    results state (call :: later) =
      ((perform call state).packet.toList.filter fun packet =>
        packet.type = .result) ++ results (step state call) later := by
  rw [results, sent, List.filter_append]
  rfl

theorem results_append (state : HostState) (calls later : List Call) :
    results state (calls ++ later) =
      results state calls ++ results (exec step state calls) later := by
  induction calls generalizing state with
  | nil => rfl
  | cons call rest induction =>
    rw [List.cons_append, results_cons, induction, results_cons, exec_cons,
      List.append_assoc]

/-- Before it completes, a session neither sets nor tells a result. -/
theorem Effect.quiet (effect : Effect state call packet after)
    (open_ : after.phase ≠ .complete) :
    after.result = state.result ∧
      packet.toList.filter (fun packet => packet.type = .result) = [] := by
  have silent {type : PacketType} (other : type.announces = true) :
      type ≠ .result := by
    rintro rfl
    cases other
  cases effect with
  | refused | expired | hostReady | memberReady | notBegun | hostSubmitted
  | submitted => exact ⟨rfl, rfl⟩
  | beacon _ _ _ announced => exact ⟨rfl, by simp [silent announced.1]⟩
  | joined _ _ _ _ _ _ _ _ announced => exact ⟨rfl, by simp [silent announced.1]⟩
  | begun _ _ _ announced => exact ⟨rfl, by simp [silent announced.1]⟩
  | opened _ _ _ _ _ type =>
    refine ⟨rfl, List.filter_eq_nil_iff.mpr ?_⟩
    intro packet among
    rw [Option.mem_toList] at among
    simp [type packet among]
  | completed => exact absurd rfl open_
  | cancelled _ _ type => exact ⟨rfl, by simp [type]⟩

theorem exec_over (complete : state.phase = .complete) (calls : List Call) :
    exec step state calls = state ∧ results state calls = [] := by
  induction calls with
  | nil => exact ⟨rfl, rfl⟩
  | cons call later induction =>
    have settled := (perform_effect call).over complete
    have same : step state call = state := settled.1
    rw [exec_cons, results_cons, same, settled.2]
    exact induction

/-- What a run has come to. -/
structure OneResult (start : HostState) (calls : List Call) : Prop where
  onward : ∀ earlier, earlier <+: calls →
    Onward (exec step start earlier) (exec step start calls)
  completes : (exec step start calls).phase = .complete ↔
    ∃ earlier nowMs later, calls = earlier ++ .advance nowMs :: later ∧
      Closes (exec step start earlier) nowMs
  resolved : ∀ earlier nowMs later, calls = earlier ++ .advance nowMs :: later →
    Closes (exec step start earlier) nowMs →
      resolveResult (exec step start earlier) =
          .ok (exec step start calls).result ∧
        (exec step start calls).members = (exec step start earlier).members ∧
        results start calls =
          [resultPacket (exec step start calls).result (exec step start earlier)]
  blank : (exec step start calls).phase ≠ .complete →
    (exec step start calls).result = {} ∧ results start calls = []

theorem exec_blank {start : HostState} (fresh : start.result = {})
    (calls : List Call) (open_ : (exec step start calls).phase ≠ .complete) :
    (exec step start calls).result = {} ∧ results start calls = [] := by
  induction calls using List.reverseRecOn with
  | nil => exact ⟨fresh, rfl⟩
  | append_singleton calls call induction =>
    rw [exec_concat] at open_ ⊢
    have effect := @perform_effect (exec step start calls) call
    have before : (exec step start calls).phase ≠ .complete := by
      intro complete
      have same : step (exec step start calls) call = exec step start calls :=
        (effect.over complete).1
      rw [same] at open_
      exact open_ complete
    have quiet := effect.quiet open_
    obtain ⟨blank, none⟩ := induction before
    refine ⟨quiet.1.trans blank, ?_⟩
    rw [results_append, none, results_cons, quiet.2]
    rfl

/-- The session completes in a call only by an advance that closes it. -/
theorem Effect.closes (effect : Effect state call packet after)
    (before : state.phase ≠ .complete) (complete : after.phase = .complete) :
    ∃ nowMs, call = .advance nowMs ∧ Closes state nowMs := by
  cases effect with
  | completed nowMs result active due resolved next =>
    exact ⟨nowMs, rfl, active, resolveResult_ok resolved, due, next⟩
  | expired | notBegun | cancelled | begun => cases complete
  | _ => exact absurd complete before

theorem exec_closed {start : HostState} (open_ : start.phase ≠ .complete)
    (calls : List Call) (complete : (exec step start calls).phase = .complete) :
    ∃ earlier nowMs later, calls = earlier ++ .advance nowMs :: later ∧
      Closes (exec step start earlier) nowMs := by
  induction calls using List.reverseRecOn with
  | nil => exact absurd complete open_
  | append_singleton calls call induction =>
    by_cases before : (exec step start calls).phase = .complete
    · obtain ⟨earlier, nowMs, later, split, closes⟩ := induction before
      refine ⟨earlier, nowMs, later ++ [call], ?_, closes⟩
      rw [split, List.append_assoc, List.cons_append]
    · rw [exec_concat] at complete
      obtain ⟨nowMs, advance, closes⟩ :=
        (perform_effect call).closes before complete
      exact ⟨calls, nowMs, [], by rw [advance], closes⟩

/-- What the advance that closes the session leaves, whatever is called after it. -/
theorem exec_resolved {start : HostState} (fresh : start.result = {})
    (sound : start.Sound) {earlier : List Call} {nowMs : UInt32}
    (closes : Closes (exec step start earlier) nowMs) (later : List Call) :
    ∃ result, resolveResult (exec step start earlier) = .ok result ∧
      (exec step start (earlier ++ .advance nowMs :: later)).result = result ∧
      (exec step start (earlier ++ .advance nowMs :: later)).phase = .complete ∧
      (exec step start (earlier ++ .advance nowMs :: later)).members =
        (exec step start earlier).members ∧
      results start (earlier ++ .advance nowMs :: later) =
        [resultPacket result (exec step start earlier)] := by
  obtain ⟨result, resolved, advanced⟩ := advance_closes (exec_sound sound) closes
  have open_ : (exec step start earlier).phase ≠ .complete := by
    rw [closes.active]
    nofun
  have none := (exec_blank fresh earlier open_).2
  have sending : (perform (.advance nowMs) (exec step start earlier)).packet =
      some (resultPacket result (exec step start earlier)) :=
    congrArg Answer.packet advanced
  have ended : step (exec step start earlier) (.advance nowMs) =
      { exec step start earlier with
        txSequence := (exec step start earlier).txSequence + 1
        result
        phase := .complete
        deadlineMs := 0 } :=
    congrArg Answer.state advanced
  have complete : (step (exec step start earlier) (.advance nowMs)).phase =
      .complete := by
    rw [ended]
  obtain ⟨still, silent⟩ := exec_over complete later
  rw [exec_append, exec_cons, still, ended]
  refine ⟨result, resolved, rfl, rfl, rfl, ?_⟩
  rw [results_append, none, results_cons, silent, sending]
  rfl

theorem start_blank {hostUid : UInt16} {sessionNonce : UInt32} {mode : Mode}
    {seed nowMs : UInt32} {lobbyWindowSeconds roundWindowSeconds : Nat}
    (started : start hostUid sessionNonce mode seed nowMs lobbyWindowSeconds
      roundWindowSeconds = .ok state) :
    state.phase = .lobby ∧ state.result = {} := by
  unfold start at started
  split at started
  · cases started
  · split at started
    · cases started
    · cases started
      exact ⟨rfl, rfl⟩

/--
Whatever is called on a started session: its phase and its round only go forward; it is
complete exactly when an advance of its last round was due and had a sequence number
left; the result is then the one of the contributions held there, told by the one result
packet of the run; and before that there is no result.
-/
theorem one_result {hostUid : UInt16} {sessionNonce : UInt32} {mode : Mode}
    {seed nowMs : UInt32} {lobbyWindowSeconds roundWindowSeconds : Nat}
    (started : start hostUid sessionNonce mode seed nowMs lobbyWindowSeconds
      roundWindowSeconds = .ok state) (calls : List Call) :
    OneResult state calls := by
  have sound := start_sound started
  obtain ⟨lobby, fresh⟩ := start_blank started
  have open_ : state.phase ≠ .complete := by
    rw [lobby]
    nofun
  refine ⟨?_, ⟨exec_closed open_ calls, ?_⟩, ?_, exec_blank fresh calls⟩
  · rintro earlier ⟨later, rfl⟩
    rw [exec_append]
    exact exec_onward (exec_sound sound) later
  · rintro ⟨earlier, nowMs, later, rfl, closes⟩
    obtain ⟨_, _, _, complete, _⟩ := exec_resolved fresh sound closes later
    exact complete
  · rintro earlier nowMs later rfl closes
    obtain ⟨result, resolved, same, _, members, told⟩ :=
      exec_resolved fresh sound closes later
    rw [same]
    exact ⟨resolved, members, told⟩

/-- The story whose votes are in is told, and one more advance changes nothing. -/
theorem storyHost_result :
    (exec step storyHost (storyCalls ++ [.advance 60000, .advance 60000])).phase =
        .complete ∧
      resolveResult (exec step storyHost storyCalls) =
        .ok (exec step storyHost
          (storyCalls ++ [.advance 60000, .advance 60000])).result ∧
      (results storyHost (storyCalls ++ [.advance 60000, .advance 60000])).length =
        1 := by
  have told := one_result storyHost_started
    (storyCalls ++ [.advance 60000, .advance 60000])
  have closes : Closes (exec step storyHost storyCalls) 60000 :=
    ⟨storyHost_ends.1, storyHost_ends.2, .inr (by decide), by decide⟩
  obtain ⟨resolved, _, one⟩ :=
    told.resolved storyCalls 60000 [.advance 60000] rfl closes
  refine ⟨told.completes.mpr ⟨storyCalls, 60000, [.advance 60000], rfl, closes⟩,
    resolved, ?_⟩
  rw [one]
  rfl

end Kitsu.PartyModes
