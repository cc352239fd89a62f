import Kitsu.PartyModes.HostSession
import Kitsu.PartyModes.Submitted

/-!
# Members that did not submit

The slots of a member that misses a round are zero, and zero is a contribution
that most modes know.  The modes of three rounds skip such a member; the others
count its zero.  `Harmless` says for every mode when the zeros make no
difference, and `missing_contributions` that it is so exactly then.
-/

namespace Kitsu.PartyModes

open Kitsu.Lib
open Kitsu.Lib.Run
open Kitsu.Lib.Tally

/-! ## Fair outcomes -/

/-- The submitted votes for a choice. -/
def votesFor (state : HostState) (choice : Nat) : Nat :=
  (heard state.members).countP (·.firstValue.toNat = choice)

/-- No choice has more of the submitted votes than the one that won. -/
def FairVote (state : HostState) : Prop :=
  ∀ result, resolveResult state = .ok result → heard state.members ≠ [] →
    ∀ choice, votesFor state choice ≤ votesFor state result.storyChoice

/-- What was not submitted does not count. -/
def MissingNeverCount (state : HostState) : Prop :=
  if state.mode = .storyVote then FairVote state else OnlySubmitted state

/-! ## When the zeros make no difference -/

/-- The taps of the members that submitted one. -/
def heardTaps (state : HostState) : List Nat :=
  (heard state.members).map (·.firstValue.toNat)

/-- The score of a guess. -/
def guessScore (state : HostState) (value : UInt16) : Nat :=
  hideAndSeekScore (promptFor .hideAndSeek state.seed 1).hideSlot
    value.toUInt8.toNat kHideSlotCount

/-- The beats in which a pattern agrees with the echo. -/
def echoMatches (state : HostState) (pattern : UInt16) : Nat :=
  let prompt := promptFor .coopEcho state.seed 1
  prompt.echoBeats - bitCount16 (prompt.echoPattern ^^^ pattern)

/-- The votes for a choice with those that the missing members seem to cast. -/
def countedVotes (state : HostState) (choice : Nat) : Nat :=
  votesFor state choice + if choice = 0 then missing state.members else 0

/-- The absent members change nothing in the result of the mode. -/
def Harmless (state : HostState) : Prop :=
  let count := (heard state.members).length
  let absent := missing state.members
  absent = 0 ∨
    match state.mode with
    | .hideAndSeek =>
      SameMean (heardTotal state (guessScore state)) count absent
        (guessScore state 0)
    | .rareEncounter =>
      SameMean (heardTotal state UInt16.toNat) count absent 0
    | .syncRhythm =>
      2 ≤ count ∧
          (0 ∈ heardTaps state ∨ (∀ tap ∈ heardTaps state, tap ≤ kSyncPerfectMs) ∨
            ∃ low ∈ heardTaps state, ∃ high ∈ heardTaps state,
              low + kSyncMaximumMs ≤ high) ∨
        count = 1 ∧ ∀ tap ∈ heardTaps state, kSyncMaximumMs ≤ tap
    | .coopEcho =>
      if count < 2 then
        heardTotal state (echoMatches state) = 0 ∧ echoMatches state 0 = 0
      else
        heardTotal state (echoMatches state) = count * echoMatches state 0
    | .storyVote =>
      count = 0 ∨
        (∀ choice, votesFor state choice ≤ votesFor state 0) ∨
        (∃ choice ≠ 0, countedVotes state 0 < countedVotes state choice) ∨
        (mix32 (state.seed ^^^ state.sessionNonce)).toNat %
          (List.range kStoryChoiceCount).countP
            (fun choice => countedVotes state choice =
              countedVotes state 0) ≠ 0
    | _ => True

/-! ## The modes of one round -/

section Modes

variable {state : HostState}

section

variable (sound : state.Sound)

include sound

theorem hideAndSeek_iff (mode : state.mode = .hideAndSeek)
    (positive : 0 < missing state.members) :
    OnlySubmitted state ↔
      SameMean (heardTotal state (guessScore state))
        (heard state.members).length (missing state.members)
        (guessScore state 0) := by
  rw [onlySubmitted_iff sound (by rw [mode]; rfl),
    ← mean_iff sound (fun _ _ => hideAndSeekScore_le _ _ _) positive]
  simp only [outcomeOf, mode, outcome, hideAndSeekOutcome, Option.some_inj,
    ModeResult.mk.injEq, true_and, and_true]
  exact Iff.rfl

theorem rareEncounter_iff
    (mode : state.mode = .rareEncounter) (positive : 0 < missing state.members) :
    OnlySubmitted state ↔
      SameMean (heardTotal state UInt16.toNat) (heard state.members).length
        (missing state.members) 0 := by
  have each : ∀ member ∈ state.members, member.firstValue.toNat ≤ 1000 := by
    refine sound.values (by rw [mode]; rfl)
      (fun value => value.toNat ≤ 1000) (by decide) ?_
    intro contribution valid
    rw [mode] at valid
    exact validContribution_value valid
  rw [onlySubmitted_iff sound (by rw [mode]; rfl)]
  have means := mean_iff sound each positive
  rw [UInt16.toNat_zero] at means
  rw [← means]
  simp only [outcomeOf, mode, outcome, rareEncounterOutcome, Option.some_inj,
    ModeResult.mk.injEq, true_and, and_true]
  exact Iff.rfl

/-- Two misses are merged up to twenty, so none of them is lost. -/
theorem sharedTrail_harmless
    (mode : state.mode = .sharedTrail) : OnlySubmitted state := by
  have merged : ∀ (members : List MemberState) (merged : Nat),
      (∀ member ∈ members, member.heard = false → member.firstValue = 0) →
      merged ≤ 20 →
      (heard members).foldl (fun merged member =>
          sharedTrailMisses merged member.firstValue.toUInt8.toNat) merged =
        members.foldl (fun merged member =>
          sharedTrailMisses merged member.firstValue.toUInt8.toNat)
          merged := by
    intro members
    induction members with
    | nil => simp [heard]
    | cons member later induction =>
      intro merged blank few
      have rest := fun merged => induction merged fun member inside =>
        blank member (List.mem_cons_of_mem _ inside)
      have bounded : ∀ misses, sharedTrailMisses merged misses ≤ 20 := by
        intro misses
        simp only [sharedTrailMisses]
        split
        · exact Nat.le_refl _
        · omega
      unfold heard at rest ⊢
      cases here : member.heard with
      | true =>
        rw [List.filter_cons_of_pos here, List.foldl_cons, List.foldl_cons]
        exact rest _ (bounded _)
      | false =>
        have same : sharedTrailMisses merged
            member.firstValue.toUInt8.toNat = merged := by
          rw [blank member List.mem_cons_self here, sharedTrailMisses]
          change (if merged + 0 > 20 then 20 else merged + 0) = merged
          rw [Nat.add_zero, if_neg (by omega)]
        rw [List.filter_cons_of_neg (by simp [here]), List.foldl_cons,
          same]
        exact rest merged few
  rw [onlySubmitted_iff sound (by rw [mode]; rfl)]
  simp only [outcomeOf, mode, outcome, sharedTrailOutcome]
  rw [merged state.members 0 (fun member inside =>
    (sound.members member inside).unheard) (Nat.zero_le _)]

theorem coopEcho_iff (mode : state.mode = .coopEcho)
    (enough : 2 ≤ state.members.length) (positive : 0 < missing state.members) :
    OnlySubmitted state ↔
      if (heard state.members).length < 2 then
        heardTotal state (echoMatches state) = 0 ∧ echoMatches state 0 = 0
      else
        heardTotal state (echoMatches state) =
          (heard state.members).length * echoMatches state 0 := by
  obtain ⟨least, short, inside⟩ := echo_prompt state.seed
  have total := heard_length state.members
  have few : state.members.length ≤ kPartyCapacity := sound.few
  have capacity : kPartyCapacity = 4 := rfl
  have valid : ∀ member ∈ state.members, member.firstValue &&&
      ~~~UInt16.ofNat (2 ^ (promptFor .coopEcho state.seed 1).echoBeats - 1) =
        0 := by
    refine sound.values (by rw [mode]; rfl) (fun value => value &&&
      ~~~UInt16.ofNat (2 ^ (promptFor .coopEcho state.seed 1).echoBeats - 1) =
        0) UInt16.zero_and ?_
    intro contribution valid
    rw [mode] at valid
    exact validContribution_value valid
  have scored : ∀ members : List MemberState, 2 ≤ members.length →
      members.length ≤ kPartyCapacity →
      (∀ member ∈ members, member ∈ state.members) →
      cooperativeEchoScore (promptFor .coopEcho state.seed 1).echoPattern
          (members.map MemberState.firstValue)
          (promptFor .coopEcho state.seed 1).echoBeats =
        (members.map fun member =>
          echoMatches state member.firstValue).sum * 1000 /
          ((promptFor .coopEcho state.seed 1).echoBeats * members.length) := by
    intro members enough few known
    rw [cooperativeEchoScore_eq (by simpa using enough) (by simpa using few)
      least short inside, List.map_map, List.length_map]
    · rfl
    · intro pattern among
      rcases List.mem_map.mp among with ⟨member, one, rfl⟩
      exact valid member (known member one)
  rw [onlySubmitted_iff sound (by rw [mode]; rfl)]
  simp only [outcomeOf, mode, outcome, coopEchoOutcome, Option.some_inj,
    ModeResult.mk.injEq, true_and, and_true]
  rw [scored state.members enough few fun _ inside => inside,
    heardTotal_add sound]
  split
  · rename_i alone
    have room : (promptFor .coopEcho state.seed 1).echoBeats *
        state.members.length ≤ 8 * 4 := Nat.mul_le_mul short few
    have somebody : 0 < (promptFor .coopEcho state.seed 1).echoBeats *
        state.members.length := Nat.mul_pos (by omega) (by omega)
    have silent : missing state.members * echoMatches state 0 = 0 ↔
        echoMatches state 0 = 0 := by
      rw [Nat.mul_eq_zero]
      exact or_iff_right (by omega)
    rw [cooperativeEchoScore_few (by simpa using alone), eq_comm,
      Nat.div_eq_zero_iff, ← silent]
    omega
  · rename_i several
    rw [scored (heard state.members) (by omega) (by omega) fun _ => heard_mem,
      total]
    exact echo_scores least short (by omega) positive (by omega)

/-- The missing members tap at zero. -/
theorem taps_known (positive : 0 < missing state.members) (entry : Nat) :
    entry ∈ state.members.map (·.firstValue.toNat) ↔
      entry ∈ heardTaps state ∨ entry = 0 := by
  rw [heardTaps, List.mem_map, List.mem_map]
  constructor
  · rintro ⟨member, inside, rfl⟩
    cases here : member.heard with
    | true => exact .inl ⟨member, List.mem_filter.mpr ⟨inside, here⟩, rfl⟩
    | false =>
      rw [(sound.members member inside).unheard here]
      exact .inr rfl
  · rintro (⟨member, inside, rfl⟩ | rfl)
    · exact ⟨member, heard_mem inside, rfl⟩
    · rcases List.countP_pos_iff.mp positive with ⟨member, inside, unheard⟩
      refine ⟨member, inside, ?_⟩
      rw [(sound.members member inside).unheard (by simpa using unheard)]
      rfl

theorem syncRhythm_iff (mode : state.mode = .syncRhythm)
    (enough : 2 ≤ state.members.length) (positive : 0 < missing state.members) :
    OnlySubmitted state ↔
      2 ≤ (heard state.members).length ∧
          (0 ∈ heardTaps state ∨ (∀ tap ∈ heardTaps state, tap ≤ kSyncPerfectMs) ∨
            ∃ low ∈ heardTaps state, ∃ high ∈ heardTaps state,
              low + kSyncMaximumMs ≤ high) ∨
        (heard state.members).length = 1 ∧
          ∀ tap ∈ heardTaps state, kSyncMaximumMs ≤ tap := by
  have few : state.members.length ≤ kPartyCapacity := sound.few
  have spread : ∀ members : List MemberState, 2 ≤ members.length →
      members.length ≤ kPartyCapacity →
      ∃ spread, IsSpread (members.map (·.firstValue.toNat)) spread ∧
        synchronizedTapScore
          (members.map fun member => member.firstValue.toUInt32)
          kSyncPerfectMs kSyncMaximumMs = spreadScore spread := by
    intro members enough few
    have taps := synchronizedTapScore_spread
      (members.map fun member => member.firstValue.toUInt32)
      (by simpa using enough) (by simpa using few)
      (by
        intro tap among
        rcases List.mem_map.mp among with ⟨member, -, rfl⟩
        exact Nat.le_of_lt_succ member.firstValue.toNat_lt)
    rwa [List.map_map] at taps
  have known := taps_known sound positive
  have total := heard_length state.members
  obtain ⟨wider, outer, all⟩ :=
    spread state.members enough few
  rw [onlySubmitted_iff sound (by rw [mode]; rfl)]
  simp only [outcomeOf, mode, outcome, syncRhythmOutcome, Option.some_inj,
    ModeResult.mk.injEq, true_and, and_true]
  rw [all]
  by_cases several : 2 ≤ (heard state.members).length
  · obtain ⟨spread, inner, present⟩ :=
      spread (heard state.members) several (by omega)
    have notOne : (heard state.members).length ≠ 1 := by omega
    rw [present, spreadScore_iff known inner outer]
    simp only [several, notOne, true_and, false_and, or_false]
  · rw [synchronizedTapScore_few (by simpa using several), eq_comm,
      spreadScore_zero]
    simp only [several, false_and, false_or]
    have count : (heardTaps state).length = (heard state.members).length :=
      List.length_map _
    rw [← count]
    rw [← count] at several
    rcases taps : heardTaps state with _ | ⟨tap, later⟩
    · rw [taps] at known
      obtain ⟨low, lowIn, high, highIn, attained⟩ := outer.attained
      have top := (known high).mp highIn
      have maximum : kSyncMaximumMs = 600 := rfl
      simp only [List.not_mem_nil, false_or] at top
      simp only [List.length_nil, Nat.zero_ne_one, false_and, iff_false]
      omega
    · rw [taps] at known several
      rw [List.length_cons] at several
      have alone : later = [] := List.length_eq_zero_iff.mp (by omega)
      subst alone
      have single : IsSpread [tap] 0 :=
        { bound := by simp
          attained := by simp }
      obtain ⟨_, _, _, same, _⟩ := single.with_zero known outer
      rw [List.mem_singleton] at same
      simp [same]

/-- The votes are counted with one for choice zero from every missing member. -/
theorem countVotes_counted (mode : state.mode = .storyVote) (choice : Nat) :
    (countVotes state.members).getD choice 0 = countedVotes state choice := by
  rw [countVotes_eq]
  · rw [countedVotes, votesFor, heard, missing, countP_filter_add
      MemberState.heard (fun member => member.firstValue.toNat = choice)
      (choice = 0)]
    · simp
    · intro member inside unheard
      rw [(sound.members member inside).unheard unheard, UInt16.toNat_zero]
      simp [eq_comm]
  · refine sound.values (by rw [mode]; rfl)
      (fun value => value.toNat < kStoryChoiceCount) (by decide) ?_
    intro contribution valid
    rw [mode] at valid
    exact validContribution_value valid

theorem resolveResult_outcome
    (enough : kMinimumParticipants ≤ state.participantCount)
    (last : state.currentRound = state.totalRounds) :
    ∃ raw result, outcomeOf state state.members = some raw ∧
      resolveResult state = .ok result ∧
      result.storyChoice = raw.storyChoice := by
  have known : ∃ raw, outcomeOf state state.members = some raw := by
    unfold outcomeOf outcome
    cases mode : state.mode
    case signalHunt => exact absurd mode sound.mode
    all_goals exact ⟨_, rfl⟩
  obtain ⟨raw, known⟩ := known
  have ends : ¬(state.participantCount < kMinimumParticipants ||
      state.currentRound ≠ state.totalRounds : Bool) = true := by
    simp [last, Nat.not_lt.mpr enough]
  unfold outcomeOf at known
  unfold resolveResult
  rw [if_neg ends]
  simp only [known]
  exact ⟨raw, _, known, rfl, rfl⟩

theorem storyVote_iff (mode : state.mode = .storyVote)
    (enough : kMinimumParticipants ≤ state.participantCount)
    (last : state.currentRound = state.totalRounds) :
    FairVote state ↔
      (heard state.members).length = 0 ∨
        (∀ choice, votesFor state choice ≤ votesFor state 0) ∨
        (∃ choice ≠ 0, countedVotes state 0 < countedVotes state choice) ∨
        (mix32 (state.seed ^^^ state.sessionNonce)).toNat %
          (List.range kStoryChoiceCount).countP
            (fun choice => countedVotes state choice =
              countedVotes state 0) ≠ 0 := by
  obtain ⟨raw, result, known, resolved, choice⟩ :=
    resolveResult_outcome sound enough last
  have winner : result.storyChoice = storyVoteWinner
      (countVotes state.members) (state.seed ^^^ state.sessionNonce) := by
    simp only [outcomeOf, mode, outcome, Option.some_inj] at known
    rw [choice, ← known]
    rfl
  have spec := storyVoteWinner_spec (state.seed ^^^ state.sessionNonce)
    (countVotes_length state.members)
  simp only [countVotes_counted sound mode, ← winner] at spec
  obtain ⟨best, zero⟩ := spec
  have votes : ∀ choice, votesFor state choice ≤ countedVotes state choice :=
    fun choice => Nat.le_add_right _ _
  have nonzero : ∀ choice ≠ 0,
      countedVotes state choice = votesFor state choice := by
    intro choice other
    rw [countedVotes, if_neg other, Nat.add_zero]
  constructor
  · intro fair
    by_contra other
    simp only [not_or, not_exists, not_and, Nat.not_lt, not_not] at other
    obtain ⟨present, notFirst, first, drawn⟩ := other
    have wins : result.storyChoice = 0 := by
      refine zero.mpr ⟨?_, drawn⟩
      intro choice
      by_cases same : choice = 0
      · rw [same]
      · exact first choice same
    have most := fair result resolved
      (mt List.length_eq_zero_iff.mpr present)
    rw [wins] at most
    exact notFirst most
  · intro harmless other otherResolved present choice
    rw [resolved] at otherResolved
    cases otherResolved
    by_cases wins : result.storyChoice = 0
    · rw [wins]
      obtain ⟨most, drawn⟩ := zero.mp wins
      rcases harmless with none | first | ⟨better, _, more⟩ | notDrawn
      · exact absurd (List.length_eq_zero_iff.mp none) present
      · exact first choice
      · exact absurd (most better) (Nat.not_le.mpr more)
      · exact absurd drawn notDrawn
    · rw [← nonzero _ wins]
      exact (votes choice).trans (best choice)

end

/-! ## Every session -/

theorem onlySubmitted_none (sound : state.Sound)
    (one : roundsForMode state.mode = 1)
    (none : missing state.members = 0) : OnlySubmitted state := by
  rw [onlySubmitted_iff sound one, heard_of_none none]

theorem fairVote_none (sound : state.Sound) (mode : state.mode = .storyVote)
    (enough : kMinimumParticipants ≤ state.participantCount)
    (last : state.currentRound = state.totalRounds)
    (none : missing state.members = 0) : FairVote state := by
  have counted : ∀ choice, countedVotes state choice = votesFor state choice := by
    intro choice
    rw [countedVotes, none, ite_self, Nat.add_zero]
  rw [storyVote_iff sound mode enough last]
  by_contra other
  simp only [not_or, not_exists, not_and, Nat.not_lt, counted] at other
  apply other.2.1
  intro choice
  by_cases same : choice = 0
  · rw [same]
  · exact other.2.2.1 choice same

/-- With a member missing, the condition is the one of the mode. -/
theorem harmless_iff {Fair Condition : Prop}
    (complete : missing state.members = 0 → Fair)
    (absentees : 0 < missing state.members → (Fair ↔ Condition)) :
    Fair ↔ missing state.members = 0 ∨ Condition := by
  by_cases absent : missing state.members = 0
  · exact iff_of_true (complete absent) (.inl absent)
  · rw [or_iff_right absent]
    exact absentees (Nat.pos_of_ne_zero absent)

theorem missing_iff (sound : state.Sound) (active : state.phase = .active)
    (last : state.currentRound = state.totalRounds) :
    MissingNeverCount state ↔ Harmless state := by
  have enough := (sound.active active).2.2
  have nobody := fun one => onlySubmitted_none sound one
  unfold MissingNeverCount Harmless
  cases mode : state.mode
  all_goals simp only [reduceCtorEq, if_false, if_true]
  case signalHunt => exact absurd mode sound.mode
  case triangulation =>
    exact iff_of_true (onlySubmitted_rounds sound (.inl mode)) (.inr trivial)
  case hotCold =>
    exact iff_of_true (onlySubmitted_rounds sound (.inr (.inl mode)))
      (.inr trivial)
  case asyncRelay =>
    exact iff_of_true (onlySubmitted_rounds sound (.inr (.inr mode)))
      (.inr trivial)
  case sharedTrail =>
    exact iff_of_true (sharedTrail_harmless sound mode) (.inr trivial)
  case hideAndSeek =>
    exact harmless_iff (nobody (by rw [mode]; rfl))
      (hideAndSeek_iff sound mode)
  case syncRhythm =>
    exact harmless_iff (nobody (by rw [mode]; rfl))
      (syncRhythm_iff sound mode enough)
  case coopEcho =>
    exact harmless_iff (nobody (by rw [mode]; rfl))
      (coopEcho_iff sound mode enough)
  case rareEncounter =>
    exact harmless_iff (nobody (by rw [mode]; rfl))
      (rareEncounter_iff sound mode)
  case storyVote =>
    exact harmless_iff (fairVote_none sound mode enough last)
      fun _ => storyVote_iff sound mode enough last

end Modes

/--
At the end of the last round of any session, the missing contributions do not
count exactly where `Harmless` says so.
-/
theorem missing_contributions {hostUid : UInt16} {sessionNonce : UInt32}
    {mode : Mode} {seed nowMs : UInt32}
    {lobbyWindowSeconds roundWindowSeconds : Nat} {first : HostState}
    (started : start hostUid sessionNonce mode seed nowMs lobbyWindowSeconds
      roundWindowSeconds = .ok first) (calls : List Call)
    (active : (exec step first calls).phase = .active)
    (last : (exec step first calls).currentRound =
      (exec step first calls).totalRounds) :
    MissingNeverCount (exec step first calls) ↔
      Harmless (exec step first calls) :=
  missing_iff (exec_sound (start_sound started)) active last

/-! ## A vote that nobody cast -/

/-- A story that is about to be told. -/
def storyHost : HostState :=
  { mode := .storyVote
    hostUid := 1
    sessionNonce := 1
    seed := 1
    lobbyWindowSeconds := 60
    roundWindowSeconds := 60
    totalRounds := 1
    deadlineMs := 60000
    members := [{ uid := 1 }] }

/-- A second member joins, and only the host votes, for choice one. -/
def storyCalls : List Call :=
  let fromPeer : Packet :=
    { type := .joinRequest
      mode := .storyVote
      participantCount := 1
      sourceUid := 2
      hostUid := 1
      sessionNonce := 1
      sequence := 1 }
  [.acceptJoin fromPeer 0,
    .acceptReady { fromPeer with type := .ready, value := 1, sequence := 2 },
    .setHostReady true, .begin 0, .submitHostContribution { value := 1 }]

theorem storyHost_started : start 1 1 .storyVote 1 0 60 60 = .ok storyHost := by
  rfl

theorem storyHost_ends :
    (exec step storyHost storyCalls).phase = .active ∧
      (exec step storyHost storyCalls).currentRound =
        (exec step storyHost storyCalls).totalRounds := by
  decide

/-- The zero of the silent member wins over the one vote. -/
theorem storyHost_unfair :
    start 1 1 .storyVote 1 0 60 60 = .ok storyHost ∧
      (exec step storyHost storyCalls).phase = .active ∧
      (exec step storyHost storyCalls).currentRound =
        (exec step storyHost storyCalls).totalRounds ∧
      ¬MissingNeverCount (exec step storyHost storyCalls) := by
  refine ⟨storyHost_started, storyHost_ends.1, storyHost_ends.2, ?_⟩
  have sound : (exec step storyHost storyCalls).Sound :=
    exec_sound (start_sound storyHost_started)
  obtain ⟨raw, result, known, resolved, choice⟩ := resolveResult_outcome sound
    (sound.active storyHost_ends.1).2.2 storyHost_ends.2
  have winner : (outcomeOf (exec step storyHost storyCalls)
      (exec step storyHost storyCalls).members).map (·.storyChoice) =
        some 0 := by
    decide
  have fewer : votesFor (exec step storyHost storyCalls) 0 <
      votesFor (exec step storyHost storyCalls) 1 := by
    decide
  have present : heard (exec step storyHost storyCalls).members ≠ [] := by
    decide
  rw [known, Option.map_some, Option.some_inj, ← choice] at winner
  intro fair
  have most := fair result resolved present 1
  rw [winner] at most
  exact Nat.not_lt.mpr most fewer

theorem storyHost_iff :
    MissingNeverCount (exec step storyHost storyCalls) ↔
      Harmless (exec step storyHost storyCalls) :=
  missing_contributions storyHost_started storyCalls storyHost_ends.1
    storyHost_ends.2

end Kitsu.PartyModes
