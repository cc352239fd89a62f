import Kitsu.Lib.Tally
import Kitsu.Party.SignalHunt
import Kitsu.PartyModes.ResultFaults
import Kitsu.PartyModes.Submitted

/-!
# The order of joining

A result reads nothing of a member but its transcript: who it is, when it joined and
what it contributed.  The outcome of every mode is the same for every order of the
transcripts, and the proof is made over the members in the order of their uids.  So two
hosts that heard the same get the same result, whoever joined first, unless the
computation faults.
-/

namespace Kitsu.PartyModes

open Kitsu.Lib Kitsu.Lib.Tally

/-! ## Transcripts -/

/-- What the result reads of a member. -/
structure Transcript where
  uid : UInt16
  joinedRound : Nat
  submittedMask : UInt8
  signals : Vector Int kMaximumRounds
  values : Vector UInt16 kMaximumRounds
deriving DecidableEq

/-- What a member's contributions were, without how they arrived. -/
def MemberState.transcript (member : MemberState) : Transcript where
  uid := member.uid
  joinedRound := member.joinedRound
  submittedMask := member.submittedMask
  signals := member.signals
  values := member.values

/-- A member with these contributions. -/
def Transcript.member (transcript : Transcript) : MemberState where
  uid := transcript.uid
  joinedRound := transcript.joinedRound
  submittedMask := transcript.submittedMask
  signals := transcript.signals
  values := transcript.values

/-- The member with nothing but its transcript. -/
def MemberState.plain (member : MemberState) : MemberState :=
  member.transcript.member

variable {members others : List MemberState} {result : ModeResult}

theorem allRounds_plain (members : List MemberState) :
    allRounds (members.map (·.plain)) = (allRounds members).map (·.plain) := by
  rw [allRounds, List.filter_map]
  rfl

theorem outcome_plain (mode : Mode) (seed sessionNonce : UInt32)
    (totalRounds : Nat) :
    outcome mode seed sessionNonce totalRounds (members.map (·.plain)) result =
      outcome mode seed sessionNonce totalRounds members result := by
  cases mode with
  | signalHunt => rfl
  | triangulation =>
    simp only [outcome, triangulationOutcome, allRounds_plain, List.map_map,
      List.length_map]
    rfl
  | hotCold =>
    simp only [outcome, hotColdOutcome, allRounds_plain, List.map_map,
      List.length_map]
    rfl
  | hideAndSeek =>
    simp only [outcome, hideAndSeekOutcome, List.map_map, List.length_map]
    rfl
  | syncRhythm =>
    simp only [outcome, syncRhythmOutcome, List.map_map]
    rfl
  | coopEcho =>
    simp only [outcome, coopEchoOutcome, List.map_map]
    rfl
  | asyncRelay =>
    simp only [outcome, asyncRelayOutcome, List.flatMap_map]
    rfl
  | rareEncounter =>
    simp only [outcome, rareEncounterOutcome, List.map_map, List.length_map]
    rfl
  | sharedTrail =>
    simp only [outcome, sharedTrailOutcome, List.foldl_map]
    rfl
  | storyVote =>
    simp only [outcome, storyVoteOutcome, countVotes, List.foldl_map,
      List.length_map]
    rfl

theorem participationScore_plain (totalRounds score : Nat) :
    participationScore totalRounds (members.map (·.plain)) score =
      participationScore totalRounds members score := by
  simp only [participationScore, List.map_map]
  rfl

/-! ## The order of the uids -/

theorem insertByUid_eq (selected : MemberState) (sorted : List MemberState) :
    insertByUid selected sorted =
      KeyOrder.insertBy (·.uid.toNat) selected sorted := by
  induction sorted with
  | nil => rfl
  | cons first later induction =>
    rw [insertByUid, KeyOrder.insertBy, List.orderedInsert_cons, induction]
    rfl

theorem orderByUid_eq (members : List MemberState) :
    orderByUid members = KeyOrder.orderBy (·.uid.toNat) members := by
  rw [orderByUid, KeyOrder.orderBy]
  congr 1
  funext sorted member
  exact insertByUid_eq member sorted

theorem orderByUid_plain (members : List MemberState) :
    orderByUid (members.map (·.plain)) = (orderByUid members).map (·.plain) := by
  rw [orderByUid_eq, orderByUid_eq]
  exact KeyOrder.orderBy_map (fun _ => rfl) members

/-- A uid names one member; empty slots have no uid and are all the same. -/
def UidsNamed (members : List MemberState) : Prop :=
  ∀ first ∈ members, ∀ second ∈ members, first.uid = second.uid →
    first = second

theorem UidsNamed.plain (named : UidsNamed members) :
    UidsNamed (members.map (·.plain)) := by
  intro first firstMember second secondMember uid
  rcases List.mem_map.mp firstMember with ⟨member, among, rfl⟩
  rcases List.mem_map.mp secondMember with ⟨other, otherAmong, rfl⟩
  rw [named member among other otherAmong uid]

theorem orderByUid_perm (named : UidsNamed members)
    (perm : members.Perm others) : orderByUid members = orderByUid others := by
  rw [orderByUid_eq, orderByUid_eq]
  apply KeyOrder.orderBy_eq_of_perm _ perm
  intro first firstMember second secondMember uid
  exact named first firstMember second secondMember (UInt16.toNat_inj.mp uid)

/-! ## The outcome of a mode -/

theorem allRounds_perm (perm : members.Perm others) :
    (allRounds members).Perm (allRounds others) :=
  perm.filter _

theorem synchronizedTapScore_perm {taps shuffled : List UInt32}
    (perm : taps.Perm shuffled) (short : ∀ tap ∈ taps, tap.toNat ≤ 65535) :
    synchronizedTapScore taps kSyncPerfectMs kSyncMaximumMs =
      synchronizedTapScore shuffled kSyncPerfectMs kSyncMaximumMs := by
  by_cases few : taps.length < 2
  · rw [synchronizedTapScore_few few,
      synchronizedTapScore_few (perm.length_eq ▸ few)]
  · by_cases many : taps.length > kPartyCapacity
    · rw [synchronizedTapScore, if_pos (by simp [many]),
        synchronizedTapScore, if_pos (by simp [← perm.length_eq, many])]
    · rcases synchronizedTapScore_spread taps (Nat.le_of_not_lt few)
        (Nat.le_of_not_lt many) short with ⟨spread, isSpread, score⟩
      rcases synchronizedTapScore_spread shuffled
        (perm.length_eq ▸ Nat.le_of_not_lt few)
        (perm.length_eq ▸ Nat.le_of_not_lt many)
        (fun tap member => short tap (perm.mem_iff.mpr member)) with
          ⟨other, otherSpread, otherScore⟩
      have same : spread = other :=
        isSpread.unique (fun _ => (perm.map _).mem_iff) otherSpread
      rw [score, otherScore, same]

theorem cooperativeEchoScore_perm {patterns shuffled : List UInt16}
    (perm : patterns.Perm shuffled) (expected : UInt16) (beats : Nat) :
    cooperativeEchoScore expected patterns beats =
      cooperativeEchoScore expected shuffled beats := by
  have stray (mask : UInt16) : (patterns.any fun pattern =>
      decide (pattern &&& mask ≠ 0)) =
        shuffled.any fun pattern => decide (pattern &&& mask ≠ 0) := by
    rw [Bool.eq_iff_iff, List.any_eq_true, List.any_eq_true]
    simp only [perm.mem_iff]
  have matching : (patterns.map fun pattern =>
      beats - bitCount16 (expected ^^^ pattern)).sum =
        (shuffled.map fun pattern =>
          beats - bitCount16 (expected ^^^ pattern)).sum :=
    (perm.map _).sum_nat
  simp only [cooperativeEchoScore, perm.length_eq, stray, matching]

theorem sharedTrailMisses_eq (merged misses : Nat) :
    sharedTrailMisses merged misses = min (merged + misses) 20 := by
  rw [sharedTrailMisses]
  split
  · omega
  · omega

theorem sharedTrailMisses_comm (merged misses other : Nat) :
    sharedTrailMisses (sharedTrailMisses merged misses) other =
      sharedTrailMisses (sharedTrailMisses merged other) misses := by
  simp only [sharedTrailMisses_eq]
  omega

theorem countVotes_perm (perm : members.Perm others) :
    countVotes members = countVotes others := by
  apply perm.foldl_eq'
  intro first _ second _ votes
  by_cases same : first.firstValue.toNat = second.firstValue.toNat
  · rw [same]
  · exact List.modify_modify_ne _ _ _ same

/-- The outcome of a mode is the same for every order of the members. -/
theorem outcome_perm (perm : members.Perm others) (mode : Mode)
    (seed sessionNonce : UInt32) (totalRounds : Nat) :
    outcome mode seed sessionNonce totalRounds members result =
      outcome mode seed sessionNonce totalRounds others result := by
  have complete := allRounds_perm perm
  cases mode with
  | signalHunt => rfl
  | triangulation =>
    rw [outcome, outcome, triangulationOutcome, triangulationOutcome,
      (complete.map _).sum_nat, complete.length_eq]
  | hotCold =>
    rw [outcome, outcome, hotColdOutcome, hotColdOutcome,
      (complete.map _).sum_nat, (complete.map fun member =>
        member.signals[0]).sum_eq, (complete.map fun member =>
        member.signals[2]).sum_eq, complete.length_eq]
  | hideAndSeek =>
    rw [outcome, outcome, hideAndSeekOutcome, hideAndSeekOutcome,
      (perm.map _).sum_nat, perm.length_eq]
  | syncRhythm =>
    have score := synchronizedTapScore_perm
      (perm.map fun member => member.firstValue.toUInt32) (by
        intro tap among
        rcases List.mem_map.mp among with ⟨member, -, rfl⟩
        exact Nat.le_of_lt_succ member.firstValue.toNat_lt)
    rw [outcome, outcome, syncRhythmOutcome, syncRhythmOutcome, score]
  | coopEcho =>
    rw [outcome, outcome, coopEchoOutcome, coopEchoOutcome,
      cooperativeEchoScore_perm (perm.map _)]
  | asyncRelay =>
    have values : (members.flatMap (relayed totalRounds)).Perm
        (others.flatMap (relayed totalRounds)) :=
      perm.flatMap_right _
    rw [outcome, outcome, asyncRelayOutcome, asyncRelayOutcome,
      values.sum_nat, values.length_eq]
  | rareEncounter =>
    rw [outcome, outcome, rareEncounterOutcome, rareEncounterOutcome,
      (perm.map _).sum_nat, perm.length_eq]
  | sharedTrail =>
    have merged : members.foldl (fun merged member =>
        sharedTrailMisses merged member.firstValue.toUInt8.toNat) 0 =
          others.foldl (fun merged member =>
            sharedTrailMisses merged member.firstValue.toUInt8.toNat) 0 :=
      perm.foldl_eq' (fun _ _ _ _ _ => sharedTrailMisses_comm _ _ _) 0
    rw [outcome, outcome, sharedTrailOutcome, sharedTrailOutcome, merged]
  | storyVote =>
    rw [outcome, outcome, storyVoteOutcome, storyVoteOutcome,
      countVotes_perm perm, perm.length_eq]

theorem participationScore_perm (perm : members.Perm others)
    (totalRounds score : Nat) :
    participationScore totalRounds members score =
      participationScore totalRounds others score := by
  rw [participationScore, participationScore, (perm.map _).sum_nat,
    (perm.map fun member => ((expectedRounds totalRounds member).filter
      member.submitted).length).sum_nat]

/-! ## The bound of the score -/

/-- The source stores the bound in every result and leaves its default there. -/
def ModeResult.maximumScore (_ : ModeResult) : Nat :=
  1000

theorem meanScore_le (total count : Nat) : meanScore total count ≤ 1000 := by
  rw [meanScore, clampScore]
  split
  · exact Nat.zero_le _
  · split
    · exact Nat.le_refl _
    · exact Nat.le_of_not_lt ‹_›

theorem synchronizedTapScore_le (taps : List UInt32)
    (perfectSpreadMs maximumSpreadMs : Nat) :
    synchronizedTapScore taps perfectSpreadMs maximumSpreadMs ≤ 1000 := by
  have judged : ∀ spread : Nat,
      (if spread ≤ perfectSpreadMs then 1000
        else if spread ≥ maximumSpreadMs then 0
        else (maximumSpreadMs - spread) * 1000 /
          (maximumSpreadMs - perfectSpreadMs)) ≤ 1000 := by
    intro spread
    split
    · exact Nat.le_refl _
    · split
      · exact Nat.zero_le _
      · apply Nat.div_le_of_le_mul
        apply Nat.mul_le_mul_right
        omega
  rw [synchronizedTapScore]
  split
  · exact Nat.zero_le _
  · exact judged _

theorem cooperativeEchoScore_le (expected : UInt16) (patterns : List UInt16)
    (beats : Nat) : cooperativeEchoScore expected patterns beats ≤ 1000 := by
  have matching : (patterns.map fun pattern =>
      beats - bitCount16 (expected ^^^ pattern)).sum ≤
        beats * patterns.length :=
    sum_le_of_each fun _ _ => Nat.sub_le _ _
  rw [cooperativeEchoScore]
  split
  · exact Nat.zero_le _
  · dsimp only
    split
    · exact Nat.zero_le _
    · apply Nat.div_le_of_le_mul
      exact Nat.mul_le_mul_right _ matching

theorem foldl_sharedTrailMisses_le {misses : MemberState → Nat} {merged : Nat}
    (below : merged ≤ 20) :
    members.foldl (fun merged member =>
      sharedTrailMisses merged (misses member)) merged ≤ 20 := by
  induction members generalizing merged with
  | nil => exact below
  | cons first later induction =>
    rw [List.foldl_cons]
    apply induction
    rw [sharedTrailMisses_eq]
    exact Nat.min_le_right _ _

/-- No choice gets more votes than there are members. -/
theorem countVotes_le (members : List MemberState) (choice : Nat) :
    (countVotes members).getD choice 0 ≤ members.length := by
  have counted : ∀ (members : List MemberState) (votes : List Nat),
      (members.foldl (fun votes member =>
        votes.modify member.firstValue.toNat (· + 1)) votes).getD choice 0 ≤
          votes.getD choice 0 + members.length := by
    intro members
    induction members with
    | nil => exact fun _ => Nat.le_refl _
    | cons first later induction =>
      intro votes
      have step : (votes.modify first.firstValue.toNat (· + 1)).getD choice 0 ≤
          votes.getD choice 0 + 1 := by
        rw [List.getD_eq_getElem?_getD, List.getD_eq_getElem?_getD,
          List.getElem?_modify]
        cases votes[choice]? with
        | none => simp
        | some count =>
          split
          · exact Nat.le_refl _
          · exact Nat.le_succ _
      have rest := induction (votes.modify first.firstValue.toNat (· + 1))
      rw [List.foldl_cons, List.length_cons]
      omega
  have blank : (List.replicate kStoryChoiceCount 0).getD choice 0 = 0 := by
    rw [List.getD_eq_getElem?_getD, List.getElem?_replicate]
    split
    · rfl
    · rfl
  have total := counted members (List.replicate kStoryChoiceCount 0)
  rw [blank, Nat.zero_add] at total
  exact total

/-- The score of every outcome is at most a thousand. -/
theorem outcome_score_le {mode : Mode} {seed sessionNonce : UInt32}
    {totalRounds : Nat} {given : ModeResult}
    (scored : outcome mode seed sessionNonce totalRounds members given =
      some result) : result.score ≤ 1000 := by
  cases mode with
  | signalHunt => cases scored
  | triangulation | hotCold | hideAndSeek | asyncRelay | rareEncounter =>
    cases scored
    exact meanScore_le _ _
  | syncRhythm =>
    cases scored
    exact synchronizedTapScore_le _ _ _
  | coopEcho =>
    cases scored
    exact cooperativeEchoScore_le _ _ _
  | sharedTrail =>
    cases scored
    have few : members.foldl (fun merged member =>
        sharedTrailMisses merged member.firstValue.toUInt8.toNat) 0 ≤ 20 :=
      foldl_sharedTrailMisses_le (Nat.zero_le _)
    exact Nat.mul_le_mul_right 50 few
  | storyVote =>
    cases scored
    apply Nat.div_le_of_le_mul
    exact Nat.mul_le_mul_right 1000 (countVotes_le members _)

theorem participationScore_le (totalRounds score : Nat) :
    participationScore totalRounds members score ≤ score := by
  rw [participationScore]
  split
  · rename_i missing
    simp only [Bool.and_eq_true, decide_eq_true_eq] at missing
    apply Nat.div_le_of_le_mul
    rw [Nat.mul_comm]
    exact Nat.mul_le_mul_right _ (Nat.le_of_lt missing.2)
  · exact Nat.le_refl _

theorem resolveResult_score_le {state : HostState}
    (resolved : resolveResult state = .ok result) :
    result.score ≤ result.maximumScore := by
  rw [resolveResult] at resolved
  split at resolved
  · cases resolved
  · split at resolved
    · cases resolved
    · rename_i scored
      cases resolved
      exact (participationScore_le _ _).trans (outcome_score_le scored)

/-! ## The result -/

theorem resultProof_plain (state : HostState) :
    resultProof { state with members := state.members.map (·.plain) } result =
      resultProof state result := by
  simp only [resultProof, HostState.participantCount, orderByUid_plain,
    List.foldl_map, List.length_map]
  rfl

/-- The result reads nothing of the members but their transcripts. -/
theorem resolveResult_plain (state : HostState) :
    resolveResult { state with members := state.members.map (·.plain) } =
      resolveResult state := by
  have size : (state.members.map (·.plain)).length = state.members.length :=
    List.length_map _
  simp only [resolveResult, outcome_plain, participationScore_plain,
    resultProof_plain, HostState.participantCount, size]
  rfl

theorem resultProof_perm {state : HostState} {others : List MemberState}
    (named : UidsNamed state.members) (perm : state.members.Perm others) :
    resultProof state result =
      resultProof { state with members := others } result := by
  simp only [resultProof, HostState.participantCount,
    orderByUid_perm named perm, perm.length_eq]

theorem resolveResult_perm {state : HostState} {others : List MemberState}
    (named : UidsNamed state.members) (perm : state.members.Perm others) :
    resolveResult state = resolveResult { state with members := others } := by
  simp only [resolveResult, outcome_perm perm, participationScore_perm perm,
    resultProof_perm named perm, HostState.participantCount, perm.length_eq]
  rfl

theorem resolveResult_transcripts {first second : HostState}
    (named : UidsNamed first.members)
    (mode : first.mode = second.mode) (seed : first.seed = second.seed)
    (sessionNonce : first.sessionNonce = second.sessionNonce)
    (currentRound : first.currentRound = second.currentRound)
    (totalRounds : first.totalRounds = second.totalRounds)
    (same : (first.members.map (·.transcript)).Perm
      (second.members.map (·.transcript))) :
    resolveResult first = resolveResult second := by
  have members : (first.members.map (·.plain)).Perm
      (second.members.map (·.plain)) := by
    have plain := same.map Transcript.member
    rwa [List.map_map, List.map_map] at plain
  rw [← resolveResult_plain first, ← resolveResult_plain second,
    @resolveResult_perm { first with members := first.members.map (·.plain) }
      _ named.plain members]
  simp only [resolveResult, resultProof, HostState.participantCount, mode, seed,
    sessionNonce, currentRound, totalRounds]
  rfl

theorem resolveResult_ok {state : HostState}
    (resolved : resolveResult state = .ok result) :
    state.currentRound = state.totalRounds := by
  rw [resolveResult] at resolved
  split at resolved
  · cases resolved
  · rename_i finished
    simp only [Bool.or_eq_true, decide_eq_true_eq, not_or,
      Decidable.not_not] at finished
    exact finished.2

/-! ## Whoever joined first -/

/-- Two hosts that heard the same, with the result computed step by step. -/
structure SameResult (first second : HostState) : Prop where
  checked : resolveResultChecked first = some (resolveResult first)
  otherChecked : resolveResultChecked second = some (resolveResult second)
  together : first.currentRound = second.currentRound →
    resolveResult first = resolveResult second
  finished : ∀ result other, resolveResult first = .ok result →
    resolveResult second = .ok other → result = other
  bounded : ∀ result, resolveResult first = .ok result →
    result.score ≤ result.maximumScore

/-- The same of two signal hunts; a choice that counts has a bit of its own. -/
structure SameHunt (sessionNonce seed : UInt32)
    (participants others : List Party.HuntParticipant) : Prop where
  same : Party.resolveSignalHunt sessionNonce seed participants =
    Party.resolveSignalHunt sessionNonce seed others
  bounded : ∀ result,
    Party.resolveSignalHunt sessionNonce seed participants = some result →
      result.score ≤ result.maximumScore ∧
      ∀ participant ∈ participants, ∀ index inside,
        participant.submitted ⟨index, inside⟩ = true →
          1 ≤ participant.choices[index] ∧ participant.choices[index] ≤ 3

theorem sameHunt {sessionNonce seed : UInt32}
    {participants others : List Party.HuntParticipant}
    (perm : participants.Perm others) :
    SameHunt sessionNonce seed participants others where
  same := Party.resolveSignalHunt_perm perm
  bounded := by
    intro result resolved
    constructor
    · exact Party.huntScore_le resolved
    · intro participant member index inside submitted
      have valid := (Party.validTranscript_iff.mp
        (Party.resolveSignalHunt_some resolved).1).2.1 participant member
      have supported : participant.choices[index] = 1 ∨
          participant.choices[index] = 2 ∨ participant.choices[index] = 3 :=
        Party.choice_of_valid valid submitted
      rcases supported with one | two | three
      · rw [one]
        decide
      · rw [two]
        decide
      · rw [three]
        decide

section Valid

variable {state : HostState} {behind : List MemberState}

theorem roundsForMode_le (mode : Mode) : roundsForMode mode ≤ 3 := by
  cases mode
  all_goals decide

section

variable (valid : validateHostState state behind = true)

include valid

theorem rounds_of_valid : state.totalRounds = roundsForMode state.mode := by
  simp only [validateHostState, Bool.and_eq_true, decide_eq_true_eq] at valid
  tauto

theorem few_of_valid : state.totalRounds ≤ 3 :=
  rounds_of_valid valid ▸ roundsForMode_le state.mode

theorem validMember_of_valid
    {member : MemberState} (among : member ∈ state.members) :
    ∃ index, validMember state index member = true := by
  have checked : (((state.members ++ behind).mapIdx
      (validMember state)).all id) = true := by
    simp only [validateHostState, Bool.and_eq_true] at valid
    tauto
  rcases List.getElem_of_mem (List.mem_append_left behind among) with
    ⟨index, inside, rfl⟩
  refine ⟨index, List.all_eq_true.mp checked _ ?_⟩
  rw [List.mem_mapIdx]
  exact ⟨index, inside, rfl⟩

theorem empty_of_valid {member : MemberState} (among : member ∈ state.members)
    (unused : member.uid = 0) : member = {} := by
  rcases validMember_of_valid valid among with ⟨index, checked⟩
  rw [validMember, if_pos (by simp [MemberState.active, unused])] at checked
  exact of_decide_eq_true checked

theorem uidsNamed_of_valid : UidsNamed state.members := by
  have distinct : (((state.members ++ behind).filter (·.active)).map
      (·.uid)).Nodup := by
    simp only [validateHostState, Bool.and_eq_true, decide_eq_true_eq] at valid
    tauto
  intro first firstMember second secondMember uid
  by_cases unused : first.uid = 0
  · rw [empty_of_valid valid firstMember unused,
      empty_of_valid valid secondMember (uid ▸ unused)]
  · have used {member : MemberState} (among : member ∈ state.members)
        (same : member.uid = first.uid) :
        member ∈ (state.members ++ behind).filter (·.active) := by
      apply List.mem_filter.mpr
      constructor
      · exact List.mem_append_left behind among
      · rw [MemberState.active, same]
        exact bne_iff_ne.mpr unused
    exact List.inj_on_of_nodup_map distinct (used firstMember rfl)
      (used secondMember uid.symm) uid

end

end Valid

/--
Hosts that hold the same transcripts get the same result in every order, within its
bound, exactly when no story was voted for that there is not.
-/
theorem result_unordered {first second : HostState}
    {behind otherBehind : List MemberState} {sessionNonce seed : UInt32}
    {participants others : List Party.HuntParticipant}
    (valid : validateHostState first behind = true)
    (otherValid : validateHostState second otherBehind = true)
    (mode : first.mode = second.mode) (sameSeed : first.seed = second.seed)
    (sameNonce : first.sessionNonce = second.sessionNonce)
    (same : (first.members.map (·.transcript)).Perm
      (second.members.map (·.transcript)))
    (sameHunters : participants.Perm others) :
    (SameResult first second ∧ SameHunt sessionNonce seed participants others) ↔
        InTable first ∧ InTable second := by
  have totalRounds : first.totalRounds = second.totalRounds := by
    rw [rounds_of_valid valid, rounds_of_valid otherValid, mode]
  have together : first.currentRound = second.currentRound →
      resolveResult first = resolveResult second := fun currentRound =>
    resolveResult_transcripts (uidsNamed_of_valid valid) mode sameSeed sameNonce
      currentRound totalRounds same
  constructor
  · rintro ⟨result, -⟩
    constructor
    · by_contra stray
      have faulted := resolveResultChecked_none stray
      rw [result.checked] at faulted
      cases faulted
    · by_contra stray
      have faulted := resolveResultChecked_none stray
      rw [result.otherChecked] at faulted
      cases faulted
  · rintro ⟨inTable, otherInTable⟩
    constructor
    · exact
        { checked := resolveResultChecked_some (few_of_valid valid) inTable
          otherChecked :=
            resolveResultChecked_some (few_of_valid otherValid) otherInTable
          together
          finished := by
            intro result other resolved otherResolved
            have currentRound : first.currentRound = second.currentRound := by
              rw [resolveResult_ok resolved, resolveResult_ok otherResolved,
                totalRounds]
            rw [together currentRound, otherResolved] at resolved
            cases resolved
            rfl
          bounded := fun _ => resolveResult_score_le }
    · exact sameHunt sameHunters

/-- A story at its end, in which the second member voted for `vote`. -/
def storyEnd (vote : UInt16) : HostState where
  phase := .active
  mode := .storyVote
  currentRound := 1
  totalRounds := 1
  hostUid := 1
  lobbyWindowSeconds := 60
  roundWindowSeconds := 60
  sessionNonce := 7
  seed := 9
  deadlineMs := 60000
  members :=
    [ { uid := 1, submittedMask := 1 },
      { uid := 5, submittedMask := 1, values := #v[vote, 0, 0] },
      { uid := 3, submittedMask := 1, values := #v[1, 0, 0] } ]

/-- The same story with the last two members in the other order. -/
def otherStoryEnd : HostState :=
  { storyEnd 2 with
    members :=
      [ { uid := 1, submittedMask := 1 },
        { uid := 3, submittedMask := 1, values := #v[1, 0, 0] },
        { uid := 5, submittedMask := 1, values := #v[2, 0, 0] } ] }

/-- Two hunters, one of whom has chosen once. -/
def hunters : List Party.HuntParticipant :=
  [ { uid := 2, submittedMask := 1, choices := #v[3, 0, 0] }, { uid := 1 } ]

theorem storyEnd_unordered :
    (SameResult (storyEnd 2) otherStoryEnd ∧
      SameHunt 7 9 hunters hunters.reverse) ↔
        InTable (storyEnd 2) ∧ InTable otherStoryEnd :=
  @result_unordered (storyEnd 2) otherStoryEnd [{}] [{}] 7 9 hunters
    hunters.reverse (by decide) (by decide) rfl rfl rfl (by decide)
    (List.reverse_perm hunters).symm

/-- A vote for the eighth of three choices is restored and counted. -/
theorem storyEnd_faults :
    validateHostState (storyEnd 7) [{}] = true ∧
      resolveResultChecked (storyEnd 7) = none := by
  constructor
  · decide
  · apply resolveResultChecked_none
    intro inTable
    have inside := inTable rfl (by decide) rfl
      { uid := 5, submittedMask := 1, values := #v[7, 0, 0] } (by
        exact List.mem_cons_of_mem _ List.mem_cons_self)
    revert inside
    decide

end Kitsu.PartyModes
