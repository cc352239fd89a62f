import Kitsu.Lib.Saturating
import Kitsu.PartyModes.HostSession

/-!
# The result with its divisions and tables

`resolveResult` with every division and every access to a table as the source makes
it: a zero divisor and an index outside the table have no result.  A state that
`restore` accepts has passed `validateHostState`, which looks at everything but the
contributions.
-/

namespace Kitsu.PartyModes

open Kitsu.Lib.Checked

/-! ## States that can be restored -/

def kAllRoundsMask : UInt8 := 7

/-- A fingerprint is there just when a packet was. -/
def replayCursorValid (cursor : ReplayCursor) : Bool :=
  (cursor.lastSequence == 0) == (cursor.lastFingerprint == 0)

/-- A result is in range; one that is not there is all zeros. -/
def resultValid (result : ModeResult) (populated : Bool) : Bool :=
  if result.participantCount > kMaximumParticipants ||
      result.completedRounds > kMaximumRounds ||
      result.storyChoice ≥ kStoryChoiceCount || result.score > 1000 then false
  else if !populated then
    result.participantCount = 0 && result.completedRounds = 0 &&
      !result.rareEncounter && result.storyChoice = 0 &&
      result.temperature = .unknown && result.score = 0 &&
      result.outcomeValue = 0 && result.proof = 0
  else
    result.participantCount ≥ kMinimumParticipants &&
      result.completedRounds ≠ 0 && result.proof ≠ 0

/-- A slot is in use when its member has a uid; one that is not is empty. -/
def emptyMember (member : MemberState) : Bool :=
  member = {}

/-- The slot of the member is in use. -/
def MemberState.active (member : MemberState) : Bool :=
  member.uid != 0

/-- The checks of the member in a slot. -/
def validMember (state : HostState) (index : Nat) (member : MemberState) :
    Bool :=
  if !member.active then emptyMember member
  else
    member.submittedMask &&& ~~~kAllRoundsMask == 0 &&
      replayCursorValid member.replay &&
      member.joinedRound ≤ state.totalRounds &&
      (index != 0 ||
        (member.uid == state.hostUid && member.replay.lastSequence == 0))

/--
The checks of a session that was started, over the slots that it reads and those
behind.
-/
def validateHostState (state : HostState) (behind : List MemberState) : Bool :=
  let slots := state.members ++ behind
  state.mode ≠ .signalHunt && state.currentRound ≤ state.totalRounds &&
    slots.length = kMaximumParticipants &&
    state.totalRounds = roundsForMode state.mode && state.hostUid ≠ 0 &&
    state.sessionNonce ≠ 0 && state.seed ≠ 0 &&
    validWindow state.lobbyWindowSeconds &&
    validWindow state.roundWindowSeconds && state.participantCount ≠ 0 &&
    !(state.phase = .lobby && state.currentRound ≠ 0) &&
    !(state.phase = .active && state.currentRound = 0) &&
    !(state.phase = .active && state.participantCount < kMinimumParticipants) &&
    !(state.phase = .complete && state.currentRound ≠ state.totalRounds) &&
    !(state.phase = .expired && state.currentRound ≠ 0) &&
    !((state.phase = .complete || state.phase = .cancelled ||
      state.phase = .expired) && state.deadlineMs ≠ 0) &&
    (slots.mapIdx (validMember state)).all id &&
    decide ((slots.filter (·.active)).map (·.uid)).Nodup &&
    slots.countP (·.active) = state.participantCount &&
    !(state.phase = .complete &&
      (state.result.participantCount ≠ state.participantCount ||
        state.result.completedRounds ≠ state.totalRounds)) &&
    resultValid state.result (state.phase = .complete)

/-! ## The outcome of a mode -/

/-- The mean, or none where it would divide by zero. -/
def meanScoreChecked (total count : Nat) : Option Nat :=
  if count = 0 then some 0
  else do
    let mean ← quotient total count
    some (clampScore mean)

/-- The outcome with its divisions and reads checked. -/
def triangulationChecked (members : List MemberState) (result : ModeResult) :
    Option ModeResult := do
  let total := ((allRounds members).map fun member =>
    triangulationScore member.firstSignal member.middleSignal
      member.lastSignal).sum
  let score ← meanScoreChecked total (allRounds members).length
  some { result with score }

/-- The outcome with its divisions and reads checked. -/
def hotColdChecked (members : List MemberState) (result : ModeResult) :
    Option ModeResult := do
  let counted := allRounds members
  let scores ← counted.mapM fun member =>
    kHintScores[(temperatureHint member.firstSignal member.lastSignal).code]?
  let score ← meanScoreChecked scores.sum counted.length
  if counted.length = 0 then some { result with score }
  else
    let first ← quotientInt (counted.map fun member => member.firstSignal).sum
      counted.length
    let last ← quotientInt (counted.map fun member => member.lastSignal).sum
      counted.length
    some { result with score, temperature := temperatureHint first last }

/-- The score with its division checked. -/
def hideAndSeekScoreChecked (hiddenSlot guessedSlot slotCount : Nat) :
    Option Nat :=
  if slotCount < 2 || hiddenSlot ≥ slotCount || guessedSlot ≥ slotCount then
    some 0
  else
    let distance :=
      if hiddenSlot > guessedSlot then hiddenSlot - guessedSlot
      else guessedSlot - hiddenSlot
    let wrap := slotCount - distance
    let distance := if wrap < distance then wrap else distance
    if distance = 0 then some 1000 else quotient 1000 (distance + 1)

/-- The outcome with its divisions checked. -/
def hideAndSeekChecked (seed : UInt32) (members : List MemberState)
    (result : ModeResult) : Option ModeResult := do
  let hidden := (promptFor .hideAndSeek seed 1).hideSlot
  let scores ← members.mapM fun member => hideAndSeekScoreChecked hidden
    member.firstValue.toUInt8.toNat kHideSlotCount
  let score ← meanScoreChecked scores.sum members.length
  some { result with score, outcomeValue := hidden }

/-- The score with its division and its first read checked. -/
def synchronizedTapScoreChecked (taps : List UInt32)
    (perfectSpreadMs maximumSpreadMs : Nat) : Option Nat :=
  if taps.length < 2 || taps.length > kPartyCapacity ||
      perfectSpreadMs > maximumSpreadMs || maximumSpreadMs = 0 then some 0
  else do
    let first ← taps[0]?
    let deltas := taps.tail.map (tapDelta first)
    let earliest := deltas.foldl min 0
    let latest := deltas.foldl max 0
    let spread := (latest - earliest).toNat
    if spread ≤ perfectSpreadMs then some 1000
    else if spread ≥ maximumSpreadMs then some 0
    else
      quotient ((maximumSpreadMs - spread) * 1000)
        (maximumSpreadMs - perfectSpreadMs)

/-- The outcome with its division and its first read checked. -/
def syncRhythmChecked (members : List MemberState) (result : ModeResult) :
    Option ModeResult := do
  let score ← synchronizedTapScoreChecked
    (members.map fun member => member.firstValue.toUInt32)
    kSyncPerfectMs kSyncMaximumMs
  some { result with score }

/-- The score with its division checked. -/
def cooperativeEchoScoreChecked (expectedPattern : UInt16)
    (playerPatterns : List UInt16) (beats : Nat) : Option Nat :=
  if playerPatterns.length < 2 || playerPatterns.length > kPartyCapacity ||
      beats = 0 || beats > 16 ||
      (beats < 16 && expectedPattern.toNat ≥ 2 ^ beats) then some 0
  else
    let validMask := UInt16.ofNat (2 ^ beats - 1)
    if playerPatterns.any (· &&& ~~~validMask ≠ 0) then some 0
    else
      let matching := (playerPatterns.map fun pattern =>
        beats - bitCount16 (expectedPattern ^^^ pattern)).sum
      quotient (matching * 1000) (beats * playerPatterns.length)

/-- The outcome with its division checked. -/
def coopEchoChecked (seed : UInt32) (members : List MemberState)
    (result : ModeResult) : Option ModeResult := do
  let prompt := promptFor .coopEcho seed 1
  let score ← cooperativeEchoScoreChecked prompt.echoPattern
    (members.map MemberState.firstValue) prompt.echoBeats
  some { result with score, outcomeValue := prompt.echoPattern.toNat }

/-- What a member relayed, with its reads checked. -/
def relayedChecked (totalRounds : Nat) (member : MemberState) :
    Option (List Nat) :=
  let first := if member.joinedRound = 0 then 1 else member.joinedRound
  ((List.range' first (totalRounds + 1 - first)).filter
    member.submitted).mapM fun round => do
      let value ← member.values.toList[round - 1]?
      some value.toNat

/-- The outcome with its divisions and reads checked. -/
def asyncRelayChecked (totalRounds : Nat) (members : List MemberState)
    (result : ModeResult) : Option ModeResult := do
  let relays ← members.mapM (relayedChecked totalRounds)
  let values := relays.flatten
  let score ← meanScoreChecked values.sum values.length
  some
    { result with
      score
      outcomeValue := if values.sum > 65535 then 65535 else values.sum }

/-- The outcome with its division checked. -/
def rareEncounterChecked (members : List MemberState) (result : ModeResult) :
    Option ModeResult := do
  let total := (members.map fun member => member.firstValue.toNat).sum
  let score ← meanScoreChecked total members.length
  some { result with score }

/-- The votes; a vote for a choice that the table lacks is written behind it. -/
def countVotesChecked (members : List MemberState) : Option (List Nat) :=
  members.foldlM (fun votes member =>
    update votes member.firstValue.toNat (· + 1))
    (List.replicate kStoryChoiceCount 0)

/-- The winner, with the draw of a tie checked. -/
def storyVoteWinnerChecked (votes : List Nat) (tieSeed : UInt32) :
    Option Nat := do
  let best := votes.foldl max 0
  let candidates := (List.range kStoryChoiceCount).filter fun index =>
    votes.getD index 0 = best
  let drawn ← remainder (mix32 tieSeed).toNat candidates.length
  candidates[drawn]?

/-- The outcome with its divisions and reads checked. -/
def storyVoteChecked (seed sessionNonce : UInt32)
    (members : List MemberState) (result : ModeResult) : Option ModeResult := do
  let votes ← countVotesChecked members
  let winner ← storyVoteWinnerChecked votes (seed ^^^ sessionNonce)
  let count ← votes[winner]?
  let score ← quotient (count * 1000) members.length
  some { result with storyChoice := winner, outcomeValue := winner, score }

/-- A mode without an outcome is not a fault. -/
def outcomeChecked (mode : Mode) (seed sessionNonce : UInt32)
    (totalRounds : Nat) (members : List MemberState) (result : ModeResult) :
    Option (Option ModeResult) :=
  match mode with
  | .triangulation => (triangulationChecked members result).map some
  | .hotCold => (hotColdChecked members result).map some
  | .hideAndSeek => (hideAndSeekChecked seed members result).map some
  | .syncRhythm => (syncRhythmChecked members result).map some
  | .coopEcho => (coopEchoChecked seed members result).map some
  | .asyncRelay => (asyncRelayChecked totalRounds members result).map some
  | .rareEncounter => (rareEncounterChecked members result).map some
  | .sharedTrail => some (some (sharedTrailOutcome members result))
  | .storyVote => (storyVoteChecked seed sessionNonce members result).map some
  | .signalHunt => some none

/-! ## The result -/

/-- The score with its division checked. -/
def participationScoreChecked (totalRounds : Nat) (members : List MemberState)
    (score : Nat) : Option Nat :=
  let expectedContributions :=
    (members.map fun member => (expectedRounds totalRounds member).length).sum
  let actualContributions := (members.map fun member =>
    ((expectedRounds totalRounds member).filter member.submitted).length).sum
  if expectedContributions ≠ 0 && actualContributions < expectedContributions
  then quotient (score * actualContributions) expectedContributions
  else some score

/-- A member's part of the proof, with its reads checked. -/
def memberProofChecked (totalRounds : Nat) (proof : UInt32)
    (member : MemberState) : Option UInt32 :=
  let proof := fnv16 proof member.uid
  let proof := fnvByte proof member.joinedRound.toUInt8
  let proof := fnvByte proof member.submittedMask
  (List.range totalRounds).foldlM (fun proof round => do
    let signal ← member.signals.toList[round]?
    let value ← member.values.toList[round]?
    some (fnv16 (fnv16 proof (wireInt16 signal)) value)) proof

/-- The proof with its reads checked. -/
def resultProofChecked (state : HostState) (result : ModeResult) :
    Option UInt32 := do
  let proof := fnv32 2166136261 0x4D385231
  let proof := fnvByte proof state.mode.code
  let proof := fnv32 proof state.sessionNonce
  let proof := fnv32 proof state.seed
  let proof := fnvByte proof state.participantCount.toUInt8
  let proof ← (orderByUid state.members).foldlM
    (memberProofChecked state.totalRounds) proof
  let proof := fnv16 proof result.score.toUInt16
  let proof := fnv16 proof result.outcomeValue.toUInt16
  let proof := fnvByte proof result.storyChoice.toUInt8
  let proof := fnvByte proof result.temperature.code.toUInt8
  let proof := fnvByte proof (if result.rareEncounter then 1 else 0)
  some (nonZero proof)

/-- The result, or none where a division or a read would fail. -/
def resolveResultChecked (state : HostState) :
    Option (Except Status ModeResult) :=
  if state.participantCount < kMinimumParticipants ||
      state.currentRound ≠ state.totalRounds then
    some (.error .invalidState)
  else do
    match ← outcomeChecked state.mode state.seed state.sessionNonce
        state.totalRounds state.members
        { participantCount := state.participantCount
          completedRounds := state.totalRounds } with
    | none => some (.error .unsupportedMode)
    | some result =>
      let score ← participationScoreChecked state.totalRounds state.members
        result.score
      let result := { result with score }
      let result := { result with rareEncounter :=
        state.participantCount ≥ kMinimumParticipants &&
          result.score ≥ 800 }
      let proof ← resultProofChecked state result
      some (.ok { result with proof })

end Kitsu.PartyModes

/-!
# Where the result faults

Every division of the result is by a number that is not zero, and every access is
inside its table, but for one: a vote is counted in the table of the choices without
a look at what was voted for.
-/

namespace Kitsu.PartyModes

open Kitsu.Lib.Checked

variable {members : List MemberState} {result : ModeResult}

/-! ## Scores -/

theorem meanScoreChecked_eq (total count : Nat) :
    meanScoreChecked total count = some (meanScore total count) := by
  rw [meanScoreChecked, meanScore]
  split
  · rfl
  · rename_i positive
    rw [quotient_some positive]
    rfl

theorem triangulationChecked_eq :
    triangulationChecked members result =
      some (triangulationOutcome members result) := by
  rw [triangulationChecked, meanScoreChecked_eq]
  rfl

theorem hotColdChecked_eq :
    hotColdChecked members result = some (hotColdOutcome members result) := by
  have scores : ∀ member ∈ allRounds members,
      kHintScores[(temperatureHint member.signals[0] member.signals[2]).code]? =
        some (kHintScores.getD (temperatureHint member.signals[0]
          member.signals[2]).code 0) := by
    intro member _
    apply getElem?_some
    cases temperatureHint member.signals[0] member.signals[2]
    all_goals decide
  rw [hotColdChecked, hotColdOutcome]
  unfold MemberState.firstSignal MemberState.lastSignal
  rw [mapM_some scores]
  simp only [Option.bind_eq_bind, Option.bind_some, meanScoreChecked_eq]
  split
  · rfl
  · rename_i positive
    rw [quotientInt_some positive, quotientInt_some positive]
    rfl

theorem hideAndSeekScoreChecked_eq (hidden guess slots : Nat) :
    hideAndSeekScoreChecked hidden guess slots =
      some (hideAndSeekScore hidden guess slots) := by
  rw [hideAndSeekScoreChecked, hideAndSeekScore]
  split
  · rfl
  · simp only []
    generalize (if hidden > guess then hidden - guess else guess - hidden) =
      distance
    generalize (if slots - distance < distance then slots - distance
      else distance) = nearest
    split
    · rfl
    · exact quotient_some (Nat.succ_ne_zero _)

theorem hideAndSeekChecked_eq (seed : UInt32) :
    hideAndSeekChecked seed members result =
      some (hideAndSeekOutcome seed members result) := by
  rw [hideAndSeekChecked, mapM_some fun _ _ => hideAndSeekScoreChecked_eq _ _ _]
  simp only [Option.bind_eq_bind, Option.bind_some, meanScoreChecked_eq]
  rfl

theorem synchronizedTapScoreChecked_eq (taps : List UInt32)
    (perfectSpreadMs maximumSpreadMs : Nat) :
    synchronizedTapScoreChecked taps perfectSpreadMs maximumSpreadMs =
      some (synchronizedTapScore taps perfectSpreadMs maximumSpreadMs) := by
  rw [synchronizedTapScoreChecked, synchronizedTapScore]
  split
  · rfl
  · rename_i usable
    have judged : ∀ spread : Nat,
        (if spread ≤ perfectSpreadMs then some 1000
          else if spread ≥ maximumSpreadMs then some 0
          else quotient ((maximumSpreadMs - spread) * 1000)
            (maximumSpreadMs - perfectSpreadMs)) =
          some (if spread ≤ perfectSpreadMs then 1000
            else if spread ≥ maximumSpreadMs then 0
            else (maximumSpreadMs - spread) * 1000 /
              (maximumSpreadMs - perfectSpreadMs)) := by
      intro spread
      split
      · rfl
      · split
        · rfl
        · exact quotient_some (by omega)
    rcases taps with _ | ⟨first, later⟩
    · simp at usable
    · exact judged _

theorem syncRhythmChecked_eq :
    syncRhythmChecked members result =
      some (syncRhythmOutcome members result) := by
  rw [syncRhythmChecked, synchronizedTapScoreChecked_eq]
  rfl

theorem cooperativeEchoScoreChecked_eq (expected : UInt16)
    (patterns : List UInt16) (beats : Nat) :
    cooperativeEchoScoreChecked expected patterns beats =
      some (cooperativeEchoScore expected patterns beats) := by
  rw [cooperativeEchoScoreChecked, cooperativeEchoScore]
  split
  · rfl
  · rename_i usable
    simp only [Bool.or_eq_true, decide_eq_true_eq, not_or] at usable
    dsimp only
    split
    · rfl
    · apply quotient_some
      have beatsPositive := usable.1.1.2
      have players : patterns.length ≠ 0 := by omega
      exact Nat.mul_ne_zero beatsPositive players

theorem coopEchoChecked_eq (seed : UInt32) :
    coopEchoChecked seed members result =
      some (coopEchoOutcome seed members result) := by
  rw [coopEchoChecked, cooperativeEchoScoreChecked_eq]
  rfl

variable {totalRounds : Nat}

theorem relayedChecked_eq (few : totalRounds ≤ 3) (member : MemberState) :
    relayedChecked totalRounds member = some (relayed totalRounds member) := by
  apply mapM_some
  intro round inside
  rw [List.mem_filter, List.mem_range'_1] at inside
  have bound : round - 1 < member.values.toList.length := by
    rw [Vector.length_toList]
    have rounds : kMaximumRounds = 3 := rfl
    split at inside
    · omega
    · omega
  rw [getElem?_some 0 bound]
  rfl

theorem asyncRelayChecked_eq (few : totalRounds ≤ 3) :
    asyncRelayChecked totalRounds members result =
      some (asyncRelayOutcome totalRounds members result) := by
  rw [asyncRelayChecked, mapM_some fun member _ => relayedChecked_eq few member]
  simp only [Option.bind_eq_bind, Option.bind_some, meanScoreChecked_eq,
    ← List.flatMap_def]
  rfl

theorem rareEncounterChecked_eq :
    rareEncounterChecked members result =
      some (rareEncounterOutcome members result) := by
  rw [rareEncounterChecked, meanScoreChecked_eq]
  rfl

/-! ## Votes -/

/-- Every member voted for a choice that there is. -/
def VotesInTable (members : List MemberState) : Prop :=
  ∀ member ∈ members, member.firstValue.toNat < kStoryChoiceCount

theorem countVotesChecked_some (valid : VotesInTable members) :
    countVotesChecked members = some (countVotes members) := by
  have counted : ∀ (members : List MemberState) (votes : List Nat),
      VotesInTable members → votes.length = kStoryChoiceCount →
        members.foldlM (fun votes member =>
          update votes member.firstValue.toNat (· + 1)) votes =
        some (members.foldl (fun votes member =>
          votes.modify member.firstValue.toNat (· + 1)) votes) := by
    intro members
    induction members with
    | nil =>
      intro votes _ _
      rfl
    | cons first later induction =>
      intro votes valid size
      have inside := valid first List.mem_cons_self
      rw [List.foldlM_cons, update_some (by omega), List.foldl_cons]
      exact induction _
        (fun member among => valid member (List.mem_cons_of_mem _ among))
        (by simpa using size)
  exact counted members _ valid List.length_replicate

/-- A vote outside the table faults. -/
theorem countVotesChecked_none {member : MemberState} (among : member ∈ members)
    (outside : kStoryChoiceCount ≤ member.firstValue.toNat) :
    countVotesChecked members = none := by
  have faulted : ∀ (members : List MemberState) (votes : List Nat),
      member ∈ members → votes.length = kStoryChoiceCount →
        members.foldlM (fun votes member =>
          update votes member.firstValue.toNat (· + 1)) votes = none := by
    intro members
    induction members with
    | nil =>
      intro votes none
      cases none
    | cons first later induction =>
      intro votes among size
      rw [List.foldlM_cons]
      by_cases inside : first.firstValue.toNat < kStoryChoiceCount
      · rcases List.mem_cons.mp among with rfl | after
        · omega
        · rw [update_some (by omega)]
          exact induction _ after (by simpa using size)
      · rw [update_none (by omega)]
        rfl
  exact faulted members _ among List.length_replicate

theorem storyVoteWinnerChecked_eq {votes : List Nat} (tieSeed : UInt32)
    (size : votes.length = kStoryChoiceCount) :
    storyVoteWinnerChecked votes tieSeed =
        some (storyVoteWinner votes tieSeed) ∧
      storyVoteWinner votes tieSeed < kStoryChoiceCount := by
  rcases (best_votes size).2 with ⟨choice, inside, best⟩
  rw [storyVoteWinnerChecked, storyVoteWinner]
  have nonempty : ((List.range kStoryChoiceCount).filter fun index =>
      decide (votes.getD index 0 = votes.foldl max 0)).length ≠ 0 := by
    have member : choice ∈ (List.range kStoryChoiceCount).filter fun index =>
        decide (votes.getD index 0 = votes.foldl max 0) :=
      List.mem_filter.mpr ⟨List.mem_range.mpr inside, decide_eq_true best⟩
    exact Nat.ne_of_gt (List.length_pos_of_mem member)
  have known : ∀ winner ∈ (List.range kStoryChoiceCount).filter fun index =>
      decide (votes.getD index 0 = votes.foldl max 0),
        winner < kStoryChoiceCount := by
    intro winner member
    exact List.mem_range.mp (List.mem_filter.mp member).1
  have drawn := Nat.mod_lt (mix32 tieSeed).toNat (Nat.pos_of_ne_zero nonempty)
  rw [remainder_some nonempty]
  simp only [Option.bind_eq_bind, Option.bind_some]
  rw [getElem?_some 0 drawn]
  refine ⟨rfl, known _ ?_⟩
  rw [List.getD_eq_getElem?_getD, List.getElem?_eq_getElem drawn, Option.getD_some]
  exact List.getElem_mem drawn

variable {sessionNonce : UInt32}

theorem storyVoteChecked_some {seed : UInt32} (valid : VotesInTable members)
    (some : members.length ≠ 0) :
    storyVoteChecked seed sessionNonce members result =
      .some (storyVoteOutcome seed sessionNonce members result) := by
  have size := countVotes_length members
  rcases storyVoteWinnerChecked_eq (seed ^^^ sessionNonce) size with
    ⟨winner, inside⟩
  rw [storyVoteChecked, countVotesChecked_some valid]
  simp only [Option.bind_eq_bind, Option.bind_some, winner]
  rw [getElem?_some 0 (by omega)]
  simp only [Option.bind_some, quotient_some some]
  rfl

theorem storyVoteChecked_none {seed : UInt32} (invalid : ¬VotesInTable members) :
    storyVoteChecked seed sessionNonce members result = none := by
  simp only [VotesInTable, not_forall, Nat.not_lt] at invalid
  rcases invalid with ⟨member, among, outside⟩
  rw [storyVoteChecked, countVotesChecked_none among outside]
  rfl

/-! ## The result -/

theorem participationScoreChecked_eq (totalRounds score : Nat) :
    participationScoreChecked totalRounds members score =
      some (participationScore totalRounds members score) := by
  rw [participationScoreChecked, participationScore]
  split
  · rename_i missing
    simp only [Bool.and_eq_true, decide_eq_true_eq] at missing
    exact quotient_some missing.1
  · rfl

theorem memberProofChecked_eq (few : totalRounds ≤ 3) (proof : UInt32)
    (member : MemberState) :
    memberProofChecked totalRounds proof member =
      some (memberProof totalRounds proof member) := by
  apply foldlM_some
  intro proof round inside
  have bound : round < 3 := by
    have below := List.mem_range.mp inside
    omega
  rw [getElem?_some 0 (by rw [Vector.length_toList]; exact bound),
    getElem?_some 0 (by rw [Vector.length_toList]; exact bound)]
  rfl

variable {state : HostState}

theorem resultProofChecked_eq (few : state.totalRounds ≤ 3) :
    resultProofChecked state result = some (resultProof state result) := by
  rw [resultProofChecked, resultProof]
  rw [foldlM_some fun proof member _ => memberProofChecked_eq few proof member]
  rfl

/-- The one access that can miss its table. -/
def InTable (state : HostState) : Prop :=
  state.mode = .storyVote → kMinimumParticipants ≤ state.participantCount →
    state.currentRound = state.totalRounds → VotesInTable state.members

theorem outcomeChecked_eq {mode : Mode} {seed : UInt32} (few : totalRounds ≤ 3)
    (some : members.length ≠ 0)
    (votes : mode = .storyVote → VotesInTable members) :
    outcomeChecked mode seed sessionNonce totalRounds members result =
      .some (outcome mode seed sessionNonce totalRounds members result) := by
  cases mode with
  | signalHunt => rfl
  | triangulation =>
    rw [outcomeChecked, triangulationChecked_eq]
    rfl
  | hotCold =>
    rw [outcomeChecked, hotColdChecked_eq]
    rfl
  | hideAndSeek =>
    rw [outcomeChecked, hideAndSeekChecked_eq]
    rfl
  | syncRhythm =>
    rw [outcomeChecked, syncRhythmChecked_eq]
    rfl
  | coopEcho =>
    rw [outcomeChecked, coopEchoChecked_eq]
    rfl
  | asyncRelay =>
    rw [outcomeChecked, asyncRelayChecked_eq few]
    rfl
  | rareEncounter =>
    rw [outcomeChecked, rareEncounterChecked_eq]
    rfl
  | sharedTrail => rfl
  | storyVote =>
    rw [outcomeChecked, storyVoteChecked_some (votes rfl) some]
    rfl

/-- Without a stray vote nothing faults. -/
theorem resolveResultChecked_some (few : state.totalRounds ≤ 3)
    (inTable : InTable state) :
    resolveResultChecked state = some (resolveResult state) := by
  rw [resolveResultChecked, resolveResult]
  split
  · rfl
  · rename_i finished
    simp only [Bool.or_eq_true, decide_eq_true_eq, not_or, Nat.not_lt,
      Decidable.not_not] at finished
    have present : state.members.length ≠ 0 := by
      have count : 2 ≤ state.members.length := finished.1
      omega
    rw [outcomeChecked_eq few present fun mode =>
      inTable mode finished.1 finished.2]
    simp only [Option.bind_eq_bind, Option.bind_some]
    cases outcome state.mode state.seed state.sessionNonce state.totalRounds
        state.members _ with
    | none => rfl
    | some result =>
      simp only [participationScoreChecked_eq, Option.bind_some,
        resultProofChecked_eq few]

theorem resolveResultChecked_none (stray : ¬InTable state) :
    resolveResultChecked state = none := by
  simp only [InTable, not_forall] at stray
  rcases stray with ⟨mode, enough, last, votes⟩
  rw [resolveResultChecked, if_neg (by simp [last]; exact enough), mode]
  simp only [outcomeChecked, storyVoteChecked_none votes]
  rfl

end Kitsu.PartyModes
