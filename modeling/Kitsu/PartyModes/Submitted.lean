import Kitsu.Lib.Tally
import Kitsu.PartyModes.HostSteps

/-!
# What was submitted

The members of a session that submitted something, and the outcome that their
contributions have.  The modes of three rounds skip what is missing; a mode of
one round reads one value of each member, which is zero where it is missing.
-/

namespace Kitsu.PartyModes

open Kitsu.Lib.Tally

/-! ## The members that were heard -/

/-- The member has contributed at all. -/
def MemberState.heard (member : MemberState) : Bool :=
  member.submittedMask ≠ 0

/-- The members that submitted at all. -/
def heard (members : List MemberState) : List MemberState :=
  members.filter MemberState.heard

/-- The members that submitted nothing. -/
def missing (members : List MemberState) : Nat :=
  members.countP (!·.heard)

/-- The second member submitted what the first one did. -/
structure SameSubmitted (first second : MemberState) : Prop where
  joinedRound : second.joinedRound = first.joinedRound
  submittedMask : second.submittedMask = first.submittedMask
  signals : ∀ index : Fin kMaximumRounds, first.submitted (index + 1) = true →
    second.signals[index] = first.signals[index]
  values : ∀ index : Fin kMaximumRounds, first.submitted (index + 1) = true →
    second.values[index] = first.values[index]

/-- The outcome of a session, had it these members. -/
def outcomeOf (state : HostState) (members : List MemberState) :
    Option ModeResult :=
  outcome state.mode state.seed state.sessionNonce state.totalRounds members
    { participantCount := state.participantCount
      completedRounds := state.totalRounds }

/--
The outcome is the one of the submitted contributions, whatever else the members
that submitted them hold.
-/
def OnlySubmitted (state : HostState) : Prop :=
  ∀ members, List.Forall₂ SameSubmitted (heard state.members) members →
    outcomeOf state members = outcomeOf state state.members

/-- The sum of what the heard members score. -/
def heardTotal (state : HostState) (score : UInt16 → Nat) : Nat :=
  ((heard state.members).map fun member => score member.firstValue).sum

/-! ## The modes that skip what is missing -/

section Same

variable {first second : List MemberState} {state : HostState}

theorem SameSubmitted.submitted {one other : MemberState}
    (same : SameSubmitted one other) (round : Nat) :
    other.submitted round = one.submitted round := by
  rw [MemberState.submitted, MemberState.submitted, same.submittedMask]

theorem submitted_of_all {member : MemberState}
    (all : member.submittedMask &&& 0x07 = 0x07)
    (index : Fin kMaximumRounds) : member.submitted (index + 1) = true := by
  have inside : (0x07 : UInt8) &&& roundMask (index + 1) =
      roundMask (index + 1) := by
    revert index
    decide
  have bit : roundMask (index + 1) ≠ 0 := by
    revert index
    decide
  rw [MemberState.submitted, decide_eq_true_eq]
  intro none
  apply bit
  rw [← inside, ← all, UInt8.and_assoc, inside, none]

/-- Members that submitted every round have the same signals. -/
theorem allRounds_signals (same : List.Forall₂ SameSubmitted first second) :
    (allRounds second).map (·.signals) =
      (allRounds first).map (·.signals) := by
  induction same with
  | nil => rfl
  | cons head tail induction =>
    unfold allRounds at induction ⊢
    rw [List.filter_cons, List.filter_cons, head.submittedMask]
    split
    · rename_i all
      rw [List.map_cons, List.map_cons, induction]
      congr 1
      ext index inside
      exact head.signals ⟨index, inside⟩
        (submitted_of_all (of_decide_eq_true all) ⟨index, inside⟩)
    · exact induction

theorem relayed_same {one other : MemberState} {rounds : Nat}
    (few : rounds ≤ kMaximumRounds) (same : SameSubmitted one other) :
    relayed rounds other = relayed rounds one := by
  unfold relayed
  simp only [same.joinedRound]
  rw [List.filter_congr fun round _ => same.submitted round]
  apply List.map_congr_left
  intro round inside
  rw [List.mem_filter, List.mem_range'_1] at inside
  have positive : 1 ≤ round := by
    split at inside
    · exact inside.1.1
    · omega
  obtain ⟨index, rfl⟩ : ∃ index : Fin kMaximumRounds, round = index + 1 :=
    ⟨⟨round - 1, by split at inside <;> omega⟩, by simp only; omega⟩
  have value := same.values index inside.2
  simpa using congrArg UInt16.toNat value

theorem flatMap_relayed_same {rounds : Nat} (few : rounds ≤ kMaximumRounds)
    (same : List.Forall₂ SameSubmitted first second) :
    second.flatMap (relayed rounds) = first.flatMap (relayed rounds) := by
  induction same with
  | nil => rfl
  | cons head tail induction =>
    rw [List.flatMap_cons, List.flatMap_cons, induction, relayed_same few head]

theorem allRounds_heard (members : List MemberState) :
    allRounds (heard members) = allRounds members := by
  unfold allRounds heard
  rw [List.filter_filter]
  apply List.filter_congr
  intro member _
  rw [Bool.and_eq_left_iff_imp]
  intro all
  rw [MemberState.heard, decide_eq_true_eq]
  intro none
  rw [none] at all
  revert all
  decide

theorem relayed_unheard {member : MemberState} (rounds : Nat)
    (unheard : member.heard = false) : relayed rounds member = [] := by
  have mask : member.submittedMask = 0 := by
    simpa [MemberState.heard] using unheard
  unfold relayed
  simp only
  rw [List.filter_eq_nil_iff.mpr]
  · rfl
  · intro round _
    simp [MemberState.submitted, mask]

theorem flatMap_relayed_heard (rounds : Nat) (members : List MemberState) :
    (heard members).flatMap (relayed rounds) =
      members.flatMap (relayed rounds) := by
  induction members with
  | nil => rfl
  | cons member later induction =>
    unfold heard at induction ⊢
    cases here : member.heard with
    | true =>
      rw [List.filter_cons_of_pos here, List.flatMap_cons,
        List.flatMap_cons, induction]
    | false =>
      rw [List.filter_cons_of_neg (by simp [here]), List.flatMap_cons,
        relayed_unheard rounds here, induction]
      rfl

/-! ## The modes of one round -/

/-- A mode of one round reads one value of each member. -/
theorem outcome_values {mode : Mode} {seed sessionNonce : UInt32}
    {rounds : Nat} {result : ModeResult} (one : roundsForMode mode = 1)
    (same : second.map MemberState.firstValue = first.map MemberState.firstValue) :
    outcome mode seed sessionNonce rounds second result =
      outcome mode seed sessionNonce rounds first result := by
  have count : second.length = first.length := by
    simpa using congrArg List.length same
  have mapped : ∀ {β : Type} (read : UInt16 → β),
      (second.map fun member => read member.firstValue) =
        first.map fun member => read member.firstValue := by
    intro β read
    have both := congrArg (List.map read) same
    rwa [List.map_map, List.map_map] at both
  have folded : ∀ {β : Type} (read : β → UInt16 → β) (initial : β),
      second.foldl (fun state member => read state member.firstValue) initial =
        first.foldl (fun state member => read state member.firstValue)
          initial := by
    intro β read initial
    have both := congrArg (List.foldl read initial) same
    rwa [List.foldl_map, List.foldl_map] at both
  cases mode
  case hideAndSeek =>
    simp only [outcome, hideAndSeekOutcome, count]
    rw [mapped fun value => hideAndSeekScore
      (promptFor .hideAndSeek seed 1).hideSlot value.toUInt8.toNat
      kHideSlotCount]
  case syncRhythm =>
    simp only [outcome, syncRhythmOutcome]
    rw [mapped UInt16.toUInt32]
  case coopEcho => simp only [outcome, coopEchoOutcome, same]
  case rareEncounter =>
    simp only [outcome, rareEncounterOutcome, count]
    rw [mapped UInt16.toNat]
  case sharedTrail =>
    simp only [outcome, sharedTrailOutcome]
    rw [folded fun merged value =>
      sharedTrailMisses merged value.toUInt8.toNat]
  case storyVote =>
    simp only [outcome, storyVoteOutcome, countVotes, count]
    rw [folded fun (votes : List Nat) value =>
      votes.modify value.toNat (· + 1)]
  all_goals cases one

theorem firstValues_same (same : List.Forall₂ SameSubmitted first second)
    (submitted : ∀ member ∈ first, member.submitted 1 = true) :
    second.map MemberState.firstValue =
      first.map MemberState.firstValue := by
  induction same with
  | nil => rfl
  | cons head tail induction =>
    rw [List.map_cons, List.map_cons, induction fun member inside =>
      submitted member (List.mem_cons_of_mem _ inside)]
    congr 1
    exact head.values 0 (submitted _ List.mem_cons_self)

section Values

variable {mode : Mode} {seed : UInt32} {member : MemberState}

theorem MemberState.Sound.submitted (sound : member.Sound mode seed)
    (one : roundsForMode mode = 1) (isHeard : member.heard = true) :
    member.submitted 1 = true := by
  have mask := sound.mask
  rw [one] at mask
  rw [MemberState.heard, decide_eq_true_eq] at isHeard
  have single : member.submittedMask = 1 := by
    apply UInt8.toNat_inj.mp
    have positive : member.submittedMask.toNat ≠ 0 := by
      intro zero
      exact isHeard (UInt8.toNat_inj.mp zero)
    change _ = 1
    omega
  rw [MemberState.submitted, single]
  decide

/-- The slots of a member that is not heard are zero. -/
theorem MemberState.Sound.unheard (sound : member.Sound mode seed)
    (isHeard : member.heard = false) : member.firstValue = 0 := by
  have mask : member.submittedMask = 0 := by
    simpa [MemberState.heard] using isHeard
  have kept := sound.kept 0
  rw [if_neg (by simp [MemberState.submitted, mask])] at kept
  exact kept.2

/-- The value of a member that is heard is a valid contribution. -/
theorem MemberState.Sound.valid (sound : member.Sound mode seed)
    (one : roundsForMode mode = 1) (isHeard : member.heard = true) :
    validContribution mode ⟨member.signals[0], member.firstValue⟩
      (promptFor mode seed 1) = true := by
  have kept := sound.kept 0
  rwa [if_pos (by exact sound.submitted one isHeard)] at kept

/-- A valid value is within the bounds of its mode. -/
theorem validContribution_value {contribution : Contribution}
    {prompt : RoundPrompt}
    (valid : validContribution mode contribution prompt = true) :
    match mode with
    | .syncRhythm => contribution.value.toNat ≤ 2000
    | .coopEcho => contribution.value &&&
        ~~~UInt16.ofNat (2 ^ prompt.echoBeats - 1) = 0
    | .rareEncounter => contribution.value.toNat ≤ 1000
    | .storyVote => contribution.value.toNat < kStoryChoiceCount
    | _ => True := by
  unfold validContribution at valid
  split at valid
  · cases valid
  · cases mode
    all_goals
      simp only [Bool.and_eq_true, decide_eq_true_eq] at valid
      first
      | trivial
      | exact valid.2

/-- What holds of zero and of the valid values holds of all of them. -/
theorem HostState.Sound.values {state : HostState} (sound : state.Sound)
    (one : roundsForMode state.mode = 1) (Holds : UInt16 → Prop) (zero : Holds 0)
    (valid : ∀ contribution : Contribution,
      validContribution state.mode contribution
        (promptFor state.mode state.seed 1) = true → Holds contribution.value) :
    ∀ member ∈ state.members, Holds member.firstValue := by
  intro member inside
  have known := sound.members member inside
  cases here : member.heard with
  | true => exact valid _ (known.valid one here)
  | false =>
    rw [known.unheard here]
    exact zero

end Values

end Same

/-! ## When the outcome is the one of the heard members -/

variable {members : List MemberState}

section Modes

variable {state : HostState}

theorem heard_nonzero {member : MemberState} (inside : member ∈ heard members) :
    member.heard = true :=
  (List.mem_filter.mp inside).2

theorem heard_mem {member : MemberState} (inside : member ∈ heard members) :
    member ∈ members :=
  (List.mem_filter.mp inside).1

theorem heard_of_none (none : missing members = 0) : heard members = members := by
  unfold heard
  rw [List.filter_eq_self]
  intro member inside
  have counted := List.countP_eq_zero.mp none member inside
  simpa using counted

theorem forall₂_same (members : List MemberState) :
    List.Forall₂ SameSubmitted members members := by
  induction members with
  | nil => exact .nil
  | cons member later induction =>
    exact .cons ⟨rfl, rfl, fun _ _ => rfl, fun _ _ => rfl⟩ induction

theorem onlySubmitted_iff (sound : state.Sound)
    (one : roundsForMode state.mode = 1) :
    OnlySubmitted state ↔
      outcomeOf state (heard state.members) =
        outcomeOf state state.members := by
  constructor
  · intro only
    exact only (heard state.members) (forall₂_same _)
  · intro alike members same
    rw [← alike]
    apply outcome_values one
    apply firstValues_same same
    intro member inside
    exact (sound.members member (heard_mem inside)).submitted one
      (heard_nonzero inside)

/-- The three rounds skip the members that miss one. -/
theorem onlySubmitted_rounds (sound : state.Sound)
    (mode : state.mode = .triangulation ∨ state.mode = .hotCold ∨
      state.mode = .asyncRelay) : OnlySubmitted state := by
  intro members same
  have signals := allRounds_signals same
  rw [allRounds_heard] at signals
  have count : (allRounds members).length =
      (allRounds state.members).length := by
    simpa using congrArg List.length signals
  have mapped : ∀ {β : Type} (read : Vector Int kMaximumRounds → β),
      ((allRounds members).map fun member => read member.signals) =
        (allRounds state.members).map fun member => read member.signals := by
    intro β read
    have both := congrArg (List.map read) signals
    rwa [List.map_map, List.map_map] at both
  have few : state.totalRounds ≤ kMaximumRounds := by
    rw [sound.rounds]
    rcases mode with mode | mode | mode
    all_goals
      rw [mode]
      decide
  have relayed := (flatMap_relayed_same few same).trans
    (flatMap_relayed_heard state.totalRounds state.members)
  rcases mode with mode | mode | mode
  · simp only [outcomeOf, mode, outcome, triangulationOutcome, count]
    rw [mapped fun signals =>
      triangulationScore signals[0] signals[1] signals[2]]
  · simp only [outcomeOf, mode, outcome, hotColdOutcome, count]
    rw [mapped fun signals => kHintScores.getD
        (temperatureHint signals[0] signals[2]).code 0,
      mapped fun signals => signals[0], mapped fun signals => signals[2]]
  · simp only [outcomeOf, mode, outcome, asyncRelayOutcome, relayed]

/-- A mean of scores is below the clamp. -/
theorem meanScore_eq {total count : Nat} (bound : total ≤ 1000 * count) :
    meanScore total count = total / count := by
  have clamped : total / count ≤ 1000 := Nat.div_le_of_le_mul (by omega)
  unfold meanScore
  split
  · rename_i none
    rw [none, Nat.div_zero]
  · rw [clampScore, if_neg (by omega)]

theorem heardTotal_add (sound : state.Sound) (score : UInt16 → Nat) :
    (state.members.map fun member => score member.firstValue).sum =
      heardTotal state score + missing state.members * score 0 := by
  apply sum_filter_add MemberState.heard fun member => score member.firstValue
  intro member inside unheard
  rw [(sound.members member inside).unheard unheard]

theorem heard_length (members : List MemberState) :
    members.length = (heard members).length + missing members :=
  length_filter_add MemberState.heard members

/-- The means with and without the zeros of the missing members. -/
theorem mean_iff (sound : state.Sound) {score : UInt16 → Nat}
    (each : ∀ member ∈ state.members, score member.firstValue ≤ 1000)
    (positive : 0 < missing state.members) :
    meanScore (heardTotal state score) (heard state.members).length =
        meanScore (state.members.map fun member =>
          score member.firstValue).sum state.members.length ↔
      SameMean (heardTotal state score) (heard state.members).length
        (missing state.members) (score 0) := by
  have present := sum_le_of_each fun member inside =>
    each member (heard_mem inside)
  have all := sum_le_of_each each
  rw [meanScore_eq all, heardTotal_add sound,
    heard_length state.members, heardTotal, meanScore_eq present, eq_comm]
  exact div_add_eq_iff positive

end Modes

end Kitsu.PartyModes
