import Kitsu.Lib.Tally
import Kitsu.Mix32
import Kitsu.Party.Reward

/-!
# The result of a signal hunt

`resolveSignalHunt` of `kitsu_party_hotspot.cpp`: three rounds in which every
participant may have chosen one of three signals.  The transcript is put in the
order of the uids before anything is read off it, so the order in which the
participants joined does not matter.
-/

namespace Kitsu.Party

open Kitsu.Lib

abbrev kHuntRounds : Nat := 3

/-- The bits of the three rounds. -/
def kAllRoundsMask : UInt8 := 7

/-- A member of the hunt with the choices that were made. -/
structure HuntParticipant where
  uid : UInt16 := 0
  submittedMask : UInt8 := 0
  choices : Vector UInt8 kHuntRounds := .replicate _ 0
deriving DecidableEq

/-- How well a hunt went. -/
inductive ResultTier where
  | faded
  | trace
  | found
  | resonant
deriving DecidableEq

/-- The byte that stands for a tier. -/
def ResultTier.code : ResultTier → UInt8
  | .faded => 0
  | .trace => 1
  | .found => 2
  | .resonant => 3

/-- The result of a hunt, with the proof that all members compute. -/
structure HuntResult where
  participantCount : Nat
  completedRounds : Nat
  tier : ResultTier
  targetChoices : List UInt8
  score : Nat
  maximumScore : Nat
  proof : UInt32
deriving DecidableEq

/-- The mixer under the source's name for it. -/
def avalanche (value : UInt32) : UInt32 :=
  mix32 value

def fnvByte (hash : UInt32) (value : UInt8) : UInt32 :=
  (hash ^^^ value.toUInt32) * 16777619

/-- Hash two bytes, the least significant first. -/
def fnv16 (hash : UInt32) (value : UInt16) : UInt32 :=
  fnvByte (fnvByte hash value.toUInt8) (value >>> 8).toUInt8

/-- Hash four bytes, the least significant first. -/
def fnv32 (hash value : UInt32) : UInt32 :=
  fnv16 (fnv16 hash value.toUInt16) (value >>> 16).toUInt16

def nonZeroProof (value : UInt32) : UInt32 :=
  if value = 0 then 0x50525459 else value

/-- The right choice of a round, from the seed and the session. -/
def targetChoice (sessionNonce seed : UInt32) (round : Nat) : UInt8 :=
  let mixed := avalanche (seed ^^^ sessionNonce ^^^
    (0x9E3779B9 * UInt32.ofNat round) ^^^ 0x53494748)
  (mixed % 3).toUInt8 + 1

/-- The best score of so many members. -/
def maximumSignalScore (participantCount : Nat) : Nat :=
  (5 * participantCount - 2) * kHuntRounds

/-- The tier of a score. -/
def tierForScore (score : Nat) : ResultTier :=
  if score ≥ 35 then .resonant
  else if score ≥ 20 then .found
  else if score ≥ 8 then .trace
  else .faded

/-- The three choices of a round. -/
def supportedChoice (choice : UInt8) : Bool :=
  choice == 1 || choice == 2 || choice == 3

/-- Whether a participant chose in the round of an index. -/
def HuntParticipant.submitted (participant : HuntParticipant)
    (index : Fin kHuntRounds) : Bool :=
  participant.submittedMask &&& (1 <<< UInt8.ofNat index) != 0

/-- A member has made a choice in the rounds submitted, and in no others. -/
def huntParticipantValid (participant : HuntParticipant) : Bool :=
  participant.uid != 0 && participant.submittedMask &&& ~~~kAllRoundsMask == 0 &&
    (List.finRange kHuntRounds).all fun index =>
      participant.submitted index == supportedChoice participant.choices[index]

/-! ## The rounds -/

/-- What a round has counted of the participants so far. -/
structure RoundTally where
  score : Nat := 0
  choiceMask : UInt8 := 0
  submitted : Nat := 0

/-- Count a member's choice of a round. -/
def tallyChoice (target : UInt8) (index : Fin kHuntRounds) (tally : RoundTally)
    (participant : HuntParticipant) : RoundTally :=
  if !participant.submitted index then tally
  else
    let choice := participant.choices[index]
    { score := tally.score + 1 + if choice = target then 3 else 0
      choiceMask := tally.choiceMask ||| (1 <<< (choice - 1))
      submitted := tally.submitted + 1 }

/-- The score of a round: right choices, a spread, and all being there. -/
def roundScore (canonical : List HuntParticipant) (target : UInt8)
    (index : Fin kHuntRounds) : Nat :=
  let tally := canonical.foldl (tallyChoice target index) {}
  let spread :=
    if canonical.length ≥ 3 && tally.choiceMask = 0x07 then 2 else 0
  let together :=
    if tally.submitted = canonical.length then
      canonical.length - kMinimumParticipants
    else 0
  tally.score + spread + together

/-! ## The result -/

/-- A member's part of the proof. -/
def participantProof (proof : UInt32) (participant : HuntParticipant) : UInt32 :=
  let proof := fnv16 proof participant.uid
  let proof := fnvByte proof participant.submittedMask
  participant.choices.toList.foldl fnvByte proof

/-- The proof of a result, over the members in their canonical order. -/
def huntProof (sessionNonce seed : UInt32) (canonical : List HuntParticipant)
    (candidate : HuntResult) : UInt32 :=
  let proof := fnv32 2166136261 0x50534831
  let proof := fnv32 proof sessionNonce
  let proof := fnv32 proof seed
  let proof := fnvByte proof canonical.length.toUInt8
  let proof := canonical.foldl participantProof proof
  let proof := candidate.targetChoices.foldl fnvByte proof
  let proof := fnv16 proof candidate.score.toUInt16
  let proof := fnv16 proof candidate.maximumScore.toUInt16
  let proof := fnvByte proof candidate.tier.code
  nonZeroProof proof

/-- The result of participants in the order of their uids. -/
def canonicalResult (sessionNonce seed : UInt32)
    (canonical : List HuntParticipant) : HuntResult :=
  let target (index : Fin kHuntRounds) :=
    targetChoice sessionNonce seed (index + 1)
  let score := ((List.finRange kHuntRounds).map fun index =>
    roundScore canonical (target index) index).sum
  let candidate : HuntResult :=
    { participantCount := canonical.length
      completedRounds := kHuntRounds
      tier := tierForScore score
      targetChoices := (List.finRange kHuntRounds).map target
      score
      maximumScore := maximumSignalScore canonical.length
      proof := 0 }
  { candidate with proof := huntProof sessionNonce seed canonical candidate }

/-- The participants that a hunt can be resolved for. -/
def validTranscript (participants : List HuntParticipant) : Bool :=
  participants.length ≥ kMinimumParticipants &&
    participants.length ≤ kMaximumParticipants &&
    participants.all huntParticipantValid &&
    decide (participants.map (·.uid)).Nodup

/-- The result of a hunt, if its transcript is valid. -/
def resolveSignalHunt (sessionNonce seed : UInt32)
    (participants : List HuntParticipant) : Option HuntResult :=
  if sessionNonce = 0 || seed = 0 || !validTranscript participants then none
  else
    some (canonicalResult sessionNonce seed
      (KeyOrder.orderBy (·.uid.toNat) participants))

/-! ## The order of joining -/

section Order

variable {sessionNonce seed : UInt32} {participants others : List HuntParticipant}

theorem validTranscript_iff :
    validTranscript participants = true ↔
      (kMinimumParticipants ≤ participants.length ∧
        participants.length ≤ kMaximumParticipants) ∧
      (∀ participant ∈ participants, huntParticipantValid participant = true) ∧
      (participants.map (·.uid)).Nodup := by
  rw [validTranscript, Bool.and_eq_true, Bool.and_eq_true, Bool.and_eq_true,
    decide_eq_true_eq, decide_eq_true_eq, decide_eq_true_eq, List.all_eq_true,
    and_assoc]

theorem validTranscript_perm (perm : participants.Perm others) :
    validTranscript participants = validTranscript others := by
  rw [Bool.eq_iff_iff, validTranscript_iff, validTranscript_iff,
    perm.length_eq, (perm.map _).nodup_iff]
  simp only [perm.mem_iff]

theorem resolveSignalHunt_perm (perm : participants.Perm others) :
    resolveSignalHunt sessionNonce seed participants =
      resolveSignalHunt sessionNonce seed others := by
  rw [resolveSignalHunt, resolveSignalHunt, validTranscript_perm perm]
  split
  · rfl
  · rename_i accepted
    have valid : validTranscript others = true := by
      by_contra refused
      exact accepted (by simp [refused])
    rw [← validTranscript_perm perm] at valid
    have distinct := (validTranscript_iff.mp valid).2.2
    have same := @KeyOrder.orderBy_eq_of_perm _ (·.uid.toNat) _ _
      (fun _ first _ second uid => List.inj_on_of_nodup_map distinct first
        second (UInt16.toNat_inj.mp uid)) perm
    rw [same]

end Order

/-! ## The score -/

section Score

variable {participant : HuntParticipant} {canonical : List HuntParticipant}

/-- A choice that was submitted is one of the three. -/
theorem choice_of_valid (valid : huntParticipantValid participant = true)
    {index : Fin kHuntRounds} (submitted : participant.submitted index = true) :
    participant.choices[index] = 1 ∨ participant.choices[index] = 2 ∨
      participant.choices[index] = 3 := by
  rw [huntParticipantValid, Bool.and_eq_true, List.all_eq_true] at valid
  have here := valid.2 index (List.mem_finRange index)
  rw [submitted, beq_iff_eq] at here
  have supported := here.symm
  rw [supportedChoice, Bool.or_eq_true, Bool.or_eq_true, beq_iff_eq, beq_iff_eq,
    beq_iff_eq, or_assoc] at supported
  exact supported

def signalBit (choice : UInt8) : UInt8 :=
  1 <<< (choice - 1)

theorem and_or_ne_zero (mask other bit : UInt8) :
    (mask ||| other) &&& bit ≠ 0 ↔ mask &&& bit ≠ 0 ∨ other &&& bit ≠ 0 := by
  have distributes : (mask ||| other) &&& bit =
      (mask &&& bit) ||| (other &&& bit) :=
    UInt8.toBitVec_inj.mp BitVec.and_or_distrib_right
  rw [distributes, ne_eq, UInt8.or_eq_zero_iff, not_and_or]

/-- A choice has no bit of another signal. -/
theorem signalBit_meet {choice other : UInt8}
    (known : choice = 1 ∨ choice = 2 ∨ choice = 3)
    (otherKnown : other = 1 ∨ other = 2 ∨ other = 3) :
    signalBit choice &&& signalBit other ≠ 0 ↔ choice = other := by
  rcases known with rfl | rfl | rfl
  all_goals
    rcases otherKnown with rfl | rfl | rfl
    all_goals decide

/-- What was chosen in a round. -/
def choicesOf (index : Fin kHuntRounds) (canonical : List HuntParticipant) :
    List UInt8 :=
  (canonical.filter (·.submitted index)).map (·.choices[index])

theorem foldl_tallyChoice (target : UInt8) (index : Fin kHuntRounds)
    (canonical : List HuntParticipant) (tally : RoundTally) :
    canonical.foldl (tallyChoice target index) tally =
      { score := tally.score + (choicesOf index canonical).length +
          3 * (choicesOf index canonical).count target
        choiceMask := (choicesOf index canonical).foldl
          (fun mask choice => mask ||| signalBit choice) tally.choiceMask
        submitted := tally.submitted + (choicesOf index canonical).length } := by
  induction canonical generalizing tally with
  | nil => rfl
  | cons first later induction =>
    rw [List.foldl_cons, induction]
    cases submitted : first.submitted index with
    | false =>
      have choices : choicesOf index (first :: later) =
          choicesOf index later := by
        rw [choicesOf, List.filter_cons_of_neg (by simp [submitted]),
          choicesOf]
      have kept : tallyChoice target index tally first = tally := by
        rw [tallyChoice, submitted]
        rfl
      rw [choices, kept]
    | true =>
      have choices : choicesOf index (first :: later) =
          first.choices[index] :: choicesOf index later := by
        rw [choicesOf, List.filter_cons_of_pos (by simpa using submitted),
          List.map_cons, choicesOf]
      have counted : tallyChoice target index tally first =
          { score := tally.score + 1 +
              if first.choices[index] = target then 3 else 0
            choiceMask := tally.choiceMask |||
              signalBit first.choices[index]
            submitted := tally.submitted + 1 } := by
        rw [tallyChoice, submitted]
        rfl
      rw [choices, counted, List.length_cons, List.foldl_cons, List.count_cons]
      simp only [beq_iff_eq, RoundTally.mk.injEq, true_and]
      constructor
      · split
        · omega
        · omega
      · omega

theorem foldl_mask {choices : List UInt8} {wanted : UInt8} (mask : UInt8)
    (known : ∀ choice ∈ choices, choice = 1 ∨ choice = 2 ∨ choice = 3)
    (wantedKnown : wanted = 1 ∨ wanted = 2 ∨ wanted = 3) :
    choices.foldl (fun mask choice => mask ||| signalBit choice) mask &&&
        signalBit wanted ≠ 0 ↔
      mask &&& signalBit wanted ≠ 0 ∨ wanted ∈ choices := by
  induction choices generalizing mask with
  | nil => simp
  | cons choice later induction =>
    rw [List.foldl_cons, induction _ fun other member =>
        known other (List.mem_cons_of_mem _ member), and_or_ne_zero,
      signalBit_meet (known choice List.mem_cons_self) wantedKnown,
      List.mem_cons, or_assoc, eq_comm]

theorem count_three_le (choices : List UInt8) :
    choices.count 1 + choices.count 2 + choices.count 3 ≤ choices.length := by
  induction choices with
  | nil => exact Nat.le_refl _
  | cons choice later induction =>
    have one : (if choice == 1 then 1 else 0) + (if choice == 2 then 1 else 0) +
        (if choice == 3 then 1 else 0) ≤ 1 := by
      by_cases first : choice = 1
      · subst first
        decide
      · by_cases second : choice = 2
        · subst second
          decide
        · simp only [beq_iff_eq, first, second, if_false]
          split
          · decide
          · decide
    rw [List.count_cons, List.count_cons, List.count_cons, List.length_cons]
    omega

/-- Where all three signals were chosen, two choices missed the target. -/
theorem count_target_le {choices : List UInt8} {target : UInt8}
    (known : ∀ choice ∈ choices, choice = 1 ∨ choice = 2 ∨ choice = 3)
    (targetKnown : target = 1 ∨ target = 2 ∨ target = 3)
    (all : choices.foldl (fun mask choice => mask ||| signalBit choice) 0 =
      0x07) : choices.count target + 2 ≤ choices.length := by
  have chosen {wanted : UInt8} (wantedKnown : wanted = 1 ∨ wanted = 2 ∨
      wanted = 3) : 1 ≤ choices.count wanted := by
    apply List.count_pos_iff.mpr
    have bit := (foldl_mask 0 known wantedKnown).mp
    rw [all] at bit
    apply (bit _).resolve_left
    · simp
    · rcases wantedKnown with rfl | rfl | rfl
      all_goals decide
  have first := chosen (.inl rfl)
  have second := chosen (.inr (.inl rfl))
  have third := chosen (.inr (.inr rfl))
  have total := count_three_le choices
  rcases targetKnown with rfl | rfl | rfl
  all_goals omega

theorem choicesOf_known {index : Fin kHuntRounds}
    (valid : ∀ participant ∈ canonical, huntParticipantValid participant = true) :
    ∀ choice ∈ choicesOf index canonical,
      choice = 1 ∨ choice = 2 ∨ choice = 3 := by
  intro choice member
  rcases List.mem_map.mp member with ⟨participant, inside, rfl⟩
  rcases List.mem_filter.mp inside with ⟨among, submitted⟩
  exact choice_of_valid (valid participant among) submitted

theorem roundScore_le {target : UInt8} (index : Fin kHuntRounds)
    (targetKnown : target = 1 ∨ target = 2 ∨ target = 3)
    (enough : kMinimumParticipants ≤ canonical.length)
    (valid : ∀ participant ∈ canonical, huntParticipantValid participant = true) :
    roundScore canonical target index ≤ 5 * canonical.length - 2 := by
  have known := @choicesOf_known _ index valid
  have few : (choicesOf index canonical).length ≤ canonical.length := by
    rw [choicesOf, List.length_map]
    exact List.length_filter_le _ _
  have hits := @List.count_le_length _ _ target (choicesOf index canonical)
  have two : 2 ≤ canonical.length := enough
  rw [roundScore, foldl_tallyChoice]
  simp only [Nat.zero_add]
  rw [show kMinimumParticipants = 2 from rfl]
  by_cases spread : canonical.length ≥ 3 ∧
      (choicesOf index canonical).foldl
        (fun mask choice => mask ||| signalBit choice) 0 = 0x07
  · have missed := count_target_le known targetKnown spread.2
    rw [if_pos (by simpa using spread)]
    split
    · omega
    · omega
  · rw [if_neg (by simpa using spread)]
    split
    · omega
    · omega

theorem targetChoice_known (sessionNonce seed : UInt32) (round : Nat) :
    targetChoice sessionNonce seed round = 1 ∨
      targetChoice sessionNonce seed round = 2 ∨
      targetChoice sessionNonce seed round = 3 := by
  simp only [targetChoice]
  generalize avalanche _ = mixed
  have bound : (mixed % 3).toNat < 3 := by
    rw [UInt32.toNat_mod]
    exact Nat.mod_lt _ (by decide)
  have cases : mixed % 3 = 0 ∨ mixed % 3 = 1 ∨ mixed % 3 = 2 := by
    have values : (mixed % 3).toNat = 0 ∨ (mixed % 3).toNat = 1 ∨
        (mixed % 3).toNat = 2 := by
      omega
    rcases values with value | value | value
    · exact .inl (UInt32.toNat_inj.mp value)
    · exact .inr (.inl (UInt32.toNat_inj.mp value))
    · exact .inr (.inr (UInt32.toNat_inj.mp value))
  rcases cases with rest | rest | rest
  all_goals
    rw [rest]
    decide

end Score

section Resolved

variable {sessionNonce seed : UInt32} {participants : List HuntParticipant}
  {result : HuntResult}

theorem resolveSignalHunt_some
    (resolved : resolveSignalHunt sessionNonce seed participants = some result) :
    validTranscript participants = true ∧
      result = canonicalResult sessionNonce seed
        (KeyOrder.orderBy (·.uid.toNat) participants) := by
  rw [resolveSignalHunt] at resolved
  split at resolved
  · cases resolved
  · rename_i accepted
    constructor
    · by_contra refused
      exact accepted (by simp [refused])
    · exact (Option.some.inj resolved).symm

theorem huntScore_le
    (resolved : resolveSignalHunt sessionNonce seed participants = some result) :
    result.score ≤ result.maximumScore := by
  rcases resolveSignalHunt_some resolved with ⟨valid, rfl⟩
  rcases validTranscript_iff.mp valid with ⟨⟨enough, -⟩, each, -⟩
  have order := @KeyOrder.perm_orderBy _ (·.uid.toNat) participants
  have known : ∀ participant ∈ KeyOrder.orderBy (·.uid.toNat) participants,
      huntParticipantValid participant = true :=
    fun participant member => each participant (order.mem_iff.mp member)
  rw [← order.length_eq] at enough
  generalize KeyOrder.orderBy (·.uid.toNat) participants = canonical
    at enough known
  have bound (index : Fin kHuntRounds) := roundScore_le index
    (targetChoice_known sessionNonce seed (index + 1)) enough known
  have first := bound 0
  have second := bound 1
  have third := bound 2
  show ((List.finRange 3).map fun index : Fin 3 => roundScore canonical
    (targetChoice sessionNonce seed (index + 1)) index).sum ≤
      (5 * canonical.length - 2) * 3
  have rounds : List.finRange 3 = [0, 1, 2] := rfl
  rw [rounds, List.map_cons, List.map_cons, List.map_singleton, List.sum_cons,
    List.sum_cons, List.sum_singleton]
  omega

end Resolved

end Kitsu.Party
