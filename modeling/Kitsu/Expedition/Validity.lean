import Kitsu.Expedition.Core

/-!
# Valid expedition records

`Sound` restates the tests of `validateExpeditionState` other than the CRC.  An
accepted start leaves a sound record, and so does a poll: `Polled` says what a
poll of a journey under way does, with its two estimates of the elapsed time in
milliseconds.
-/

namespace Kitsu.Expedition

/-! ## Sound records -/

/-- The record is of the known format and nothing is reserved. -/
structure HeaderValid (state : ExpeditionState) : Prop where
  magic : state.magic = kStateMagic
  schema : state.schemaVersion = kExpeditionStateSchemaVersion
  bytes : state.bytes = kExpeditionStateBytes
  flags : state.flags &&& ~~~ kFlagDueUnixValid = 0
  reserved : state.reserved.allZero = true

/-- What holds of a journey, each condition by its name. -/
structure JourneyValid (state : ExpeditionState) : Prop where
  duration : validDuration (.ofByte state.duration) = true
  sequence : state.sequence ≠ 0
  identity : state.expeditionId ≠ 0
  planned : state.durationSeconds = durationSeconds (.ofByte state.duration)
  bounded : state.remainingSeconds ≤ state.durationSeconds
  boot : state.checkpointBootId ≠ 0
  subsecond : state.subsecondMillis < 1000
  result : resultValid state = true
  traveling : state.phase = Phase.traveling.byte → state.remainingSeconds ≠ 0
  ready : state.phase = Phase.ready.byte →
    state.remainingSeconds = 0 ∧ state.subsecondMillis = 0
  due : dueUnixValid state =
    decide (state.dueUnixSeconds ≥ kMinimumTrustedUnixSeconds)

/-- What validation asks of a state, apart from its checksum. -/
structure Sound (state : ExpeditionState) : Prop where
  header : HeaderValid state
  phase : validPhase state.phase = true
  idle : state.phase = Phase.idle.byte → idleValid state = true
  journey : state.phase ≠ Phase.idle.byte → JourneyValid state

variable {state : ExpeditionState}

theorem journeyValid_iff : journeyValid state = true ↔ JourneyValid state := by
  simp only [journeyValid, Bool.and_eq_true, bne_iff_ne, beq_iff_eq,
    decide_eq_true_eq, Bool.or_eq_true, ← imp_iff_not_or, ne_eq]
  constructor
  · rintro ⟨⟨⟨⟨⟨⟨⟨⟨⟨⟨duration, sequence⟩, identity⟩, planned⟩, bounded⟩, boot⟩,
      subsecond⟩, result⟩, traveling⟩, ready⟩, due⟩
    exact ⟨duration, sequence, identity, planned, bounded, boot, subsecond,
      result, traveling, ready, due⟩
  · rintro ⟨duration, sequence, identity, planned, bounded, boot, subsecond,
      result, traveling, ready, due⟩
    exact ⟨⟨⟨⟨⟨⟨⟨⟨⟨⟨duration, sequence⟩, identity⟩, planned⟩, bounded⟩, boot⟩,
      subsecond⟩, result⟩, traveling⟩, ready⟩, due⟩

theorem validateExpeditionState_iff :
    validateExpeditionState state = true ↔
      Sound state ∧ state.crc32 = stateCrc state := by
  simp only [validateExpeditionState, Bool.and_eq_true, beq_iff_eq]
  by_cases idle : state.phase = Phase.idle.byte
  · rw [if_pos idle]
    constructor
    · rintro ⟨⟨⟨⟨⟨⟨⟨magic, schema⟩, bytes⟩, phase⟩, crc⟩, flags⟩, reserved⟩, rest⟩
      exact ⟨⟨⟨magic, schema, bytes, flags, reserved⟩, phase, fun _ => rest,
        fun other => absurd idle other⟩, crc⟩
    · rintro ⟨⟨⟨magic, schema, bytes, flags, reserved⟩, phase, rest, -⟩, crc⟩
      exact ⟨⟨⟨⟨⟨⟨⟨magic, schema⟩, bytes⟩, phase⟩, crc⟩, flags⟩, reserved⟩,
        rest idle⟩
  · rw [if_neg idle, journeyValid_iff]
    constructor
    · rintro ⟨⟨⟨⟨⟨⟨⟨magic, schema⟩, bytes⟩, phase⟩, crc⟩, flags⟩, reserved⟩, rest⟩
      exact ⟨⟨⟨magic, schema, bytes, flags, reserved⟩, phase,
        fun same => absurd same idle, fun _ => rest⟩, crc⟩
    · rintro ⟨⟨⟨magic, schema, bytes, flags, reserved⟩, phase, -, rest⟩, crc⟩
      exact ⟨⟨⟨⟨⟨⟨⟨magic, schema⟩, bytes⟩, phase⟩, crc⟩, flags⟩, reserved⟩,
        rest idle⟩

theorem JourneyValid.refreshCrc {state : ExpeditionState}
    (journey : JourneyValid state) : JourneyValid (refreshCrc state) :=
  ⟨journey.duration, journey.sequence, journey.identity, journey.planned,
    journey.bounded, journey.boot, journey.subsecond, journey.result,
    journey.traveling, journey.ready, journey.due⟩

theorem Sound.refreshCrc {state : ExpeditionState} (sound : Sound state) :
    Sound (refreshCrc state) :=
  ⟨⟨sound.header.magic, sound.header.schema, sound.header.bytes,
    sound.header.flags, sound.header.reserved⟩, sound.phase, sound.idle,
    fun other => (sound.journey other).refreshCrc⟩

theorem validate_refreshCrc (sound : Sound state) :
    validateExpeditionState (refreshCrc state) = true :=
  validateExpeditionState_iff.mpr ⟨sound.refreshCrc, rfl⟩

/-- Refreshing the CRC of a valid record changes nothing. -/
theorem refreshCrc_valid (valid : validateExpeditionState state = true) :
    refreshCrc state = state := by
  have crc := (validateExpeditionState_iff.mp valid).2
  rw [refreshCrc, ← crc]

theorem sound_idle (sequence : UInt32) : Sound (canonicalIdle sequence) := by
  have flags : (canonicalIdle sequence).flags &&& ~~~ kFlagDueUnixValid = 0 := by
    show (0 : UInt8) &&& ~~~ kFlagDueUnixValid = 0
    decide
  refine ⟨⟨rfl, rfl, rfl, flags, rfl⟩, rfl, fun _ => rfl, ?_⟩
  intro other
  exact absurd rfl other

/-! ## Starting -/

theorem expeditionIdOf_ne_zero (seed : UInt32) : expeditionIdOf seed ≠ 0 := by
  rw [expeditionIdOf]
  split
  · decide
  · rename_i other
    simpa using other

theorem chosenReport_lt (personality : PersonalityKind) (seed : UInt32) :
    chosenReport personality seed < kReportCount := by
  have low : (mix32 (seed ^^^ 0x94D049BB) &&& 3).toUInt8 ≤ 3 := by
    rw [UInt8.le_iff_toNat_le]
    have bound := @Nat.and_le_right (mix32 (seed ^^^ 0x94D049BB)).toNat 3
    simp only [UInt32.toNat_toUInt8, UInt32.toNat_and]
    exact Nat.le_trans (Nat.mod_le _ _) bound
  rw [chosenReport]
  generalize (mix32 (seed ^^^ 0x94D049BB) &&& 3).toUInt8 = choice at low
  have few : choice.toNat ≤ 3 := UInt8.le_iff_toNat_le.mp low
  rw [UInt8.lt_iff_toNat_lt, UInt8.toNat_add]
  cases personality <;> simp [PersonalityKind.byte, kReportCount] <;> omega

theorem chosenEncounter_valid (duration : Duration) (context : StartContext)
    (seed : UInt32) :
    chosenEncounter duration context seed = kNoEncounter ∨
      chosenEncounter duration context seed < kCatalogCreatureCount := by
  have selected (bits : UInt32) (ordinal : Nat) :
      selectedSetBit bits ordinal = kNoEncounter ∨
        selectedSetBit bits ordinal < kCatalogCreatureCount := by
    rw [selectedSetBit]
    rcases found : ((List.range kCatalogCreatureCount.toNat).filter
        fun index => bits.toNat.testBit index)[ordinal]? with _ | index
    · exact Or.inl rfl
    · right
      have member := List.mem_of_getElem? found
      have inside : index < 21 :=
        List.mem_range.mp (List.mem_filter.mp member).1
      rw [Option.map_some, Option.getD_some, UInt8.lt_iff_toNat_lt,
        UInt8.toNat_ofNat_of_lt' (Nat.lt_trans inside (by decide))]
      exact inside
  simp only [chosenEncounter]
  split
  · exact selected _ _
  · exact Or.inl rfl

/-- The due time a journey starts with. -/
structure DueAtStart (now : ClockSample) (seconds : UInt32) (due : UInt64) :
    Prop where
  unset : now.unixValid = 0 → due = 0
  bound : now.unixValid ≠ 0 →
    due.toNat = now.unixSeconds.toNat + seconds.toNat ∧
      kMinimumTrustedUnixSeconds ≤ now.unixSeconds

variable {unixSeconds due : UInt64}

theorem safeDueUnix_some {seconds : UInt32}
    (safe : safeDueUnix unixSeconds seconds = some due) :
    due.toNat = unixSeconds.toNat + seconds.toNat := by
  rw [safeDueUnix] at safe
  split at safe
  · cases safe
  rename_i fits
  cases safe
  have small := seconds.toNat_lt
  have wide : seconds.toUInt64.toNat = seconds.toNat := UInt32.toNat_toUInt64 _
  simp only [gt_iff_lt, UInt64.not_lt, UInt64.le_iff_toNat_le,
    UInt64.toNat_sub, wide] at fits
  rw [UInt64.toNat_add, wide, Nat.mod_eq_of_lt]
  have literal : (0xFFFFFFFFFFFFFFFF : UInt64).toNat = 18446744073709551615 := by
    decide
  rw [literal] at fits
  omega

variable {duration : Duration}

theorem duration_ofByte : Duration.ofByte duration.byte = duration := by
  cases duration <;> decide

theorem deltas_valid (valid : validDuration duration = true) :
    1 ≤ (duration.byte + 1).toInt8 ∧ (duration.byte + 1).toInt8 ≤ 3 ∧
      1 ≤ duration.byte + 1 ∧ duration.byte + 1 ≤ 3 := by
  cases duration with
  | count => cases valid
  | _ => decide

theorem startedState_result (valid : validDuration duration = true)
    (context : StartContext) (now : ClockSample) (due : UInt64)
    (nextSequence entropy : UInt32) :
    resultValid (startedState duration context now due nextSequence
      entropy) = true := by
  rcases deltas_valid valid with ⟨fewest, most, weakest, strongest⟩
  have report := chosenReport_lt context.personality
    (startSeed duration context nextSequence entropy)
  have encounter := chosenEncounter_valid duration context
    (startSeed duration context nextSequence entropy)
  have mood : validMood (kResultMoods context.personality).byte = true := by
    cases context.personality <;> decide
  have axis : PersonalityAxis.none.byte <
      (kResultAxes context.personality).byte ∧
        (kResultAxes context.personality).byte <
          PersonalityAxis.count.byte := by
    cases context.personality <;> decide
  have drift : (1 : Int8) ≤ (if duration = .long then 2 else 1) ∧
      (if duration = .long then 2 else 1) ≤ (2 : Int8) := by
    cases duration <;> decide
  simp only [resultValid, Bool.and_eq_true, Bool.or_eq_true,
    decide_eq_true_eq, beq_iff_eq]
  exact ⟨⟨⟨⟨⟨⟨⟨⟨⟨⟨⟨report, fewest⟩, most⟩, mood⟩, weakest⟩, strongest⟩, axis.1⟩,
    axis.2⟩, drift.1⟩, drift.2⟩, encounter⟩, rfl⟩

variable {now : ClockSample}

theorem startedState_sound (valid : validDuration duration = true)
    (context : StartContext) (clock : validClock now = true)
    (dueAt : DueAtStart now (durationSeconds duration) due)
    {nextSequence : UInt32} (next : nextSequence ≠ 0) (entropy : UInt32) :
    Sound (startedState duration context now due nextSequence entropy) := by
  have seconds : durationSeconds duration ≠ 0 := by
    cases duration with
    | count => cases valid
    | _ => decide
  have boot : now.bootId ≠ 0 := by
    simp only [validClock, Bool.and_eq_true, bne_iff_ne] at clock
    exact clock.1
  have result := startedState_result valid context now due nextSequence entropy
  have identity := expeditionIdOf_ne_zero
    (startSeed duration context nextSequence entropy)
  have flags : (startedState duration context now due nextSequence
      entropy).flags &&& ~~~ kFlagDueUnixValid = 0 := by
    simp only [startedState]
    split <;> decide
  have known : dueUnixValid (startedState duration context now due
      nextSequence entropy) =
        decide (due ≥ kMinimumTrustedUnixSeconds) := by
    by_cases unset : now.unixValid = 0
    · rw [dueAt.unset unset, dueUnixValid]
      simp only [startedState, unset]
      decide
    · have trusted : due ≥ kMinimumTrustedUnixSeconds := by
        rcases dueAt.bound unset with ⟨sum, minimum⟩
        rw [ge_iff_le, UInt64.le_iff_toNat_le, sum]
        exact Nat.le_trans minimum (Nat.le_add_right _ _)
      rw [decide_eq_true trusted, dueUnixValid]
      simp only [startedState, bne_iff_ne.mpr unset]
      decide
  have whole : (startedState duration context now due nextSequence
      entropy).subsecondMillis < 1000 := by
    show (0 : UInt16) < 1000
    decide
  have unready : (startedState duration context now due nextSequence
      entropy).phase ≠ Phase.ready.byte := by
    show Phase.traveling.byte ≠ Phase.ready.byte
    decide
  refine ⟨⟨rfl, rfl, rfl, flags, rfl⟩, rfl, ?_, fun _ => ?_⟩
  · intro idle
    cases idle
  · exact ⟨duration_ofByte ▸ valid, next, identity,
      (congrArg durationSeconds duration_ofByte).symm, UInt32.le_refl _, boot,
      whole, result, fun _ => seconds, fun ready => absurd ready unready, known⟩

/-- What a start answers, and what it leaves. -/
inductive Started (core : ExpeditionState) (duration : Duration)
    (context : StartContext) (now : ClockSample) (entropy : UInt32) :
    StartStatus × ExpeditionState → Prop where
  | refused {status : StartStatus} (refusal : status ≠ .started) :
      Started core duration context now entropy (status, core)
  | started {due : UInt64} (idle : core.phase = Phase.idle.byte)
      (valid : validDuration duration = true) (clock : validClock now = true)
      (room : core.sequence + 1 ≠ 0)
      (dueAt : DueAtStart now (durationSeconds duration) due) :
      Started core duration context now entropy
        (.started, refreshCrc
          (startedState duration context now due (core.sequence + 1) entropy))

theorem validClock_trusted (clock : validClock now = true)
    (given : now.unixValid ≠ 0) :
    kMinimumTrustedUnixSeconds ≤ now.unixSeconds := by
  simp only [validClock, Bool.and_eq_true, Bool.not_eq_true',
    Bool.and_eq_false_iff, bne_eq_false_iff_eq, decide_eq_false_iff_not,
    UInt64.not_lt] at clock
  exact clock.2.resolve_left given

theorem start_cases (core : ExpeditionState) (duration : Duration)
    (context : StartContext) (now : ClockSample) (entropy : UInt32) :
    Started core duration context now entropy
      (start core duration context now entropy) := by
  rw [start]
  split
  · exact .refused nofun
  split
  · exact .refused nofun
  rename_i idle
  split
  · exact .refused nofun
  rename_i valid
  split
  · exact .refused nofun
  split
  · exact .refused nofun
  rename_i clock
  split
  · exact .refused nofun
  rename_i room
  split
  · exact .refused nofun
  rename_i due computed
  have trusted : validClock now = true := by simpa using clock
  refine .started (by simpa using idle) (by simpa using valid) trusted ?_ ?_
  · intro zero
    have wrapped := congrArg UInt32.toNat zero
    have bound := core.sequence.toNat_lt
    rw [UInt32.toNat_add, UInt32.toNat_one, UInt32.toNat_zero] at wrapped
    apply room
    rw [beq_iff_eq]
    apply UInt32.toNat.inj
    show core.sequence.toNat = 4294967295
    omega
  · by_cases unset : now.unixValid = 0
    · rw [if_neg (by simpa using unset)] at computed
      exact ⟨fun _ => (Option.some.inj computed).symm,
        fun given => absurd unset given⟩
    · rw [if_pos (by simpa using unset)] at computed
      exact ⟨fun zero => absurd zero unset, fun _ =>
        ⟨safeDueUnix_some computed, validClock_trusted trusted unset⟩⟩

theorem Started.valid {core : ExpeditionState} {duration : Duration}
    {context : StartContext} {now : ClockSample} {entropy : UInt32}
    {reply : StartStatus × ExpeditionState}
    (started : Started core duration context now entropy reply)
    (valid : validateExpeditionState core = true) :
    validateExpeditionState reply.2 = true := by
  cases started with
  | refused refusal => exact valid
  | started idle planned clock room dueAt =>
    exact validate_refreshCrc
      (startedState_sound planned context clock dueAt room entropy)

/-! ## Polling -/

/-- The milliseconds left of a journey under way. -/
def leftMillis (remainingSeconds : UInt32) (subsecondMillis : UInt16) : Nat :=
  remainingSeconds.toNat * 1000 - subsecondMillis.toNat

/-- The checkpoint at this sample. -/
def anchored (state : ExpeditionState) (now : ClockSample) : ExpeditionState :=
  { state with
    checkpointBootId := now.bootId
    checkpointMonotonicMillis := now.monotonicMillis }

/-- The time the monotonic clock measured since the checkpoint. -/
def measured (state : ExpeditionState) (now : ClockSample) : Option UInt32 :=
  if now.bootId = state.checkpointBootId then
    monotonicDelta state.checkpointMonotonicMillis now.monotonicMillis
      (state.durationSeconds * 1000 + 60000)
  else none

/-- What the monotonic clock makes of the remaining time. -/
structure Estimated (core : ExpeditionState) (now : ClockSample)
    (remaining : UInt32) (subsecond : UInt16) : Prop where
  whole : subsecond < 1000
  lower : remaining ≤ core.remainingSeconds
  /-- A measured time is taken off exactly. -/
  taken : ∀ elapsed, measured core now = some elapsed →
    if remaining = 0 then
      leftMillis core.remainingSeconds core.subsecondMillis ≤ elapsed.toNat
    else
      leftMillis remaining subsecond + elapsed.toNat =
        leftMillis core.remainingSeconds core.subsecondMillis
  /-- Without a measured time the second that was begun is lost. -/
  paused : measured core now = none →
    remaining = core.remainingSeconds ∧ subsecond = 0

/-- The difference the source computes after a wrap is the modular one. -/
theorem wrapped_difference (current previous : UInt32) :
    current + (0xFFFFFFFF - previous) + 1 = current - previous := by
  have small := previous.toNat_lt
  have below := current.toNat_lt
  apply UInt32.toNat.inj
  simp only [UInt32.toNat_add, UInt32.toNat_sub]
  have top : (0xFFFFFFFF : UInt32).toNat = 4294967295 := by decide
  have one : (1 : UInt32).toNat = 1 := by decide
  rw [top, one]
  omega

theorem monotonicDelta_some {previous current maximum elapsed : UInt32}
    (measured : monotonicDelta previous current maximum = some elapsed) :
    elapsed = current - previous := by
  rw [monotonicDelta] at measured
  split at measured
  · split at measured
    · cases measured
    · exact (Option.some.inj measured).symm
  · split at measured
    · split at measured
      · cases measured
      · rw [← Option.some.inj measured, wrapped_difference]
    · cases measured

variable {core : ExpeditionState}

theorem elapse_estimated (journey : JourneyValid core)
    (under : core.remainingSeconds ≠ 0) (now : ClockSample) {elapsed : UInt32}
    (measures : measured core now = some elapsed) :
    Estimated core now (elapse core now elapsed).candidateRemaining
      (elapse core now elapsed).candidateSubsecond := by
  have subsecond : core.subsecondMillis.toNat < 1000 :=
    UInt16.lt_iff_toNat_lt.mp journey.subsecond
  have span := elapsed.toNat_lt
  have left : core.remainingSeconds.toNat ≠ 0 := by
    intro zero
    exact under (UInt32.toNat.inj zero)
  generalize total : elapsed.toNat + core.subsecondMillis.toNat = millis
  have seconds : (UInt32.ofNat (millis / 1000)).toNat = millis / 1000 :=
    UInt32.toNat_ofNat_of_lt' (by show _ < 4294967296; omega)
  have rest : (UInt16.ofNat (millis % 1000)).toNat = millis % 1000 :=
    UInt16.toNat_ofNat_of_lt' (by show _ < 65536; omega)
  simp only [elapse, total]
  have whole : UInt16.ofNat (millis % 1000) < 1000 := by
    rw [UInt16.lt_iff_toNat_lt, rest]
    exact Nat.mod_lt _ (by decide)
  split
  · rename_i finished
    rw [ge_iff_le, UInt32.le_iff_toNat_le, seconds] at finished
    refine ⟨whole, UInt32.zero_le, ?_, ?_⟩
    · intro other same
      rw [measures] at same
      cases same
      rw [if_pos rfl, leftMillis]
      omega
    · intro missing
      rw [measures] at missing
      cases missing
  · rename_i unfinished
    rw [ge_iff_le, UInt32.le_iff_toNat_le, seconds, Nat.not_le] at unfinished
    have difference : (core.remainingSeconds -
        UInt32.ofNat (millis / 1000)).toNat =
          core.remainingSeconds.toNat - millis / 1000 := by
      rw [UInt32.toNat_sub_of_le, seconds]
      rw [UInt32.le_iff_toNat_le, seconds]
      exact Nat.le_of_lt unfinished
    refine ⟨whole, ?_, ?_, ?_⟩
    · rw [UInt32.le_iff_toNat_le, difference]
      exact Nat.sub_le _ _
    · intro other same
      rw [measures] at same
      cases same
      rw [if_neg, leftMillis, leftMillis, difference, rest]
      · omega
      · intro zero
        rw [zero, UInt32.toNat_zero] at difference
        omega
    · intro missing
      rw [measures] at missing
      cases missing

variable {remaining : UInt32} {subsecond : UInt16}

theorem leftMillis_whole :
    leftMillis remaining subsecond ≤ leftMillis remaining 0 := by
  rw [leftMillis, leftMillis]
  exact Nat.sub_le_sub_left (Nat.zero_le _) _

/-- The first half of a poll: the checkpoint moves to the sample. -/
theorem monotonicEstimate_cases (journey : JourneyValid core)
    (under : core.remainingSeconds ≠ 0) (now : ClockSample) :
    ∃ remaining subsecond changed,
      monotonicEstimate core now =
        ⟨anchored core now, remaining, subsecond, changed⟩ ∧
      Estimated core now remaining subsecond ∧
      (changed = false → anchored core now = core ∧
        remaining = core.remainingSeconds ∧ subsecond = core.subsecondMillis) := by
  rw [monotonicEstimate]
  split
  · rename_i boot
    rw [beq_iff_eq] at boot
    have same : { core with
        checkpointMonotonicMillis := now.monotonicMillis } =
          anchored core now := by
      rw [anchored, boot]
    split
    · rename_i elapsed delta
      have measures : measured core now = some elapsed := by
        rw [measured, if_pos boot, delta]
      split
      · refine ⟨_, _, true, ?_, elapse_estimated journey under now measures, nofun⟩
        rw [← same]
        rfl
      · rename_i still
        have zero : elapsed = 0 := by simpa using still
        have equal : now.monotonicMillis =
            core.checkpointMonotonicMillis := by
          have difference := monotonicDelta_some delta
          rw [zero] at difference
          calc now.monotonicMillis
              = now.monotonicMillis - core.checkpointMonotonicMillis +
                  core.checkpointMonotonicMillis :=
                (UInt32.sub_add_cancel _ _).symm
            _ = core.checkpointMonotonicMillis := by
                rw [← difference, UInt32.zero_add]
        have stays : anchored core now = core := by
          rw [← same, equal]
        refine ⟨core.remainingSeconds, core.subsecondMillis, false, ?_, ?_,
          fun _ => ⟨stays, rfl, rfl⟩⟩
        · rw [stays]
        · refine ⟨journey.subsecond, UInt32.le_refl _, ?_, ?_⟩
          · intro other found
            rw [measures] at found
            cases found
            rw [zero, if_neg under]
            rfl
          · intro missing
            rw [measures] at missing
            cases missing
    · rename_i untrusted
      have unmeasured : measured core now = none := by
        rw [measured, if_pos boot, untrusted]
      refine ⟨core.remainingSeconds, 0, true, ?_, ?_, nofun⟩
      · rw [← same]
      · refine ⟨by decide, UInt32.le_refl _, ?_, fun _ => ⟨rfl, rfl⟩⟩
        intro other found
        rw [unmeasured] at found
        cases found
  · rename_i boot
    have unmeasured : measured core now = none := by
      rw [measured, if_neg (by simpa using boot)]
    refine ⟨core.remainingSeconds, 0, true, rfl, ?_, nofun⟩
    refine ⟨by decide, UInt32.le_refl _, ?_, fun _ => ⟨rfl, rfl⟩⟩
    intro other found
    rw [unmeasured] at found
    cases found

/-- What the wall clock makes of the estimate. -/
inductive Wall (core : ExpeditionState) (now : ClockSample)
    (remaining : UInt32) (subsecond : UInt16) :
    UInt32 → UInt16 → UInt64 → UInt8 → Prop where
  | ignored :
      Wall core now remaining subsecond remaining subsecond
        core.dueUnixSeconds core.flags
  | ahead (known : dueUnixValid core = true) (given : now.unixValid ≠ 0)
      (less : wallRemaining core.dueUnixSeconds now.unixSeconds < remaining) :
      Wall core now remaining subsecond
        (wallRemaining core.dueUnixSeconds now.unixSeconds) 0
        core.dueUnixSeconds core.flags
  | bound {due : UInt64} (unknown : dueUnixValid core = false)
      (given : now.unixValid ≠ 0)
      (sum : due.toNat = now.unixSeconds.toNat + remaining.toNat) :
      Wall core now remaining subsecond remaining subsecond due
        (core.flags ||| kFlagDueUnixValid)

/-- The record a poll leaves, before its CRC is refreshed. -/
def polledState (core : ExpeditionState) (now : ClockSample)
    (remaining : UInt32) (subsecond : UInt16) (due : UInt64) (flags : UInt8) :
    ExpeditionState :=
  { core with
    phase := if remaining = 0 then Phase.ready.byte else core.phase
    remainingSeconds := remaining
    dueUnixSeconds := due
    checkpointBootId := now.bootId
    checkpointMonotonicMillis := now.monotonicMillis
    subsecondMillis := if remaining = 0 then 0 else subsecond
    flags := flags }

variable {flags : UInt8}

/-- The second half of a poll: the better estimate is written back. -/
theorem settle_polled (valid : validateExpeditionState core = true)
    {changed : Bool} (unchanged : changed = false → anchored core now = core ∧
      due = core.dueUnixSeconds ∧ flags = core.flags) :
    ∃ status,
      settle ⟨{ anchored core now with dueUnixSeconds := due, flags := flags },
          remaining, subsecond, changed⟩ =
        (status, refreshCrc (polledState core now remaining subsecond due flags)) ∧
      (status = .becameReady ↔ remaining = 0) := by
  simp only [settle]
  split
  · rename_i none
    have zero : remaining = 0 := by simpa using none
    refine ⟨.becameReady, ?_, ?_⟩
    · simp only [polledState, anchored, zero, if_true]
    · simp [zero]
  rename_i some
  have left : remaining ≠ 0 := by simpa using some
  split
  · rename_i same
    simp only [Bool.not_eq_true', Bool.or_eq_false_iff,
      bne_eq_false_iff_eq] at same
    rcases same with ⟨⟨quiet, remainingSame⟩, subsecondSame⟩
    rcases unchanged quiet with ⟨stays, dueSame, flagsSame⟩
    have boot : now.bootId = core.checkpointBootId :=
      congrArg ExpeditionState.checkpointBootId stays
    have monotonic :
        now.monotonicMillis = core.checkpointMonotonicMillis :=
      congrArg ExpeditionState.checkpointMonotonicMillis stays
    have seconds : remaining = core.remainingSeconds := remainingSame
    have millis : subsecond = core.subsecondMillis := subsecondSame
    have polled : polledState core now remaining subsecond due flags =
        core := by
      rw [polledState, if_neg left, if_neg left, boot, monotonic, seconds,
        millis, dueSame, flagsSame]
    refine ⟨.noChange, ?_, ?_⟩
    · rw [polled, refreshCrc_valid valid]
      simp only [anchored, boot, monotonic, seconds, millis, dueSame, flagsSame]
    · simp [left]
  · refine ⟨.progressed, ?_, ?_⟩
    · simp only [polledState, anchored, left, if_false]
    · simp [left]

theorem duration_bound (journey : JourneyValid state) :
    state.durationSeconds.toNat ≤ 28800 := by
  rw [journey.planned]
  cases Duration.ofByte state.duration <;> decide

/-- A poll of a journey under way. -/
structure Polled (core : ExpeditionState) (now : ClockSample)
    (status : PollStatus) (after : ExpeditionState) where
  estimateRemaining : UInt32
  estimateSubsecond : UInt16
  remaining : UInt32
  subsecond : UInt16
  due : UInt64
  flags : UInt8
  estimated : Estimated core now estimateRemaining estimateSubsecond
  wall : Wall core now estimateRemaining estimateSubsecond remaining subsecond
    due flags
  left : after = refreshCrc (polledState core now remaining subsecond due flags)
  ready : status = .becameReady ↔ remaining = 0

/-- The due time of a poll is in range. -/
def InRange (now : ClockSample) : Prop :=
  now.unixValid ≠ 0 → now.unixSeconds.toNat + 28800 < 2 ^ 64

theorem safeDueUnix_inRange {seconds : UInt32}
    (fits : unixSeconds.toNat + seconds.toNat < 2 ^ 64) :
    ∃ due, safeDueUnix unixSeconds seconds = some due := by
  rw [safeDueUnix, if_neg]
  · exact ⟨_, rfl⟩
  · have small := seconds.toNat_lt
    have wide : seconds.toUInt64.toNat = seconds.toNat :=
      UInt32.toNat_toUInt64 _
    have literal : (0xFFFFFFFFFFFFFFFF : UInt64).toNat =
        18446744073709551615 := by decide
    simp only [gt_iff_lt, UInt64.not_lt, UInt64.le_iff_toNat_le,
      UInt64.toNat_sub, wide, literal]
    omega

theorem wallEstimate_cases (range : InRange now)
    (bounded : remaining.toNat ≤ 28800) (subsecond : UInt16) (changed : Bool) :
    ∃ after afterSubsecond due flags afterChanged,
      wallEstimate ⟨anchored core now, remaining, subsecond, changed⟩ now =
        some ⟨{ anchored core now with dueUnixSeconds := due, flags := flags },
          after, afterSubsecond, afterChanged⟩ ∧
      Wall core now remaining subsecond after afterSubsecond due flags ∧
      (afterChanged = false → changed = false ∧ due = core.dueUnixSeconds ∧
        flags = core.flags) := by
  have flag : dueUnixValid (anchored core now) = dueUnixValid core := rfl
  by_cases unset : now.unixValid = 0
  · have quiet : wallEstimate ⟨anchored core now, remaining, subsecond, changed⟩
        now = some ⟨anchored core now, remaining, subsecond, changed⟩ := by
      rw [wallEstimate, if_neg (by simp [unset]), if_neg (by simp [unset])]
    exact ⟨remaining, subsecond, core.dueUnixSeconds, core.flags, changed,
      quiet, .ignored, fun still => ⟨still, rfl, rfl⟩⟩
  have given : (now.unixValid != 0) = true := bne_iff_ne.mpr unset
  rcases known : dueUnixValid core with _ | _
  · have limit : now.unixSeconds.toNat + 28800 < 2 ^ 64 := range unset
    have fits : now.unixSeconds.toNat + remaining.toNat < 2 ^ 64 := by omega
    rcases safeDueUnix_inRange fits with ⟨due, safe⟩
    have bound : wallEstimate
        ⟨anchored core now, remaining, subsecond, changed⟩ now =
          some ⟨{ anchored core now with
            dueUnixSeconds := due
            flags := (anchored core now).flags ||| kFlagDueUnixValid },
            remaining, subsecond, true⟩ := by
      rw [wallEstimate, if_neg (by simp [flag, known]),
        if_pos (by simp [flag, known, given])]
      generalize safeDueUnix now.unixSeconds remaining = result at safe ⊢
      subst safe
      rfl
    exact ⟨remaining, subsecond, due, core.flags ||| kFlagDueUnixValid, true,
      bound, .bound known unset (safeDueUnix_some safe), nofun⟩
  · have due : (anchored core now).dueUnixSeconds = core.dueUnixSeconds := rfl
    by_cases less : wallRemaining core.dueUnixSeconds now.unixSeconds <
        remaining
    · have ahead : wallEstimate
          ⟨anchored core now, remaining, subsecond, changed⟩ now =
            some ⟨anchored core now,
              wallRemaining core.dueUnixSeconds now.unixSeconds, 0, true⟩ := by
        rw [wallEstimate, if_pos (by simp [flag, known, given])]
        simp only [due]
        rw [if_pos less]
      exact ⟨_, 0, core.dueUnixSeconds, core.flags, true, ahead,
        .ahead known unset less, nofun⟩
    · have behind : wallEstimate
          ⟨anchored core now, remaining, subsecond, changed⟩ now =
            some ⟨anchored core now, remaining, subsecond, changed⟩ := by
        rw [wallEstimate, if_pos (by simp [flag, known, given])]
        simp only [due]
        rw [if_neg less]
      exact ⟨remaining, subsecond, core.dueUnixSeconds, core.flags, changed,
        behind, .ignored, fun still => ⟨still, rfl, rfl⟩⟩

theorem poll_polled (valid : validateExpeditionState core = true)
    (clock : validClock now = true)
    (traveling : core.phase = Phase.traveling.byte) (range : InRange now) :
    Nonempty (Polled core now (poll core now).1 (poll core now).2) := by
  have sound := (validateExpeditionState_iff.mp valid).1
  have journey : JourneyValid core := by
    apply sound.journey
    rw [traveling]
    decide
  have under := journey.traveling traveling
  rcases monotonicEstimate_cases journey under now with
    ⟨remaining, subsecond, changed, estimate, estimated, unchanged⟩
  have bounded : remaining.toNat ≤ 28800 :=
    Nat.le_trans (UInt32.le_iff_toNat_le.mp estimated.lower)
      (Nat.le_trans (UInt32.le_iff_toNat_le.mp journey.bounded)
        (duration_bound journey))
  rcases @wallEstimate_cases now core remaining range bounded subsecond
    changed with ⟨after, afterSubsecond, due, flags, afterChanged, walled, wall,
      quiet⟩
  have still : afterChanged = false → anchored core now = core ∧
      due = core.dueUnixSeconds ∧ flags = core.flags :=
    fun same => ⟨(unchanged (quiet same).1).1, (quiet same).2⟩
  rcases @settle_polled due now core after afterSubsecond flags valid
    afterChanged still with ⟨status, settled, ready⟩
  have polled : poll core now = (status, refreshCrc
      (polledState core now after afterSubsecond due flags)) := by
    rw [poll, if_neg (by simp [valid]), if_neg (by simp [clock]),
      if_neg (by simp [traveling])]
    simp only [estimate]
    rw [walled]
    exact settled
  rw [polled]
  exact ⟨remaining, subsecond, after, afterSubsecond, due, flags, estimated,
    wall, rfl, ready⟩

theorem set_flag (header : flags &&& ~~~ kFlagDueUnixValid = 0) :
    (flags ||| kFlagDueUnixValid) &&& ~~~ kFlagDueUnixValid = 0 ∧
      (flags ||| kFlagDueUnixValid) &&& kFlagDueUnixValid != 0 := by
  have distrib (mask : UInt8) : (flags ||| kFlagDueUnixValid) &&& mask =
      (flags &&& mask) ||| (kFlagDueUnixValid &&& mask) :=
    UInt8.toBitVec_inj.mp BitVec.and_or_distrib_right
  constructor
  · rw [distrib, header]
    decide
  · rw [distrib, bne_iff_ne]
    intro zero
    exact absurd (UInt8.or_eq_zero_iff.mp zero).2 (by decide)

variable {estimateRemaining : UInt32} {estimateSubsecond : UInt16}

/-- The flag and the due time a poll leaves agree. -/
theorem Wall.due_valid
    (wall : Wall core now estimateRemaining estimateSubsecond remaining
      subsecond due flags) (header : core.flags &&& ~~~ kFlagDueUnixValid = 0)
    (known : dueUnixValid core =
      decide (core.dueUnixSeconds ≥ kMinimumTrustedUnixSeconds))
    (clock : validClock now = true) :
    flags &&& ~~~ kFlagDueUnixValid = 0 ∧
      (flags &&& kFlagDueUnixValid != 0) =
        decide (due ≥ kMinimumTrustedUnixSeconds) := by
  cases wall with
  | ignored => exact ⟨header, known⟩
  | ahead _ _ _ => exact ⟨header, known⟩
  | bound unknown given sum =>
    have trusted : due ≥ kMinimumTrustedUnixSeconds := by
      rw [ge_iff_le, UInt64.le_iff_toNat_le, sum]
      exact Nat.le_trans (validClock_trusted clock given)
        (Nat.le_add_right _ _)
    refine ⟨(set_flag header).1, ?_⟩
    rw [(set_flag header).2, decide_eq_true trusted]

theorem Wall.whole
    (wall : Wall core now estimateRemaining estimateSubsecond remaining
      subsecond due flags) (below : estimateSubsecond < 1000) :
    subsecond < 1000 ∧ remaining ≤ estimateRemaining := by
  cases wall with
  | ignored => exact ⟨below, UInt32.le_refl _⟩
  | ahead _ _ less => exact ⟨by decide, UInt32.le_of_lt less⟩
  | bound _ _ _ => exact ⟨below, UInt32.le_refl _⟩

variable {after : ExpeditionState} {status : PollStatus}

theorem Polled.remaining_le (polled : Polled core now status after) :
    polled.remaining ≤ core.remainingSeconds :=
  UInt32.le_trans (polled.wall.whole polled.estimated.whole).2
    polled.estimated.lower

/-- A poll leaves a valid record. -/
theorem Polled.valid (polled : Polled core now status after)
    (sound : Sound core) (clock : validClock now = true)
    (traveling : core.phase = Phase.traveling.byte) :
    validateExpeditionState after = true := by
  have journey : JourneyValid core := by
    apply sound.journey
    rw [traveling]
    decide
  have below := (polled.wall.whole polled.estimated.whole).1
  have fewer := polled.remaining_le
  have due := polled.wall.due_valid sound.header.flags journey.due clock
  have boot : now.bootId ≠ 0 := by
    simp only [validClock, Bool.and_eq_true, bne_iff_ne] at clock
    exact clock.1
  rw [polled.left]
  apply validate_refreshCrc
  generalize polled.remaining = remaining at *
  generalize polled.subsecond = subsecond at *
  generalize polled.due = dueSeconds at *
  generalize polled.flags = flags at *
  have bounded := UInt32.le_trans fewer journey.bounded
  have header : HeaderValid (polledState core now remaining subsecond
      dueSeconds flags) :=
    ⟨sound.header.magic, sound.header.schema, sound.header.bytes, due.1,
      sound.header.reserved⟩
  by_cases finished : remaining = 0
  · have ready : (polledState core now remaining subsecond dueSeconds
        flags).phase = Phase.ready.byte := if_pos finished
    have cleared : (polledState core now remaining subsecond dueSeconds
        flags).subsecondMillis = 0 := if_pos finished
    refine ⟨header, by rw [ready]; decide, ?_, fun _ => ?_⟩
    · intro idle
      rw [ready] at idle
      exact absurd idle (by decide)
    · exact ⟨journey.duration, journey.sequence, journey.identity,
        journey.planned, bounded, boot, by rw [cleared]; decide,
        journey.result,
        fun traveling => absurd (ready.symm.trans traveling) (by decide),
        fun _ => ⟨finished, cleared⟩, due.2⟩
  · have same : (polledState core now remaining subsecond dueSeconds
        flags).phase = Phase.traveling.byte :=
      (if_neg finished).trans traveling
    have kept : (polledState core now remaining subsecond dueSeconds
        flags).subsecondMillis = subsecond := if_neg finished
    refine ⟨header, by rw [same]; decide, ?_, fun _ => ?_⟩
    · intro idle
      rw [same] at idle
      exact absurd idle (by decide)
    · exact ⟨journey.duration, journey.sequence, journey.identity,
        journey.planned, bounded, boot, by rw [kept]; exact below,
        journey.result, fun _ => finished,
        fun ready => absurd (same.symm.trans ready) (by decide), due.2⟩

end Kitsu.Expedition
