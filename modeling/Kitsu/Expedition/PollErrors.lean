import Kitsu.Expedition.Validity

/-!
# Clock samples of one timeline

Samples are taken from one timeline of true milliseconds: a boot starts at a time
of its own, its monotonic clock counts from there and wraps, and the wall clock,
when it is set, gives the second.  `Late` says that the record is never ahead of
the timeline, by more than the second the wall clock rounds off; `Exact` that it
is not behind it either.  Both are followed through one poll.
-/

namespace Kitsu.Expedition

/-- The sample was taken at this time, by boots that began when `bootedAt` says. -/
structure Reads (bootedAt : UInt32 → Nat) (time : Nat) (sample : ClockSample) :
    Prop where
  boot : sample.bootId ≠ 0
  after : bootedAt sample.bootId ≤ time
  monotonic : sample.monotonicMillis.toNat =
    (time - bootedAt sample.bootId) % 2 ^ 32
  wall : sample.unixValid ≠ 0 → sample.unixSeconds.toNat = time / 1000

/-- The checkpoint of the record was taken at this time. -/
structure Checkpoint (bootedAt : UInt32 → Nat) (core : ExpeditionState)
    (time : Nat) : Prop where
  after : bootedAt core.checkpointBootId ≤ time
  monotonic : core.checkpointMonotonicMillis.toNat =
    (time - bootedAt core.checkpointBootId) % 2 ^ 32

variable {bootedAt : UInt32 → Nat} {core : ExpeditionState}
  {now : ClockSample} {before time : Nat}

variable {elapsed : UInt32}

theorem measured_some (measures : measured core now = some elapsed) :
    now.bootId = core.checkpointBootId ∧
      elapsed = now.monotonicMillis - core.checkpointMonotonicMillis := by
  rw [measured] at measures
  split at measures
  · rename_i boot
    exact ⟨boot, monotonicDelta_some measures⟩
  · cases measures

/-- The monotonic clock never measures more than what passed. -/
theorem Checkpoint.measured_le (checkpoint : Checkpoint bootedAt core before)
    (reads : Reads bootedAt time now) (forward : before ≤ time)
    (measures : measured core now = some elapsed) :
    elapsed.toNat ≤ time - before := by
  rcases measured_some measures with ⟨boot, rfl⟩
  have first := checkpoint.monotonic
  have second := reads.monotonic
  rw [boot] at second
  rw [UInt32.toNat_sub, first, second]
  omega

/-- A gap the code trusts is measured exactly. -/
theorem Checkpoint.measured_eq (checkpoint : Checkpoint bootedAt core before)
    (reads : Reads bootedAt time now) (forward : before ≤ time)
    (boot : now.bootId = core.checkpointBootId)
    (planned : core.durationSeconds.toNat ≤ 28800)
    (trusted : time - before ≤ core.durationSeconds.toNat * 1000 + 60000) :
    ∃ elapsed, measured core now = some elapsed ∧
      elapsed.toNat = time - before := by
  have first := checkpoint.monotonic
  have second := reads.monotonic
  have booted := checkpoint.after
  rw [boot] at second
  have difference : (now.monotonicMillis -
      core.checkpointMonotonicMillis).toNat = time - before := by
    rw [UInt32.toNat_sub, first, second]
    omega
  have maximum : (core.durationSeconds * 1000 + 60000).toNat =
      core.durationSeconds.toNat * 1000 + 60000 := by
    rw [UInt32.toNat_add, UInt32.toNat_mul]
    show (core.durationSeconds.toNat * 1000 % 4294967296 + 60000) %
      4294967296 = _
    omega
  have small : ¬ now.monotonicMillis - core.checkpointMonotonicMillis >
      core.durationSeconds * 1000 + 60000 := by
    rw [gt_iff_lt, UInt32.lt_iff_toNat_lt, difference, maximum]
    omega
  refine ⟨_, ?_, difference⟩
  rw [measured, if_pos boot, monotonicDelta]
  by_cases higher : now.monotonicMillis ≥ core.checkpointMonotonicMillis
  · rw [if_pos higher, if_neg small]
  · rw [if_neg higher]
    rw [ge_iff_le, UInt32.le_iff_toNat_le, Nat.not_le, first, second] at higher
    have cross : (core.checkpointMonotonicMillis ≥ 0xF0000000 &&
        now.monotonicMillis ≤ 0x0FFFFFFF) = true := by
      simp only [Bool.and_eq_true, decide_eq_true_eq, ge_iff_le,
        UInt32.le_iff_toNat_le, first, second]
      show 4026531840 ≤ _ ∧ _ ≤ 268435455
      omega
    rw [if_pos cross, wrapped_difference, if_neg small]

/-! ## Never ahead of the timeline -/

/-- What the wall clock may round off. -/
def slack (state : ExpeditionState) : Nat :=
  if dueUnixValid state then 999 else 0

/-- The journey does not end before the target, as far as the record knows. -/
structure Late (target : Nat) (core : ExpeditionState) (time : Nat) : Prop where
  due : dueUnixValid core = true →
    target ≤ core.dueUnixSeconds.toNat * 1000 + 999
  left : target ≤
    time + leftMillis core.remainingSeconds core.subsecondMillis + slack core

theorem Estimated.late {target : Nat} {remaining : UInt32}
    {subsecond : UInt16} (estimated : Estimated core now remaining subsecond)
    (late : Late target core before) (forward : before ≤ time)
    (passed : ∀ elapsed, measured core now = some elapsed →
      elapsed.toNat ≤ time - before) :
    target ≤ time + leftMillis remaining subsecond + slack core := by
  have left := late.left
  rcases measures : measured core now with _ | elapsed
  · rcases estimated.paused measures with ⟨rfl, rfl⟩
    have whole := @leftMillis_whole core.remainingSeconds core.subsecondMillis
    omega
  · have taken := estimated.taken elapsed measures
    have short := passed elapsed measures
    split at taken
    · omega
    · omega

variable {remaining : UInt32} {subsecond : UInt16}

theorem leftMillis_pos (some : remaining ≠ 0) (whole : subsecond < 1000) :
    0 < leftMillis remaining subsecond := by
  have below : subsecond.toNat < 1000 := UInt16.lt_iff_toNat_lt.mp whole
  have positive : remaining.toNat ≠ 0 :=
    fun zero => some (UInt32.toNat.inj zero)
  rw [leftMillis]
  omega

variable {due unixSeconds : UInt64}

/-- The wall clock gives the whole seconds up to the due time. -/
theorem wallRemaining_late (less : wallRemaining due unixSeconds < remaining) :
    due.toNat ≤ unixSeconds.toNat + (wallRemaining due unixSeconds).toNat := by
  rw [wallRemaining] at less ⊢
  split
  · rename_i ahead
    rw [if_pos ahead] at less
    split
    · rename_i far
      rw [if_pos far] at less
      have bound := remaining.toNat_lt
      rw [UInt32.lt_iff_toNat_lt] at less
      have top : (0xFFFFFFFF : UInt32).toNat = 4294967295 := by decide
      omega
    · rename_i near
      have top : (0xFFFFFFFF : UInt64).toNat = 4294967295 := by decide
      have order : unixSeconds ≤ due := UInt64.le_of_lt ahead
      rw [gt_iff_lt, UInt64.lt_iff_toNat_lt, top,
        UInt64.toNat_sub_of_le _ _ order] at near
      rw [UInt64.toNat_toUInt32, UInt64.toNat_sub_of_le _ _ order]
      omega
  · rename_i reached
    rw [UInt64.not_lt, UInt64.le_iff_toNat_le] at reached
    exact Nat.le_trans reached (Nat.le_add_right _ _)

variable {estimateRemaining : UInt32} {estimateSubsecond : UInt16}

/-- What the wall clock adds keeps the estimate from running ahead. -/
theorem Wall.late {target : Nat} {flags : UInt8}
    (wall : Wall core now estimateRemaining estimateSubsecond remaining
      subsecond due flags) (header : core.flags &&& ~~~ kFlagDueUnixValid = 0)
    (known : dueUnixValid core = true →
      target ≤ core.dueUnixSeconds.toNat * 1000 + 999)
    (reads : Reads bootedAt time now) (estimate : target ≤
      time + leftMillis estimateRemaining estimateSubsecond + slack core) :
    ((flags &&& kFlagDueUnixValid != 0) = true → target ≤ due.toNat * 1000 + 999) ∧
      target ≤ time + leftMillis remaining subsecond +
        if flags &&& kFlagDueUnixValid != 0 then 999 else 0 := by
  cases wall with
  | ignored => exact ⟨known, estimate⟩
  | ahead valid given less =>
    have wallTime := reads.wall given
    have reach := wallRemaining_late less
    have bound := known valid
    refine ⟨known, ?_⟩
    rw [show (core.flags &&& kFlagDueUnixValid != 0) = true from valid,
      if_pos rfl, leftMillis]
    simp only [UInt16.toNat_zero]
    omega
  | bound unknown given sum =>
    have wallTime := reads.wall given
    have flag := (set_flag header).2
    have unset : slack core = 0 := by simp [slack, unknown]
    rw [unset, leftMillis] at estimate
    refine ⟨fun _ => ?_, ?_⟩
    · omega
    · rw [flag, if_pos rfl, leftMillis]
      omega

variable {status : PollStatus} {after : ExpeditionState}

theorem Polled.remaining_after (polled : Polled core now status after) :
    after.remainingSeconds = polled.remaining :=
  congrArg ExpeditionState.remainingSeconds polled.left

theorem Polled.subsecond_after (polled : Polled core now status after)
    (unfinished : polled.remaining ≠ 0) :
    after.subsecondMillis = polled.subsecond :=
  (congrArg ExpeditionState.subsecondMillis polled.left).trans
    (if_neg unfinished)

/-- A poll keeps the record from running ahead. -/
theorem Polled.late {target : Nat} {status : PollStatus}
    {after : ExpeditionState} (polled : Polled core now status after)
    (header : core.flags &&& ~~~ kFlagDueUnixValid = 0)
    (late : Late target core before) (reads : Reads bootedAt time now)
    (forward : before ≤ time)
    (passed : ∀ elapsed, measured core now = some elapsed →
      elapsed.toNat ≤ time - before) :
    (polled.remaining = 0 → target ≤ time + 999) ∧
      (polled.remaining ≠ 0 → Late target after time) := by
  have estimate := polled.estimated.late late forward passed
  have walled := polled.wall.late header late.due reads estimate
  constructor
  · intro finished
    have left := walled.2
    rw [finished, leftMillis, UInt32.toNat_zero] at left
    split at left <;> omega
  · intro unfinished
    have kept := polled.subsecond_after unfinished
    have seconds := polled.remaining_after
    have dueAfter : after.dueUnixSeconds = polled.due :=
      congrArg ExpeditionState.dueUnixSeconds polled.left
    have flagAfter : dueUnixValid after =
        (polled.flags &&& kFlagDueUnixValid != 0) :=
      congrArg dueUnixValid polled.left
    constructor
    · rw [flagAfter, dueAfter]
      exact walled.1
    · rw [slack, flagAfter, seconds, kept]
      exact walled.2

/-! ## Not behind the timeline -/

/-- The wall clock is followed only when it is ahead. -/
theorem Wall.fewer {flags : UInt8}
    (wall : Wall core now estimateRemaining estimateSubsecond remaining
      subsecond due flags) (whole : estimateSubsecond < 1000) :
    leftMillis remaining subsecond ≤
      leftMillis estimateRemaining estimateSubsecond := by
  have below : estimateSubsecond.toNat < 1000 :=
    UInt16.lt_iff_toNat_lt.mp whole
  cases wall with
  | ignored => exact Nat.le_refl _
  | ahead valid given less =>
    rw [UInt32.lt_iff_toNat_lt] at less
    rw [leftMillis, leftMillis]
    omega
  | bound unknown given sum => exact Nat.le_refl _

/-- A measured time that is exact keeps the record from falling behind. -/
theorem Polled.punctual {target : Nat} (polled : Polled core now status after)
    (forward : before ≤ time) (behind : before +
      leftMillis core.remainingSeconds core.subsecondMillis ≤ target)
    (measures : measured core now = some elapsed)
    (precise : elapsed.toNat = time - before) (unfinished : polled.remaining ≠ 0) :
    time + leftMillis after.remainingSeconds after.subsecondMillis ≤ target := by
  have taken := polled.estimated.taken elapsed measures
  have kept := polled.subsecond_after unfinished
  have seconds := polled.remaining_after
  have lower := (polled.wall.whole polled.estimated.whole).2
  have some : polled.estimateRemaining ≠ 0 := by
    intro zero
    rw [zero, UInt32.le_iff_toNat_le, UInt32.toNat_zero, Nat.le_zero] at lower
    exact unfinished (UInt32.toNat.inj lower)
  rw [if_neg some] at taken
  rw [kept, seconds]
  have fewer := polled.wall.fewer polled.estimated.whole
  omega

end Kitsu.Expedition

/-!
# Polls that report no progress

A poll that answers `InvalidClock` or `NoChange` reads as if nothing happened.
The clock is checked first, but a due time that does not fit its 64 bits is
noticed only when the checkpoint already holds the new sample, and that exit does
not refresh the CRC.  `PollKeeps` says when a poll has no such exit; `Harmless`
is what a caller expects of the two answers.
-/

namespace Kitsu.Expedition

/-- The whole seconds a poll takes off for the time measured by the boot. -/
def measuredSeconds (core : ExpeditionState) (now : ClockSample) : Nat :=
  match measured core now with
  | some elapsed => (elapsed.toNat + core.subsecondMillis.toNat) / 1000
  | none => 0

/-- The poll either has no due time to bind, or binds one that fits. -/
inductive PollKeeps (core : ExpeditionState) (now : ClockSample) : Prop where
  | refused (untrusted : validClock now = false)
  | resting (phase : core.phase ≠ Phase.traveling.byte)
  | bound (known : dueUnixValid core = true)
  | wallUnset (unset : now.unixValid = 0)
  | sameSample (boot : now.bootId = core.checkpointBootId)
      (monotonic : now.monotonicMillis = core.checkpointMonotonicMillis)
  | fits (sum : now.unixSeconds.toNat +
      (core.remainingSeconds.toNat - measuredSeconds core now) < 2 ^ 64)

/-- An answer without progress leaves the record alone, and valid. -/
def Harmless (core : ExpeditionState) (now : ClockSample) : Prop :=
  (poll core now).1 = .invalidClock ∨ (poll core now).1 = .noChange →
    (poll core now).2 = core ∧
      validateExpeditionState (poll core now).2 = true

/-! ## The due time -/

theorem safeDueUnix_eq_none {seconds : UInt32} :
    safeDueUnix unixSeconds seconds = none ↔
      2 ^ 64 ≤ unixSeconds.toNat + seconds.toNat := by
  constructor
  · intro missing
    apply Nat.le_of_not_lt
    intro fits
    rcases safeDueUnix_inRange fits with ⟨due, found⟩
    rw [missing] at found
    cases found
  · intro exceeds
    rcases answer : safeDueUnix unixSeconds seconds with _ | due
    · rfl
    · have sum := safeDueUnix_some answer
      have small := due.toNat_lt
      omega

variable {reckoning : Reckoning}

theorem wallEstimate_eq_none {now : ClockSample} :
    wallEstimate reckoning now = none ↔
      dueUnixValid reckoning.state = false ∧ now.unixValid ≠ 0 ∧
        2 ^ 64 ≤ now.unixSeconds.toNat +
          reckoning.candidateRemaining.toNat := by
  rw [← safeDueUnix_eq_none]
  constructor
  · intro missing
    rw [wallEstimate] at missing
    split at missing
    · simp only at missing
      split at missing
      · cases missing
      · cases missing
    · split at missing
      · rename_i bindable
        simp only [Bool.and_eq_true, Bool.not_eq_true', bne_iff_ne] at bindable
        split at missing
        · rename_i unrepresentable
          exact ⟨bindable.1, bindable.2, unrepresentable⟩
        · cases missing
      · cases missing
  · rintro ⟨unknown, given, unrepresentable⟩
    rw [wallEstimate, if_neg (by simp [unknown]),
      if_pos (by simp [unknown, given])]
    generalize safeDueUnix now.unixSeconds reckoning.candidateRemaining = due
      at unrepresentable ⊢
    subst unrepresentable
    rfl

/-- An estimate that the wall clock did not touch is handed on. -/
theorem wallEstimate_quiet {after : Reckoning} {now : ClockSample}
    (estimate : wallEstimate reckoning now = some after)
    (quiet : after.changed = false) : after = reckoning := by
  rw [wallEstimate] at estimate
  split at estimate
  · simp only at estimate
    split at estimate
    · cases estimate
      cases quiet
    · exact (Option.some.inj estimate).symm
  · split at estimate
    · split at estimate
      · cases estimate
      · cases estimate
        cases quiet
    · exact (Option.some.inj estimate).symm

/-! ## Writing back -/

theorem settle_answers (reckoning : Reckoning) :
    (settle reckoning).1 ≠ .invalidClock := by
  rw [settle]
  split
  · rintro ⟨⟩
  · split
    · rintro ⟨⟩
    · rintro ⟨⟩

theorem settle_noChange (answer : (settle reckoning).1 = .noChange) :
    reckoning.changed = false ∧ (settle reckoning).2 = reckoning.state := by
  rw [settle] at answer ⊢
  split at answer
  · cases answer
  · rename_i left
    split at answer
    · rename_i same
      rw [if_neg left, if_pos same]
      simp only [Bool.not_eq_true', Bool.or_eq_false_iff,
        bne_eq_false_iff_eq] at same
      rcases same with ⟨⟨quiet, remaining⟩, subsecond⟩
      refine ⟨quiet, ?_⟩
      simp only [remaining, subsecond]
    · cases answer

/-! ## The estimate of the boot -/

theorem anchored_eq_self_iff {core : ExpeditionState} {now : ClockSample} :
    anchored core now = core ↔ now.bootId = core.checkpointBootId ∧
      now.monotonicMillis = core.checkpointMonotonicMillis := by
  constructor
  · intro same
    exact ⟨congrArg ExpeditionState.checkpointBootId same,
      congrArg ExpeditionState.checkpointMonotonicMillis same⟩
  · rintro ⟨boot, monotonic⟩
    rw [anchored, boot, monotonic]

theorem Estimated.remaining_eq {core : ExpeditionState} {now : ClockSample}
    (estimated : Estimated core now remaining subsecond) :
    remaining.toNat = core.remainingSeconds.toNat - measuredSeconds core now := by
  have whole := UInt16.lt_iff_toNat_lt.mp estimated.whole
  have thousand : (1000 : UInt16).toNat = 1000 := rfl
  rcases measures : measured core now with _ | elapsed
  · rw [(estimated.paused measures).1, measuredSeconds, measures]
    rfl
  · have taken := estimated.taken elapsed measures
    simp only [measuredSeconds, measures]
    split at taken
    · rename_i finished
      rw [finished, UInt32.toNat_zero]
      rw [leftMillis] at taken
      omega
    · rename_i unfinished
      rw [leftMillis, leftMillis] at taken
      omega

/-! ## One poll -/

/-- The branches of a poll that reads a trusted clock on a journey. -/
theorem poll_traveling {core : ExpeditionState} {now : ClockSample}
    (valid : validateExpeditionState core = true) (clock : validClock now = true)
    (traveling : core.phase = Phase.traveling.byte) :
    ∃ remaining subsecond changed,
      (poll core now = match wallEstimate
          ⟨anchored core now, remaining, subsecond, changed⟩ now with
        | none => (.invalidClock, anchored core now)
        | some reckoning => settle reckoning) ∧
      (changed = false → anchored core now = core) ∧
      remaining.toNat =
        core.remainingSeconds.toNat - measuredSeconds core now := by
  have sound := (validateExpeditionState_iff.mp valid).1
  have journey : JourneyValid core := by
    apply sound.journey
    rw [traveling]
    decide
  rcases monotonicEstimate_cases journey (journey.traveling traveling) now with
    ⟨remaining, subsecond, changed, estimate, estimated, unchanged⟩
  refine ⟨remaining, subsecond, changed, ?_,
    fun still => (unchanged still).1,
    estimated.remaining_eq⟩
  rw [poll, if_neg (by simp [valid]), if_neg (by simp [clock]),
    if_neg (by simp [traveling])]
  generalize monotonicEstimate core now = found at estimate ⊢
  cases estimate
  rfl

/-- A poll that binds no due time, or one in range, is harmless. -/
theorem PollKeeps.harmless {core : ExpeditionState} {now : ClockSample}
    (valid : validateExpeditionState core = true)
    (keeps : PollKeeps core now) : Harmless core now := by
  intro answer
  suffices same : (poll core now).2 = core by
    refine ⟨same, ?_⟩
    rw [same]
    exact valid
  by_cases clock : validClock now = true
  · by_cases traveling : core.phase = Phase.traveling.byte
    · rcases poll_traveling valid clock traveling with
        ⟨remaining, subsecond, changed, polled, still, seconds⟩
      rw [polled] at answer ⊢
      rcases estimate : wallEstimate
          ⟨anchored core now, remaining, subsecond, changed⟩ now with _ | after
      · rcases wallEstimate_eq_none.mp estimate with ⟨unknown, given, exceeds⟩
        rw [seconds] at exceeds
        cases keeps with
        | refused untrusted =>
          rw [clock] at untrusted
          cases untrusted
        | resting phase => exact absurd traveling phase
        | bound known =>
          have same : dueUnixValid (anchored core now) =
            dueUnixValid core := rfl
          rw [same, known] at unknown
          cases unknown
        | wallUnset unset => exact absurd unset given
        | sameSample boot monotonic =>
          exact anchored_eq_self_iff.mpr ⟨boot, monotonic⟩
        | fits sum => omega
      · rw [estimate] at answer
        have quiet := settle_noChange
          (answer.resolve_left (settle_answers after))
        have same := wallEstimate_quiet estimate quiet.1
        have unmoved := quiet.1
        rw [same] at unmoved
        rw [quiet.2, same]
        exact still unmoved
    · rw [poll, if_neg (by simp [valid]), if_neg (by simp [clock]),
        if_pos (by simp [traveling])]
  · rw [poll, if_neg (by simp [valid]), if_pos (by simp [clock])]

/-- Otherwise it answers `InvalidClock` with the checkpoint already moved. -/
theorem poll_moved {core : ExpeditionState} {now : ClockSample}
    (valid : validateExpeditionState core = true) (moves : ¬ PollKeeps core now) :
    (poll core now).1 = .invalidClock ∧ (poll core now).2 ≠ core := by
  have clock : validClock now = true := by
    by_contra untrusted
    exact moves (.refused (Bool.not_eq_true _ ▸ untrusted))
  have traveling : core.phase = Phase.traveling.byte := by
    by_contra phase
    exact moves (.resting phase)
  have unknown : dueUnixValid core = false := by
    by_contra known
    exact moves (.bound (Bool.not_eq_false _ ▸ known))
  have given : now.unixValid ≠ 0 := fun unset => moves (.wallUnset unset)
  have exceeds : 2 ^ 64 ≤ now.unixSeconds.toNat +
      (core.remainingSeconds.toNat - measuredSeconds core now) := by
    apply Nat.le_of_not_lt
    exact fun sum => moves (.fits sum)
  rcases poll_traveling valid clock traveling with
    ⟨remaining, subsecond, changed, polled, still, seconds⟩
  rw [← seconds] at exceeds
  have missing : wallEstimate
      ⟨anchored core now, remaining, subsecond, changed⟩ now = none :=
    wallEstimate_eq_none.mpr ⟨unknown, given, exceeds⟩
  rw [polled, missing]
  refine ⟨rfl, ?_⟩
  intro same
  rcases anchored_eq_self_iff.mp same with ⟨boot, monotonic⟩
  exact moves (.sameSample boot monotonic)

/--
Answers without progress leave a valid record as it was exactly when no due time
out of range has to be bound.
-/
theorem poll_harmless_iff {core : ExpeditionState} {now : ClockSample}
    (valid : validateExpeditionState core = true) :
    Harmless core now ↔ PollKeeps core now := by
  constructor
  · intro harmless
    by_contra moves
    rcases poll_moved valid moves with ⟨answer, moved⟩
    exact moved (harmless (.inl answer)).1
  · exact PollKeeps.harmless valid

/-! ## A wall clock at the end of its range -/

/-- The first boot sets out without a wall clock. -/
def departure : ClockSample where
  bootId := 1

/-- A second later the wall clock reads its last second. -/
def lastSecond : ClockSample where
  bootId := 1
  monotonicMillis := 1000
  unixSeconds := 0xFFFFFFFFFFFFFFFF
  unixValid := 1

/-- A short journey that has just begun. -/
def underway : ExpeditionState :=
  refreshCrc (startedState .short {} departure 0 1 0)

theorem underway_started :
    start reset .short {} departure 0 = (.started, underway) := by
  rw [start, if_neg (by simp [show validateExpeditionState reset = true from
    validate_refreshCrc (sound_idle 0)])]
  rfl

theorem underway_valid : validateExpeditionState underway = true := by
  have cases := start_cases reset .short {} departure 0
  rw [underway_started] at cases
  exact cases.valid (validate_refreshCrc (sound_idle 0))

theorem underway_harmless_iff :
    validateExpeditionState underway = true ∧
      (Harmless underway lastSecond ↔ PollKeeps underway lastSecond) :=
  ⟨underway_valid, poll_harmless_iff underway_valid⟩

theorem lastSecond_moves : ¬ PollKeeps underway lastSecond := by
  intro keeps
  cases keeps with
  | refused untrusted => exact absurd untrusted (by decide)
  | resting phase => exact phase rfl
  | bound known =>
    cases known
  | wallUnset unset => exact absurd unset (by decide)
  | sameSample boot monotonic => exact absurd monotonic (by decide)
  | fits sum =>
    have measures : measuredSeconds underway lastSecond = 1 := by decide
    have remaining : underway.remainingSeconds.toNat = 900 := rfl
    have seconds : lastSecond.unixSeconds.toNat = 2 ^ 64 - 1 := by decide
    omega

/-- The answer is `InvalidClock`, and the record it leaves is another one. -/
theorem poll_harmful :
    ¬ ∀ core now, validateExpeditionState core = true → Harmless core now := by
  intro harmless
  rcases poll_moved underway_valid lastSecond_moves with ⟨answer, moved⟩
  exact moved (harmless underway lastSecond underway_valid (.inl answer)).1

end Kitsu.Expedition
