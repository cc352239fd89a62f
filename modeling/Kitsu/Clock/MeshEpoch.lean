import Kitsu.Clock.Continuity

/-!
# The clock of the mesh

`applyClockToRuntime` hands the second of a trusted reading to `SessionRtc`, which counts
on from there with the same millisecond counter.  It keeps no sample of the counter but
the one at which it was set, so it starts again at its base when the counter has gone
round once, where `KitsuClock` carries on.
-/

namespace Kitsu.Clock

open Kitsu.Lib.Run
open Kitsu.Lib.WrapClock

/-- The clock of the mesh, which lasts for one boot. -/
structure SessionRtc where
  valid : Bool := false
  baseEpoch : UInt32 := 0
  setAtMillis : UInt32 := 0
deriving DecidableEq, Repr

/-- The seconds of the epoch; zero where it was not set. -/
def SessionRtc.getCurrentTime (rtc : SessionRtc) (nowMillis : UInt32) : UInt32 :=
  if !rtc.valid then 0
  else rtc.baseEpoch + (nowMillis - rtc.setAtMillis) / 1000

/-- The mesh clock is set to an epoch. -/
def SessionRtc.setCurrentTime (epoch nowMillis : UInt32) : SessionRtc where
  valid := true
  baseEpoch := epoch
  setAtMillis := nowMillis

def kMinimumEpoch : UInt32 := 1704067200
def kMaximumEpoch : UInt32 := 4102444800

/-- The new clock of the mesh, unless the time is out of range. -/
def setEpoch (epochSeconds nowMillis : UInt32) : Option SessionRtc :=
  if epochSeconds < kMinimumEpoch || epochSeconds > kMaximumEpoch then none
  else some (.setCurrentTime epochSeconds nowMillis)

/-- The time of the mesh; zero is unknown. -/
def currentEpoch (rtc : SessionRtc) (nowMillis : UInt32) : UInt32 :=
  if rtc.valid then rtc.getCurrentTime nowMillis else 0

/-- The clocks of the running firmware; the time of the system has microseconds. -/
structure Runtime where
  clock : KitsuClock := reset
  rtc : SessionRtc := {}
  systemTime : Nat × Nat := (0, 0)
deriving DecidableEq, Repr

/-- The time, if the caller's demand for trust is met. -/
def clockReading (now : UInt32) (requireTrusted : Bool) (clock : KitsuClock) :
    Bool × ClockReading × KitsuClock :=
  let (result, output, after) := read now clock
  (result = .ok && (!requireTrusted || output.trust = .trusted), output, after)

/--
The counter is read once more when the epoch is set.  `systemSet` is what becomes of
`settimeofday`.
-/
def applyClockToRuntime (now setAt : UInt32) (systemSet : Bool) (runtime : Runtime) :
    Bool × Runtime :=
  let (available, reading, clock) := clockReading now true runtime.clock
  if !available || reading.unixSeconds > 4294967295 then (false, { runtime with clock })
  else if !systemSet then (false, { runtime with clock })
  else
    let systemTime := (reading.unixSeconds, reading.millisecond * 1000)
    match setEpoch (UInt32.ofNat reading.unixSeconds) setAt with
    | none => (false, { runtime with clock, systemTime })
    | some rtc => (true, { clock, rtc, systemTime })

/-! ## Until the clock is set again -/

/--
The calls after a sample of the counter do not set the clock, and the counter is sampled
again, up to this moment, before it has gone round.
-/
def Sampled (last : Nat) : List Call → Nat → Prop
  | [], moment => last ≤ moment ∧ moment < last + 4294967296
  | .read uptime :: later, moment | .makeSnapshot uptime _ :: later, moment =>
    last ≤ uptime ∧ uptime < last + 4294967296 ∧ Sampled uptime later moment
  | .setUtcOffsetMinutes _ :: later, moment => Sampled last later moment
  | _ :: _, _ => False

/-- The clock after a history of calls. -/
def clockAfter (clock : KitsuClock) (calls : List Call) : KitsuClock :=
  exec (fun clock call => (perform call clock).2) clock calls

/-- What both clocks show at a moment. -/
structure Follows (rtc : SessionRtc) (reading : ClockReading) (setAt moment : Nat) :
    Prop where
  ahead : (currentEpoch rtc (millis moment)).toNat ≤ reading.unixSeconds + 1
  behind : reading.unixSeconds ≤ (currentEpoch rtc (millis moment)).toNat + 1
  forward : ∀ before, setAt ≤ before → before ≤ moment →
    currentEpoch rtc (millis before) ≤ currentEpoch rtc (millis moment)

section Epoch

variable {clock : KitsuClock} {runtime : Runtime} {later : List Call}
  {start now setAt last moment uptime : Nat} {systemSet : Bool}

/-- A clock that is still trusted has counted the time since `start`. -/
structure Counted (origin start last : Nat) (clock : KitsuClock) : Prop where
  ordered : Ordered clock
  sampled : clock.trust = .trusted → clock.lastMillis = millis last
  instant : clock.trust = .trusted → clock.instant + start = origin + last

variable {origin : Nat}

theorem Advanced.lastMillis {result : ClockResult} {after : KitsuClock}
    {nowMillis : UInt32} (advanced : Advanced nowMillis clock result after) :
    after.lastMillis = nowMillis := by
  cases advanced with
  | moved => rfl
  | stepped => rfl
  | saturated => rfl

theorem Counted.advance (counted : Counted origin start last clock)
    (forward : last ≤ uptime) (near : uptime < last + 4294967296) :
    Counted origin start uptime (advance (millis uptime) clock).2 := by
  by_cases unset : clock.trust = .unset
  · rw [advance_unset unset]
    have untrusted : clock.trust ≠ .trusted := by
      rw [unset]
      exact nofun
    refine ⟨⟨counted.ordered.offset, counted.ordered.source, counted.ordered.instant⟩,
      ?_, ?_⟩
    · intro trusted
      exact absurd trusted untrusted
    · intro trusted
      exact absurd trusted untrusted
  · have advanced := @advance_advanced clock (millis uptime) counted.ordered unset
    refine ⟨advanced.ordered counted.ordered unset, fun _ => advanced.lastMillis, ?_⟩
    intro trusted
    generalize Clock.advance (millis uptime) clock = moved at advanced trusted ⊢
    obtain ⟨result, after⟩ := moved
    cases advanced with
    | moved valid moves =>
      have before := counted.instant trusted
      have passed := toNat_sub_ofNat forward near
      rw [counted.sampled trusted, millis, millis, passed] at moves
      change _ * 1000 + _ + start = origin + uptime
      rw [moves]
      omega
    | stepped => cases trusted
    | saturated => cases trusted

theorem Counted.exec (counted : Counted origin start last clock)
    (sampled : Sampled last later moment) :
    ∃ uptime ≤ moment, moment < uptime + 4294967296 ∧
      Counted origin start uptime (clockAfter clock later) := by
  induction later generalizing clock last with
  | nil => exact ⟨last, sampled.1, sampled.2, counted⟩
  | cons call later induction =>
    cases call with
    | read uptime =>
      exact induction (counted.advance sampled.1 sampled.2.1) sampled.2.2
    | makeSnapshot uptime generation =>
      apply induction _ sampled.2.2
      simp only [perform, makeSnapshot_advance]
      exact counted.advance sampled.1 sampled.2.1
    | setUtcOffsetMinutes utcOffsetMinutes =>
      apply induction _ sampled
      have ordered := (perform_happens counted.ordered
        (.setUtcOffsetMinutes utcOffsetMinutes)).ordered counted.ordered
      simp only [perform, setUtcOffsetMinutes] at ordered ⊢
      split
      · exact ⟨by simp_all, counted.sampled, counted.instant⟩
      · exact ⟨by simp_all, counted.sampled, counted.instant⟩
    | setFromIso8601 => exact sampled.elim
    | setFromUnixText => exact sampled.elim
    | setFromUnixSeconds => exact sampled.elim
    | acceptNtp => exact sampled.elim
    | restore => exact sampled.elim
    | reset => exact sampled.elim

/-- A reading that is trusted shows the time since `start`. -/
theorem Counted.reading (counted : Counted origin start last clock)
    (sampled : Sampled last later moment)
    (trusted : (read (millis moment) (clockAfter clock later)).2.1.trust = .trusted) :
    (read (millis moment) (clockAfter clock later)).2.1.instant + start =
        origin + moment ∧
      (read (millis moment) (clockAfter clock later)).2.1.millisecond < 1000 := by
  obtain ⟨uptime, forward, near, counted⟩ := counted.exec sampled
  have now := counted.advance forward near
  have isSet : (Clock.advance (millis moment) (clockAfter clock later)).2.trust ≠ .unset := by
    intro unset
    exact absurd (trusted.symm.trans unset) nofun
  have shown : (read (millis moment) (clockAfter clock later)).2.1.instant =
      (Clock.advance (millis moment) (clockAfter clock later)).2.instant :=
    reading_instant isSet
  rw [shown]
  refine ⟨now.instant trusted, ?_⟩
  have small := (validInstant_iff.mp (now.ordered.instant isSet)).2.1
  simpa [read, KitsuClock.reading, set_iff.mpr isSet] using small

/-- What a successful call leaves. -/
structure Applied (now setAt : Nat) (before after : Runtime) : Prop where
  clock : after.clock = (advance (millis now) before.clock).2
  trusted : after.clock.trust = .trusted
  rtc : after.rtc = .setCurrentTime (UInt32.ofNat after.clock.unixSeconds) (millis setAt)
  most : after.clock.unixSeconds ≤ 4102444800

theorem applyClockToRuntime_applied
    (success : (applyClockToRuntime (millis now) (millis setAt) systemSet runtime).1 =
      true) :
    Applied now setAt runtime
      (applyClockToRuntime (millis now) (millis setAt) systemSet runtime).2 := by
  unfold applyClockToRuntime clockReading read at success ⊢
  generalize advanced : advance (millis now) runtime.clock = after at success ⊢
  obtain ⟨result, clock⟩ := after
  simp only at success ⊢
  split at success
  · cases success
  rename_i readable
  split at success
  · cases success
  rename_i systemDone
  split at success
  · cases success
  · rename_i epoch accepted
    rw [if_neg readable, if_neg systemDone]
    simp only [Bool.or_eq_true, Bool.not_eq_true', not_or, Bool.not_eq_false,
      Bool.and_eq_true, decide_eq_true_eq, Bool.not_true, Bool.false_or, not_lt,
      gt_iff_lt] at readable
    have trusted : clock.trust = .trusted := readable.1.2
    have isSet : clock.set = true := set_iff.mpr (by rw [trusted]; exact nofun)
    have seconds : clock.reading.unixSeconds = clock.unixSeconds := by
      simp [KitsuClock.reading, isSet]
    have bound : clock.unixSeconds ≤ 4294967295 := seconds ▸ readable.2
    rw [seconds] at accepted
    unfold setEpoch at accepted
    split at accepted
    · cases accepted
    · rename_i range
      cases accepted
      refine ⟨by rw [advanced], trusted, rfl, ?_⟩
      simp only [Bool.or_eq_true, decide_eq_true_eq, not_or, UInt32.not_lt,
        UInt32.le_iff_toNat_le, gt_iff_lt] at range
      have same : (UInt32.ofNat clock.unixSeconds).toNat = clock.unixSeconds :=
        UInt32.toNat_ofNat_of_lt' (Nat.lt_of_le_of_lt bound (by decide))
      rw [same] at range
      exact range.2

theorem Applied.counted {after : Runtime} (applied : Applied now setAt runtime after)
    (ordered : Ordered runtime.clock) :
    Counted after.clock.instant now now after.clock := by
  have isSet : runtime.clock.trust ≠ .unset := by
    intro unset
    have trusted := applied.trusted
    rw [applied.clock, advance_unset unset] at trusted
    exact absurd (trusted.symm.trans unset) nofun
  have advanced := @advance_advanced runtime.clock (millis now) ordered isSet
  rw [← applied.clock] at advanced
  exact ⟨advanced.ordered ordered isSet, fun _ => advanced.lastMillis, fun _ => rfl⟩

theorem toNat_currentEpoch {epoch : Nat} (most : epoch ≤ 4102444800)
    (forward : setAt ≤ moment) :
    (currentEpoch (.setCurrentTime (UInt32.ofNat epoch) (millis setAt))
      (millis moment)).toNat = epoch + (moment - setAt) % 4294967296 / 1000 := by
  simp only [currentEpoch, SessionRtc.getCurrentTime, SessionRtc.setCurrentTime, millis,
    Bool.not_true, Bool.false_eq_true, if_false, if_true, UInt32.toNat_add,
    UInt32.toNat_div, UInt32.toNat_sub, UInt32.toNat_ofNat', UInt32.reduceToNat]
  omega

end Epoch

/--
Where the milliseconds that the epoch leaves out, and those that pass until it is set, are
a second at most, the clocks agree exactly until the counter has gone round.  Where they
are more, the clocks differ by more than a second at the end of every second.
-/
theorem mesh_epoch_follows_iff (calls : List Call) (rtc : SessionRtc)
    (systemTime : Nat × Nat) (now setAt moment : Nat) (systemSet : Bool)
    (later : List Call) (applied : Bool × Runtime)
    (call : applied = applyClockToRuntime (millis now) (millis setAt) systemSet
      ⟨clockAfter reset calls, rtc, systemTime⟩)
    (success : applied.1 = true) (order : now ≤ setAt ∧ setAt ≤ moment)
    (sampled : Sampled now later moment) (reading : ClockReading)
    (shown : reading = (read (millis moment) (clockAfter applied.2.clock later)).2.1)
    (trusted : reading.trust = .trusted) :
    (applied.2.clock.millisecond + (setAt - now) ≤ 1000 →
      (Follows applied.2.rtc reading setAt moment ↔ moment < setAt + 4294967296)) ∧
    (1000 < applied.2.clock.millisecond + (setAt - now) →
      (moment - setAt) % 4294967296 % 1000 = 999 →
      ¬ Follows applied.2.rtc reading setAt moment) := by
  subst call shown
  have known := applyClockToRuntime_applied success
  have ordered : Ordered (clockAfter reset calls) :=
    @exec_invariant _ _ _ reset Ordered agrees_initially.ordered
      (fun _ call ordered => (perform_happens ordered call).ordered ordered) calls
  have shown := (known.counted ordered).reading sampled trusted
  obtain ⟨instant, small⟩ := shown
  rw [ClockReading.instant, KitsuClock.instant] at instant
  rw [known.rtc]
  have epoch := toNat_currentEpoch known.most order.2
  constructor
  · intro near
    constructor
    · intro follows
      have behind := follows.behind
      omega
    · intro before
      constructor
      · rw [epoch]
        omega
      · rw [epoch]
        omega
      · intro earlier after order
        rw [UInt32.le_iff_toNat_le, epoch, toNat_currentEpoch known.most after]
        omega
  · intro far last follows
    have behind := follows.behind
    omega

/-- A clock that is set and applied at once, and read once in three weeks. -/
def threeWeeks : Runtime :=
  (applyClockToRuntime 0 0 true
    ⟨clockAfter reset [.setFromUnixSeconds 1704067200 0 .manualSerial 0 0], {}, (0, 0)⟩).2

/-- Two readings, less than a wrap apart. -/
def readings : List Call :=
  [.read 2000000000, .read 4000000000]

/-- What a reader is told at a moment after these readings. -/
def readingAt (moment : Nat) : ClockReading :=
  (read (millis moment) (clockAfter threeWeeks.clock readings)).2.1

theorem epoch_after_round :
    (readingAt 4294967296).trust = .trusted ∧
      ¬ Follows threeWeeks.rtc (readingAt 4294967296) 0 4294967296 := by
  constructor
  · decide +kernel
  · intro follows
    exact absurd follows.behind (by decide +kernel)

theorem epoch_before_round :
    Follows threeWeeks.rtc (readingAt 4294967295) 0 4294967295 :=
  ((mesh_epoch_follows_iff [.setFromUnixSeconds 1704067200 0 .manualSerial 0 0] {} (0, 0)
    0 0 4294967295 true readings (true, threeWeeks) (by decide +kernel) rfl
    ⟨Nat.le_refl 0, Nat.zero_le _⟩ (by simp [Sampled, readings])
    (readingAt 4294967295) rfl (by decide +kernel)).1 (by decide +kernel)).mpr (by decide)

end Kitsu.Clock
