import Kitsu.Clock.KitsuClock
import Kitsu.Lib.Run

/-!
# Continuity of the clock

An observer with an uptime that never wraps watches the calls that a clock
receives: the instant that was last set, the last sample of the counter that the
clock took, and the sum of the differences between the samples since then.  A
clock that says that it is trusted shows the instant that was set and this sum.
-/

namespace Kitsu.Clock

open Kitsu.Lib.ByteString
open Kitsu.Lib.Run
open Kitsu.Lib.WrapClock

/-- The counter at an uptime in milliseconds. -/
def millis (uptime : Nat) : UInt32 :=
  UInt32.ofNat uptime

/-- A call, at the uptime at which it is made. -/
inductive Call where
  | setFromIso8601 (input : Bytes) (source : ClockSource) (uptime : Nat)
  | setFromUnixText (input : Bytes) (source : ClockSource)
      (utcOffsetMinutes : Int) (uptime : Nat)
  | setFromUnixSeconds (unixSeconds millisecond : Nat)
      (source : ClockSource) (utcOffsetMinutes : Int) (uptime : Nat)
  | acceptNtp (sample : NetworkTimeSample) (uptime : Nat)
  | setUtcOffsetMinutes (utcOffsetMinutes : Int)
  | read (uptime : Nat)
  | makeSnapshot (uptime : Nat) (generation : UInt32)
  | restore (snapshot : ClockSnapshot) (uptime : Nat)
  | reset

/-- A call by its name. -/
def perform (call : Call) (clock : KitsuClock) : ClockResult × KitsuClock :=
  match call with
  | .setFromIso8601 input source uptime =>
    setFromIso8601 input source (millis uptime) clock
  | .setFromUnixText input source utcOffsetMinutes uptime =>
    setFromUnixText input source utcOffsetMinutes (millis uptime) clock
  | .setFromUnixSeconds unixSeconds millisecond source utcOffsetMinutes
      uptime =>
      setFromUnixSeconds unixSeconds millisecond source utcOffsetMinutes
        (millis uptime) clock
  | .acceptNtp sample uptime => acceptNtp sample (millis uptime) clock
  | .setUtcOffsetMinutes utcOffsetMinutes =>
    setUtcOffsetMinutes utcOffsetMinutes clock
  | .read uptime =>
    let (result, _, after) := read (millis uptime) clock
    (result, after)
  | .makeSnapshot uptime generation =>
    let (result, _, after) := makeSnapshot (millis uptime) generation clock
    (result, after)
  | .restore snapshot uptime => restore snapshot (millis uptime) clock
  | .reset => (.ok, reset)

/-! ## What an observer knows -/

/-- An instant in milliseconds, and the uptime at which it was right. -/
structure Anchor where
  instant : Nat
  uptime : Nat

/-- The anchor that a setter is given. -/
def Call.sets : Call → Option Anchor
  | .setFromIso8601 input _ uptime =>
    match parseIso8601 input with
    | .error _ => none
    | .ok parsed =>
      some ⟨parsed.unixSeconds * 1000 + parsed.millisecond, uptime⟩
  | .setFromUnixText input _ _ uptime =>
    match parseUnixText input with
    | .error _ => none
    | .ok unixSeconds => some ⟨unixSeconds * 1000, uptime⟩
  | .setFromUnixSeconds unixSeconds millisecond _ _ uptime =>
    some ⟨unixSeconds * 1000 + millisecond, uptime⟩
  | .acceptNtp sample uptime =>
    some ⟨sample.unixSeconds * 1000 + sample.millisecond, uptime⟩
  | _ => none

/-- The use that a call made of the sample it was given. -/
inductive Sample where
  | unused
  | anchored (anchor : Anchor)
  | taken (uptime : Nat)
  | restarted (uptime : Nat)

/-- What a call says about the real time that passed. -/
def Call.sample (call : Call) (result : ClockResult) : Sample :=
  match call with
  | .read uptime | .makeSnapshot uptime _ =>
    if result = .notSet then .unused else .taken uptime
  | .restore _ uptime =>
    if result = .ok then .restarted uptime else .unused
  | call =>
    match call.sets with
    | some anchor => if result = .ok then .anchored anchor else .unused
    | none => .unused

/-- The last anchor, the uptime of the last sample, and the sum of the
differences between the samples since the anchor. -/
structure Watch where
  anchor : Option Anchor := none
  sampled : Nat := 0
  elapsed : Nat := 0

/-- The time that passed since the clock was set, as far as it was sampled. -/
def Watch.see (watch : Watch) : Sample → Watch
  | .unused => watch
  | .anchored anchor =>
    { anchor := some anchor, sampled := anchor.uptime, elapsed := 0 }
  | .taken uptime =>
    { watch with
      sampled := uptime
      elapsed := watch.elapsed +
        (millis uptime - millis watch.sampled).toNat }
  | .restarted uptime => { watch with sampled := uptime }

/-- A clock that is being watched. -/
structure Watched where
  clock : KitsuClock := reset
  watch : Watch := {}

def observe (watched : Watched) (call : Call) : Watched :=
  let (result, after) := perform call watched.clock
  { clock := after, watch := watched.watch.see (call.sample result) }

/-! ## What a call does -/

/-- What a call can do to the clock, by the sample it takes. -/
inductive Happens (clock : KitsuClock) : Sample → KitsuClock → Prop where
  | refused {result : ClockResult} :
      Happens clock .unused { clock with lastResult := result }
  | shifted {utcOffsetMinutes : Int}
      (offset : validOffset utcOffsetMinutes = true) :
      Happens clock .unused
        { clock with utcOffsetMinutes, lastResult := .ok }
  | cleared : Happens clock .unused reset
  | anchored {unixSeconds millisecond uptime : Nat}
      {utcOffsetMinutes : Int} {source : ClockSource}
      (instant : validInstant unixSeconds millisecond = true)
      (offset : validOffset utcOffsetMinutes = true)
      (known : validSource source = true) :
      Happens clock (.anchored ⟨unixSeconds * 1000 + millisecond, uptime⟩)
        { clock with
          unixSeconds, millisecond, utcOffsetMinutes, source
          lastMillis := millis uptime
          trust := .trusted
          monotonicHealthy := true
          lastResult := .ok }
  | advanced {uptime : Nat} {result : ClockResult} {after : KitsuClock}
      (isSet : clock.trust ≠ .unset)
      (advanced : Advanced (millis uptime) clock result after) :
      Happens clock (.taken uptime) after
  | restored {uptime : Nat} {after : KitsuClock} (ordered : Ordered after)
      (stale : after.trust = .restoredStale)
      (sampled : after.lastMillis = millis uptime) :
      Happens clock (.restarted uptime) after

section Calls

variable {clock : KitsuClock}

theorem setAnchor_cases (unixSeconds millisecond : Nat)
    (source : ClockSource) (utcOffsetMinutes : Int) (uptime : Nat) :
    Happens clock
      (if (setAnchor unixSeconds millisecond source utcOffsetMinutes
          (millis uptime) clock).1 = .ok then
        .anchored ⟨unixSeconds * 1000 + millisecond, uptime⟩ else .unused)
      (setAnchor unixSeconds millisecond source utcOffsetMinutes
        (millis uptime) clock).2 := by
  unfold setAnchor
  split
  · exact .refused
  rename_i direct
  split
  · exact .refused
  rename_i offset
  split
  · exact .refused
  rename_i instant
  simp only [Bool.not_eq_true', Bool.not_eq_false] at direct offset instant
  exact .anchored instant offset (validSource_of_direct direct)

theorem setFromIso8601_cases (input : Bytes) (source : ClockSource)
    (uptime : Nat) :
    Happens clock
      (Call.sample (.setFromIso8601 input source uptime)
        (setFromIso8601 input source (millis uptime) clock).1)
      (setFromIso8601 input source (millis uptime) clock).2 := by
  unfold setFromIso8601
  simp only [Call.sample, Call.sets]
  rcases parseIso8601 input with result | parsed
  · simp only
    split
    · exact .refused
    · exact .refused
  · simp only
    split
    · exact .refused
    · exact setAnchor_cases _ _ _ _ _

theorem setFromUnixText_cases (input : Bytes) (source : ClockSource)
    (utcOffsetMinutes : Int) (uptime : Nat) :
    Happens clock
      (Call.sample (.setFromUnixText input source utcOffsetMinutes uptime)
        (setFromUnixText input source utcOffsetMinutes (millis uptime) clock).1)
      (setFromUnixText input source utcOffsetMinutes (millis uptime) clock).2 := by
  unfold setFromUnixText
  simp only [Call.sample, Call.sets]
  rcases parseUnixText input with result | unixSeconds
  · simp only
    split
    · exact .refused
    · exact .refused
  · simp only
    split
    · exact .refused
    · have whole := @setAnchor_cases clock unixSeconds 0 source
        utcOffsetMinutes uptime
      rwa [Nat.add_zero] at whole

theorem acceptNtp_cases (ordered : Ordered clock)
    (sample : NetworkTimeSample) (uptime : Nat) :
    Happens clock
      (Call.sample (.acceptNtp sample uptime)
        (acceptNtp sample (millis uptime) clock).1)
      (acceptNtp sample (millis uptime) clock).2 := by
  unfold acceptNtp
  split
  · exact .refused
  split
  · exact .refused
  rename_i instant
  simp only [Bool.not_eq_true', Bool.not_eq_false] at instant
  exact .anchored instant ordered.offset rfl

theorem setUtcOffsetMinutes_cases (utcOffsetMinutes : Int) :
    Happens clock .unused (setUtcOffsetMinutes utcOffsetMinutes clock).2 := by
  unfold setUtcOffsetMinutes
  split
  · exact .refused
  · rename_i offset
    simp only [Bool.not_eq_true', Bool.not_eq_false] at offset
    exact .shifted offset

theorem advance_cases (ordered : Ordered clock) (uptime : Nat) :
    Happens clock
      (if (advance (millis uptime) clock).1 = .notSet then .unused
        else .taken uptime) (advance (millis uptime) clock).2 := by
  by_cases unset : clock.trust = .unset
  · rw [advance_unset unset]
    exact .refused
  · have advanced := @advance_advanced clock (millis uptime) ordered unset
    rw [if_neg]
    · exact .advanced unset advanced
    · intro notSet
      rw [notSet] at advanced
      cases advanced

/-- A snapshot moves the clock as a reading does. -/
theorem makeSnapshot_advance (nowMillis generation : UInt32) :
    (makeSnapshot nowMillis generation clock).1 =
        (advance nowMillis clock).1 ∧
      (makeSnapshot nowMillis generation clock).2.2 =
        (advance nowMillis clock).2 := by
  have ends : (advance nowMillis clock).2.lastResult =
      (advance nowMillis clock).1 := by
    unfold advance
    split
    · rfl
    simp only
    split
    · rfl
    split
    · rfl
    · rfl
  unfold makeSnapshot
  simp only at ends ⊢
  split
  · exact ⟨rfl, rfl⟩
  · rename_i accepted
    rw [not_not] at accepted
    rw [accepted] at ends ⊢
    constructor
    · rfl
    · simp only [KitsuClock.ends, ← ends]

end Calls

/-! ## Snapshots -/

variable {nowMillis generation : UInt32}

section Snapshots

variable {clock : KitsuClock} {snapshot : ClockSnapshot}

/-- The fields of a snapshot that a clock may be restored from. -/
structure Restorable (snapshot : ClockSnapshot) : Prop where
  source : ∃ source, ClockSource.ofCode snapshot.source = some source ∧
    validSource source = true
  instant : validInstant snapshot.unixSeconds snapshot.millisecond = true
  offset : validOffset snapshot.utcOffsetMinutes = true

theorem restorable_of_valid (valid : validateSnapshot snapshot = .ok) :
    Restorable snapshot := by
  unfold validateSnapshot at valid
  split at valid
  · cases valid
  split at valid
  · cases valid
  split at valid
  · cases valid
  split at valid
  · cases valid
  rename_i accepted
  simp only [Bool.or_eq_true, Bool.not_eq_true', not_or,
    Bool.not_eq_false] at accepted
  obtain ⟨⟨⟨⟨source, _⟩, instant⟩, offset⟩, _⟩ := accepted
  exact ⟨by simpa [Option.any_eq_true] using source, instant, offset⟩

theorem restore_cases (snapshot : ClockSnapshot) (uptime : Nat) :
    Happens clock
      (Call.sample (.restore snapshot uptime)
        (restore snapshot (millis uptime) clock).1)
      (restore snapshot (millis uptime) clock).2 := by
  unfold restore
  simp only
  split
  · rename_i refused
    rw [Call.sample, KitsuClock.ends, if_neg refused]
    exact .refused
  · rename_i accepted
    rw [not_not] at accepted
    have restorable := restorable_of_valid accepted
    obtain ⟨source, code, known⟩ := restorable.source
    refine .restored ⟨restorable.offset, ?_, ?_⟩ rfl rfl
    · intro _
      simp only [KitsuClock.ends, code, Option.getD_some, known]
    · intro _
      exact restorable.instant

/-- A snapshot that was made passes the checks, and shows the instant of the
clock. -/
theorem validateSnapshot_made (ordered : Ordered clock)
    (made : (makeSnapshot nowMillis generation clock).2.1 = some snapshot) :
    validateSnapshot snapshot = .ok ∧
      snapshot.unixSeconds = (advance nowMillis clock).2.unixSeconds ∧
      snapshot.millisecond = (advance nowMillis clock).2.millisecond := by
  have isSet : clock.trust ≠ .unset := by
    intro unset
    simp only [makeSnapshot, advance_unset unset] at made
    cases made
  have advanced := @advance_advanced clock nowMillis ordered isSet
  unfold makeSnapshot at made
  generalize advance nowMillis clock = moved at *
  obtain ⟨result, after⟩ := moved
  simp only at advanced made ⊢
  split at made
  · cases made
  rename_i accepted
  rw [not_not] at accepted
  rw [accepted] at advanced
  cases advanced with
  | moved valid moves =>
    cases Option.some.inj made
    refine ⟨?_, rfl, rfl⟩
    unfold validateSnapshot
    rw [if_neg (by simp), if_neg (by simp), if_neg (by simp; rfl), if_neg]
    simp only [ClockSource.ofCode_code, valid, ordered.offset,
      Option.any_some, ordered.source isSet]
    cases trust : clock.trust with
    | unset => exact absurd trust isSet
    | restoredStale => simp
    | trusted => simp

end Snapshots

/-! ## Runs -/

section Runs

variable {clock : KitsuClock} {watched : Watched} {call : Call}

theorem perform_happens (ordered : Ordered clock) (call : Call) :
    Happens clock (call.sample (perform call clock).1) (perform call clock).2 := by
  cases call with
  | setFromIso8601 input source uptime =>
    exact setFromIso8601_cases input source uptime
  | setFromUnixText input source utcOffsetMinutes uptime =>
    exact setFromUnixText_cases input source utcOffsetMinutes uptime
  | setFromUnixSeconds unixSeconds millisecond source utcOffsetMinutes
      uptime =>
      exact setAnchor_cases unixSeconds millisecond source utcOffsetMinutes
        uptime
  | acceptNtp sample uptime => exact acceptNtp_cases ordered sample uptime
  | setUtcOffsetMinutes utcOffsetMinutes =>
    exact setUtcOffsetMinutes_cases utcOffsetMinutes
  | read uptime => exact advance_cases ordered uptime
  | makeSnapshot uptime generation =>
    have moves := @makeSnapshot_advance clock (millis uptime) generation
    have advanced := advance_cases ordered uptime
    simp only [perform, Call.sample, moves.1, moves.2]
    exact advanced
  | restore snapshot uptime => exact restore_cases snapshot uptime
  | reset => exact .cleared

theorem Advanced.ordered {nowMillis : UInt32} {result : ClockResult}
    {after : KitsuClock} (ordered : Ordered clock) (isSet : clock.trust ≠ .unset)
    (advanced : Advanced nowMillis clock result after) : Ordered after := by
  cases advanced with
  | moved valid _ =>
    exact ⟨ordered.offset, ordered.source, fun _ => valid⟩
  | stepped _ =>
    exact ⟨ordered.offset, fun _ => ordered.source isSet,
      fun _ => ordered.instant isSet⟩
  | saturated =>
    refine ⟨ordered.offset, fun _ => ordered.source isSet, fun _ => ?_⟩
    rw [validInstant_iff]
    simp [InRange, kMinimumClockUnixSeconds, kMaximumClockUnixSeconds]

theorem Happens.ordered {sample : Sample} {after : KitsuClock}
    (ordered : Ordered clock) (happens : Happens clock sample after) :
    Ordered after := by
  cases happens with
  | refused => exact ⟨ordered.offset, ordered.source, ordered.instant⟩
  | shifted offset => exact ⟨offset, ordered.source, ordered.instant⟩
  | cleared =>
    refine ⟨rfl, ?_, ?_⟩
    all_goals
      intro isSet
      exact absurd rfl isSet
  | anchored instant offset known =>
    exact ⟨offset, fun _ => known, fun _ => instant⟩
  | advanced isSet advanced => exact advanced.ordered ordered isSet
  | restored restored _ _ => exact restored

/-- The clock and its observer agree. -/
structure Agrees (watched : Watched) : Prop where
  ordered : Ordered watched.clock
  sampled : watched.clock.trust ≠ .unset →
    watched.clock.lastMillis = millis watched.watch.sampled
  trusted : watched.clock.trust = .trusted →
    ∃ anchor, watched.watch.anchor = some anchor ∧
      watched.clock.instant = anchor.instant + watched.watch.elapsed

/-- What is seen of one call. -/
theorem Agrees.happens {sample : Sample} {after : KitsuClock}
    (agrees : Agrees watched) (happens : Happens watched.clock sample after) :
    Agrees ⟨after, watched.watch.see sample⟩ := by
  refine ⟨happens.ordered agrees.ordered, ?_, ?_⟩
  · cases happens with
    | refused => exact agrees.sampled
    | shifted => exact agrees.sampled
    | cleared =>
      intro isSet
      exact absurd rfl isSet
    | anchored => exact fun _ => rfl
    | advanced _ advanced => cases advanced <;> exact fun _ => rfl
    | restored _ _ sampled => exact fun _ => sampled
  · cases happens with
    | refused => exact agrees.trusted
    | shifted => exact agrees.trusted
    | cleared =>
      intro impossible
      cases impossible
    | anchored => exact fun _ => ⟨_, rfl, (Nat.add_zero _).symm⟩
    | advanced isSet advanced =>
      cases advanced with
      | moved _ moves =>
        intro trusted
        obtain ⟨anchor, known, instant⟩ := agrees.trusted trusted
        refine ⟨anchor, known, ?_⟩
        rw [KitsuClock.instant, moves, agrees.sampled isSet, instant,
          Nat.add_assoc]
        rfl
      | stepped =>
        intro impossible
        cases impossible
      | saturated =>
        intro impossible
        cases impossible
    | restored _ stale _ =>
      intro trusted
      rw [trusted] at stale
      cases stale

theorem agrees_initially : Agrees {} := by
  refine ⟨⟨rfl, ?_, ?_⟩, ?_, ?_⟩
  · intro isSet
    exact absurd rfl isSet
  · intro isSet
    exact absurd rfl isSet
  · intro isSet
    exact absurd rfl isSet
  · intro impossible
    cases impossible

theorem Agrees.observed (agrees : Agrees watched) (call : Call) :
    Agrees (observe watched call) :=
  agrees.happens (perform_happens agrees.ordered call)

theorem agrees_exec (calls : List Call) : Agrees (exec observe {} calls) :=
  exec_invariant agrees_initially (fun _ call agrees => agrees.observed call)
    calls

/-- The sample comes after the last one, by less than half a period of the
counter. -/
def Prompt (watched : Watched) (call : Call) : Prop :=
  ∀ uptime, call.sample (perform call watched.clock).1 = .taken uptime →
    watched.watch.sampled ≤ uptime ∧
      uptime < watched.watch.sampled + 2147483648

/-- What was added is the time that passed since the anchor. -/
def OnTime (watched : Watched) : Prop :=
  watched.clock.trust = .trusted →
    ∀ anchor, watched.watch.anchor = some anchor →
      anchor.uptime + watched.watch.elapsed = watched.watch.sampled

/-- A call that leaves the clock trusted set it, or found it trusted. -/
theorem Happens.trusted {sample : Sample} {after : KitsuClock}
    (happens : Happens clock sample after) (trusted : after.trust = .trusted) :
    (∃ anchor, sample = .anchored anchor) ∨ clock.trust = .trusted := by
  cases happens with
  | refused => exact .inr trusted
  | shifted => exact .inr trusted
  | cleared => cases trusted
  | anchored => exact .inl ⟨_, rfl⟩
  | advanced _ advanced =>
    cases advanced with
    | moved => exact .inr trusted
    | stepped => cases trusted
    | saturated => cases trusted
  | restored _ stale =>
    rw [trusted] at stale
    cases stale

theorem OnTime.observed (onTime : OnTime watched) (agrees : Agrees watched)
    (prompt : Prompt watched call) : OnTime (observe watched call) := by
  have happens := perform_happens agrees.ordered call
  unfold Prompt at prompt
  unfold OnTime observe
  simp only
  generalize call.sample (perform call watched.clock).1 = sample at *
  generalize (perform call watched.clock).2 = after at *
  intro trusted anchor known
  rcases happens.trusted trusted with ⟨set, rfl⟩ | before
  · cases Option.some.inj known
    rfl
  cases happens with
  | refused => exact onTime before anchor known
  | shifted => exact onTime before anchor known
  | cleared => exact onTime before anchor known
  | anchored =>
    cases Option.some.inj known
    rfl
  | @advanced uptime =>
    obtain ⟨forward, near⟩ := prompt uptime rfl
    have passed := toNat_sub_ofNat forward (by omega)
    have past := onTime before anchor known
    simp only [Watch.see, millis, passed]
    omega
  | restored _ stale =>
    rw [stale] at trusted
    cases trusted

theorem onTime_exec {calls : List Call}
    (prompt : Throughout observe {} Prompt calls) :
    OnTime (exec observe {} calls) := by
  have initially : Agrees {} ∧ OnTime {} := by
    constructor
    · exact agrees_initially
    · intro impossible
      cases impossible
  have preserved : ∀ watched call, Agrees watched ∧ OnTime watched →
      Prompt watched call →
        Agrees (observe watched call) ∧ OnTime (observe watched call) := by
    rintro watched call ⟨agrees, onTime⟩ allowed
    exact ⟨agrees.observed call, onTime.observed agrees allowed⟩
  exact (@exec_throughout _ _ observe {} Prompt calls
    (fun watched => Agrees watched ∧ OnTime watched) initially preserved
    prompt).2

/-- A snapshot is only made of a clock that is set. -/
theorem made_set {snapshot : ClockSnapshot} (ordered : Ordered clock)
    (made : (makeSnapshot nowMillis generation clock).2.1 = some snapshot) :
    (advance nowMillis clock).2.trust ≠ .unset := by
  by_cases unset : clock.trust = .unset
  · simp only [makeSnapshot, advance_unset unset] at made
    cases made
  · have advanced := @advance_advanced clock nowMillis ordered unset
    generalize advance nowMillis clock = moved at advanced
    obtain ⟨result, after⟩ := moved
    cases advanced with
    | moved => exact unset
    | stepped =>
      intro impossible
      cases impossible
    | saturated =>
      intro impossible
      cases impossible

/-- The instant that a reading shows, in milliseconds. -/
def ClockReading.instant (reading : ClockReading) : Nat :=
  reading.unixSeconds * 1000 + reading.millisecond

theorem reading_instant (isSet : clock.trust ≠ .unset) :
    clock.reading.instant = clock.instant := by
  simp only [ClockReading.instant, KitsuClock.reading, set_iff.mpr isSet,
    if_true, KitsuClock.instant]

theorem Ordered.reading_le (ordered : Ordered clock) :
    clock.reading.instant ≤ kMaximumClockUnixSeconds * 1000 := by
  by_cases unset : clock.trust = .unset
  · have notSet : clock.set = false := by
      rw [KitsuClock.set, decide_eq_false_iff_not, not_not]
      exact unset
    simp only [ClockReading.instant, KitsuClock.reading, notSet,
      Bool.false_eq_true, if_false, Nat.zero_mul, Nat.add_zero, Nat.zero_le]
  · have valid := validInstant_iff.mp (ordered.instant unset)
    obtain ⟨⟨_, maximum⟩, small, last⟩ := valid
    rw [reading_instant unset, KitsuClock.instant]
    omega

/-- What a restored clock shows of a snapshot. -/
structure RestoredFrom (snapshot : ClockSnapshot)
    (restored : ClockResult × KitsuClock) : Prop where
  result : restored.1 = .ok
  trust : restored.2.trust = .restoredStale
  unixSeconds : restored.2.unixSeconds = snapshot.unixSeconds
  millisecond : restored.2.millisecond = snapshot.millisecond

theorem sample_anchored {result : ClockResult} {anchor : Anchor}
    (anchored : call.sample result = .anchored anchor) :
    call.sets = some anchor ∧ result = .ok := by
  unfold Call.sample at anchored
  split at anchored
  · split at anchored <;> cases anchored
  · split at anchored <;> cases anchored
  · split at anchored <;> cases anchored
  · split at anchored
    · rename_i sets
      split at anchored
      · rename_i accepted
        cases anchored
        exact ⟨sets, accepted⟩
      · cases anchored
    · cases anchored

/-- What a trusted reading shows. -/
theorem Agrees.reading (agrees : Agrees watched) {uptime : Nat}
    (trusted : (advance (millis uptime) watched.clock).2.trust = .trusted) :
    ∃ anchor, watched.watch.anchor = some anchor ∧
      (advance (millis uptime) watched.clock).2.instant = anchor.instant +
        (watched.watch.elapsed +
          (millis uptime - millis watched.watch.sampled).toNat) ∧
      (OnTime (observe watched (.read uptime)) → anchor.uptime ≤ uptime ∧
          (advance (millis uptime) watched.clock).2.instant =
            anchor.instant + (uptime - anchor.uptime)) := by
  have after := agrees.observed (.read uptime)
  have isSet : watched.clock.trust ≠ .unset := by
    intro unset
    rw [advance_unset unset] at trusted
    exact absurd (trusted.symm.trans unset) (by decide)
  have taken : Call.sample (.read uptime)
      (perform (.read uptime) watched.clock).1 = .taken uptime := by
    have advanced := @advance_advanced watched.clock (millis uptime)
      agrees.ordered isSet
    change (if (advance (millis uptime) watched.clock).1 = .notSet
      then Sample.unused else .taken uptime) = _
    rw [if_neg]
    intro notSet
    rw [notSet] at advanced
    cases advanced
  have seen : (observe watched (.read uptime)).watch =
      watched.watch.see (.taken uptime) := by
    rw [← taken]
    rfl
  obtain ⟨anchor, known, instant⟩ := after.trusted trusted
  rw [seen] at known instant
  refine ⟨anchor, known, instant, ?_⟩
  intro onTime
  have passed := onTime trusted anchor (by rw [seen]; exact known)
  rw [seen] at passed
  change anchor.uptime + (watched.watch.elapsed +
    (millis uptime - millis watched.watch.sampled).toNat) = uptime at passed
  change _ = anchor.instant + (watched.watch.elapsed +
    (millis uptime - millis watched.watch.sampled).toNat) at instant
  constructor
  · omega
  · change (advance (millis uptime) watched.clock).2.instant = _ at instant
    omega

/--
Over every run of calls: a trusted reading shows the instant that was last set
and the sum of the differences between the samples since then, which is the time
that passed when every sample came within half a period of the one before; no
reading lies behind the range; only a setter that is accepted makes the clock
trusted; and a snapshot that was made can be restored into every clock, which
then shows its instant and is not trusted.
-/
theorem clock_continuity (calls : List Call) :
    let watched := exec observe {} calls
    (∀ uptime, (read (millis uptime) watched.clock).2.1.instant ≤
      kMaximumClockUnixSeconds * 1000) ∧
    (∀ uptime, (read (millis uptime) watched.clock).2.1.trust = .trusted →
      ∃ anchor, watched.watch.anchor = some anchor ∧
        (read (millis uptime) watched.clock).2.1.instant = anchor.instant +
          (watched.watch.elapsed +
            (millis uptime - millis watched.watch.sampled).toNat) ∧
        (Throughout observe {} Prompt (calls ++ [.read uptime]) →
          anchor.uptime ≤ uptime ∧
            (read (millis uptime) watched.clock).2.1.instant =
              anchor.instant + (uptime - anchor.uptime))) ∧
    (∀ call, watched.clock.trust ≠ .trusted →
      (perform call watched.clock).2.trust = .trusted →
      ∃ anchor, call.sets = some anchor ∧ (perform call watched.clock).1 = .ok ∧
        (perform call watched.clock).2.instant = anchor.instant) ∧
    ∀ uptime generation snapshot,
      (makeSnapshot (millis uptime) generation watched.clock).2.1 =
        some snapshot →
      snapshot.unixSeconds * 1000 + snapshot.millisecond =
          (read (millis uptime) watched.clock).2.1.instant ∧
        ∀ other later,
          RestoredFrom snapshot (restore snapshot (millis later) other) := by
  have agrees := agrees_exec calls
  intro watched
  constructor
  · intro uptime
    exact (agrees.observed (.read uptime)).ordered.reading_le
  constructor
  · intro uptime trusted
    have isSet : (advance (millis uptime) watched.clock).2.trust ≠ .unset := by
      intro unset
      exact absurd (trusted.symm.trans unset) (by decide)
    have shown : (read (millis uptime) watched.clock).2.1.instant =
        (advance (millis uptime) watched.clock).2.instant :=
      reading_instant isSet
    obtain ⟨anchor, known, instant, passed⟩ := agrees.reading trusted
    rw [shown]
    refine ⟨anchor, known, instant, ?_⟩
    intro prompt
    have onTime := onTime_exec prompt
    rw [exec_concat] at onTime
    exact passed onTime
  constructor
  · intro call before trusted
    have after := agrees.observed call
    have happens := perform_happens agrees.ordered call
    rcases happens.trusted trusted with ⟨anchor, anchored⟩ | already
    · obtain ⟨sets, accepted⟩ := sample_anchored anchored
      refine ⟨anchor, sets, accepted, ?_⟩
      obtain ⟨seen, known, instant⟩ := after.trusted trusted
      have watch : (observe watched call).watch =
          watched.watch.see (.anchored anchor) := by
        rw [← anchored]
        rfl
      rw [watch] at known instant
      cases Option.some.inj known
      exact instant
    · exact absurd already before
  · intro uptime generation snapshot made
    obtain ⟨valid, seconds, milliseconds⟩ :=
      validateSnapshot_made agrees.ordered made
    constructor
    · have isSet := made_set agrees.ordered made
      have shown : (read (millis uptime) watched.clock).2.1.instant =
          (advance (millis uptime) watched.clock).2.instant :=
        reading_instant isSet
      rw [shown, seconds, milliseconds]
      rfl
    · intro other later
      unfold restore
      simp only [valid]
      exact ⟨rfl, rfl, rfl, rfl⟩

end Runs

end Kitsu.Clock
