import Kitsu.Clock.Text
import Kitsu.Crc32
import Kitsu.Lib.Saturating

/-!
# The clock

`KitsuClock` owns no oscillator.  It holds an instant and the sample of the
millisecond counter at which it was right, and every reading moves both of them
forward.  A snapshot is a record with a checksum; what is restored from one is
never trusted, since the counter does not show how long the power was absent.
-/

namespace Kitsu.Clock

open Kitsu.Lib.ByteString
open Kitsu.Crc32

/-- Where the time came from. -/
inductive ClockSource where
  | none
  | manualSerial
  | manualDevice
  | networkTime
  | authenticatedApp
deriving DecidableEq, Repr

/-- How far the time is trusted. -/
inductive ClockTrust where
  | unset
  | restoredStale
  | trusted
deriving DecidableEq, Repr

/-- The answer of a time server. -/
structure NetworkTimeSample where
  unixSeconds : Nat
  millisecond : Nat
  synchronized : Bool
deriving DecidableEq, Repr

/-- What a reader is told of the time. -/
structure ClockReading where
  unixSeconds : Nat := 0
  millisecond : Nat := 0
  utcOffsetMinutes : Int := 0
  source : ClockSource := .none
  trust : ClockTrust := .unset
  monotonicHealthy : Bool := false
deriving DecidableEq, Repr

def kSnapshotMagic : Nat := 0x314c434b
def kClockSnapshotSchemaVersion : Nat := 1
def kClockSnapshotBytes : Nat := 32

/-- The clock as it is stored. -/
structure ClockSnapshot where
  magic : Nat := kSnapshotMagic
  schemaVersion : Nat := kClockSnapshotSchemaVersion
  bytes : Nat := kClockSnapshotBytes
  source : Nat := 0
  savedTrust : Nat := 0
  generation : UInt32 := 0
  millisecond : Nat := 0
  utcOffsetMinutes : Int := 0
  unixSeconds : Nat := 0
  reserved : Bytes := List.replicate 4 0
  crc32 : UInt32 := 0
deriving DecidableEq, Repr

/-- The clock: an anchor, and the uptime it was last advanced at. -/
structure KitsuClock where
  unixSeconds : Nat := 0
  millisecond : Nat := 0
  utcOffsetMinutes : Int := 0
  lastMillis : UInt32 := 0
  restoredGeneration : UInt32 := 0
  source : ClockSource := .none
  trust : ClockTrust := .unset
  lastResult : ClockResult := .notSet
  monotonicHealthy : Bool := false
deriving DecidableEq, Repr

/-! ## Sources and trust -/

/-- The number that stands for a source in a snapshot. -/
def ClockSource.code : ClockSource → Nat
  | .none => 0
  | .manualSerial => 1
  | .manualDevice => 2
  | .networkTime => 3
  | .authenticatedApp => 4

/-- The number that stands for a trust in a snapshot. -/
def ClockTrust.code : ClockTrust → Nat
  | .unset => 0
  | .restoredStale => 1
  | .trusted => 2

/-- The source with a code, if the code is one of a source. -/
def ClockSource.ofCode : Nat → Option ClockSource
  | 0 => some .none
  | 1 => some .manualSerial
  | 2 => some .manualDevice
  | 3 => some .networkTime
  | 4 => some .authenticatedApp
  | _ => Option.none

theorem ClockSource.ofCode_code (source : ClockSource) :
    ClockSource.ofCode source.code = some source := by
  cases source <;> rfl

/-- A source that a time can have come from. -/
def validSource (source : ClockSource) : Bool :=
  ClockSource.code .manualSerial ≤ source.code &&
    source.code ≤ ClockSource.code .authenticatedApp

/-- The sources that set the clock by themselves; the network is not one. -/
def validDirectSource (source : ClockSource) : Bool :=
  source = .manualSerial || source = .manualDevice ||
    source = .authenticatedApp

theorem validSource_of_direct {source : ClockSource}
    (direct : validDirectSource source = true) : validSource source = true := by
  revert direct
  cases source <;> decide

/-! ## Setters -/

/-- A clock that was not set. -/
def reset : KitsuClock := {}

/-- The clock stands for some instant. -/
def KitsuClock.set (clock : KitsuClock) : Bool :=
  clock.trust ≠ .unset

/-- The call ends with this result. -/
def KitsuClock.ends (clock : KitsuClock) (result : ClockResult) :
    ClockResult × KitsuClock :=
  (result, { clock with lastResult := result })

/-- Set the clock to an instant; anything out of range leaves it as it was. -/
def setAnchor (unixSeconds millisecond : Nat) (source : ClockSource)
    (utcOffsetMinutes : Int) (nowMillis : UInt32) (clock : KitsuClock) :
    ClockResult × KitsuClock :=
  if !validDirectSource source then clock.ends .invalidSource
  else if !validOffset utcOffsetMinutes then clock.ends .outOfRange
  else if !validInstant unixSeconds millisecond then clock.ends .outOfRange
  else
    { clock with
      unixSeconds, millisecond, utcOffsetMinutes, source
      lastMillis := nowMillis
      trust := .trusted
      monotonicHealthy := true }.ends .ok

/-- Set the clock to a date and time with its offset. -/
def setFromIso8601 (input : Bytes) (source : ClockSource)
    (nowMillis : UInt32) (clock : KitsuClock) : ClockResult × KitsuClock :=
  if !validDirectSource source then clock.ends .invalidSource
  else
    match parseIso8601 input with
    | .error result => clock.ends result
    | .ok parsed =>
      setAnchor parsed.unixSeconds parsed.millisecond source
        parsed.utcOffsetMinutes nowMillis clock

/-- Set the clock to a number of seconds in digits. -/
def setFromUnixText (input : Bytes) (source : ClockSource)
    (utcOffsetMinutes : Int) (nowMillis : UInt32) (clock : KitsuClock) :
    ClockResult × KitsuClock :=
  if !validDirectSource source then clock.ends .invalidSource
  else
    match parseUnixText input with
    | .error result => clock.ends result
    | .ok unixSeconds =>
      setAnchor unixSeconds 0 source utcOffsetMinutes nowMillis clock

/-- Set the clock to a number of seconds. -/
def setFromUnixSeconds (unixSeconds millisecond : Nat)
    (source : ClockSource) (utcOffsetMinutes : Int) (nowMillis : UInt32)
    (clock : KitsuClock) : ClockResult × KitsuClock :=
  setAnchor unixSeconds millisecond source utcOffsetMinutes nowMillis clock

/-- Set the clock to the network's time, if the network was synchronized. -/
def acceptNtp (sample : NetworkTimeSample) (nowMillis : UInt32)
    (clock : KitsuClock) : ClockResult × KitsuClock :=
  if !sample.synchronized then clock.ends .networkTimeNotSynchronized
  else if !validInstant sample.unixSeconds sample.millisecond then
    clock.ends .outOfRange
  else
    { clock with
      unixSeconds := sample.unixSeconds
      millisecond := sample.millisecond
      lastMillis := nowMillis
      source := .networkTime
      trust := .trusted
      monotonicHealthy := true }.ends .ok

/-- Change the offset only; the instant stays. -/
def setUtcOffsetMinutes (utcOffsetMinutes : Int) (clock : KitsuClock) :
    ClockResult × KitsuClock :=
  if !validOffset utcOffsetMinutes then clock.ends .outOfRange
  else { clock with utcOffsetMinutes }.ends .ok

/-! ## Readings -/

/-- Carry the time on by the uptime that passed, modulo its wrap. -/
def advance (nowMillis : UInt32) (clock : KitsuClock) :
    ClockResult × KitsuClock :=
  if !clock.set then clock.ends .notSet
  else
    let delta := (nowMillis - clock.lastMillis).toNat
    -- A larger delta looks like a step back, and not like a wrap.
    if delta > 2147483647 then
      { clock with
        lastMillis := nowMillis
        trust := .restoredStale
        monotonicHealthy := false }.ends .monotonicDiscontinuity
    else
      let totalMilliseconds := clock.millisecond + delta
      let addedSeconds := totalMilliseconds / 1000
      let nextMillisecond := totalMilliseconds % 1000
      if addedSeconds > kMaximumClockUnixSeconds - clock.unixSeconds ||
          (clock.unixSeconds + addedSeconds = kMaximumClockUnixSeconds &&
            nextMillisecond ≠ 0) then
        { clock with
          unixSeconds := kMaximumClockUnixSeconds
          millisecond := 0
          lastMillis := nowMillis
          trust := .restoredStale
          monotonicHealthy := false }.ends .outOfRange
      else
        { clock with
          unixSeconds := clock.unixSeconds + addedSeconds
          millisecond := nextMillisecond
          lastMillis := nowMillis }.ends .ok

/-- What a reading shows of the clock. -/
def KitsuClock.reading (clock : KitsuClock) : ClockReading :=
  { unixSeconds := if clock.set then clock.unixSeconds else 0
    millisecond := if clock.set then clock.millisecond else 0
    utcOffsetMinutes := clock.utcOffsetMinutes
    source := clock.source
    trust := clock.trust
    monotonicHealthy := clock.monotonicHealthy }

/-- Advance the clock and read it. -/
def read (nowMillis : UInt32) (clock : KitsuClock) :
    ClockResult × ClockReading × KitsuClock :=
  let (result, advanced) := advance nowMillis clock
  (result, advanced.reading, advanced)

/-! ## Snapshots -/

/-- The packed fields in front of the checksum. -/
def ClockSnapshot.packed (snapshot : ClockSnapshot) : Bytes :=
  littleEndian 4 snapshot.magic ++ littleEndian 1 snapshot.schemaVersion ++
    littleEndian 1 snapshot.bytes ++ littleEndian 1 snapshot.source ++
    littleEndian 1 snapshot.savedTrust ++
    littleEndian 4 snapshot.generation.toNat ++
    littleEndian 2 snapshot.millisecond ++
    littleEndian 2 (snapshot.utcOffsetMinutes % 65536).toNat ++
    littleEndian 8 snapshot.unixSeconds ++ snapshot.reserved

def snapshotCrc (snapshot : ClockSnapshot) : UInt32 :=
  crc32 snapshot.packed

/-- Advance the clock and write it down, in a form that can be restored. -/
def makeSnapshot (nowMillis generation : UInt32) (clock : KitsuClock) :
    ClockResult × Option ClockSnapshot × KitsuClock :=
  let (advanced, clock) := advance nowMillis clock
  if advanced ≠ .ok then (advanced, none, clock)
  else
    let candidate : ClockSnapshot :=
      { source := clock.source.code
        savedTrust := clock.trust.code
        generation
        millisecond := clock.millisecond
        utcOffsetMinutes := clock.utcOffsetMinutes
        unixSeconds := clock.unixSeconds }
    let (result, clock) := clock.ends .ok
    (result, some { candidate with crc32 := snapshotCrc candidate }, clock)

/-- What a stored clock must meet, in the order it is asked. -/
def validateSnapshot (snapshot : ClockSnapshot) : ClockResult :=
  if snapshot.magic ≠ kSnapshotMagic then .badSnapshotMagic
  else if snapshot.schemaVersion ≠ kClockSnapshotSchemaVersion ||
      snapshot.bytes ≠ kClockSnapshotBytes then .unsupportedSnapshot
  else if snapshot.crc32 ≠ snapshotCrc snapshot then .corruptSnapshot
  else if !((ClockSource.ofCode snapshot.source).any validSource) ||
      (snapshot.savedTrust ≠ ClockTrust.code .trusted &&
        snapshot.savedTrust ≠ ClockTrust.code .restoredStale) ||
      !validInstant snapshot.unixSeconds snapshot.millisecond ||
      !validOffset snapshot.utcOffsetMinutes ||
      snapshot.reserved.any (· ≠ 0) then .invalidSnapshot
  else .ok

/-- Take over a stored clock; its time is stale until it is set again. -/
def restore (snapshot : ClockSnapshot) (nowMillis : UInt32)
    (clock : KitsuClock) : ClockResult × KitsuClock :=
  let valid := validateSnapshot snapshot
  if valid ≠ .ok then clock.ends valid
  else
    { clock with
      unixSeconds := snapshot.unixSeconds
      millisecond := snapshot.millisecond
      utcOffsetMinutes := snapshot.utcOffsetMinutes
      lastMillis := nowMillis
      restoredGeneration := snapshot.generation
      source := (ClockSource.ofCode snapshot.source).getD .none
      -- No time is invented for the power that was absent.
      trust := .restoredStale
      monotonicHealthy := true }.ends .ok

/-! ## What a call does -/

/-- The instant of a clock in milliseconds. -/
def KitsuClock.instant (clock : KitsuClock) : Nat :=
  clock.unixSeconds * 1000 + clock.millisecond

/-- A clock is kept in order: what it shows, when it is set, is valid. -/
structure Ordered (clock : KitsuClock) : Prop where
  offset : validOffset clock.utcOffsetMinutes = true
  source : clock.trust ≠ .unset → validSource clock.source = true
  instant : clock.trust ≠ .unset →
    validInstant clock.unixSeconds clock.millisecond = true

/-- What `advance` does to a clock that is set. -/
inductive Advanced (nowMillis : UInt32) (clock : KitsuClock) :
    ClockResult → KitsuClock → Prop where
  | moved {unixSeconds millisecond : Nat}
      (valid : validInstant unixSeconds millisecond = true)
      (moves : unixSeconds * 1000 + millisecond =
        clock.instant + (nowMillis - clock.lastMillis).toNat) :
      Advanced nowMillis clock .ok
        { clock with
          unixSeconds, millisecond
          lastMillis := nowMillis
          lastResult := .ok }
  | stepped (back : (nowMillis - clock.lastMillis).toNat > 2147483647) :
      Advanced nowMillis clock .monotonicDiscontinuity
        { clock with
          lastMillis := nowMillis
          trust := .restoredStale
          monotonicHealthy := false
          lastResult := .monotonicDiscontinuity }
  | saturated :
      Advanced nowMillis clock .outOfRange
        { clock with
          unixSeconds := kMaximumClockUnixSeconds
          millisecond := 0
          lastMillis := nowMillis
          trust := .restoredStale
          monotonicHealthy := false
          lastResult := .outOfRange }

section Advance

variable {clock : KitsuClock} {nowMillis : UInt32}

theorem set_iff : clock.set = true ↔ clock.trust ≠ .unset := by
  rw [KitsuClock.set, decide_eq_true_iff]

theorem advance_unset (unset : clock.trust = .unset) :
    advance nowMillis clock = (.notSet, { clock with lastResult := .notSet }) := by
  have notSet : clock.set = false := by
    rw [KitsuClock.set, decide_eq_false_iff_not, not_not]
    exact unset
  rw [advance, notSet]
  rfl

/-- The carry of the milliseconds into the seconds loses nothing. -/
theorem carry (unixSeconds millisecond delta : Nat) :
    (unixSeconds + (millisecond + delta) / 1000) * 1000 +
        (millisecond + delta) % 1000 =
      unixSeconds * 1000 + millisecond + delta := by
  omega

theorem advance_advanced (ordered : Ordered clock) (isSet : clock.trust ≠ .unset) :
    Advanced nowMillis clock (advance nowMillis clock).1
      (advance nowMillis clock).2 := by
  have instant := validInstant_iff.mp (ordered.instant isSet)
  obtain ⟨⟨minimum, maximum⟩, small, _⟩ := instant
  unfold advance
  rw [set_iff.mpr isSet, if_neg (by decide)]
  simp only
  split
  · rename_i back
    exact .stepped back
  split
  · exact .saturated
  · rename_i within
    simp only [Bool.or_eq_true, Bool.and_eq_true, decide_eq_true_eq, not_or,
      not_and, not_lt, gt_iff_lt] at within
    obtain ⟨fits, exact_⟩ := within
    refine @Advanced.moved nowMillis clock (clock.unixSeconds +
      (clock.millisecond + (nowMillis - clock.lastMillis).toNat) / 1000)
      ((clock.millisecond + (nowMillis - clock.lastMillis).toNat) % 1000)
      ?_ ?_
    · rw [validInstant_iff]
      refine ⟨⟨by omega, by omega⟩, Nat.mod_lt _ (by decide), ?_⟩
      intro last
      by_contra more
      exact exact_ last more
    · exact carry _ _ _

end Advance

end Kitsu.Clock
