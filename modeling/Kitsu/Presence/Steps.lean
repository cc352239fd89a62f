import Kitsu.Presence.Tracker

/-!
# What one call does to the tracker

`afterExpiry` is the tracker once the silent peers left it.  An accepted call is
that and, for an observation that finds a slot, one slot written; `Observed`
lists what an observation can do.  A signal keeps the identity of its slot and
makes it present.
-/

namespace Kitsu.Presence

open Kitsu.Lib

variable {Float : Type} {arithmetic : FloatArithmetic Float}
  {tracker : PetPresenceTracker Float} {observation : Observation Float}
  {nowMs : UInt32}

/-! ## Expiring -/

/-- The tracker with the silent peers gone. -/
def afterExpiry (tracker : PetPresenceTracker Float) (nowMs : UInt32) :
    PetPresenceTracker Float where
  slots := fun index =>
    if fallenSilent nowMs (tracker.slots index) then
      leave (tracker.slots index)
    else tracker.slots index
  clockReady := true
  lastNowMs := nowMs

/-- The slots whose peers an accepted call reports gone. -/
def goneSlots (tracker : PetPresenceTracker Float) (nowMs : UInt32) :
    List (Fin kPeerCapacity) :=
  slotOrder.filter fun index => fallenSilent nowMs (tracker.slots index)

/-- How many peers are there. -/
def presentCount (tracker : PetPresenceTracker Float) : Nat :=
  ((slotOrder.map tracker.slots).filter (·.inGroup)).length

theorem summary_presentCount :
    (summary arithmetic tracker).presentCount = presentCount tracker := by
  rw [summary, presentCount]
  split
  · rename_i group
    simp [group]
  · rfl

theorem summary_groupActive :
    (summary arithmetic tracker).groupActive =
      decide (2 ≤ presentCount tracker) := by
  rw [summary, presentCount]
  split
  · rename_i group
    simp [group]
  · rfl

/-- The report of an accepted expiry. -/
def expiryResult (arithmetic : FloatArithmetic Float)
    (tracker : PetPresenceTracker Float) (nowMs : UInt32) :
    ExpireResult Float where
  timeAccepted := true
  events :=
    { gone := (goneSlots tracker nowMs).length != 0
      groupEnded := 2 ≤ presentCount tracker &&
        presentCount (afterExpiry tracker nowMs) < 2 }
  goneUids := (goneSlots tracker nowMs).map
    fun index => (tracker.slots index).uid
  group := summary arithmetic (afterExpiry tracker nowMs)

theorem expire_accepted (accepts : clockAccepts tracker nowMs = true) :
    expire arithmetic tracker nowMs =
      (expiryResult arithmetic tracker nowMs, afterExpiry tracker nowMs) := by
  rw [expire, if_neg (by simp [accepts])]
  simp only [summary_presentCount]
  rfl

theorem expire_rejected (rejects : clockAccepts tracker nowMs = false) :
    expire arithmetic tracker nowMs =
      ({ timeAccepted := false
         events := {}
         goneUids := []
         group := summary arithmetic tracker }, tracker) := by
  rw [expire, if_pos (by simp [rejects])]

theorem fallenSilent_iff {slot : Slot Float} :
    fallenSilent nowMs slot = true ↔ slot.used = true ∧ slot.present = true ∧
      kGoneAfterMs ≤ nowMs - slot.lastSeenAtMs ∧
        nowMs - slot.lastSeenAtMs ≤ kMaximumComparableIntervalMs := by
  rw [fallenSilent, validInterval]
  by_cases comparable :
      nowMs - slot.lastSeenAtMs ≤ kMaximumComparableIntervalMs
  · simp [comparable, and_assoc]
  · simp [comparable]

theorem validInterval_isSome {later earlier : UInt32} :
    (validInterval later earlier).isSome = true ↔
      later - earlier ≤ kMaximumComparableIntervalMs := by
  rw [validInterval]
  split
  · rename_i comparable
    simp [comparable]
  · rename_i other
    simp [other]

section Slots

variable {index : Fin kPeerCapacity}

@[simp]
theorem afterExpiry_used :
    ((afterExpiry tracker nowMs).slots index).used =
      (tracker.slots index).used := by
  rw [afterExpiry]
  simp only
  split <;> rfl

@[simp]
theorem afterExpiry_uid :
    ((afterExpiry tracker nowMs).slots index).uid =
      (tracker.slots index).uid := by
  rw [afterExpiry]
  simp only
  split <;> rfl

@[simp]
theorem afterExpiry_lastSeenAtMs :
    ((afterExpiry tracker nowMs).slots index).lastSeenAtMs =
      (tracker.slots index).lastSeenAtMs := by
  rw [afterExpiry]
  simp only
  split <;> rfl

theorem afterExpiry_present :
    ((afterExpiry tracker nowMs).slots index).present = true ↔
      (tracker.slots index).present = true ∧
        fallenSilent nowMs (tracker.slots index) = false := by
  rw [afterExpiry]
  simp only
  split
  · rename_i silent
    simp [leave, silent]
  · rename_i heard
    simp [heard]

end Slots

/-! ## Slots of peers -/

theorem findSlot_some {uid : UInt16} {index : Fin kPeerCapacity}
    (found : findSlot tracker uid = some index) :
    (tracker.slots index).used = true ∧ (tracker.slots index).uid = uid := by
  have tested := List.find?_some found
  simpa using tested

theorem findSlot_none {uid : UInt16} :
    findSlot tracker uid = none ↔
      ∀ index, (tracker.slots index).used = true →
        (tracker.slots index).uid ≠ uid := by
  rw [findSlot, List.find?_eq_none]
  simp [slotOrder]

/-- A slot is given to a new peer only when nobody present holds it. -/
theorem allocateSlot_some {index : Fin kPeerCapacity}
    (allocated : allocateSlot tracker nowMs = some index) :
    (tracker.slots index).used = false ∨
      (tracker.slots index).present = false := by
  rw [allocateSlot] at allocated
  split at allocated
  · rename_i unused found
    cases allocated
    have tested := List.find?_some found
    exact .inl (by simpa using tested)
  · split at allocated
    · cases allocated
    · rename_i first rest candidates
      cases allocated
      have member := Seniority.scan_mem (fun index oldest =>
        decide (nowMs - (tracker.slots oldest).lastSeenAtMs <
          nowMs - (tracker.slots index).lastSeenAtMs)) first rest
      rw [← candidates, List.mem_filter] at member
      have free := member.2
      simp only [replaceable, Bool.and_eq_true, Bool.not_eq_true'] at free
      exact .inr free.1

theorem allocateSlot_none :
    allocateSlot tracker nowMs = none ↔
      ∀ index, (tracker.slots index).used = true ∧
        replaceable tracker nowMs index = false := by
  rw [allocateSlot]
  split
  · rename_i unused found
    have tested := List.find?_some found
    constructor
    · nofun
    · intro full
      rw [(full unused).1] at tested
      cases tested
  · rename_i crowded
    rw [List.find?_eq_none] at crowded
    have used (index : Fin kPeerCapacity) :
        (tracker.slots index).used = true := by
      simpa using crowded index (List.mem_finRange index)
    split
    · rename_i nobody
      rw [List.filter_eq_nil_iff] at nobody
      constructor
      · intro _ index
        refine ⟨used index, ?_⟩
        simpa using nobody index (List.mem_finRange index)
      · intro _
        rfl
    · rename_i first rest candidates
      constructor
      · nofun
      · intro full
        have member : first ∈ slotOrder.filter (replaceable tracker nowMs) := by
          rw [candidates]
          exact List.mem_cons_self
        rw [List.mem_filter, (full first).2] at member
        cases member.2

/-- What the claimed slot is: the peer's own, or a fresh one. -/
theorem claimSlot_some {index : Fin kPeerCapacity} {slot : Slot Float}
    (claimed : claimSlot arithmetic tracker observation = some (index, slot)) :
    slot.used = true ∧ slot.uid = observation.uid ∧
      ((slot = tracker.slots index) ∨ (slot.present = false ∧
          (∀ other, (tracker.slots other).used = true →
            (tracker.slots other).uid ≠ observation.uid) ∧
          ((tracker.slots index).used = false ∨
            (tracker.slots index).present = false))) := by
  rw [claimSlot] at claimed
  split at claimed
  · rename_i own found
    cases claimed
    have named := findSlot_some found
    exact ⟨named.1, named.2, .inl rfl⟩
  · rename_i missing
    split at claimed
    · rename_i free allocated
      cases claimed
      exact ⟨rfl, rfl, .inr ⟨rfl, findSlot_none.mp missing,
        allocateSlot_some allocated⟩⟩
    · cases claimed

theorem claimSlot_none :
    claimSlot arithmetic tracker observation = none ↔
      ∀ index, (tracker.slots index).used = true ∧
        (tracker.slots index).uid ≠ observation.uid ∧
        replaceable tracker observation.observedAtMs index = false := by
  rw [claimSlot]
  split
  · rename_i own found
    have named := findSlot_some found
    constructor
    · nofun
    · intro full
      exact absurd named.2 (full own).2.1
  · rename_i missing
    rw [findSlot_none] at missing
    split
    · rename_i free allocated
      constructor
      · nofun
      · intro full
        have none : allocateSlot tracker observation.observedAtMs = none :=
          allocateSlot_none.mpr fun index =>
            ⟨(full index).1, (full index).2.2⟩
        rw [none] at allocated
        cases allocated
    · rename_i none
      constructor
      · intro _ index
        have full := allocateSlot_none.mp none index
        exact ⟨full.1, missing index full.1, full.2⟩
      · intro _
        rfl

/-! ## Signals -/

/-- What a signal leaves of a slot and of the reports so far. -/
structure Received (slot : Slot Float) (observation : Observation Float)
    (events : Events) (after : Slot Float × Events) : Prop where
  used : after.1.used = slot.used
  uid : after.1.uid = slot.uid
  present : after.1.present = true
  lastSeenAtMs : after.1.lastSeenAtMs = observation.observedAtMs
  appeared : after.2.appeared = (events.appeared || !slot.present)
  groupStarted : after.2.groupStarted = events.groupStarted
  groupEnded : after.2.groupEnded = events.groupEnded

/-- Two slots of one peer, as present and as lately heard. -/
structure SameSignal (slot other : Slot Float) : Prop where
  used : other.used = slot.used
  uid : other.uid = slot.uid
  present : other.present = slot.present
  lastSeenAtMs : other.lastSeenAtMs = slot.lastSeenAtMs

/-- Two words with the same bits for the peer and its group. -/
structure SameReports (events other : Events) : Prop where
  appeared : other.appeared = events.appeared
  groupStarted : other.groupStarted = events.groupStarted
  groupEnded : other.groupEnded = events.groupEnded

theorem voteTrend_same (slot : Slot Float) (nowMs : UInt32)
    (candidate : SignalTrend) :
    SameSignal slot (voteTrend slot nowMs candidate) := by
  rw [voteTrend]
  split
  · exact ⟨rfl, rfl, rfl, rfl⟩
  · generalize (_ && decide (slot.trendVotes < 255)) = counts
    split
    · exact ⟨rfl, rfl, rfl, rfl⟩
    · exact ⟨rfl, rfl, rfl, rfl⟩

theorem settleTrend_same (slot : Slot Float) (nowMs : UInt32)
    (candidate : SignalTrend) (events : Events) :
    SameSignal slot (settleTrend slot nowMs candidate events).1 ∧
      SameReports events (settleTrend slot nowMs candidate events).2 := by
  constructor
  · exact ⟨rfl, rfl, rfl, rfl⟩
  · simp only [settleTrend]
    split
    · exact ⟨rfl, rfl, rfl⟩
    · cases candidate with
      | unknown => exact ⟨rfl, rfl, rfl⟩
      | steady => exact ⟨rfl, rfl, rfl⟩
      | approaching => exact ⟨rfl, rfl, rfl⟩
      | leaving => exact ⟨rfl, rfl, rfl⟩

theorem filterSignal_same (arithmetic : FloatArithmetic Float)
    (slot : Slot Float) (observation : Observation Float) (events : Events) :
    SameSignal slot (filterSignal arithmetic slot observation events).1 ∧
      SameReports events
        (filterSignal arithmetic slot observation events).2 := by
  rw [filterSignal]
  simp only
  generalize nextBand arithmetic slot.band _ = band
  have banded : SameReports events
      (if band = slot.band then events
        else { events with bandChanged := true }) := by
    split
    · exact ⟨rfl, rfl, rfl⟩
    · exact ⟨rfl, rfl, rfl⟩
  generalize (if band = slot.band then events
    else { events with bandChanged := true }) = reports at banded ⊢
  split
  · exact ⟨⟨rfl, rfl, rfl, rfl⟩, banded⟩
  · split
    · exact ⟨⟨rfl, rfl, rfl, rfl⟩, banded⟩
    · split
      · exact ⟨⟨rfl, rfl, rfl, rfl⟩, banded⟩
      · rename_i candidate
        generalize trendCandidate arithmetic _ = trend
        generalize filtered : Slot.mk _ _ _ _ _ _ _ _ _ _ _ _ _ _ _ _ _ _ =
          heard
        have voted := voteTrend_same heard observation.observedAtMs trend
        have same : SameSignal slot heard := by
          rw [← filtered]
          exact ⟨rfl, rfl, rfl, rfl⟩
        have carried : SameSignal slot
            (voteTrend heard observation.observedAtMs trend) :=
          ⟨voted.used.trans same.used, voted.uid.trans same.uid,
            voted.present.trans same.present,
            voted.lastSeenAtMs.trans same.lastSeenAtMs⟩
        split
        · exact ⟨carried, banded⟩
        · rcases settleTrend_same
            (voteTrend heard observation.observedAtMs trend)
            observation.observedAtMs trend reports with ⟨settled, reported⟩
          exact ⟨⟨settled.used.trans carried.used, settled.uid.trans carried.uid,
              settled.present.trans carried.present,
              settled.lastSeenAtMs.trans carried.lastSeenAtMs⟩,
            reported.appeared.trans banded.appeared,
            reported.groupStarted.trans banded.groupStarted,
            reported.groupEnded.trans banded.groupEnded⟩

theorem updateSignal_received (slot : Slot Float)
    (observation : Observation Float) (events : Events)
    (present : slot.present = true) :
    Received slot observation events
      (updateSignal arithmetic slot observation events) := by
  rw [updateSignal]
  have appeared (before : Bool) : before = (before || !slot.present) := by
    rw [present, Bool.not_true, Bool.or_false]
  split
  · exact ⟨rfl, rfl, present, rfl, appeared _, rfl, rfl⟩
  · split
    · exact ⟨rfl, rfl, present, rfl, appeared _, rfl, rfl⟩
    · rcases filterSignal_same arithmetic { slot with
          latestRssiDbm := observation.rssiDbm
          latestSnrDb := observation.snrDb
          lastSeenAtMs := observation.observedAtMs
          familiar := slot.familiar ||
            (observation.familiarHint && !slot.familiar) } observation
          { events with
            familiar := events.familiar ||
              (observation.familiarHint && !slot.familiar) }
        with ⟨same, reports⟩
      exact ⟨same.used, same.uid, same.present.trans present,
        same.lastSeenAtMs, reports.appeared.trans (appeared _),
        reports.groupStarted, reports.groupEnded⟩

theorem receive_received (arithmetic : FloatArithmetic Float)
    (slot : Slot Float) (observation : Observation Float) (events : Events) :
    Received slot observation events
      (receive arithmetic slot observation events) := by
  rw [receive]
  rcases absent : slot.present with _ | _
  · rw [if_pos Bool.not_false]
    refine ⟨rfl, rfl, rfl, rfl, ?_, rfl, rfl⟩
    rw [absent]
    exact (Bool.or_true _).symm
  · rw [if_neg (by simp)]
    exact updateSignal_received slot observation events absent

/-! ## Observing -/

/-- An observation that reached the slots. -/
structure Reached (arithmetic : FloatArithmetic Float)
    (tracker : PetPresenceTracker Float) (observation : Observation Float) :
    Prop where
  valid : validObservation arithmetic observation = true
  accepts : clockAccepts tracker observation.observedAtMs = true
  current : olderThanSlot tracker observation = false

/-- The tracker with a slot written. -/
def writeSlot (tracker : PetPresenceTracker Float)
    (index : Fin kPeerCapacity) (slot : Slot Float) :
    PetPresenceTracker Float :=
  { tracker with slots := Function.update tracker.slots index slot }

/-- What an observation does to the tracker, and how it is answered. -/
inductive Observed (arithmetic : FloatArithmetic Float)
    (tracker : PetPresenceTracker Float) (observation : Observation Float) :
    ObserveResult Float × PetPresenceTracker Float → Prop where
  | refused (result : ObserveResult Float)
      (unreached : ¬ Reached arithmetic tracker observation)
      (status : result.status =
        if validObservation arithmetic observation then .staleTimestamp
        else .invalidInput)
      (silent : result.events = {}) (nobody : result.goneUids = []) :
      Observed arithmetic tracker observation (result, tracker)
  | crowded (result : ObserveResult Float)
      (reached : Reached arithmetic tracker observation)
      (full : claimSlot arithmetic
        (afterExpiry tracker observation.observedAtMs) observation = none)
      (status : result.status = .capacityFull)
      (events : result.events = (expiryResult arithmetic tracker
        observation.observedAtMs).events)
      (gone : result.goneUids = (expiryResult arithmetic tracker
        observation.observedAtMs).goneUids) :
      Observed arithmetic tracker observation
        (result, afterExpiry tracker observation.observedAtMs)
  | heard (result : ObserveResult Float) (index : Fin kPeerCapacity)
      (slot updated : Slot Float)
      (reached : Reached arithmetic tracker observation)
      (claimed : claimSlot arithmetic
        (afterExpiry tracker observation.observedAtMs) observation =
          some (index, slot))
      (used : updated.used = slot.used) (uid : updated.uid = slot.uid)
      (present : updated.present = true)
      (lastSeenAtMs : updated.lastSeenAtMs = observation.observedAtMs)
      (status : result.status = .ok)
      (appeared : result.events.appeared = !slot.present)
      (groupEnded : result.events.groupEnded = (expiryResult arithmetic
        tracker observation.observedAtMs).events.groupEnded)
      (groupStarted : result.events.groupStarted =
        (presentCount (afterExpiry tracker observation.observedAtMs) < 2 &&
          2 ≤ presentCount (writeSlot
            (afterExpiry tracker observation.observedAtMs) index updated) : Bool))
      (gone : result.goneUids = (expiryResult arithmetic tracker
        observation.observedAtMs).goneUids) :
      Observed arithmetic tracker observation
        (result, writeSlot (afterExpiry tracker observation.observedAtMs)
          index updated)

theorem observe_observed (arithmetic : FloatArithmetic Float)
    (tracker : PetPresenceTracker Float) (observation : Observation Float) :
    Observed arithmetic tracker observation
      (observe arithmetic tracker observation) := by
  rw [observe]
  split
  · rename_i invalid
    simp only [Bool.not_eq_true'] at invalid
    refine .refused _ ?_ ?_ rfl rfl
    · intro reached
      rw [reached.valid] at invalid
      cases invalid
    · rw [if_neg (by simp [invalid])]
  rename_i valid
  simp only [Bool.not_eq_true', Bool.not_eq_false] at valid
  split
  · rename_i rejects
    refine .refused _ ?_ ?_ rfl rfl
    · intro reached
      rw [reached.accepts] at rejects
      cases rejects
    · rw [if_pos valid]
      rfl
  rename_i accepts
  simp only [Bool.not_eq_true', Bool.not_eq_false] at accepts
  split
  · rename_i older
    refine .refused _ ?_ ?_ rfl rfl
    · intro reached
      rw [reached.current] at older
      cases older
    · rw [if_pos valid]
      rfl
  rename_i current
  have reached : Reached arithmetic tracker observation :=
    ⟨valid, accepts, by simpa using current⟩
  rw [expire_accepted accepts]
  simp only
  split
  · rename_i full
    exact .crowded _ reached full rfl rfl rfl
  · rename_i index slot claimed
    have received := receive_received arithmetic slot
      observation (expiryResult arithmetic tracker observation.observedAtMs).events
    refine .heard _ index slot _ reached claimed received.used received.uid
      received.present received.lastSeenAtMs rfl ?_ ?_ ?_ rfl
    · exact received.appeared
    · exact received.groupEnded
    · have expired : (expiryResult arithmetic tracker
          observation.observedAtMs).group.presentCount =
            presentCount (afterExpiry tracker observation.observedAtMs) :=
        summary_presentCount
      simp only [received.groupStarted, summary_presentCount, expired]
      exact Bool.false_or _

end Kitsu.Presence
