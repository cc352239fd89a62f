import Kitsu.Lib.Run
import Kitsu.Presence.Steps

/-!
# Observations the tracker refuses

A slot keeps the time of its last signal, and after half the range of the counter
that time can no longer be compared: its peer is stale when it comes back, and a
new peer does not get the slot.  An observation that is refused for its fields
leaves the tracker's own clock behind in the same way.  `Comparable` says on the
state before a call that none of this is in its way.
-/

namespace Kitsu.Presence

open Kitsu.Lib Kitsu.Lib.Run

/-- What the rest of the firmware asks of the tracker. -/
inductive Request (Float : Type) where
  | observe (uid : UInt16) (rssiDbm snrDb : Float) (familiarHint : Bool)
  | expire

/-- A request at a time of the device, which its counter shows wrapped. -/
structure Event (Float : Type) where
  time : Nat
  request : Request Float

variable {Float : Type}

/-- The uptime of an event, modulo its wrap. -/
def Event.stamp (event : Event Float) : UInt32 :=
  UInt32.ofNat event.time

/-- The observation of a signal at this time. -/
def observationAt (time : Nat) (uid : UInt16) (rssiDbm snrDb : Float)
    (familiarHint : Bool) : Observation Float where
  uid := uid
  rssiDbm := rssiDbm
  snrDb := snrDb
  observedAtMs := UInt32.ofNat time
  familiarHint := familiarHint

variable (arithmetic : FloatArithmetic Float)

/-- The tracker after a call. -/
def perform (tracker : PetPresenceTracker Float) (event : Event Float) :
    PetPresenceTracker Float :=
  match event.request with
  | .observe uid rssiDbm snrDb familiarHint =>
    (observe arithmetic tracker
      (observationAt event.time uid rssiDbm snrDb familiarHint)).2
  | .expire => (expire arithmetic tracker event.stamp).2

/-- The peers a call reports gone. -/
def goneAt (tracker : PetPresenceTracker Float) (event : Event Float) :
    List UInt16 :=
  match event.request with
  | .observe uid rssiDbm snrDb familiarHint =>
    (observe arithmetic tracker
      (observationAt event.time uid rssiDbm snrDb familiarHint)).1.goneUids
  | .expire => (expire arithmetic tracker event.stamp).1.goneUids

/-- Calls follow one another within half the range of the counter. -/
def Timely (history : List (Event Float)) : Prop :=
  history.IsChain fun event next =>
    event.time ≤ next.time ∧ next.time < event.time + 2 ^ 31

/-! ## What a caller expects -/

/-- Eight peers other than this one are present. -/
structure EightOthers (tracker : PetPresenceTracker Float) (uid : UInt16) :
    Prop where
  present : ∀ index, (tracker.slots index).present = true
  others : ∀ index, (tracker.slots index).uid ≠ uid
  distinct : Function.Injective fun index => (tracker.slots index).uid

/-- A peer that was present is still there, or was reported gone. -/
def PresentKept (tracker : PetPresenceTracker Float) (event : Event Float) :
    Prop :=
  ∀ index, (tracker.slots index).present = true →
    (tracker.slots index).uid ∈ goneAt arithmetic tracker event ∨
      (((perform arithmetic tracker event).slots index).present = true ∧
        ((perform arithmetic tracker event).slots index).uid =
          (tracker.slots index).uid)

/-- An observation with valid fields is not stale, and is refused in a crowd. -/
structure Admitted (tracker : PetPresenceTracker Float)
    (observation : Observation Float) : Prop where
  notStale : (observe arithmetic tracker observation).1.status ≠
    .staleTimestamp
  crowd : (observe arithmetic tracker observation).1.status = .capacityFull →
    EightOthers (observe arithmetic tracker observation).2 observation.uid

/-- The event refuses no peer for want of room. -/
def Fair (tracker : PetPresenceTracker Float) (event : Event Float) : Prop :=
  PresentKept arithmetic tracker event ∧
    match event.request with
    | .observe uid rssiDbm snrDb familiarHint =>
      validObservation arithmetic
          (observationAt event.time uid rssiDbm snrDb familiarHint) = true →
        Admitted arithmetic tracker
          (observationAt event.time uid rssiDbm snrDb familiarHint)
    | .expire => True

/-! ## What the code needs for it -/

/-- The counter's times that this observation depends on can be compared. -/
structure Comparable (tracker : PetPresenceTracker Float)
    (observation : Observation Float) : Prop where
  /-- The last accepted call is near enough. -/
  clock : tracker.clockReady = true →
    observation.observedAtMs - tracker.lastNowMs ≤ kMaximumComparableIntervalMs
  /-- So is the last signal of the peer itself. -/
  own : ∀ index, (tracker.slots index).used = true →
    (tracker.slots index).uid = observation.uid →
      observation.observedAtMs - (tracker.slots index).lastSeenAtMs ≤
        kMaximumComparableIntervalMs
  /-- A new peer finds a slot when not everybody else is present. -/
  spare : (∀ index, (tracker.slots index).used = true ∧
      (tracker.slots index).uid ≠ observation.uid) →
    (∃ index, (tracker.slots index).present = false) →
    ∃ index,
      observation.observedAtMs - (tracker.slots index).lastSeenAtMs ≤
          kMaximumComparableIntervalMs ∧
        ((tracker.slots index).present = false ∨
          kGoneAfterMs ≤ observation.observedAtMs -
            (tracker.slots index).lastSeenAtMs)

/-- Every observation with valid fields meets comparable times. -/
def ComparableTimes (tracker : PetPresenceTracker Float)
    (event : Event Float) : Prop :=
  match event.request with
  | .observe uid rssiDbm snrDb familiarHint =>
    validObservation arithmetic
        (observationAt event.time uid rssiDbm snrDb familiarHint) = true →
      Comparable tracker
        (observationAt event.time uid rssiDbm snrDb familiarHint)
  | .expire => True

/-! ## The tables of a run -/

/-- Only slots in use are present, and no two of them are one peer's. -/
structure Sound (tracker : PetPresenceTracker Float) : Prop where
  used : ∀ index, (tracker.slots index).present = true →
    (tracker.slots index).used = true
  distinct : ∀ index other, (tracker.slots index).used = true →
    (tracker.slots other).used = true →
    (tracker.slots index).uid = (tracker.slots other).uid → index = other

variable {arithmetic} {tracker : PetPresenceTracker Float}
  {observation : Observation Float}

theorem sound_reset : Sound (reset arithmetic) := by
  constructor
  · intro index present
    cases present
  · intro index other used
    cases used

theorem Sound.afterExpiry (sound : Sound tracker) (nowMs : UInt32) :
    Sound (afterExpiry tracker nowMs) := by
  constructor
  · intro index present
    rw [afterExpiry_present] at present
    rw [afterExpiry_used]
    exact sound.used index present.1
  · intro index other used otherUsed same
    rw [afterExpiry_used] at used otherUsed
    rw [afterExpiry_uid, afterExpiry_uid] at same
    exact sound.distinct index other used otherUsed same

theorem writeSlot_same (index : Fin kPeerCapacity) (slot : Slot Float) :
    (writeSlot tracker index slot).slots index = slot :=
  Function.update_self _ _ _

variable {index : Fin kPeerCapacity}

variable {other : Fin kPeerCapacity}

theorem writeSlot_other (slot : Slot Float) (elsewhere : other ≠ index) :
    (writeSlot tracker index slot).slots other = tracker.slots other :=
  Function.update_of_ne elsewhere _ _

variable {slot : Slot Float}

/-- A claimed slot is its peer's only one. -/
theorem claimed_unique (sound : Sound tracker)
    (claimed : claimSlot arithmetic tracker observation = some (index, slot))
    (used : (tracker.slots other).used = true)
    (same : (tracker.slots other).uid = observation.uid) : other = index := by
  rcases claimSlot_some claimed with ⟨taken, named, own | ⟨-, missing, -⟩⟩
  · rw [own] at taken named
    exact sound.distinct other index used taken (same.trans named.symm)
  · exact absurd same (missing other used)

theorem Sound.write (sound : Sound tracker) {updated : Slot Float}
    (claimed : claimSlot arithmetic tracker observation = some (index, slot))
    (used : updated.used = slot.used) (uid : updated.uid = slot.uid) :
    Sound (writeSlot tracker index updated) := by
  rcases claimSlot_some claimed with ⟨taken, named, -⟩
  constructor
  · intro other present
    by_cases here : other = index
    · subst here
      rw [writeSlot_same]
      exact used.trans taken
    · rw [writeSlot_other _ here] at present ⊢
      exact sound.used other present
  · intro first second firstUsed secondUsed same
    by_cases here : first = index
    · by_cases there : second = index
      · exact here.trans there.symm
      · subst here
        rw [writeSlot_same, writeSlot_other _ there, uid, named] at same
        rw [writeSlot_other _ there] at secondUsed
        exact (claimed_unique sound claimed secondUsed same.symm).symm
    · by_cases there : second = index
      · subst there
        rw [writeSlot_same, writeSlot_other _ here, uid, named] at same
        rw [writeSlot_other _ here] at firstUsed
        exact claimed_unique sound claimed firstUsed same
      · rw [writeSlot_other _ here] at firstUsed same
        rw [writeSlot_other _ there] at secondUsed same
        exact sound.distinct first second firstUsed secondUsed same

theorem Observed.sound {reply : ObserveResult Float × PetPresenceTracker Float}
    (observed : Observed arithmetic tracker observation reply)
    (sound : Sound tracker) : Sound reply.2 := by
  cases observed with
  | refused result unreached status silent nobody => exact sound
  | crowded result reached full status events gone =>
    exact sound.afterExpiry _
  | heard result index slot updated reached claimed used uid present seen status
      appeared ended started gone =>
      exact (sound.afterExpiry _).write claimed used uid

theorem Sound.perform (sound : Sound tracker) (event : Event Float) :
    Sound (perform arithmetic tracker event) := by
  rcases event with ⟨time, request⟩
  cases request with
  | observe uid rssiDbm snrDb familiarHint =>
    exact (observe_observed arithmetic tracker _).sound sound
  | expire =>
    rcases accepts : clockAccepts tracker (UInt32.ofNat time) with _ | _
    · rw [Presence.perform, Event.stamp]
      simp only [expire_rejected accepts]
      exact sound
    · rw [Presence.perform, Event.stamp]
      simp only [expire_accepted accepts]
      exact sound.afterExpiry _

/-! ## Present peers -/

variable {nowMs : UInt32}

theorem mem_goneUids (silent : fallenSilent nowMs (tracker.slots index) = true) :
    (tracker.slots index).uid ∈
      (expiryResult arithmetic tracker nowMs).goneUids :=
  List.mem_map.mpr ⟨index,
    List.mem_filter.mpr ⟨List.mem_finRange index, silent⟩, rfl⟩

/-- A written slot is the peer's own, or nobody present had it. -/
theorem Observed.kept {reply : ObserveResult Float × PetPresenceTracker Float}
    (observed : Observed arithmetic tracker observation reply)
    (sound : Sound tracker) (present : (tracker.slots index).present = true) :
    (tracker.slots index).uid ∈ reply.1.goneUids ∨
      ((reply.2.slots index).present = true ∧
        (reply.2.slots index).uid = (tracker.slots index).uid) := by
  cases observed with
  | refused result unreached status silent nobody =>
    exact .inr ⟨present, rfl⟩
  | crowded result reached full status events gone =>
    rcases silent : fallenSilent observation.observedAtMs
      (tracker.slots index) with _ | _
    · exact .inr ⟨afterExpiry_present.mpr ⟨present, silent⟩, afterExpiry_uid⟩
    · exact .inl (gone ▸ mem_goneUids silent)
  | heard result place slot updated reached claimed used uid here seen status
      appeared ended started gone =>
      rcases silent : fallenSilent observation.observedAtMs
        (tracker.slots index) with _ | _
      · refine .inr ?_
        have still := afterExpiry_present.mpr ⟨present, silent⟩
        by_cases same : index = place
        · subst same
          rw [writeSlot_same]
          refine ⟨here, ?_⟩
          rcases claimSlot_some claimed with
            ⟨taken, named, own | ⟨-, -, unused | absent⟩⟩
          · rw [uid, own]
            exact afterExpiry_uid
          · rw [afterExpiry_used, sound.used index present] at unused
            cases unused
          · rw [still] at absent
            cases absent
        · rw [writeSlot_other _ same]
          exact ⟨still, afterExpiry_uid⟩
      · exact .inl (gone ▸ mem_goneUids silent)

theorem Sound.presentKept (sound : Sound tracker) (event : Event Float) :
    PresentKept arithmetic tracker event := by
  rcases event with ⟨time, request⟩
  intro index present
  cases request with
  | observe uid rssiDbm snrDb familiarHint =>
    exact (observe_observed arithmetic tracker _).kept sound present
  | expire =>
    rw [goneAt, Presence.perform, Event.stamp]
    rcases accepts : clockAccepts tracker (UInt32.ofNat time) with _ | _
    · simp only [expire_rejected accepts]
      exact .inr ⟨present, trivial⟩
    · simp only [expire_accepted accepts]
      rcases silent : fallenSilent (UInt32.ofNat time)
        (tracker.slots index) with _ | _
      · exact .inr ⟨afterExpiry_present.mpr ⟨present, silent⟩, afterExpiry_uid⟩
      · exact .inl (mem_goneUids silent)

/-! ## Refusals -/

theorem clockAccepts_iff :
    clockAccepts tracker nowMs = true ↔
      (tracker.clockReady = true →
        nowMs - tracker.lastNowMs ≤ kMaximumComparableIntervalMs) := by
  rw [clockAccepts, Bool.or_eq_true, Bool.not_eq_true', validInterval_isSome]
  rcases tracker.clockReady with _ | _
  · simp
  · simp

theorem olderThanSlot_false (sound : Sound tracker) :
    olderThanSlot tracker observation = false ↔
      ∀ index, (tracker.slots index).used = true →
        (tracker.slots index).uid = observation.uid →
          observation.observedAtMs - (tracker.slots index).lastSeenAtMs ≤
            kMaximumComparableIntervalMs := by
  rw [olderThanSlot]
  split
  · rename_i own found
    have named := findSlot_some found
    rw [Option.isNone_eq_false_iff, validInterval_isSome]
    constructor
    · intro near index used same
      have here := sound.distinct index own used named.1
        (same.trans named.2.symm)
      exact here ▸ near
    · intro near
      exact near own named.1 named.2
  · rename_i missing
    rw [findSlot_none] at missing
    constructor
    · intro _ index used same
      exact absurd same (missing index used)
    · intro _
      rfl

theorem replaceable_afterExpiry (sound : Sound tracker) :
    replaceable (afterExpiry tracker nowMs) nowMs index = true ↔
      nowMs - (tracker.slots index).lastSeenAtMs ≤
          kMaximumComparableIntervalMs ∧
        ((tracker.slots index).present = false ∨
          kGoneAfterMs ≤ nowMs - (tracker.slots index).lastSeenAtMs) := by
  rw [replaceable, Bool.and_eq_true, Bool.not_eq_true', validInterval_isSome,
    afterExpiry_lastSeenAtMs, Bool.eq_false_iff, ne_eq, afterExpiry_present]
  rcases present : (tracker.slots index).present with _ | _
  · simp
  · have used := sound.used index present
    rw [← Bool.not_eq_true, fallenSilent_iff]
    simp only [present, used, true_and]
    constructor
    · rintro ⟨silent, near⟩
      refine ⟨near, .inr ?_⟩
      by_contra recent
      exact silent fun gone => recent gone.1
    · rintro ⟨near, absent | silent⟩
      · cases absent
      · exact ⟨fun keeps => keeps ⟨silent, near⟩, near⟩

/-- An observation is admitted exactly when its times can be compared. -/
theorem admitted_iff (sound : Sound tracker)
    (valid : validObservation arithmetic observation = true) :
    Admitted arithmetic tracker observation ↔
      Comparable tracker observation := by
  have observed := observe_observed arithmetic tracker observation
  constructor
  · rintro ⟨notStale, crowd⟩
    generalize observe arithmetic tracker observation = reply
      at observed notStale crowd
    cases observed with
    | refused result unreached status silent nobody =>
      rw [if_pos valid] at status
      exact absurd status notStale
    | crowded result reached full status events gone =>
      refine ⟨clockAccepts_iff.mp reached.accepts,
        (olderThanSlot_false sound).mp reached.current, ?_⟩
      rintro - ⟨index, absent⟩
      have present := afterExpiry_present.mp
        ((crowd status).present index)
      rw [absent] at present
      cases present.1
    | heard result index slot updated reached claimed used uid present seen
        status appeared ended started gone =>
        refine ⟨clockAccepts_iff.mp reached.accepts,
          (olderThanSlot_false sound).mp reached.current, ?_⟩
        intro others _
        by_contra nobody
        have full : claimSlot arithmetic
            (afterExpiry tracker observation.observedAtMs) observation =
              none := by
          rw [claimSlot_none]
          intro place
          rw [afterExpiry_used, afterExpiry_uid]
          refine ⟨(others place).1, (others place).2, ?_⟩
          rw [Bool.eq_false_iff, ne_eq, replaceable_afterExpiry sound]
          exact fun free => nobody ⟨place, free⟩
        rw [full] at claimed
        cases claimed
  · rintro ⟨clock, own, spare⟩
    have reached : Reached arithmetic tracker observation :=
      ⟨valid, clockAccepts_iff.mpr clock, (olderThanSlot_false sound).mpr own⟩
    suffices answered :
        (observe arithmetic tracker observation).1.status ≠ .staleTimestamp ∧
          ((observe arithmetic tracker observation).1.status = .capacityFull →
            EightOthers (observe arithmetic tracker observation).2
              observation.uid) from
      ⟨answered.1, answered.2⟩
    generalize observe arithmetic tracker observation = reply at observed
    cases observed with
    | refused result unreached status silent nobody =>
      exact absurd reached unreached
    | crowded result _ full status events gone =>
      rw [status]
      refine ⟨nofun, fun _ => ?_⟩
      rw [claimSlot_none] at full
      have taken (index : Fin kPeerCapacity) := (full index).1
      have others (index : Fin kPeerCapacity) := (full index).2.1
      have kept (index : Fin kPeerCapacity) :=
        (replaceable_afterExpiry sound).not.mp
          (Bool.eq_false_iff.mp (full index).2.2)
      have before (index : Fin kPeerCapacity) :
          (tracker.slots index).present = true := by
        by_contra absent
        rcases spare (fun place => ⟨by simpa using taken place,
          by simpa using others place⟩)
          ⟨index, Bool.eq_false_iff.mpr absent⟩ with ⟨place, free⟩
        exact kept place free
      refine ⟨?_, others, ?_⟩
      · intro index
        rw [afterExpiry_present]
        refine ⟨before index, ?_⟩
        rw [Bool.eq_false_iff, ne_eq, fallenSilent_iff]
        rintro ⟨-, -, silent, near⟩
        exact kept index ⟨near, .inr silent⟩
      · intro first second same
        exact (sound.afterExpiry _).distinct first second (taken first)
          (taken second) same
    | heard result index slot updated _ claimed used uid present seen status
        appeared ended started gone =>
        rw [status]
        exact ⟨nofun, nofun⟩

theorem fair_iff (sound : Sound tracker) (event : Event Float) :
    Fair arithmetic tracker event ↔
      ComparableTimes arithmetic tracker event := by
  rcases event with ⟨time, request⟩
  have kept : PresentKept arithmetic tracker ⟨time, request⟩ :=
    sound.presentKept _
  cases request with
  | observe uid rssiDbm snrDb familiarHint =>
    constructor
    · rintro ⟨-, admitted⟩ valid
      exact (admitted_iff sound valid).mp (admitted valid)
    · intro comparable
      exact ⟨kept, fun valid => (admitted_iff sound valid).mpr
        (comparable valid)⟩
  | expire => exact ⟨fun _ => trivial, fun _ => ⟨kept, trivial⟩⟩

/-- Every state of a run is sound. -/
theorem sound_exec (history : List (Event Float)) :
    Sound (exec (perform arithmetic) (reset arithmetic) history) :=
  exec_invariant sound_reset (fun _ event sound => sound.perform event) history

/--
Through a run every observation with valid fields is admitted, and every present
peer kept, exactly when the times it depends on can be compared.
-/
theorem nearby_peers_admitted_iff (arithmetic : FloatArithmetic Float)
    (history : List (Event Float)) :
    Throughout (perform arithmetic) (reset arithmetic) (Fair arithmetic)
        history ↔
      Throughout (perform arithmetic) (reset arithmetic)
        (ComparableTimes arithmetic) history := by
  constructor
  · intro fair earlier event later split
    exact (fair_iff (sound_exec earlier) event).mp
      (fair earlier event later split)
  · intro comparable earlier event later split
    exact (fair_iff (sound_exec earlier) event).mpr
      (comparable earlier event later split)

/-! ## A peer that comes back after half the range -/

/-- Decibels as rational numbers, which these signals are. -/
def exactArithmetic : FloatArithmetic Rat where
  literal := id
  isfinite := fun _ => true
  add := (· + ·)
  sub := (· - ·)
  mul := (· * ·)
  neg := (- ·)
  less := fun left right => left < right
  lessEqual := fun left right => left ≤ right
  equal := fun left right => left = right

/-- Heard once, looked after half the range later, and heard again. -/
def returningPeer : List (Event Rat) :=
  [⟨0, .observe 5 (-60) 10 false⟩, ⟨2147483647, .expire⟩,
    ⟨2147483649, .observe 5 (-60) 10 false⟩]

theorem returningPeer_timely : Timely returningPeer := by
  unfold Timely returningPeer
  decide

/-- The peer is told that its signal is stale. -/
theorem returning_peer_refused :
    ¬ ∀ history : List (Event Rat), Timely history →
      Throughout (perform exactArithmetic) (reset exactArithmetic)
        (Fair exactArithmetic) history := by
  intro fair
  have last := fair returningPeer returningPeer_timely
    [⟨0, .observe 5 (-60) 10 false⟩, ⟨2147483647, .expire⟩]
    ⟨2147483649, .observe 5 (-60) 10 false⟩ [] rfl
  have stale : (observe exactArithmetic
      (exec (perform exactArithmetic) (reset exactArithmetic)
        [⟨0, .observe 5 (-60) 10 false⟩, ⟨2147483647, .expire⟩])
      (observationAt 2147483649 5 (-60) 10 false)).1.status =
        .staleTimestamp := by
    decide
  exact (last.2 (by decide)).notStale stale

end Kitsu.Presence
