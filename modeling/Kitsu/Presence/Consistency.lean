import Kitsu.Lib.Alternation
import Kitsu.Lib.Saturating
import Kitsu.Presence.Refusals

/-!
# Consistent presence events

Appearances and departures of a peer, and beginnings and ends of the group, are
marks that alternate: a call first reports what its expiry ended and then what
its signal began.  A watch beside the tracker keeps the device's own time of each
peer's last accepted signal and of the last accepted call; as long as no slot
stays untouched for half the range of the counter, the tracker's wrapped times
are those of the watch.
-/

namespace Kitsu.Presence

open Kitsu.Lib Kitsu.Lib.Run Kitsu.Lib.Alternation

variable {Float : Type} (arithmetic : FloatArithmetic Float)

/-! ## What a call reports -/

/-- What an event of the radio makes the tracker report. -/
def eventsAt (tracker : PetPresenceTracker Float) (event : Event Float) :
    Events :=
  match event.request with
  | .observe uid rssiDbm snrDb familiarHint =>
    (observe arithmetic tracker
      (observationAt event.time uid rssiDbm snrDb familiarHint)).1.events
  | .expire => (expire arithmetic tracker event.stamp).1.events

/-- The peer of an observation that the tracker took. -/
def heardAt (tracker : PetPresenceTracker Float) (event : Event Float) :
    Option UInt16 :=
  match event.request with
  | .observe uid rssiDbm snrDb familiarHint =>
    if (observe arithmetic tracker (observationAt event.time uid rssiDbm snrDb
        familiarHint)).1.status = .ok then some uid
    else none
  | .expire => none

/-- The peers a call reports as appeared. -/
def appearedAt (tracker : PetPresenceTracker Float) (event : Event Float) :
    List UInt16 :=
  match event.request with
  | .observe uid _ _ _ =>
    if (eventsAt arithmetic tracker event).appeared then [uid] else []
  | .expire => []

/-- Whether the tracker took the time of a call. -/
def acceptedAt (tracker : PetPresenceTracker Float) (event : Event Float) :
    Bool :=
  match event.request with
  | .observe uid rssiDbm snrDb familiarHint =>
    let status := (observe arithmetic tracker (observationAt event.time uid
      rssiDbm snrDb familiarHint)).1.status
    status = .ok || status = .capacityFull
  | .expire => (expire arithmetic tracker event.stamp).1.timeAccepted

/-- The departures and appearances of a peer, in the order of a call. -/
def peerMarks (uid : UInt16) (tracker : PetPresenceTracker Float)
    (event : Event Float) : List Bool :=
  ((goneAt arithmetic tracker event).filter (· == uid)).map (fun _ => false) ++
    ((appearedAt arithmetic tracker event).filter (· == uid)).map
      (fun _ => true)

/-- The ends and beginnings of the group, in the order of a call. -/
def groupMarks (tracker : PetPresenceTracker Float) (event : Event Float) :
    List Bool :=
  (if (eventsAt arithmetic tracker event).groupEnded then [false] else []) ++
    if (eventsAt arithmetic tracker event).groupStarted then [true] else []

/-- A peer belongs to the group. -/
def isPresent (tracker : PetPresenceTracker Float) (uid : UInt16) : Bool :=
  slotOrder.any fun index =>
    (tracker.slots index).inGroup && (tracker.slots index).uid == uid

variable {arithmetic} {tracker : PetPresenceTracker Float}
  {observation : Observation Float} {uid : UInt16}

theorem isPresent_iff :
    isPresent tracker uid = true ↔ ∃ index,
      (tracker.slots index).used = true ∧
        (tracker.slots index).present = true ∧
        (tracker.slots index).uid = uid := by
  simp [isPresent, slotOrder, Slot.inGroup, and_assoc]

/-! ## Peers in turn -/

theorem goneUids_nodup (sound : Sound tracker) (nowMs : UInt32) :
    (expiryResult arithmetic tracker nowMs).goneUids.Nodup := by
  apply List.Nodup.map_on
  · intro index member other otherMember same
    have silent := fallenSilent_iff.mp (List.mem_filter.mp member).2
    have otherSilent := fallenSilent_iff.mp (List.mem_filter.mp otherMember).2
    exact sound.distinct index other silent.1 otherSilent.1 same
  · exact (List.nodup_finRange _).filter _

/-- A peer is reported gone when it was present and no longer is. -/
theorem mem_goneUids_iff (sound : Sound tracker) (nowMs : UInt32) :
    uid ∈ (expiryResult arithmetic tracker nowMs).goneUids ↔
      isPresent tracker uid = true ∧
        isPresent (afterExpiry tracker nowMs) uid = false := by
  constructor
  · intro gone
    rcases List.mem_map.mp gone with ⟨index, member, rfl⟩
    have silent := (List.mem_filter.mp member).2
    rcases fallenSilent_iff.mp silent with ⟨used, present, -⟩
    refine ⟨isPresent_iff.mpr ⟨index, used, present, rfl⟩, ?_⟩
    rw [Bool.eq_false_iff, ne_eq, isPresent_iff]
    rintro ⟨other, otherUsed, otherPresent, same⟩
    rw [afterExpiry_used] at otherUsed
    rw [afterExpiry_uid] at same
    rw [afterExpiry_present] at otherPresent
    rw [sound.distinct other index otherUsed used same, silent] at otherPresent
    cases otherPresent.2
  · rintro ⟨present, gone⟩
    rcases isPresent_iff.mp present with ⟨index, used, here, rfl⟩
    rcases silent : fallenSilent nowMs (tracker.slots index) with _ | _
    · have still : isPresent (afterExpiry tracker nowMs)
          (tracker.slots index).uid = true :=
        isPresent_iff.mpr ⟨index, afterExpiry_used.trans used,
          afterExpiry_present.mpr ⟨here, silent⟩, afterExpiry_uid⟩
      rw [gone] at still
      cases still
    · exact mem_goneUids silent

theorem isPresent_afterExpiry {nowMs : UInt32}
    (present : isPresent (afterExpiry tracker nowMs) uid = true) :
    isPresent tracker uid = true := by
  rcases isPresent_iff.mp present with ⟨index, used, here, same⟩
  rw [afterExpiry_used] at used
  rw [afterExpiry_uid] at same
  exact isPresent_iff.mpr
    ⟨index, used, (afterExpiry_present.mp here).1, same⟩

/-- An expiry ends the presence of a peer with one mark. -/
theorem expiry_inTurn (sound : Sound tracker) (nowMs : UInt32) :
    InTurn (isPresent tracker uid) (isPresent (afterExpiry tracker nowMs) uid)
      (((expiryResult arithmetic tracker nowMs).goneUids.filter
        (· == uid)).map fun _ => false) := by
  have marks : ((expiryResult arithmetic tracker nowMs).goneUids.filter
      (· == uid)).map (fun _ => false) =
        if isPresent tracker uid && !isPresent (afterExpiry tracker nowMs) uid
        then [false] else [] := by
    rw [List.filter_beq, (goneUids_nodup sound nowMs).count]
    by_cases gone : uid ∈ (expiryResult arithmetic tracker nowMs).goneUids
    · have both := (mem_goneUids_iff sound nowMs).mp gone
      rw [if_pos gone, both.1, both.2]
      rfl
    · rw [if_neg gone, if_neg]
      · rfl
      · rw [Bool.and_eq_true, Bool.not_eq_true']
        exact fun both => gone ((mem_goneUids_iff sound nowMs).mpr both)
  rw [marks]
  exact .ending isPresent_afterExpiry

section Written

variable {index : Fin kPeerCapacity} {slot updated : Slot Float}

/-- The claimed slot is present exactly when its peer is. -/
theorem claimed_present (sound : Sound tracker)
    (claimed : claimSlot arithmetic tracker observation = some (index, slot)) :
    slot.present = isPresent tracker observation.uid := by
  rw [Bool.eq_iff_iff, isPresent_iff]
  rcases claimSlot_some claimed with ⟨taken, named, own | ⟨absent, missing, -⟩⟩
  · rw [own] at taken named ⊢
    constructor
    · intro present
      exact ⟨index, taken, present, named⟩
    · rintro ⟨other, used, present, same⟩
      rw [← sound.distinct other index used taken (same.trans named.symm)]
      exact present
  · rw [absent]
    constructor
    · nofun
    · rintro ⟨other, used, -, same⟩
      exact absurd same (missing other used)

/-- Writing the claimed slot makes its peer present and nobody else. -/
theorem writeSlot_present
    (claimed : claimSlot arithmetic tracker observation = some (index, slot))
    (used : updated.used = slot.used) (named : updated.uid = slot.uid)
    (present : updated.present = true) :
    isPresent (writeSlot tracker index updated) uid =
      (isPresent tracker uid || uid == observation.uid) := by
  rcases claimSlot_some claimed with ⟨taken, same, previous⟩
  rw [Bool.eq_iff_iff, Bool.or_eq_true, beq_iff_eq, isPresent_iff, isPresent_iff]
  constructor
  · rintro ⟨other, otherUsed, otherPresent, rfl⟩
    by_cases here : other = index
    · subst here
      rw [writeSlot_same, named]
      exact .inr same
    · rw [writeSlot_other _ here] at otherUsed otherPresent ⊢
      exact .inl ⟨other, otherUsed, otherPresent, rfl⟩
  · rintro (⟨other, otherUsed, otherPresent, rfl⟩ | rfl)
    · by_cases here : other = index
      · subst here
        rcases previous with own | ⟨-, -, unused | absent⟩
        · refine ⟨other, ?_, ?_, ?_⟩
          · rw [writeSlot_same, used, taken]
          · rw [writeSlot_same, present]
          · rw [writeSlot_same, named, own]
        · rw [otherUsed] at unused
          cases unused
        · rw [otherPresent] at absent
          cases absent
      · refine ⟨other, ?_⟩
        rw [writeSlot_other _ here]
        exact ⟨otherUsed, otherPresent, rfl⟩
    · refine ⟨index, ?_⟩
      rw [writeSlot_same, used, named]
      exact ⟨taken, present, same⟩

end Written

variable {reply : ObserveResult Float × PetPresenceTracker Float}

theorem Observed.peerMarks_inTurn
    (observed : Observed arithmetic tracker observation reply)
    (sound : Sound tracker) :
    InTurn (isPresent tracker uid) (isPresent reply.2 uid)
      ((reply.1.goneUids.filter (· == uid)).map (fun _ => false) ++
        ((if reply.1.events.appeared then [observation.uid] else []).filter
          (· == uid)).map (fun _ => true)) := by
  cases observed with
  | refused result unreached status silent nobody =>
    rw [nobody, silent]
    exact .same _
  | crowded result reached full status events gone =>
    rw [gone, events]
    exact (expiry_inTurn sound _).append (.same _)
  | heard result index slot updated reached claimed used same present seen
      status appeared ended started gone =>
      rw [gone, appeared,
        claimed_present (sound.afterExpiry observation.observedAtMs) claimed]
      apply (expiry_inTurn sound observation.observedAtMs).append
      simp only [writeSlot_present claimed used same present]
      by_cases own : uid = observation.uid
      · rw [own, beq_self_eq_true, Bool.or_true]
        rcases isPresent (afterExpiry tracker observation.observedAtMs)
          observation.uid with _ | _
        · simpa using InTurn.begins
        · simpa using InTurn.same true
      · have other : (observation.uid == uid) = false :=
          beq_eq_false_iff_ne.mpr fun same => own same.symm
        rw [beq_eq_false_iff_ne.mpr own, Bool.or_false]
        rcases isPresent (afterExpiry tracker observation.observedAtMs)
          observation.uid with _ | _
        · simpa [other] using InTurn.same _
        · exact .same _

/-- The peer marks of one call are in turn. -/
theorem peerMarks_inTurn (sound : Sound tracker) (uid : UInt16)
    (event : Event Float) :
    InTurn (isPresent tracker uid)
      (isPresent (perform arithmetic tracker event) uid)
      (peerMarks arithmetic uid tracker event) := by
  rcases event with ⟨time, request⟩
  cases request with
  | expire =>
    simp only [peerMarks, goneAt, appearedAt, perform, Event.stamp]
    rcases accepts : clockAccepts tracker (UInt32.ofNat time) with _ | _
    · simp only [expire_rejected accepts]
      exact .same _
    · simp only [expire_accepted accepts]
      exact (expiry_inTurn sound _).append (.same _)
  | observe peer rssiDbm snrDb familiarHint =>
    exact (observe_observed arithmetic tracker
      (observationAt time peer rssiDbm snrDb familiarHint)).peerMarks_inTurn sound

/-! ## The group in turn -/

/-- Two peers make a group. -/
def groupActive (tracker : PetPresenceTracker Float) : Bool :=
  2 ≤ presentCount tracker

theorem presentCount_eq :
    presentCount tracker =
      slotOrder.countP fun index => (tracker.slots index).inGroup := by
  rw [presentCount, List.filter_map, List.length_map, List.countP_eq_length_filter]
  rfl

theorem afterExpiry_active {nowMs : UInt32}
    (active : groupActive (afterExpiry tracker nowMs) = true) :
    groupActive tracker = true := by
  rw [groupActive, decide_eq_true_eq, presentCount_eq] at active ⊢
  apply Nat.le_trans active
  apply List.countP_mono_left
  intro index _ inGroup
  rw [Slot.inGroup, Bool.and_eq_true, afterExpiry_used,
    afterExpiry_present] at inGroup
  rw [Slot.inGroup, Bool.and_eq_true]
  exact ⟨inGroup.1, inGroup.2.1⟩

theorem writeSlot_active {index : Fin kPeerCapacity} {updated : Slot Float}
    (used : updated.used = true) (present : updated.present = true)
    (active : groupActive tracker = true) :
    groupActive (writeSlot tracker index updated) = true := by
  rw [groupActive, decide_eq_true_eq, presentCount_eq] at active ⊢
  apply Nat.le_trans active
  apply List.countP_mono_left
  intro other _ inGroup
  by_cases here : other = index
  · rw [here, writeSlot_same, Slot.inGroup, used, present]
    rfl
  · rw [writeSlot_other _ here]
    exact inGroup

theorem expiry_group (tracker : PetPresenceTracker Float) (nowMs : UInt32) :
    InTurn (groupActive tracker) (groupActive (afterExpiry tracker nowMs))
      (if (expiryResult arithmetic tracker nowMs).events.groupEnded then
        [false] else []) := by
  have ended : (expiryResult arithmetic tracker nowMs).events.groupEnded =
      (groupActive tracker && !groupActive (afterExpiry tracker nowMs)) := by
    rw [groupActive, groupActive, ← decide_not]
    simp only [expiryResult, Nat.not_le]
  rw [ended]
  exact .ending afterExpiry_active

theorem Observed.groupMarks_inTurn
    (observed : Observed arithmetic tracker observation reply) :
    InTurn (groupActive tracker) (groupActive reply.2)
      ((if reply.1.events.groupEnded then [false] else []) ++
        if reply.1.events.groupStarted then [true] else []) := by
  cases observed with
  | refused result unreached status silent nobody =>
    rw [silent]
    exact .same _
  | crowded result reached full status events gone =>
    rw [events]
    exact (expiry_group tracker _).append (.same _)
  | heard result index slot updated reached claimed used same present seen
      status appeared ended started gone =>
      have taken := (claimSlot_some claimed).1
      have begun : result.events.groupStarted =
          (!groupActive (afterExpiry tracker observation.observedAtMs) &&
            groupActive (writeSlot (afterExpiry tracker
              observation.observedAtMs) index updated)) := by
        rw [started, groupActive, groupActive, ← decide_not]
        simp only [Nat.not_le]
      rw [ended, begun]
      exact (expiry_group tracker _).append
        (.beginning (writeSlot_active (used.trans taken) present))

/-- The group marks of one call are in turn. -/
theorem groupMarks_inTurn (tracker : PetPresenceTracker Float)
    (event : Event Float) :
    InTurn (groupActive tracker) (groupActive (perform arithmetic tracker event))
      (groupMarks arithmetic tracker event) := by
  rcases event with ⟨time, request⟩
  cases request with
  | expire =>
    simp only [groupMarks, eventsAt, perform, Event.stamp]
    rcases accepts : clockAccepts tracker (UInt32.ofNat time) with _ | _
    · simp only [expire_rejected accepts]
      exact .same _
    · simp only [expire_accepted accepts]
      exact (expiry_group tracker _).append (.same _)
  | observe peer rssiDbm snrDb familiarHint =>
    exact (observe_observed arithmetic tracker
      (observationAt time peer rssiDbm snrDb familiarHint)).groupMarks_inTurn

/-! ## The watch -/

/-- The tracker beside the device's own times. -/
structure Watch (Float : Type) where
  tracker : PetPresenceTracker Float
  /-- When the last signal of a peer was accepted. -/
  heard : UInt16 → Option Nat
  /-- When the last call was accepted. -/
  lastAccepted : Nat

variable (arithmetic)

/-- The tracker before anything was heard. -/
def watched : Watch Float where
  tracker := reset arithmetic
  heard := fun _ => none
  lastAccepted := 0

/-- The tracker handles an event, beside the times at which peers were heard. -/
def watchStep (watch : Watch Float) (event : Event Float) : Watch Float where
  tracker := perform arithmetic watch.tracker event
  heard :=
    match heardAt arithmetic watch.tracker event with
    | some uid => Function.update watch.heard uid (some event.time)
    | none => watch.heard
  lastAccepted :=
    if acceptedAt arithmetic watch.tracker event then event.time
    else watch.lastAccepted

/-- No slot in use was left untouched for half the range of the counter. -/
def Touched (watch : Watch Float) (event : Event Float) : Prop :=
  ∀ index, (watch.tracker.slots index).used = true →
    ∀ time, watch.heard (watch.tracker.slots index).uid = some time →
      event.time < time + 2 ^ 31

/--
A present peer is reported gone by the first accepted call at which its last
signal is old enough, and nobody else is.
-/
structure PromptlyGone (watch : Watch Float) (event : Event Float) : Prop where
  reported : ∀ uid, uid ∈ goneAt arithmetic watch.tracker event ↔
    acceptedAt arithmetic watch.tracker event = true ∧
      isPresent watch.tracker uid = true ∧
      ∃ time, watch.heard uid = some time ∧
        time + kGoneAfterMs.toNat ≤ event.time
  first : ∀ uid ∈ goneAt arithmetic watch.tracker event,
    ∀ time, watch.heard uid = some time →
      watch.lastAccepted < time + kGoneAfterMs.toNat

variable {arithmetic}

/-- What a call does to the tracker, and what the watch sees of it. -/
inductive Called (arithmetic : FloatArithmetic Float)
    (tracker : PetPresenceTracker Float) (event : Event Float) : Prop where
  | rejected (accepted : acceptedAt arithmetic tracker event = false)
      (gone : goneAt arithmetic tracker event = [])
      (same : perform arithmetic tracker event = tracker)
      (heard : heardAt arithmetic tracker event = none)
  | expired (accepted : acceptedAt arithmetic tracker event = true)
      (gone : goneAt arithmetic tracker event =
        (expiryResult arithmetic tracker event.stamp).goneUids)
      (after : perform arithmetic tracker event = afterExpiry tracker event.stamp)
      (heard : heardAt arithmetic tracker event = none)
  | signal (accepted : acceptedAt arithmetic tracker event = true)
      (gone : goneAt arithmetic tracker event =
        (expiryResult arithmetic tracker event.stamp).goneUids)
      (observation : Observation Float) (index : Fin kPeerCapacity)
      (slot updated : Slot Float)
      (claimed : claimSlot arithmetic (afterExpiry tracker event.stamp)
        observation = some (index, slot))
      (used : updated.used = true) (named : updated.uid = observation.uid)
      (seen : updated.lastSeenAtMs = event.stamp)
      (after : perform arithmetic tracker event =
        writeSlot (afterExpiry tracker event.stamp) index updated)
      (heard : heardAt arithmetic tracker event = some observation.uid)

theorem called (arithmetic : FloatArithmetic Float)
    (tracker : PetPresenceTracker Float) (event : Event Float) :
    Called arithmetic tracker event := by
  rcases event with ⟨time, request⟩
  cases request with
  | expire =>
    rcases accepts : clockAccepts tracker (UInt32.ofNat time) with _ | _
    · refine .rejected ?_ ?_ ?_ rfl
      · simp only [acceptedAt, Event.stamp, expire_rejected accepts]
      · simp only [goneAt, Event.stamp, expire_rejected accepts]
      · simp only [perform, Event.stamp, expire_rejected accepts]
    · refine .expired ?_ ?_ ?_ rfl
      · simp only [acceptedAt, Event.stamp, expire_accepted accepts]
        rfl
      · simp only [goneAt, Event.stamp, expire_accepted accepts]
      · simp only [perform, Event.stamp, expire_accepted accepts]
  | observe uid rssiDbm snrDb familiarHint =>
    generalize heard :
      observationAt time uid rssiDbm snrDb familiarHint = observation
    have named : observation.uid = uid := by
      rw [← heard]
      rfl
    have stamped : observation.observedAtMs = UInt32.ofNat time := by
      rw [← heard]
      rfl
    have observed := observe_observed arithmetic tracker observation
    generalize answer : observe arithmetic tracker observation = reply
      at observed
    have gone : goneAt arithmetic tracker
        ⟨time, .observe uid rssiDbm snrDb familiarHint⟩ =
          reply.1.goneUids := by
      rw [← answer, ← heard]
      rfl
    have after : perform arithmetic tracker
        ⟨time, .observe uid rssiDbm snrDb familiarHint⟩ = reply.2 := by
      rw [← answer, ← heard]
      rfl
    have accepted : acceptedAt arithmetic tracker
        ⟨time, .observe uid rssiDbm snrDb familiarHint⟩ =
          (decide (reply.1.status = .ok) ||
            decide (reply.1.status = .capacityFull)) := by
      rw [← answer, ← heard]
      rfl
    have taken : heardAt arithmetic tracker
        ⟨time, .observe uid rssiDbm snrDb familiarHint⟩ =
          if reply.1.status = .ok then some uid else none := by
      rw [← answer, ← heard]
      rfl
    cases observed with
    | refused result unreached status silent nobody =>
      have other : result.status ≠ .ok ∧ result.status ≠ .capacityFull := by
        rw [status]
        split <;> decide
      refine .rejected ?_ (gone.trans nobody) after ?_
      · rw [accepted]
        simp [other.1, other.2]
      · rw [taken, if_neg other.1]
    | crowded result reached full status events expired =>
      rw [stamped] at expired after
      refine .expired ?_ (gone.trans expired) after ?_
      · rw [accepted, status]
        rfl
      · rw [taken, if_neg (by rw [status]; decide)]
    | heard result index slot updated reached claimed used same present seen
        status appeared ended started expired =>
        rw [stamped] at expired after claimed seen
        have identity := claimSlot_some claimed
        refine .signal ?_ (gone.trans expired) observation index slot updated
          claimed (used.trans identity.1) (same.trans identity.2.1) seen after
          ?_
        · rw [accepted, status]
          rfl
        · rw [taken, if_pos status, named]

/-! ## The tracker's times are those of the watch -/

/-- Every slot in use shows when its peer was heard. -/
structure Kept (watch : Watch Float) : Prop where
  sound : Sound watch.tracker
  heard : ∀ index, (watch.tracker.slots index).used = true →
    ∃ time, watch.heard (watch.tracker.slots index).uid = some time ∧
      (watch.tracker.slots index).lastSeenAtMs = UInt32.ofNat time ∧
      time ≤ watch.lastAccepted ∧
      ((watch.tracker.slots index).present = true →
        watch.lastAccepted < time + kGoneAfterMs.toNat)

section Step

variable {watch : Watch Float} {event : Event Float}

theorem Kept.silent_iff (kept : Kept watch) {index : Fin kPeerCapacity}
    (used : (watch.tracker.slots index).used = true) {time : Nat}
    (heard : watch.heard (watch.tracker.slots index).uid = some time)
    (forward : watch.lastAccepted ≤ event.time) (touched : Touched watch event) :
    fallenSilent event.stamp (watch.tracker.slots index) = true ↔
      (watch.tracker.slots index).present = true ∧
        time + kGoneAfterMs.toNat ≤ event.time := by
  rcases kept.heard index used with ⟨known, same, seen, before, -⟩
  have times : known = time := Option.some.inj (same.symm.trans heard)
  subst times
  have near := touched index used known heard
  have elapsed : (event.stamp - (watch.tracker.slots index).lastSeenAtMs).toNat =
        event.time - known := by
    rw [seen, Event.stamp]
    exact WrapClock.toNat_sub_ofNat (Nat.le_trans before forward) (by omega)
  have limit : kMaximumComparableIntervalMs.toNat = 2147483647 := rfl
  have enough : kGoneAfterMs.toNat = 20000 := rfl
  rw [fallenSilent_iff, UInt32.le_iff_toNat_le, UInt32.le_iff_toNat_le,
    elapsed, limit, enough]
  constructor
  · rintro ⟨-, present, silent, -⟩
    exact ⟨present, by omega⟩
  · rintro ⟨present, silent⟩
    exact ⟨used, present, by omega, by omega⟩

theorem Kept.promptlyGone (kept : Kept watch)
    (forward : watch.lastAccepted ≤ event.time) (touched : Touched watch event) :
    PromptlyGone arithmetic watch event := by
  have expiry (uid : UInt16) :
      uid ∈ (expiryResult arithmetic watch.tracker event.stamp).goneUids ↔
        isPresent watch.tracker uid = true ∧
          ∃ time, watch.heard uid = some time ∧
            time + kGoneAfterMs.toNat ≤ event.time := by
    constructor
    · intro gone
      rcases List.mem_map.mp gone with ⟨index, member, rfl⟩
      have silent := (List.mem_filter.mp member).2
      have used := (fallenSilent_iff.mp silent).1
      rcases kept.heard index used with ⟨time, heard, -⟩
      have late := (kept.silent_iff used heard forward touched).mp silent
      exact ⟨isPresent_iff.mpr ⟨index, used, late.1, rfl⟩, time, heard, late.2⟩
    · rintro ⟨present, time, heard, late⟩
      rcases isPresent_iff.mp present with ⟨index, used, here, rfl⟩
      exact mem_goneUids
        ((kept.silent_iff used heard forward touched).mpr ⟨here, late⟩)
  have reported : ∀ uid, uid ∈ goneAt arithmetic watch.tracker event ↔
      acceptedAt arithmetic watch.tracker event = true ∧
        isPresent watch.tracker uid = true ∧
        ∃ time, watch.heard uid = some time ∧
          time + kGoneAfterMs.toNat ≤ event.time := by
    intro uid
    cases called arithmetic watch.tracker event with
    | rejected accepted gone same heard =>
      rw [gone, accepted]
      simp
    | expired accepted gone after heard =>
      rw [gone, accepted, expiry]
      simp
    | signal accepted gone observation index slot updated claimed used named
        seen after heard =>
        rw [gone, accepted, expiry]
        simp
  refine ⟨reported, ?_⟩
  intro uid gone time heard
  rcases isPresent_iff.mp ((reported uid).mp gone).2.1 with
    ⟨index, used, present, rfl⟩
  rcases kept.heard index used with ⟨known, same, -, -, recent⟩
  have times : known = time := Option.some.inj (same.symm.trans heard)
  exact times ▸ recent present

/-- Who is left after an expiry was heard recently enough. -/
theorem Kept.expired (kept : Kept watch)
    (forward : watch.lastAccepted ≤ event.time)
    (touched : Touched watch event) {index : Fin kPeerCapacity}
    (used : (watch.tracker.slots index).used = true) :
    ∃ time, watch.heard (watch.tracker.slots index).uid = some time ∧
      (watch.tracker.slots index).lastSeenAtMs = UInt32.ofNat time ∧
      time ≤ event.time ∧
      (((afterExpiry watch.tracker event.stamp).slots index).present = true →
        event.time < time + kGoneAfterMs.toNat) := by
  rcases kept.heard index used with ⟨time, heard, seen, before, -⟩
  refine ⟨time, heard, seen, Nat.le_trans before forward, ?_⟩
  intro present
  rcases afterExpiry_present.mp present with ⟨here, recent⟩
  apply Nat.lt_of_not_le
  intro late
  have silent := (kept.silent_iff used heard forward touched).mpr ⟨here, late⟩
  rw [recent] at silent
  cases silent

theorem Kept.step (kept : Kept watch) (forward : watch.lastAccepted ≤ event.time)
    (touched : Touched watch event) : Kept (watchStep arithmetic watch event) := by
  have sound : Sound (perform arithmetic watch.tracker event) :=
    kept.sound.perform event
  cases called arithmetic watch.tracker event with
  | rejected accepted gone same heard =>
    refine ⟨sound, ?_⟩
    simp only [watchStep, same, heard, accepted]
    exact kept.heard
  | expired accepted gone after heard =>
    refine ⟨sound, ?_⟩
    simp only [watchStep, after, heard, accepted]
    intro index used
    rw [afterExpiry_used] at used
    rw [afterExpiry_uid, afterExpiry_lastSeenAtMs]
    exact kept.expired forward touched used
  | signal accepted gone observation index slot updated claimed used named
      seen after heard =>
      refine ⟨sound, ?_⟩
      simp only [watchStep, after, heard, accepted]
      intro other taken
      by_cases here : other = index
      · rw [here, writeSlot_same, named, Function.update_self]
        refine ⟨event.time, rfl, seen, Nat.le_refl _, fun _ => ?_⟩
        exact Nat.lt_add_of_pos_right (by decide)
      · rw [writeSlot_other _ here] at taken ⊢
        have different : ((afterExpiry watch.tracker event.stamp).slots
            other).uid ≠ observation.uid := fun same =>
          here (claimed_unique (kept.sound.afterExpiry _) claimed taken same)
        rw [Function.update_of_ne different]
        rw [afterExpiry_used] at taken
        rw [afterExpiry_uid, afterExpiry_lastSeenAtMs]
        exact kept.expired forward touched taken

end Step

/-! ## Whole runs -/

theorem watched_kept : Kept (watched arithmetic) := by
  refine ⟨sound_reset, ?_⟩
  intro index used
  cases used

variable {history : List (Event Float)}

/-- The last accepted call is not later than the next one. -/
theorem forward_run {watch : Watch Float}
    (ordered : history.Pairwise fun event next => event.time ≤ next.time)
    (after : ∀ event ∈ history, watch.lastAccepted ≤ event.time) :
    Throughout (watchStep arithmetic) watch
      (fun watch event => watch.lastAccepted ≤ event.time) history := by
  induction history generalizing watch with
  | nil => exact Throughout.nil
  | cons event history induction =>
    rw [List.pairwise_cons] at ordered
    refine Throughout.cons (after event List.mem_cons_self)
      (induction ordered.2 ?_)
    intro next member
    rw [watchStep]
    simp only
    split
    · exact ordered.1 next member
    · exact after next (List.mem_cons_of_mem _ member)

theorem Timely.forward (timely : Timely history) :
    Throughout (watchStep arithmetic) (watched arithmetic)
      (fun watch event => watch.lastAccepted ≤ event.time) history := by
  apply forward_run
  · have ordered : history.IsChain fun event next => event.time ≤ next.time :=
      timely.imp fun _ _ both => both.1
    exact List.isChain_iff_pairwise.mp ordered
  · intro event _
    exact Nat.zero_le _

/-- The reports of a run fit together. -/
structure Consistent (arithmetic : FloatArithmetic Float)
    (history : List (Event Float)) : Prop where
  peers : ∀ uid, Alternates true (marks (perform arithmetic)
    (peerMarks arithmetic uid) (reset arithmetic) history)
  gone : Throughout (watchStep arithmetic) (watched arithmetic)
    (PromptlyGone arithmetic) history
  group : Alternates true (marks (perform arithmetic)
    (groupMarks arithmetic) (reset arithmetic) history)
  active : (summary arithmetic (exec (perform arithmetic) (reset arithmetic)
    history)).groupActive = true ↔
      (marks (perform arithmetic) (groupMarks arithmetic) (reset arithmetic)
        history).getLast? = some true
  single : ∀ index other,
    ((exec (perform arithmetic) (reset arithmetic) history).slots
      index).used = true →
    ((exec (perform arithmetic) (reset arithmetic) history).slots
      other).used = true →
    ((exec (perform arithmetic) (reset arithmetic) history).slots index).uid =
      ((exec (perform arithmetic) (reset arithmetic) history).slots
        other).uid → index = other

/--
The events of a run whose calls follow each other in time, and that leaves no
slot untouched for half the range of the counter, are consistent.
-/
theorem presence_consistent (arithmetic : FloatArithmetic Float)
    (history : List (Event Float)) (timely : Timely history)
    (touched : Throughout (watchStep arithmetic) (watched arithmetic) Touched
      history) : Consistent arithmetic history := by
  have groups := @inTurn_run _ _ (perform arithmetic) (groupMarks arithmetic)
    (fun _ => True) groupActive (fun _ _ _ => trivial)
    (fun tracker event _ => groupMarks_inTurn tracker event)
    (reset arithmetic) trivial history
  refine ⟨?_, ?_, groups.alternates, ?_, (sound_exec history).distinct⟩
  · intro uid
    have turns := @inTurn_run _ _ (perform arithmetic)
      (peerMarks arithmetic uid) Sound (fun tracker => isPresent tracker uid)
      (fun _ event sound => sound.perform event)
      (fun _ event sound => peerMarks_inTurn sound uid event)
      (reset arithmetic) sound_reset history
    exact turns.alternates
  · intro earlier event later split
    subst split
    have forward : Throughout (watchStep arithmetic) (watched arithmetic)
        (fun watch event => watch.lastAccepted ≤ event.time)
        (earlier ++ event :: later) := timely.forward
    have allowed : Throughout (watchStep arithmetic) (watched arithmetic)
        (fun watch event =>
          watch.lastAccepted ≤ event.time ∧ Touched watch event) earlier :=
      fun first input rest equal =>
        ⟨forward.earlier first input rest equal,
          touched.earlier first input rest equal⟩
    have kept : Kept (exec (watchStep arithmetic) (watched arithmetic) earlier) :=
      exec_throughout watched_kept
        (fun _ event kept allowed => kept.step allowed.1 allowed.2) allowed
    exact kept.promptlyGone (forward earlier event later rfl)
      (touched earlier event later rfl)
  · rw [summary_groupActive]
    exact groups.active_iff

/-! ## A short encounter -/

/-- Two peers meet, one leaves, and comes back. -/
def shortEncounter : List (Event Rat) :=
  [⟨0, .observe 5 (-60) 10 false⟩, ⟨5000, .observe 6 (-70) 8 false⟩,
    ⟨22000, .expire⟩, ⟨30000, .observe 5 (-60) 10 true⟩]

theorem shortEncounter_consistent : Consistent exactArithmetic shortEncounter := by
  apply presence_consistent
  · unfold Timely shortEncounter
    decide
  · intro earlier event later split index used time heard
    have early : ∀ event ∈ shortEncounter, event.time < 2 ^ 31 := by
      decide
    have here : event ∈ shortEncounter := by
      rw [split]
      exact List.mem_append_right _ List.mem_cons_self
    exact Nat.lt_of_lt_of_le (early event here) (Nat.le_add_left _ _)

end Kitsu.Presence
