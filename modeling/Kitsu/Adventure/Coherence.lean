import Kitsu.Adventure.Changes
import Kitsu.Lib.Saturating

/-!
# Coherent records

Every operation ends in `refreshCrc`, so a record is valid after a call exactly
when it is `Coherent`: everything `validateProgressState` asks for but the
checksum.  The lemmas below take the changes of the operations one by one.  All
of them keep a coherent record coherent, except the journal entry at the end of
a route: it takes the community day from the start of the route and the trusted
time from its end, and `validJournal` refuses the first without the second.

The lemmas quantify over the new values of the fields wherever coherence does
not depend on them, so that no proof looks into the arithmetic.
-/

namespace Kitsu.Adventure

open Kitsu.Lib

/-! ## Flag bytes -/

/-- Masking with what contains the asked bits changes none of them. -/
theorem flagged_kept {kept mask : UInt8} (inside : kept &&& mask = mask)
    (flags : UInt8) : flagged (flags &&& kept) mask = flagged flags mask :=
  Flags.flagged_kept inside flags

theorem flagged_cleared {kept mask : UInt8} (outside : kept &&& mask = 0)
    (flags : UInt8) : flagged (flags &&& kept) mask = false :=
  Flags.flagged_cleared outside flags

/-- Setting bits that are not asked for changes nothing. -/
theorem flagged_added {added mask : UInt8} (outside : added &&& mask = 0)
    (flags : UInt8) :
    flagged (flags ||| added) mask = flagged flags mask :=
  Flags.flagged_added outside flags

theorem flagged_ite_or (condition : Bool) (flags added mask : UInt8) :
    flagged (if condition then flags ||| added else flags) mask =
      (flagged flags mask || condition && flagged added mask) :=
  Flags.flagged_ite_or condition flags added mask

/-! ## Coherent records -/

/-- What `validateProgressState` asks for, apart from the checksum. -/
structure Coherent (state : ProgressState) : Prop where
  magic : state.magic = kStateMagic
  bytes : state.bytes = UInt16.ofNat kProgressStateBytes
  schema : state.schemaVersion = kProgressSchemaVersion
  ranges : rangesValid state = true
  history : historyValid state = true
  journal : journalValid state = true
  zones : zonesValid state = true
  privacy : privacyValid state = true
  current : currentZoneValid state = true
  hotspot : hotspotValid state = true
  phase : phaseValid state = true

theorem validateProgressState_iff (state : ProgressState) :
    validateProgressState state = true ↔
      Coherent state ∧ state.crc32 = stateCrc state := by
  simp only [validateProgressState, headerValid, Bool.and_eq_true, beq_iff_eq]
  constructor
  · rintro ⟨⟨⟨⟨⟨⟨⟨⟨⟨⟨⟨magic, bytes⟩, schema⟩, crc⟩, ranges⟩, history⟩, journal⟩,
      zones⟩, privacy⟩, current⟩, hotspot⟩, phase⟩
    exact ⟨⟨magic, bytes, schema, ranges, history, journal, zones, privacy,
      current, hotspot, phase⟩, crc⟩
  · rintro ⟨coherent, crc⟩
    exact ⟨⟨⟨⟨⟨⟨⟨⟨⟨⟨⟨coherent.magic, coherent.bytes⟩, coherent.schema⟩, crc⟩,
      coherent.ranges⟩, coherent.history⟩, coherent.journal⟩,
      coherent.zones⟩, coherent.privacy⟩, coherent.current⟩,
      coherent.hotspot⟩, coherent.phase⟩

theorem stateCrc_refreshCrc (state : ProgressState) :
    stateCrc (refreshCrc state) = stateCrc state :=
  rfl

/-- With its checksum refreshed, a record is valid when it is coherent. -/
theorem validateProgressState_refreshCrc (state : ProgressState) :
    validateProgressState (refreshCrc state) = true ↔ Coherent state := by
  rw [validateProgressState_iff, stateCrc_refreshCrc]
  constructor
  · rintro ⟨coherent, -⟩
    exact ⟨coherent.magic, coherent.bytes, coherent.schema, coherent.ranges,
      coherent.history, coherent.journal, coherent.zones, coherent.privacy,
      coherent.current, coherent.hotspot, coherent.phase⟩
  · intro coherent
    exact ⟨⟨coherent.magic, coherent.bytes, coherent.schema, coherent.ranges,
      coherent.history, coherent.journal, coherent.zones, coherent.privacy,
      coherent.current, coherent.hotspot, coherent.phase⟩, rfl⟩

theorem restore_valid (state snapshot : ProgressState)
    (valid : validateProgressState snapshot = true) :
    restore state snapshot = (.ok, snapshot) := by
  have coherent := ((validateProgressState_iff snapshot).mp valid).1
  simp [restore, coherent.magic, coherent.bytes, coherent.schema, valid]

/-! ## The target -/

theorem clampTarget_bounds (target : Nat) :
    100 ≤ clampTarget target ∧ clampTarget target ≤ 100000 := by
  simp only [clampTarget]
  split <;> split <;> omega

theorem ofNat_clampTarget (target : Nat) :
    100 ≤ UInt32.ofNat (clampTarget target) ∧
      UInt32.ofNat (clampTarget target) ≤ 100000 := by
  have bounds := clampTarget_bounds target
  have small : (UInt32.ofNat (clampTarget target)).toNat =
      clampTarget target :=
    UInt32.toNat_ofNat_of_lt' (by show _ < 4294967296; omega)
  constructor
  · rw [UInt32.le_iff_toNat_le, small]
    exact bounds.1
  · rw [UInt32.le_iff_toNat_le, small]
    exact bounds.2

/-- The target of a route under way lies in the range a record may hold. -/
theorem targetValid_recalculateTarget {state : ProgressState}
    (underway : state.phase ≠ RoutePhase.idle.code)
    (started : startValid state = true) :
    targetValid (recalculateTarget state) = true := by
  have bounds := ofNat_clampTarget
    (state.baseTargetSteps.toNat * (targetPercent state).toNat / 100)
  have based : state.baseTargetSteps ≠ 0 := by
    intro none
    simp [startValid, none] at started
  simpa [targetValid, recalculateTarget, targetStepsFor, underway, based]
    using bounds

/-! ## Phases -/

theorem phaseValid_idle {state : ProgressState}
    (idle : state.phase = RoutePhase.idle.code) :
    phaseValid state = idleValid state := by
  simp [phaseValid, idle]

/-- What a record says about a route under way or over. -/
structure Underway (state : ProgressState) : Prop where
  started : startValid state = true
  target : targetValid state = true
  decisions : state.decisionCount ≤ kMaximumMidDecisions
  party : partyValid state = true
  commute : flagged state.flags kFlagCommuteSafe = true →
    state.risk = Risk.careful.code
  clock : clockValid state = true
  outcome : outcomeValid state = true

theorem phaseValid_underway {state : ProgressState}
    (underway : state.phase ≠ RoutePhase.idle.code) :
    phaseValid state = true ↔ Underway state := by
  simp only [phaseValid, beq_iff_eq, underway, if_false, routeValid,
    Bool.and_eq_true, decide_eq_true_eq, Bool.not_eq_true',
    Bool.and_eq_false_iff, bne_eq_false_iff_eq]
  constructor
  · rintro ⟨⟨⟨⟨⟨⟨started, target⟩, decisions⟩, party⟩, commute⟩, clock⟩, outcome⟩
    refine ⟨started, target, decisions, party, ?_, clock, outcome⟩
    intro safe
    rcases commute with plain | careful
    · rw [plain] at safe
      cases safe
    · exact careful
  · intro route
    refine ⟨⟨⟨⟨⟨⟨route.started, route.target⟩, route.decisions⟩, route.party⟩,
      ?_⟩, route.clock⟩, route.outcome⟩
    by_cases safe : flagged state.flags kFlagCommuteSafe = true
    · exact Or.inr (route.commute safe)
    · exact Or.inl (by simpa using safe)

/-- Recalculating the target keeps the phase's fields in order. -/
theorem phaseValid_recalculateTarget {state : ProgressState} (target : UInt32)
    (valid : phaseValid { state with targetSteps := target } = true) :
    phaseValid (recalculateTarget state) = true := by
  by_cases idle : state.phase = RoutePhase.idle.code
  · rw [phaseValid_idle (by exact idle)] at valid ⊢
    simp_all [idleValid, recalculateTarget, targetStepsFor]
  · rw [phaseValid_underway (by exact idle)] at valid ⊢
    exact ⟨valid.started, targetValid_recalculateTarget idle valid.started,
      valid.decisions, valid.party, valid.commute, valid.clock, valid.outcome⟩

/-! ## Location -/

theorem rangesValid_iff (state : ProgressState) :
    rangesValid state = true ↔
      validPhase state.phase = true ∧
      validPrivacy state.privacyMode = true ∧
      validOutcome state.outcome = true ∧
      flagged state.flags (~~~ kAllowedFlags) = false ∧
      state.reserved.all (· == 0) = true := by
  simp only [rangesValid, Bool.and_eq_true, Bool.not_eq_true', and_assoc]

/-- The flags a record keeps about its route. -/
structure SameRouteFlags (before after : UInt8) : Prop where
  commute : flagged after kFlagCommuteSafe = flagged before kFlagCommuteSafe
  early : flagged after kFlagEarlyReturn = flagged before kFlagEarlyReturn
  trusted : flagged after kFlagTrustedStartClock =
    flagged before kFlagTrustedStartClock
  community : flagged after kFlagCommunityDay =
    flagged before kFlagCommunityDay
  route : flagged after (kFlagCommuteSafe ||| kFlagEarlyReturn |||
      kFlagTrustedStartClock ||| kFlagCommunityDay) =
    flagged before (kFlagCommuteSafe ||| kFlagEarlyReturn |||
      kFlagTrustedStartClock ||| kFlagCommunityDay)

theorem SameRouteFlags.kept {kept : UInt8} (flags : UInt8)
    (inside : kept &&& 51 = 51) : SameRouteFlags flags (flags &&& kept) := by
  have bits (mask : UInt8) (part : 51 &&& mask = mask) :
      kept &&& mask = mask := by
    rw [← part, ← UInt8.and_assoc, inside]
  exact ⟨flagged_kept (bits _ rfl) flags, flagged_kept (bits _ rfl) flags,
    flagged_kept (bits _ rfl) flags, flagged_kept (bits _ rfl) flags,
    flagged_kept (bits _ rfl) flags⟩

theorem SameRouteFlags.added {added : UInt8} (flags : UInt8)
    (outside : added &&& 51 = 0) :
    SameRouteFlags flags (flags ||| added) := by
  have bits (mask : UInt8) (part : 51 &&& mask = mask) :
      added &&& mask = 0 := by
    rw [← part, ← UInt8.and_assoc, outside, UInt8.zero_and]
  exact ⟨flagged_added (bits _ rfl) flags, flagged_added (bits _ rfl) flags,
    flagged_added (bits _ rfl) flags, flagged_added (bits _ rfl) flags,
    flagged_added (bits _ rfl) flags⟩

/-- A record's phase does not depend on the other flags. -/
theorem phaseValid_flags {state : ProgressState} {flags : UInt8}
    (same : SameRouteFlags state.flags flags) :
    phaseValid { state with flags } = phaseValid state := by
  simp only [phaseValid, idleValid, routeValid, startValid, targetValid,
    partyValid, clockValid, outcomeValid, same.commute, same.early,
    same.trusted, same.community, same.route]

theorem phaseValid_withoutDistance {state : ProgressState}
    (valid : phaseValid state = true) :
    phaseValid { state with routeDistanceMeters := 0 } = true := by
  by_cases idle : state.phase = RoutePhase.idle.code
  · rw [phaseValid_idle (by exact idle)] at valid ⊢
    simp_all [idleValid]
  · rw [phaseValid_underway (by exact idle)] at valid ⊢
    exact ⟨valid.started, valid.target, valid.decisions, valid.party,
      valid.commute, valid.clock, valid.outcome⟩

/-- With location on, privacy only asks for a salt that fits the mode. -/
theorem privacyValid_shared {state : ProgressState}
    (shared : state.privacyMode ≠ PrivacyMode.off.code) :
    privacyValid state =
      if state.privacyMode == PrivacyMode.coarse.code
      then state.locationSalt == 0 else state.locationSalt != 0 := by
  simp [privacyValid, shared]

theorem validPrivacy_cases {mode : UInt8} (known : validPrivacy mode = true) :
    mode = PrivacyMode.off.code ∨ mode = PrivacyMode.coarse.code ∨
      mode = PrivacyMode.preciseTransient.code := by
  have below : mode.toNat < 3 := by
    simpa [validPrivacy, UInt8.lt_iff_toNat_lt] using known
  simp only [PrivacyMode.code, ← UInt8.toNat_inj, UInt8.toNat_zero,
    UInt8.toNat_one]
  show mode.toNat = 0 ∨ mode.toNat = 1 ∨ mode.toNat = 2
  omega

variable {slot : Fin kMaximumZones} {zoneToken : UInt32}

section Location

variable {state : ProgressState}

theorem Coherent.clearLocation (coherent : Coherent state) (mode : UInt8)
    (salt : UInt32) (known : validPrivacy mode = true)
    (salted : mode = PrivacyMode.preciseTransient.code ↔ salt ≠ 0) :
    Coherent (recalculateTarget (clearLocation state mode salt)) := by
  rcases (rangesValid_iff _).mp coherent.ranges with
    ⟨phased, -, settled, allowed, reserved⟩
  refine ⟨coherent.magic, coherent.bytes, coherent.schema, ?_,
    coherent.history, coherent.journal, rfl, ?_, rfl, coherent.hotspot, ?_⟩
  · rw [rangesValid_iff]
    refine ⟨phased, known, settled, ?_, reserved⟩
    show flagged (state.flags &&& _) _ = false
    rw [flagged_kept rfl]
    exact allowed
  · have forgotten : flagged (state.flags &&& ~~~ kFlagCurrentZoneNew)
        kFlagCurrentZoneNew = false := flagged_cleared rfl _
    rcases validPrivacy_cases known with rfl | rfl | rfl
    · have plain : salt = 0 := not_not.mp (mt salted.mpr (by decide))
      simp [privacyValid, recalculateTarget, Adventure.clearLocation,
        forgotten, plain]
    · have plain : salt = 0 := not_not.mp (mt salted.mpr (by decide))
      simp [privacyValid, recalculateTarget, Adventure.clearLocation, plain,
        PrivacyMode.code]
    · have present : salt ≠ 0 := salted.mp rfl
      simp [privacyValid, recalculateTarget, Adventure.clearLocation, present,
        PrivacyMode.code]
  · apply phaseValid_recalculateTarget state.targetSteps
    have same := @SameRouteFlags.kept (~~~ kFlagCurrentZoneNew)
      state.flags rfl
    have flags := (phaseValid_flags same).trans coherent.phase
    have undistanced := phaseValid_withoutDistance flags
    exact undistanced

theorem Coherent.setHome (coherent : Coherent state) (token : UInt32)
    (shared : state.privacyMode ≠ PrivacyMode.off.code) :
    Coherent (recalculateTarget { state with homeZoneToken := token }) := by
  refine ⟨coherent.magic, coherent.bytes, coherent.schema, coherent.ranges,
    coherent.history, coherent.journal, coherent.zones, ?_, coherent.current,
    coherent.hotspot, ?_⟩
  · rw [privacyValid_shared (by exact shared)]
    exact (privacyValid_shared shared).symm.trans coherent.privacy
  · apply phaseValid_recalculateTarget state.targetSteps
    exact coherent.phase

/-! ### Stored zones -/

/-- The tests of `zonesValid`, by slot. -/
structure ZonesSound (state : ProgressState) : Prop where
  count_le : state.zoneCount.toNat ≤ kMaximumZones
  token : ∀ slot : Fin kMaximumZones, slot < state.zoneCount.toNat →
    state.zones[slot].token ≠ 0
  visits : ∀ slot : Fin kMaximumZones, slot < state.zoneCount.toNat →
    state.zones[slot].visits ≠ 0
  distinct : ∀ slot other : Fin kMaximumZones, slot < other →
    other < state.zoneCount.toNat →
    state.zones[slot].token ≠ state.zones[other].token
  empty : ∀ slot : Fin kMaximumZones, state.zoneCount.toNat ≤ slot →
    emptyZone state.zones[slot] = true

theorem zonesValid_iff (state : ProgressState) :
    zonesValid state = true ↔ ZonesSound state := by
  simp only [zonesValid, Bool.and_eq_true, decide_eq_true_eq,
    List.all_eq_true, List.mem_finRange, true_implies, Bool.or_eq_true,
    Bool.not_eq_true', decide_eq_false_iff_not, bne_iff_ne, Bool.and_eq_false_iff]
  constructor
  · rintro ⟨⟨bounded, stored⟩, free⟩
    refine ⟨bounded, ?_, ?_, ?_, ?_⟩
    · intro slot used
      exact ((stored slot).resolve_left (not_not.mpr used)).1.1
    · intro slot used
      exact ((stored slot).resolve_left (not_not.mpr used)).1.2
    · intro slot other before used
      have here := (stored slot).resolve_left (not_not.mpr (by omega))
      refine (here.2 other).resolve_left ?_
      rintro (late | unused)
      · exact late before
      · exact unused used
    · intro slot unused
      exact (free slot).resolve_left (not_not.mpr unused)
  · intro sound
    refine ⟨⟨sound.count_le, ?_⟩, ?_⟩
    · intro slot
      by_cases used : slot < state.zoneCount.toNat
      · refine Or.inr ⟨⟨sound.token slot used, sound.visits slot used⟩, ?_⟩
        intro other
        by_cases ordered : slot < other ∧ other < state.zoneCount.toNat
        · exact Or.inr (sound.distinct slot other ordered.1 ordered.2)
        · exact Or.inl (not_and_or.mp ordered)
      · exact Or.inl used
    · intro slot
      by_cases unused : state.zoneCount.toNat ≤ slot
      · exact Or.inr (sound.empty slot unused)
      · exact Or.inl unused

/-- Distinctness without an order on the slots. -/
theorem ZonesSound.token_injective (sound : ZonesSound state)
    {other : Fin kMaximumZones} (used : slot < state.zoneCount.toNat)
    (otherUsed : other < state.zoneCount.toNat) (different : slot ≠ other) :
    state.zones[slot].token ≠ state.zones[other].token := by
  rcases lt_or_gt_of_ne different with before | after
  · exact sound.distinct slot other before otherUsed
  · exact (sound.distinct other slot after used).symm

/-- A zone has a slot in use, and no other slot in use has its token. -/
structure Placed (state : ProgressState) (zoneToken : UInt32)
    (slot : Fin kMaximumZones) (count : UInt8)
    (zones : Vector ZoneState kMaximumZones) : Prop where
  count_le : count.toNat ≤ kMaximumZones
  used : slot < count.toNat
  token : zones[slot].token = zoneToken
  others : ∀ other, other ≠ slot → zones[other] = state.zones[other]
  older : ∀ other : Fin kMaximumZones, other ≠ slot →
    (other < count.toNat ↔ other < state.zoneCount.toNat)
  unique : ∀ other : Fin kMaximumZones, other ≠ slot →
    other < state.zoneCount.toNat → state.zones[other].token ≠ zoneToken

theorem zoneSlot_none (missing : zoneSlot state zoneToken = none)
    (slot : Fin kMaximumZones) (used : slot < state.zoneCount.toNat) :
    state.zones[slot].token ≠ zoneToken := by
  intro same
  have absent := List.find?_eq_none.mp missing slot (List.mem_finRange slot)
  rw [same] at absent
  exact absent (by simp [used])

theorem ZonesSound.placeZone (sound : ZonesSound state) (zoneToken : UInt32) :
    ∃ count zones,
      (placeZone state zoneToken).state =
        { state with zoneCount := count, zones := zones } ∧
      Placed state zoneToken (placeZone state zoneToken).slot count
        zones := by
  simp only [Adventure.placeZone]
  split
  · rename_i slot found
    have here := List.find?_some found
    simp only [Bool.and_eq_true, decide_eq_true_eq, beq_iff_eq] at here
    refine ⟨_, _, rfl, sound.count_le, here.1, here.2, fun _ _ => rfl,
      fun _ _ => Iff.rfl, ?_⟩
    intro other different used same
    exact sound.token_injective used here.1 different (same.trans here.2.symm)
  · rename_i missing
    split
    · rename_i room
      have next : (state.zoneCount + 1).toNat = state.zoneCount.toNat + 1 := by
        have small : state.zoneCount.toNat < 5 := room
        rw [UInt8.toNat_add, UInt8.toNat_one, Nat.mod_eq_of_lt]
        omega
      refine ⟨_, _, rfl, ?_, ?_, ?_, ?_, ?_, ?_⟩
      · omega
      · exact next ▸ Nat.lt_succ_self _
      · simp
      · intro other different
        have elsewhere : state.zoneCount.toNat ≠ other := by
          intro same
          exact different (Fin.ext same.symm)
        simp [elsewhere]
      · intro other different
        have elsewhere : other.val ≠ state.zoneCount.toNat := by
          intro same
          exact different (Fin.ext same)
        omega
      · intro other _ used
        exact zoneSlot_none missing other used
    · rename_i full
      have everything : state.zoneCount.toNat = kMaximumZones := by
        have := sound.count_le
        omega
      refine ⟨_, _, rfl, sound.count_le, ?_, ?_, ?_, fun _ _ => Iff.rfl, ?_⟩
      · show (leastVisited state).val < state.zoneCount.toNat
        rw [everything]
        exact (leastVisited state).isLt
      · simp
      · intro other different
        have elsewhere : (leastVisited state).val ≠ other := by
          intro same
          exact different (Fin.ext same.symm)
        simp [elsewhere]
      · intro other _ used
        exact zoneSlot_none missing other used

/-- Visiting a placed zone leaves the zones in order. -/
theorem ZonesSound.visit {count : UInt8}
    {zones : Vector ZoneState kMaximumZones} (sound : ZonesSound state)
    (known : zoneToken ≠ 0) (placed : Placed state zoneToken slot count zones)
    (zone : ZoneState) (named : zone.token = zoneToken)
    (visited : zone.visits ≠ 0) {after : ProgressState}
    (counted : after.zoneCount = count)
    (stored : after.zones = zones.set slot.val zone slot.isLt) :
    ZonesSound after := by
  have at_slot : after.zones[slot] = zone := by
    simp [stored]
  have elsewhere (other : Fin kMaximumZones) (different : other ≠ slot) :
      after.zones[other] = state.zones[other] := by
    have apart : slot.val ≠ other := fun same =>
      different (Fin.ext same.symm)
    rw [← placed.others other different]
    simp [stored, apart]
  have unique (other : Fin kMaximumZones) (different : other ≠ slot)
      (used : other < count.toNat) :
      after.zones[other].token ≠ zoneToken := by
    rw [elsewhere other different]
    exact placed.unique other different ((placed.older other different).mp used)
  subst counted
  constructor
  · exact placed.count_le
  · intro other used
    by_cases different : other = slot
    · rw [different, at_slot, named]
      exact known
    · rw [elsewhere other different]
      exact sound.token other ((placed.older other different).mp used)
  · intro other used
    by_cases different : other = slot
    · rw [different, at_slot]
      exact visited
    · rw [elsewhere other different]
      exact sound.visits other ((placed.older other different).mp used)
  · intro first second before used
    by_cases isFirst : first = slot
    · rw [isFirst, at_slot, named]
      exact (unique second (isFirst ▸ before.ne') used).symm
    · by_cases isSecond : second = slot
      · rw [isSecond, at_slot, named]
        exact unique first isFirst (Nat.lt_trans before used)
      · rw [elsewhere first isFirst, elsewhere second isSecond]
        exact sound.distinct first second before
          ((placed.older second isSecond).mp used)
  · intro other unused
    have different : other ≠ slot := by
      have used := placed.used
      omega
    rw [elsewhere other different]
    apply sound.empty other
    have older := placed.older other different
    omega

theorem saturatingAddU16_one (value : UInt16) : saturatingAddU16 value 1 ≠ 0 := by
  simp only [saturatingAddU16]
  split
  · decide
  · rename_i room
    intro wrapped
    have below : value.toNat < 65535 := by
      have bound := value.toNat_lt
      simp only [gt_iff_lt, UInt32.lt_iff_toNat_lt, UInt16.toNat_toUInt32,
        UInt16.toNat_sub, UInt32.toNat_one, not_lt] at room
      simp at room
      omega
    have same := congrArg UInt16.toNat wrapped
    simp at same
    omega

theorem visits_visitZone (zone : ZoneState) (segmentMeters : UInt32) :
    (visitZone zone segmentMeters).visits ≠ 0 := by
  simp only [visitZone]
  exact saturatingAddU16_one zone.visits

/-- Steps and distance of a route under way disturb nothing. -/
theorem Coherent.walked (coherent : Coherent state)
    (shared : state.privacyMode ≠ PrivacyMode.off.code)
    (underway : state.phase ≠ RoutePhase.idle.code) (steps distance : UInt32) :
    Coherent (recalculateTarget { state with
      steps, routeDistanceMeters := distance }) := by
  refine ⟨coherent.magic, coherent.bytes, coherent.schema, coherent.ranges,
    coherent.history, coherent.journal, coherent.zones, ?_,
    coherent.current, coherent.hotspot, ?_⟩
  · rw [privacyValid_shared (by exact shared)]
    exact (privacyValid_shared shared).symm.trans coherent.privacy
  · apply phaseValid_recalculateTarget state.targetSteps
    rw [phaseValid_underway (by exact underway)]
    have route := (phaseValid_underway underway).mp coherent.phase
    exact ⟨route.started, route.target, route.decisions, route.party,
      route.commute, route.clock, route.outcome⟩

theorem Coherent.walkRoute (coherent : Coherent state)
    (shared : state.privacyMode ≠ PrivacyMode.off.code)
    (stepDelta segmentMeters : UInt32) :
    Coherent (walkRoute state stepDelta segmentMeters) := by
  simp only [Adventure.walkRoute]
  split
  · rename_i active
    have underway : state.phase ≠ RoutePhase.idle.code := by
      rw [beq_iff_eq.mp active]
      decide
    exact coherent.walked shared underway _ _
  · exact coherent

/-- The record that stands in a placed zone. -/
theorem Coherent.inZone (coherent : Coherent state)
    (shared : state.privacyMode ≠ PrivacyMode.off.code) (known : zoneToken ≠ 0)
    {count : UInt8} {zones : Vector ZoneState kMaximumZones}
    (placed : Placed state zoneToken slot count zones) (zone : ZoneState)
    (named : zone.token = zoneToken) (visited : zone.visits ≠ 0) (isNew : Bool)
    (distance : UInt32) :
    Coherent { state with
      zoneCount := count
      zones := zones.set slot.val zone slot.isLt
      currentZoneToken := zoneToken
      flags := if isNew then state.flags ||| kFlagCurrentZoneNew
        else state.flags &&& ~~~ kFlagCurrentZoneNew
      totalDistanceMeters := distance } := by
  have sound := (zonesValid_iff state).mp coherent.zones
  rcases (rangesValid_iff _).mp coherent.ranges with
    ⟨phased, known_mode, settled, allowed, reserved⟩
  have same : SameRouteFlags state.flags
      (if isNew then state.flags ||| kFlagCurrentZoneNew
        else state.flags &&& ~~~ kFlagCurrentZoneNew) := by
    split
    · exact SameRouteFlags.added state.flags rfl
    · exact SameRouteFlags.kept state.flags rfl
  refine ⟨coherent.magic, coherent.bytes, coherent.schema, ?_,
    coherent.history, coherent.journal, ?_, ?_, ?_, coherent.hotspot, ?_⟩
  · rw [rangesValid_iff]
    refine ⟨phased, known_mode, settled, ?_, reserved⟩
    split
    · rw [flagged_added rfl]
      exact allowed
    · rw [flagged_kept rfl]
      exact allowed
  · rw [zonesValid_iff]
    exact sound.visit known placed zone named visited rfl rfl
  · rw [privacyValid_shared (by exact shared)]
    exact (privacyValid_shared shared).symm.trans coherent.privacy
  · simp only [currentZoneValid, Bool.or_eq_true, List.any_eq_true]
    refine Or.inr ⟨slot, List.mem_finRange slot, ?_⟩
    simp [placed.used, named]
  · exact (phaseValid_flags same).trans coherent.phase

theorem Coherent.enterZone (coherent : Coherent state)
    (shared : state.privacyMode ≠ PrivacyMode.off.code)
    {zoneToken : UInt32} (known : zoneToken ≠ 0)
    (stepDelta segmentMeters : UInt32) :
    Coherent (enterZone state zoneToken stepDelta segmentMeters) := by
  have sound := (zonesValid_iff state).mp coherent.zones
  rcases sound.placeZone zoneToken with ⟨count, zones, frame, placed⟩
  simp only [Adventure.enterZone, frame]
  apply Coherent.walkRoute _ (by exact shared)
  have named : (visitZone zones[(placeZone state zoneToken).slot]
      segmentMeters).token = zoneToken := by
    simp only [visitZone]
    exact placed.token
  have visited := visits_visitZone zones[(placeZone state zoneToken).slot]
    segmentMeters
  generalize visitZone zones[(placeZone state zoneToken).slot] segmentMeters =
    zone at named visited ⊢
  generalize saturatingAddU32 state.totalDistanceMeters segmentMeters =
    distance
  exact coherent.inZone shared known placed zone named visited _ distance

end Location

/-! ## Routes under way -/

section Routes

variable {state : ProgressState}

/-- The counters of a route under way are not constrained. -/
theorem Coherent.counters (coherent : Coherent state)
    (underway : state.phase ≠ RoutePhase.idle.code)
    (steps expedition : UInt32) (points risk : UInt16)
    (encounter : UInt64) (branch : UInt8) :
    Coherent { state with
      steps
      progressPoints := points
      riskPoints := risk
      lastExpeditionId := expedition
      lastEncounterOperationId := encounter
      branchCode := branch } := by
  refine ⟨coherent.magic, coherent.bytes, coherent.schema, coherent.ranges,
    coherent.history, coherent.journal, coherent.zones, coherent.privacy,
    coherent.current, coherent.hotspot, ?_⟩
  rw [phaseValid_underway (by exact underway)]
  have route := (phaseValid_underway underway).mp coherent.phase
  exact ⟨route.started, route.target, route.decisions, route.party,
    route.commute, route.clock, route.outcome⟩

theorem active_underway (active : state.phase = RoutePhase.active.code) :
    state.phase ≠ RoutePhase.idle.code := by
  rw [active]
  decide

theorem Coherent.hotspotFields (coherent : Coherent state)
    {token community : UInt32} {bonuses : UInt16} (visits : UInt16)
    (day : UInt32) (known : token ≠ 0) (bonus : bonuses = 0 → community = 0) :
    Coherent { state with
      communityHotspotVisits := visits
      communityDayBonuses := bonuses
      lastHotspotToken := token
      lastHotspotDayId := day
      lastCommunityDayId := community } := by
  refine ⟨coherent.magic, coherent.bytes, coherent.schema, coherent.ranges,
    coherent.history, coherent.journal, coherent.zones, coherent.privacy,
    coherent.current, ?_, coherent.phase⟩
  simp [hotspotValid, known]
  tauto

theorem Coherent.visitHotspot (coherent : Coherent state) {token : UInt32}
    (known : token ≠ 0) (participantCount : UInt8) (now : ClockSample) :
    Coherent (visitHotspot state token participantCount now) := by
  simp only [Adventure.visitHotspot]
  generalize saturatingAddU16 state.communityHotspotVisits 1 = visits
  generalize (if now.trusted != 0 then now.dayId else 0) = day
  split
  · simp only [awardCommunityDay]
    have awarded := saturatingAddU16_one state.communityDayBonuses
    generalize saturatingAddU16 state.communityDayBonuses 1 = bonuses
      at awarded ⊢
    generalize saturatingAddU16 state.progressPoints
      participantCount.toUInt32 = points
    have fields := coherent.hotspotFields visits day
      known (fun none => absurd (b := now.dayId = 0) none awarded)
    split
    · rename_i active
      exact fields.counters (active_underway (by simpa using active)) _ _
        points _ _ _
    · exact fields
  · apply coherent.hotspotFields visits day known
    intro none
    have hotspot := coherent.hotspot
    simp only [hotspotValid, none] at hotspot
    simp_all

theorem Coherent.countDecision (coherent : Coherent state)
    (active : state.phase = RoutePhase.active.code)
    (room : state.decisionCount < kMaximumMidDecisions) (decision : UInt8) :
    Coherent (countDecision state decision) := by
  have underway := active_underway active
  have next : state.decisionCount + 1 ≤ kMaximumMidDecisions := by
    have below : state.decisionCount.toNat < 3 :=
      UInt8.lt_iff_toNat_lt.mp room
    show (state.decisionCount.toNat + 1) % 256 ≤ 3
    omega
  refine ⟨coherent.magic, coherent.bytes, coherent.schema, coherent.ranges,
    coherent.history, coherent.journal, coherent.zones, coherent.privacy,
    coherent.current, coherent.hotspot, ?_⟩
  rw [phaseValid_underway (by exact underway)]
  have route := (phaseValid_underway underway).mp coherent.phase
  exact ⟨route.started, route.target, next, route.party,
    route.commute, route.clock, route.outcome⟩

/-- Flags whose only new bit is the early return. -/
theorem Coherent.returnEarly (coherent : Coherent state)
    (active : state.phase = RoutePhase.active.code) :
    Coherent { state with flags := state.flags ||| kFlagEarlyReturn } := by
  have underway := active_underway active
  rcases (rangesValid_iff _).mp coherent.ranges with
    ⟨phased, known, settled, allowed, reserved⟩
  have route := (phaseValid_underway underway).mp coherent.phase
  have privacy := coherent.privacy
  refine ⟨coherent.magic, coherent.bytes, coherent.schema, ?_,
    coherent.history, coherent.journal, coherent.zones, ?_,
    coherent.current, coherent.hotspot, ?_⟩
  · rw [rangesValid_iff]
    refine ⟨phased, known, settled, ?_, reserved⟩
    rw [flagged_added rfl]
    exact allowed
  · simp only [privacyValid] at privacy ⊢
    rw [flagged_added rfl]
    exact privacy
  · rw [phaseValid_underway (by exact underway)]
    refine ⟨route.started, route.target, route.decisions, route.party, ?_, ?_, ?_⟩
    · show flagged (_ ||| _) _ = true → _
      rw [flagged_added rfl]
      exact route.commute
    · have clock := route.clock
      simp only [clockValid] at clock ⊢
      rw [flagged_added rfl, flagged_added rfl]
      exact clock
    · have outcome := route.outcome
      simp only [outcomeValid, active] at outcome ⊢
      exact outcome

theorem Coherent.followDecision (coherent : Coherent state)
    (active : state.phase = RoutePhase.active.code) (decision : UInt8) :
    Coherent (followDecision state decision) := by
  have underway := active_underway active
  simp only [Adventure.followDecision]
  generalize saturatingAddU16 state.progressPoints 5 = continued
  generalize saturatingAddU16 state.progressPoints 10 = detoured
  generalize saturatingAddU16 state.progressPoints 8 = helped
  generalize saturatingAddU16 state.riskPoints
    (5 * (state.risk.toUInt32 + 1)) = risked
  split
  · exact coherent.counters underway _ _ continued _ _ _
  · split
    · exact coherent.counters underway _ _ detoured risked _ _
    · split
      · exact coherent.counters underway _ _ helped _ _ _
      · exact coherent.returnEarly active

theorem validPartyResult_size {result : HuntResult}
    (played : validPartyResult result = true) :
    validPartySize result.participantCount = true ∧ result.proof ≠ 0 := by
  simp only [validPartyResult, Bool.and_eq_true, decide_eq_true_eq,
    bne_iff_ne] at played
  constructor
  · simp [validPartySize, played.1.1.1.1.1.1, played.1.1.1.1.1.2]
  · exact played.2

theorem Coherent.joined (coherent : Coherent state)
    (underway : state.phase ≠ RoutePhase.idle.code) {size : UInt8}
    {proof : UInt32} (sized : validPartySize size = true) (proven : proof ≠ 0)
    (points : UInt16) :
    Coherent (recalculateTarget { state with
      lastPartyProof := proof, partySize := size,
      progressPoints := points }) := by
  refine ⟨coherent.magic, coherent.bytes, coherent.schema, coherent.ranges,
    coherent.history, coherent.journal, coherent.zones, coherent.privacy,
    coherent.current, coherent.hotspot, ?_⟩
  apply phaseValid_recalculateTarget state.targetSteps
  rw [phaseValid_underway (by exact underway)]
  have route := (phaseValid_underway underway).mp coherent.phase
  refine ⟨route.started, route.target, route.decisions, ?_,
    route.commute, route.clock, route.outcome⟩
  simp [partyValid, sized, proven]

theorem Coherent.joinParty (coherent : Coherent state)
    (underway : state.phase ≠ RoutePhase.idle.code) {result : HuntResult}
    (played : validPartyResult result = true) (points : UInt32) :
    Coherent (joinParty state result points) := by
  rcases validPartyResult_size played with ⟨sized, proven⟩
  exact coherent.joined underway sized proven _

/-- A bold route that did not get far waits for its rescue. -/
theorem Coherent.awaitRescue (coherent : Coherent state)
    (active : state.phase = RoutePhase.active.code)
    (staying : flagged state.flags kFlagEarlyReturn = false)
    (bold : state.risk = Risk.bold.code) :
    Coherent { state with phase := RoutePhase.awaitingRescue.code } := by
  rcases (rangesValid_iff _).mp coherent.ranges with
    ⟨-, known, settled, allowed, reserved⟩
  have route := (phaseValid_underway (active_underway active)).mp
    coherent.phase
  have pending : state.outcome = Outcome.none.code := by
    have outcome := route.outcome
    simp only [outcomeValid, active] at outcome
    by_contra set
    simp [set, RoutePhase.code] at outcome
  refine ⟨coherent.magic, coherent.bytes, coherent.schema, ?_,
    coherent.history, coherent.journal, coherent.zones, coherent.privacy,
    coherent.current, coherent.hotspot, ?_⟩
  · rw [rangesValid_iff]
    exact ⟨rfl, known, settled, allowed, reserved⟩
  · rw [phaseValid_underway
      (show RoutePhase.awaitingRescue.code ≠ _ by decide)]
    refine ⟨route.started, route.target, route.decisions, route.party,
      route.commute, route.clock, ?_⟩
    simp [outcomeValid, pending, bold, staying, RoutePhase.code]

theorem Coherent.clearRoute (coherent : Coherent state) :
    Coherent (clearRoute state) := by
  rcases (rangesValid_iff _).mp coherent.ranges with
    ⟨-, known, -, allowed, reserved⟩
  have privacy := coherent.privacy
  refine ⟨coherent.magic, coherent.bytes, coherent.schema, ?_,
    coherent.history, coherent.journal, coherent.zones, ?_,
    coherent.current, coherent.hotspot, ?_⟩
  · rw [rangesValid_iff]
    refine ⟨rfl, known, rfl, ?_, reserved⟩
    exact flagged_cleared rfl _
  · simp only [privacyValid, Adventure.clearRoute] at privacy ⊢
    rw [flagged_kept rfl]
    by_cases off : state.privacyMode = PrivacyMode.off.code
    · simp_all
    · simpa [off] using privacy
  · rw [phaseValid_idle rfl]
    have cleared := @flagged_cleared
      (kFlagCurrentZoneNew ||| kFlagChainEligible)
      (kFlagCommuteSafe ||| kFlagEarlyReturn ||| kFlagTrustedStartClock |||
        kFlagCommunityDay) rfl state.flags
    simp only [idleValid, Adventure.clearRoute, cleared]
    rfl

/-! ### The start -/

theorem timeBandFor_valid (now : ClockSample) :
    validTimeBand (timeBandFor now).code = true := by
  cases timeBandFor now <;> rfl

theorem moonFor_valid (now : ClockSample) :
    validMoon (moonFor now).code = true := by
  cases moonFor now <;> rfl

theorem routeSeedFor_ne_zero (request : RouteRequest) (now : ClockSample)
    (entropy : UInt32) : routeSeedFor state request now entropy ≠ 0 := by
  simp only [routeSeedFor]
  split
  · decide
  · simp_all

theorem routeIdFor_ne_zero (seed nextSequence : UInt32)
    (signature : UInt16) : routeIdFor seed nextSequence signature ≠ 0 := by
  simp only [routeIdFor]
  split
  · decide
  · simp_all

theorem chainDepthFor_ne_zero (request : RouteRequest) :
    chainDepthFor state request ≠ 0 := by
  simp only [chainDepthFor]
  split
  · split
    · decide
    · rename_i below
      intro wrapped
      have same : state.chainDepth.toNat = 255 := by
        have total := congrArg UInt8.toNat wrapped
        have bound := state.chainDepth.toNat_lt
        have total : (state.chainDepth.toNat + 1) % 256 = 0 := total
        omega
      exact below (beq_iff_eq.mpr (UInt8.toNat_inj.mp same))
  · decide

theorem freshVariant_lt (terrain objective : UInt8) (attempts : Nat)
    (variant : UInt8) (below : variant < kRouteVariantCount) :
    freshVariant state terrain objective attempts variant <
      kRouteVariantCount := by
  induction attempts generalizing variant with
  | zero => exact below
  | succ attempts induction =>
    simp only [freshVariant]
    split
    · exact below
    · apply induction
      exact UInt8.mod_lt _ (by decide)

theorem variant_lt (seed : UInt32) :
    (seed % kRouteVariantCount.toUInt32).toUInt8 < kRouteVariantCount := by
  show seed.toNat % 12 % 256 < 12
  omega

theorem sequence_succ_ne_zero (room : state.sequence ≠ 0xffffffff) :
    state.sequence + 1 ≠ 0 := by
  intro wrapped
  apply room
  have bound := state.sequence.toNat_lt
  have total := congrArg UInt32.toNat wrapped
  have total : (state.sequence.toNat + 1) % 4294967296 = 0 := total
  apply UInt32.toNat_inj.mp
  show state.sequence.toNat = 4294967295
  omega

theorem routeSignature_ne_zero {terrain objective variant : UInt8}
    (terrained : validTerrain terrain = true)
    (aimed : validObjective objective = true)
    (below : variant < kRouteVariantCount) :
    routeSignature terrain objective variant ≠ 0 := by
  have first : terrain.toNat < 5 := by
    simpa [validTerrain, UInt8.lt_iff_toNat_lt] using terrained
  have second : objective.toNat < 5 := by
    simpa [validObjective, UInt8.lt_iff_toNat_lt] using aimed
  have third : variant.toNat < 12 := UInt8.lt_iff_toNat_lt.mp below
  intro zero
  have total : (1 + terrain.toNat * 60 + objective.toNat * 12 +
      variant.toNat) % 65536 = 0 := by
    simpa [routeSignature] using congrArg UInt16.toNat zero
  rw [Nat.mod_eq_of_lt (by omega)] at total
  omega

/-- What the flags of a new route say about its request and its clock. -/
structure StartFlags (request : RouteRequest) (now : ClockSample)
    (before after : UInt8) : Prop where
  allowed : flagged after (~~~ kAllowedFlags) = false
  fresh : flagged after kFlagCurrentZoneNew =
    flagged before kFlagCurrentZoneNew
  commute : flagged after kFlagCommuteSafe = true → request.commuteSafe ≠ 0
  clock : flagged after kFlagTrustedStartClock = false → now.trusted = 0
  community : flagged after kFlagCommunityDay = communityDayFor now

theorem startFlags_spec (flags : UInt8) (request : RouteRequest)
    (now : ClockSample) :
    StartFlags request now flags (startFlags flags request now) := by
  constructor
  · simp only [startFlags, flagged_ite_or]
    rw [flagged_cleared rfl]
    show (((false || _ && false) || _ && false) || _ && false) = false
    simp
  · simp only [startFlags, flagged_ite_or]
    rw [flagged_kept rfl]
    show (((_ || _ && false) || _ && false) || _ && false) = _
    simp
  · simp only [startFlags, flagged_ite_or]
    rw [flagged_cleared rfl]
    show (((false || _ && true) || _ && false) || _ && false) = true → _
    simp
  · simp only [startFlags, flagged_ite_or]
    rw [flagged_cleared rfl]
    show (((false || _ && false) || _ && true) || _ && false) = false → _
    simp
  · simp only [startFlags, flagged_ite_or]
    rw [flagged_cleared rfl]
    show (((false || _ && false) || _ && false) || _ && true) = _
    simp

end Routes

/-! ## The two rings -/

/-- The signatures of the last routes, as a ring. -/
def historyRing (state : ProgressState) :
    RingBuffer UInt16 kRouteHistoryCapacity where
  slots := state.routeHistory
  count := state.historyCount.toNat
  next := state.historyNext.toNat

/-- The journal, as a ring of its entries. -/
def journalRing (state : ProgressState) :
    RingBuffer JournalEntry kJournalCapacity where
  slots := state.journal
  count := state.journalCount.toNat
  next := state.journalNext.toNat

/-- The source's test of a ring is that it is filled. -/
theorem filled_iff {α : Type} {capacity : Nat} (slots : Vector α capacity)
    (count next : UInt8) (blank good : α → Bool) :
    (count.toNat ≤ capacity && next.toNat < capacity &&
      (!(count.toNat < capacity) || next == count &&
        (List.finRange capacity).all fun slot =>
          !(count.toNat ≤ slot) || blank (getElem slots slot.val slot.isLt)) &&
      (List.finRange capacity).all fun slot =>
        !(slot < count.toNat) || good (getElem slots slot.val slot.isLt)) = true ↔
    (RingBuffer.mk slots count.toNat next.toNat).Filled
      (fun entry => blank entry = true) (fun entry => good entry = true) := by
  simp only [Bool.and_eq_true, decide_eq_true_eq, List.all_eq_true,
    List.mem_finRange, true_implies, Bool.or_eq_true, Bool.not_eq_true',
    decide_eq_false_iff_not, beq_iff_eq]
  constructor
  · rintro ⟨⟨⟨bounded, inside⟩, room⟩, used⟩
    constructor
    · exact bounded
    · exact inside
    · intro below
      exact congrArg UInt8.toNat (room.resolve_left (not_not.mpr below)).1
    · intro slot unused
      have below : count.toNat < capacity := Nat.lt_of_le_of_lt unused slot.isLt
      have blanks := (room.resolve_left (not_not.mpr below)).2
      exact (blanks slot).resolve_left (not_not.mpr unused)
    · intro slot inUse
      exact (used slot).resolve_left (not_not.mpr inUse)
  · intro filled
    refine ⟨⟨⟨filled.count_le, filled.next_lt⟩, ?_⟩, ?_⟩
    · by_cases below : count.toNat < capacity
      · refine Or.inr ⟨UInt8.toNat_inj.mp (filled.next_eq below), ?_⟩
        intro slot
        by_cases unused : count.toNat ≤ slot
        · exact Or.inr (filled.blank slot unused)
        · exact Or.inl unused
      · exact Or.inl below
    · intro slot
      by_cases inUse : slot < count.toNat
      · exact Or.inr (filled.good slot inUse)
      · exact Or.inl inUse

theorem historyValid_iff (state : ProgressState) :
    historyValid state = true ↔ (historyRing state).Filled
      (fun entry => (entry == 0) = true) (fun entry => (entry != 0) = true) :=
  filled_iff state.routeHistory _ _ (· == 0) (· != 0)

theorem journalValid_iff (state : ProgressState) :
    journalValid state = true ↔ (journalRing state).Filled
      (fun entry => emptyJournal entry = true)
      (fun entry => validJournal entry = true) :=
  filled_iff state.journal _ _ emptyJournal validJournal

/-- The byte arithmetic of the two rings does not wrap. -/
theorem ring_bytes {capacity : Nat} (small : capacity < 256)
    {count next : UInt8} (inside : next.toNat < capacity) :
    (if count.toNat < capacity then count + 1 else count).toNat =
        (if count.toNat < capacity then count.toNat + 1 else count.toNat) ∧
      ((next + 1) % UInt8.ofNat capacity).toNat =
        (next.toNat + 1) % capacity := by
  constructor
  · split
    · rw [UInt8.toNat_add, UInt8.toNat_one, Nat.mod_eq_of_lt]
      omega
    · rfl
  · rw [UInt8.toNat_mod, UInt8.toNat_add, UInt8.toNat_one,
      UInt8.toNat_ofNat_of_lt' small]
    congr 1
    apply Nat.mod_eq_of_lt
    omega

theorem historyRing_append {state : ProgressState}
    (inside : state.historyNext.toNat < kRouteHistoryCapacity)
    (signature : UInt16) :
    historyRing (appendHistory state signature) =
      (historyRing state).push signature := by
  have bytes := @ring_bytes _ (by decide) state.historyCount _ inside
  exact RingBuffer.ext rfl bytes.1 bytes.2

theorem journalRing_append {state : ProgressState}
    (inside : state.journalNext.toNat < kJournalCapacity) (now : ClockSample) :
    journalRing (appendJournal state now) =
      (journalRing state).push (journalEntry state now) := by
  have bytes := @ring_bytes _ (by decide) state.journalCount _ inside
  exact RingBuffer.ext rfl bytes.1 bytes.2

/-- The history and the journal. -/
def rings (state : ProgressState) :
    RingBuffer UInt16 kRouteHistoryCapacity × RingBuffer JournalEntry kJournalCapacity :=
  (historyRing state, journalRing state)

theorem rings_placeZone (state : ProgressState) (token : UInt32) :
    rings (placeZone state token).state = rings state := by
  simp only [placeZone]
  split
  · rfl
  · split
    · simp only [rings, historyRing, journalRing]
    · simp only [rings, historyRing, journalRing]

theorem rings_walkRoute (state : ProgressState)
    (stepDelta segmentMeters : UInt32) :
    rings (walkRoute state stepDelta segmentMeters) =
      rings state := by
  simp only [walkRoute]
  split
  · simp only [rings, historyRing, journalRing, recalculateTarget]
  · rfl

theorem rings_enterZone (state : ProgressState)
    (token stepDelta segmentMeters : UInt32) :
    rings (enterZone state token stepDelta segmentMeters) =
      rings state := by
  rw [← rings_placeZone state token]
  simp only [enterZone, rings_walkRoute]
  simp only [rings, historyRing, journalRing]

theorem rings_visitHotspot (state : ProgressState) (token : UInt32)
    (participantCount : UInt8) (now : ClockSample) :
    rings (visitHotspot state token participantCount now) =
      rings state := by
  simp only [visitHotspot]
  split
  · simp only [rings, historyRing, journalRing, awardCommunityDay]
  · simp only [rings, historyRing, journalRing]

theorem rings_followDecision (state : ProgressState) (decision : UInt8) :
    rings (followDecision state decision) = rings state := by
  simp only [followDecision]
  split
  · simp only [rings, historyRing, journalRing]
  · split
    · simp only [rings, historyRing, journalRing]
    · split
      · simp only [rings, historyRing, journalRing]
      · simp only [rings, historyRing, journalRing]

theorem Coherent.appendHistory {state : ProgressState}
    (coherent : Coherent state) {signature : UInt16}
    (named : signature ≠ 0) : Coherent (appendHistory state signature) := by
  have filled := (historyValid_iff state).mp coherent.history
  refine ⟨coherent.magic, coherent.bytes, coherent.schema, coherent.ranges,
    ?_, coherent.journal, coherent.zones, coherent.privacy, coherent.current,
    coherent.hotspot, coherent.phase⟩
  rw [historyValid_iff, historyRing_append filled.next_lt, filled.push_iff]
  exact bne_iff_ne.mpr named

/-- Appending to the journal is as good as the entry appended. -/
theorem Coherent.appendJournal_iff {state : ProgressState}
    (coherent : Coherent state) (now : ClockSample) :
    Coherent (appendJournal state now) ↔
      validJournal (journalEntry state now) = true := by
  have filled := (journalValid_iff state).mp coherent.journal
  rw [← filled.push_iff, ← journalRing_append filled.next_lt, ← journalValid_iff]
  constructor
  · intro after
    exact after.journal
  · intro journal
    exact ⟨coherent.magic, coherent.bytes, coherent.schema, coherent.ranges,
      coherent.history, journal, coherent.zones, coherent.privacy,
      coherent.current, coherent.hotspot, coherent.phase⟩

/-! ## The start of a route -/

variable {now : ClockSample}

section Start

variable {state : ProgressState}

theorem validRequest_start {request : RouteRequest}
    (requested : validRequest request = true) :
    validTerrain request.terrain = true ∧
      validObjective request.objective = true ∧
      validRisk request.risk = true ∧
      validPersonality request.personality = true ∧
      validWeather request.weather = true ∧
      100 ≤ request.baseTargetSteps ∧
      request.baseTargetSteps ≤ 100000 := by
  simp only [validRequest, Bool.and_eq_true, decide_eq_true_eq] at requested
  tauto

/-- An untrusted clock tells neither the time of day nor the moon. -/
theorem clock_untrusted (untrusted : now.trusted = 0) :
    timeBandFor now = .unknown ∧ moonFor now = .unknown ∧
      communityDayFor now = false := by
  simp [timeBandFor, moonFor, communityDayFor, untrusted]

/-- A route begun on an idle record, whatever its derived fields are. -/
theorem Coherent.started (coherent : Coherent state) {request : RouteRequest}
    (requested : validRequest request = true)
    (careful : request.commuteSafe ≠ 0 → request.risk = Risk.careful.code)
    {sequence seed routeId : UInt32} {variant depth flags : UInt8}
    (chainKey : UInt32) (sequenced : sequence ≠ 0) (seeded : seed ≠ 0)
    (routed : routeId ≠ 0) (deep : depth ≠ 0)
    (below : variant < kRouteVariantCount)
    (flagsSpec : StartFlags request now state.flags flags) :
    Coherent (recalculateTarget { state with
      phase := RoutePhase.active.code
      outcome := Outcome.none.code
      terrain := request.terrain
      objective := request.objective
      risk := request.risk
      personality := request.personality
      weather := request.weather
      timeBand := (timeBandFor now).code
      moonPhase := (moonFor now).code
      decisionCount := 0
      branchCode := 0
      partySize := 0
      chainDepth := depth
      routeVariant := variant
      progressPoints := 0
      riskPoints := 0
      sequence
      routeId
      routeSeed := seed
      baseTargetSteps := request.baseTargetSteps
      steps := 0
      routeDistanceMeters := 0
      lastChainKey := chainKey
      flags }) := by
  rcases (rangesValid_iff _).mp coherent.ranges with
    ⟨-, known, -, -, reserved⟩
  rcases validRequest_start requested with
    ⟨terrain, objective, risk, personality, weather, least, most⟩
  refine ⟨coherent.magic, coherent.bytes, coherent.schema, ?_,
    coherent.history, coherent.journal, coherent.zones, ?_,
    coherent.current, coherent.hotspot, ?_⟩
  · rw [rangesValid_iff]
    exact ⟨rfl, known, rfl, flagsSpec.allowed, reserved⟩
  · have privacy := coherent.privacy
    simp only [privacyValid, recalculateTarget, flagsSpec.fresh]
      at privacy ⊢
    by_cases off : state.privacyMode = PrivacyMode.off.code
    · simp_all
    · simpa [off] using privacy
  · apply phaseValid_recalculateTarget 100
    rw [phaseValid_underway
      (show RoutePhase.active.code ≠ RoutePhase.idle.code by decide)]
    constructor
    · simp [startValid, terrain, objective, risk, personality, weather, least,
        most, sequenced, seeded, routed, deep, below]
    · rfl
    · exact UInt8.le_iff_toNat_le.mpr (Nat.zero_le _)
    · rfl
    · intro safe
      exact careful (flagsSpec.commute safe)
    · have band := timeBandFor_valid now
      have moon := moonFor_valid now
      simp only [clockValid, band, moon, Bool.true_and, Bool.or_eq_true,
        Bool.and_eq_true, beq_iff_eq]
      by_cases trusted : flagged flags kFlagTrustedStartClock = true
      · exact Or.inl trusted
      · have untrusted := flagsSpec.clock (by simpa using trusted)
        rcases clock_untrusted untrusted with ⟨noBand, noMoon, noDay⟩
        refine Or.inr ⟨⟨congrArg _ noBand, congrArg _ noMoon⟩, ?_⟩
        rw [flagsSpec.community, noDay]
        rfl
    · rfl

theorem Coherent.startRoute (coherent : Coherent state)
    {request : RouteRequest} {now : ClockSample} (entropy : UInt32)
    (requested : validRequest request = true)
    (careful : request.commuteSafe ≠ 0 → request.risk = Risk.careful.code)
    (room : state.sequence ≠ 0xffffffff) :
    Coherent (startRoute state request now entropy) := by
  have seeded := @routeSeedFor_ne_zero state request now entropy
  have below := @freshVariant_lt state request.terrain
    request.objective kRouteVariantCount.toNat _
    (variant_lt (routeSeedFor state request now entropy))
  rcases validRequest_start requested with ⟨terrain, objective, -⟩
  have signature := routeSignature_ne_zero terrain objective below
  simp only [Adventure.startRoute]
  generalize routeSeedFor state request now entropy = seed at *
  generalize freshVariant state request.terrain request.objective
    kRouteVariantCount.toNat (seed % kRouteVariantCount.toUInt32).toUInt8 =
    variant at *
  have sequenced := sequence_succ_ne_zero room
  have routed := routeIdFor_ne_zero seed (state.sequence + 1)
    (routeSignature request.terrain request.objective variant)
  have deep := @chainDepthFor_ne_zero state request
  have flags := startFlags_spec state.flags request now
  have started := coherent.started requested careful (chainKeyFor request)
    sequenced seeded routed deep below flags
  exact started.appendHistory signature

end Start

/-! ## The end of a route -/

section End

variable {state : ProgressState}

theorem outcome_code {outcome : Outcome} (result : outcome ≠ .none) :
    Outcome.none.code < outcome.code ∧ outcome.code < 5 := by
  cases outcome with
  | none => exact absurd rfl result
  | partly => decide
  | complete => decide
  | earlyReturn => decide
  | rescued => decide

/-- The flags of a route that is over differ in the chain bit only. -/
theorem settle_flags (outcome : Outcome) :
    SameRouteFlags state.flags (settle state outcome).flags ∧
      flagged (settle state outcome).flags kFlagCurrentZoneNew =
        flagged state.flags kFlagCurrentZoneNew ∧
      (flagged state.flags (~~~ kAllowedFlags) = false →
        flagged (settle state outcome).flags (~~~ kAllowedFlags) = false) := by
  simp only [settle]
  split
  · refine ⟨SameRouteFlags.added state.flags rfl, flagged_added rfl _, ?_⟩
    intro allowed
    rw [flagged_added rfl]
    exact allowed
  · refine ⟨SameRouteFlags.kept state.flags rfl, flagged_kept rfl _, ?_⟩
    intro allowed
    rw [flagged_kept rfl]
    exact allowed

theorem Coherent.settle (coherent : Coherent state)
    (underway : state.phase ≠ RoutePhase.idle.code) {outcome : Outcome}
    (result : outcome ≠ .none) : Coherent (settle state outcome) := by
  rcases (rangesValid_iff _).mp coherent.ranges with
    ⟨-, known, -, allowed, reserved⟩
  rcases @settle_flags state outcome with ⟨same, fresh, clean⟩
  have route := (phaseValid_underway underway).mp coherent.phase
  have code := outcome_code result
  refine ⟨coherent.magic, coherent.bytes, coherent.schema, ?_,
    coherent.history, coherent.journal, coherent.zones, ?_,
    coherent.current, coherent.hotspot, ?_⟩
  · rw [rangesValid_iff]
    refine ⟨rfl, known, ?_, clean allowed, reserved⟩
    simpa [validOutcome, Adventure.settle] using code.2
  · have privacy := coherent.privacy
    simp only [privacyValid, fresh] at privacy ⊢
    exact privacy
  · rw [phaseValid_underway
      (show RoutePhase.returned.code ≠ RoutePhase.idle.code by decide)]
    refine ⟨route.started, route.target, route.decisions, route.party, ?_, ?_, ?_⟩
    · rw [same.commute]
      exact route.commute
    · have clock := route.clock
      simp only [clockValid, same.trusted, same.community] at clock ⊢
      exact clock
    · simp [outcomeValid, Adventure.settle, code.1, code.2]

/-- The flags of a journal entry, by bit. -/
theorem journalFlags_spec (now : ClockSample) :
    flagged (journalFlags state now) (~~~ kAllowedJournalFlags) = false ∧
      flagged (journalFlags state now) kJournalFlagTrustedTime =
        (now.trusted != 0) ∧
      flagged (journalFlags state now) kJournalFlagCommunityDay =
        flagged state.flags kFlagCommunityDay ∧
      flagged (journalFlags state now) kJournalFlagHomeComfort =
        homeComfort state := by
  simp only [journalFlags, flagged_ite_or]
  refine ⟨?_, ?_, ?_, ?_⟩
  · show ((((false || _ && false) || _ && false) || _ && false) ||
      _ && false) = false
    simp
  · show ((((false || _ && true) || _ && false) || _ && false) ||
      _ && false) = _
    simp
  · show ((((false || _ && false) || _ && true) || _ && false) ||
      _ && false) = _
    simp
  · show ((((false || _ && false) || _ && false) || _ && true) ||
      _ && false) = _
    simp

theorem and_one_le (value : UInt8) : (value &&& 1).toNat ≤ 1 := by
  rw [UInt8.toNat_and, UInt8.toNat_one, Nat.and_one_is_mod]
  omega

theorem postcardIdFor_lt {outcome : Outcome} (result : outcome ≠ .none) :
    postcardIdFor (settle state outcome) < kPostcardCount := by
  have objective := and_one_le state.objective
  have terrain := and_one_le state.terrain
  cases outcome with
  | none => exact absurd rfl result
  | partly =>
    show ((4 : UInt8) + (state.objective &&& 1)).toNat < 10
    rw [UInt8.toNat_add]
    show (4 + _) % 256 < 10
    omega
  | complete =>
    show _ % 4 % 256 < 10
    omega
  | earlyReturn =>
    show ((6 : UInt8) + (state.terrain &&& 1)).toNat < 10
    rw [UInt8.toNat_add]
    show (6 + _) % 256 < 10
    omega
  | rescued =>
    show (if state.partySize == kMaximumParticipants then (9 : UInt8)
      else 8).toNat < 10
    split <;> decide

/-- A valid clock has a day exactly when it is trusted. -/
theorem validClock_day (timed : validClock now = true) :
    (now.trusted != 0) = ((if now.trusted != 0 then now.dayId else 0) != 0) := by
  by_cases untrusted : now.trusted = 0
  · simp [untrusted]
  · have day : now.dayId ≠ 0 := by
      intro none
      simp [validClock, untrusted, none] at timed
    rw [bne_iff_ne.mpr untrusted, if_pos rfl, bne_iff_ne.mpr day]

/--
The journal entry of a route that is over is valid unless the route began on a
community day and its end has no trusted time.
-/
theorem validJournal_journalEntry (coherent : Coherent state)
    (underway : state.phase ≠ RoutePhase.idle.code) {outcome : Outcome}
    (result : outcome ≠ .none) (timed : validClock now = true) :
    validJournal (journalEntry (settle state outcome) now) = true ↔
      (flagged state.flags kFlagCommunityDay = true → now.trusted ≠ 0) := by
  have route := (phaseValid_underway underway).mp coherent.phase
  have started := route.started
  simp only [startValid, Bool.and_eq_true, decide_eq_true_eq, bne_iff_ne]
    at started
  have party := route.party
  simp only [partyValid, Bool.and_eq_true] at party
  rcases outcome_code result with ⟨some_, known⟩
  have postcard := @postcardIdFor_lt state _ result
  rcases @journalFlags_spec (settle state outcome) now with
    ⟨allowed, trusted, community, -⟩
  rcases @settle_flags state outcome with ⟨same, -⟩
  have day := validClock_day timed
  rw [validJournal, if_neg, if_neg]
  · show (!flagged (journalFlags (settle state outcome) now) _ ||
      flagged (journalFlags (settle state outcome) now) _) = true ↔ _
    rw [community, same.community, trusted]
    by_cases fair : flagged state.flags kFlagCommunityDay = true
    · simp [fair]
    · simp [fair]
  · show ¬ (flagged (journalFlags (settle state outcome) now) _ !=
      ((if now.trusted != 0 then now.dayId else 0) != 0)) = true
    rw [trusted, ← day]
    simp
  · show ¬ (state.routeId == 0 || outcome.code ≤ Outcome.none.code ||
      outcome.code ≥ 5 || !validTerrain state.terrain ||
      !validObjective state.objective ||
      postcardIdFor (settle state outcome) ≥ kPostcardCount ||
      !validPartySize state.partySize || state.chainDepth == 0 ||
      state.routeVariant ≥ kRouteVariantCount ||
      flagged (journalFlags (settle state outcome) now)
        (~~~ kAllowedJournalFlags)) = true
    simp only [Bool.or_eq_true, not_or, beq_iff_eq, decide_eq_true_eq,
      Bool.not_eq_true', Bool.not_eq_true, Bool.not_eq_false]
    rcases started with ⟨⟨⟨⟨⟨⟨⟨⟨⟨⟨⟨terrain, objective⟩, -⟩, -⟩, -⟩, -⟩, routeId⟩,
      -⟩, -⟩, -⟩, depth⟩, variant⟩
    exact ⟨⟨⟨⟨⟨⟨⟨⟨⟨routeId, UInt8.not_le.mpr some_⟩, UInt8.not_le.mpr known⟩,
      terrain⟩, objective⟩, UInt8.not_le.mpr postcard⟩, party.1⟩, depth⟩,
      UInt8.not_le.mpr variant⟩, allowed⟩

end End

end Kitsu.Adventure
