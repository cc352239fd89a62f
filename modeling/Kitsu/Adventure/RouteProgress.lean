import Kitsu.Adventure.Restorable

/-!
# Fresh routes, bounded targets

The history ring holds the signatures of the last routes.  A signature names its route
among those a request can ask for, and twelve variants do not fit into four slots, so
the search for a variant always finds one that none of them used.
-/

namespace Kitsu.Adventure

open Kitsu.Lib
open Kitsu.Lib.Run

/-! ## Signatures -/

/-- What a signature is made of. -/
structure Route where
  terrain : UInt8
  objective : UInt8
  variant : UInt8
deriving DecidableEq

def Route.signature (route : Route) : UInt16 :=
  routeSignature route.terrain route.objective route.variant

/-- A route that a request can ask for. -/
structure Route.Known (route : Route) : Prop where
  terrain : validTerrain route.terrain = true
  objective : validObjective route.objective = true
  variant : route.variant < kRouteVariantCount

theorem toNat_signature {route : Route} (known : route.Known) :
    route.signature.toNat =
      1 + route.terrain.toNat * 60 + route.objective.toNat * 12 +
        route.variant.toNat := by
  have first : route.terrain.toNat < 5 := by
    simpa [validTerrain, UInt8.lt_iff_toNat_lt] using known.terrain
  have second : route.objective.toNat < 5 := by
    simpa [validObjective, UInt8.lt_iff_toNat_lt] using known.objective
  have third : route.variant.toNat < 12 := UInt8.lt_iff_toNat_lt.mp known.variant
  have total : route.signature.toNat =
      (1 + route.terrain.toNat * 60 + route.objective.toNat * 12 +
        route.variant.toNat) % 65536 := by
    simp [Route.signature, routeSignature]
  rw [total]
  exact Nat.mod_eq_of_lt (by omega)

/-- Known routes of one signature are one route. -/
theorem signature_injective {first second : Route} (known : first.Known)
    (other : second.Known) (same : first.signature = second.signature) :
    first = second := by
  have total := congrArg UInt16.toNat same
  rw [toNat_signature known, toNat_signature other] at total
  have firstAim : first.objective.toNat < 5 := by
    simpa [validObjective, UInt8.lt_iff_toNat_lt] using known.objective
  have secondAim : second.objective.toNat < 5 := by
    simpa [validObjective, UInt8.lt_iff_toNat_lt] using other.objective
  have firstVariant : first.variant.toNat < 12 :=
    UInt8.lt_iff_toNat_lt.mp known.variant
  have secondVariant : second.variant.toNat < 12 :=
    UInt8.lt_iff_toNat_lt.mp other.variant
  cases first with
  | mk terrain objective variant =>
    cases second with
    | mk otherTerrain otherObjective otherVariant =>
      simp only at total firstAim secondAim firstVariant secondVariant
      rw [Route.mk.injEq, ← UInt8.toNat_inj, ← UInt8.toNat_inj, ← UInt8.toNat_inj]
      omega

/-! ## The search -/

/-- The variant tried after so many others. -/
def variantAfter (variant : UInt8) : Nat → UInt8
  | 0 => variant
  | attempts + 1 => variantAfter ((variant + 1) % kRouteVariantCount) attempts

theorem toNat_variantAfter {variant : UInt8} (below : variant < kRouteVariantCount)
    (attempts : Nat) :
    (variantAfter variant attempts).toNat = (variant.toNat + attempts) % 12 := by
  induction attempts generalizing variant with
  | zero =>
    exact (Nat.mod_eq_of_lt (UInt8.lt_iff_toNat_lt.mp below)).symm
  | succ attempts induction =>
    have inside : variant.toNat < 12 := UInt8.lt_iff_toNat_lt.mp below
    have next : ((variant + 1) % kRouteVariantCount).toNat =
        (variant.toNat + 1) % 12 := by
      show (variant.toNat + 1) % 256 % 12 = _
      omega
    rw [variantAfter, induction (UInt8.mod_lt _ (by decide)), next]
    omega

variable {state : ProgressState}

/-- The search stops at the first variant that the history does not hold. -/
theorem freshVariant_fresh {terrain objective variant : UInt8} {attempts offset : Nat}
    (near : offset < attempts) (fresh : historyContains state
      (routeSignature terrain objective (variantAfter variant offset)) = false) :
    historyContains state (routeSignature terrain objective
      (freshVariant state terrain objective attempts variant)) = false := by
  induction attempts generalizing variant offset with
  | zero => exact absurd near (Nat.not_lt_zero _)
  | succ attempts induction =>
    rw [freshVariant]
    by_cases held : historyContains state
        (routeSignature terrain objective variant) = true
    · rw [held]
      cases offset with
      | zero => exact absurd (held.symm.trans fresh) (by decide)
      | succ offset => exact induction (Nat.lt_of_succ_lt_succ near) fresh
    · rw [Bool.not_eq_true] at held
      rw [held]
      exact held

theorem historyContains_iff (signature : UInt16) :
    historyContains state signature = true ↔ signature ∈ (historyRing state).used := by
  rw [RingBuffer.mem_used]
  simp [historyContains, historyRing, List.any_eq_true]

theorem variantAfter_lt {variant : UInt8} (below : variant < kRouteVariantCount)
    (attempts : Nat) : variantAfter variant attempts < kRouteVariantCount := by
  rw [UInt8.lt_iff_toNat_lt, toNat_variantAfter below]
  exact Nat.mod_lt _ (by decide)

/-- Twelve variants do not fit into four slots. -/
theorem exists_fresh {terrain objective variant : UInt8}
    (terrained : validTerrain terrain = true)
    (aimed : validObjective objective = true)
    (below : variant < kRouteVariantCount) :
    ∃ offset < 12, historyContains state
      (routeSignature terrain objective (variantAfter variant offset)) = false := by
  by_contra full
  have held (offset : Nat) (near : offset < 12) :
      routeSignature terrain objective (variantAfter variant offset) ∈
        (historyRing state).used := by
    rw [← historyContains_iff]
    by_contra free
    exact full ⟨offset, near, Bool.not_eq_true _ ▸ free⟩
  have known (offset : Nat) :
      Route.Known ⟨terrain, objective, variantAfter variant offset⟩ :=
    ⟨terrained, aimed, variantAfter_lt below offset⟩
  have distinct : ((List.range 12).map fun offset =>
      routeSignature terrain objective (variantAfter variant offset)).Nodup := by
    apply List.Nodup.map_on _ List.nodup_range
    intro first firstNear second secondNear same
    have equal := signature_injective (known first) (known second) same
    have variants := congrArg (fun route => route.variant.toNat) equal
    simp only [toNat_variantAfter below] at variants
    rw [List.mem_range] at firstNear secondNear
    omega
  have inside : ((List.range 12).map fun offset =>
      routeSignature terrain objective (variantAfter variant offset)) ⊆
        (historyRing state).used := by
    intro signature member
    rcases List.mem_map.mp member with ⟨offset, near, rfl⟩
    exact held offset (List.mem_range.mp near)
  have few := (distinct.subperm inside).length_le
  rw [List.length_map, List.length_range, RingBuffer.used] at few
  have slots := List.length_take_le' (historyRing state).count
    (historyRing state).slots.toList
  rw [Vector.length_toList] at slots
  exact absurd (Nat.le_trans few slots) (by decide)

/-- The variant that a route begins with is in no slot of the history. -/
theorem startRoute_fresh {request : RouteRequest} {now : ClockSample}
    {entropy : UInt32} (requested : validRequest request = true) :
    historyContains state (routeSignature request.terrain request.objective
      (startRoute state request now entropy).routeVariant) = false := by
  have known := validRequest_start requested
  rcases @exists_fresh state _ _ _ known.1 known.2.1
    (variant_lt (routeSeedFor state request now entropy)) with ⟨offset, near, fresh⟩
  exact freshVariant_fresh near fresh

/-! ## The routes of a history -/

/-- A route begins, or the call is refused and changes nothing. -/
theorem begin_cases (state : ProgressState) (request : RouteRequest)
    (now : ClockSample) (entropy : UInt32) :
    ((begin state request now entropy).1 ≠ .ok ∧
        (begin state request now entropy).2 = state) ∨
      (validateProgressState state = true ∧ validRequest request = true ∧
        begin state request now entropy =
          (.ok, refreshCrc (startRoute state request now entropy))) := by
  unfold begin
  split
  · exact Or.inl ⟨by simp, rfl⟩
  next valid =>
    split
    · exact Or.inl ⟨by simp, rfl⟩
    · split
      · exact Or.inl ⟨by simp, rfl⟩
      next requested =>
        split
        · exact Or.inl ⟨by simp, rfl⟩
        · split
          · exact Or.inl ⟨by simp, rfl⟩
          · split
            · exact Or.inl ⟨by simp, rfl⟩
            · exact Or.inr ⟨by simpa using valid, by simpa using requested, rfl⟩

/-- The route that a call begins. -/
def routeBegun (state : ProgressState) : Call → Option Route
  | .begin request now entropy =>
    if (begin state request now entropy).1 = .ok then
      some ⟨request.terrain, request.objective,
        (begin state request now entropy).2.routeVariant⟩
    else none
  | _ => none

/-- The routes begun by calls one after another, the last one first. -/
def routesBegun (state : ProgressState) : List Call → List Route
  | [] => []
  | call :: later =>
    routesBegun (step state call) later ++ (routeBegun state call).toList

theorem routesBegun_concat (start : ProgressState) (calls : List Call) (call : Call) :
    routesBegun start (calls ++ [call]) =
      (routeBegun (exec step start calls) call).toList ++ routesBegun start calls := by
  induction calls generalizing start with
  | nil => simp [routesBegun]
  | cons first later induction =>
    rw [List.cons_append, routesBegun, induction, routesBegun, exec_cons,
      List.append_assoc]

/-! ## What a call does to the history -/

/-- The history of a route that begins has the new signature in front. -/
theorem historyRing_startRoute (state : ProgressState) (request : RouteRequest)
    (now : ClockSample) (entropy : UInt32)
    (inside : state.historyNext.toNat < kRouteHistoryCapacity) :
    historyRing (startRoute state request now entropy) =
      (historyRing state).push (routeSignature request.terrain request.objective
        (startRoute state request now entropy).routeVariant) := by
  have bytes := @ring_bytes _ (by decide) state.historyCount _ inside
  exact RingBuffer.ext rfl bytes.1 bytes.2

/-- Only the start of a route changes the history. -/
theorem historyRing_changes {after : ProgressState} {call : Call}
    (other : ∀ request now entropy, call ≠ .begin request now entropy)
    (change : Changes state call after) : historyRing after = historyRing state := by
  cases change with
  | privacy mode given known salted =>
    simp only [historyRing, recalculateTarget, clearLocation]
  | home token shared => simp only [historyRing, recalculateTarget]
  | coarse token stepDelta segmentMeters shared known =>
    exact congrArg Prod.fst (rings_enterZone _ _ _ _)
  | precise sample stepDelta segmentMeters shared =>
    exact congrArg Prod.fst (rings_enterZone _ _ _ _)
  | hotspot token participantCount now known =>
    exact congrArg Prod.fst (rings_visitHotspot _ _ _ _)
  | begin request now entropy => exact absurd rfl (other request now entropy)
  | steps stepDelta active => simp only [historyRing]
  | decision decision active room =>
    exact congrArg Prod.fst (rings_followDecision _ _)
  | expedition completion active => simp only [historyRing]
  | party result underway played =>
    simp only [historyRing, joinParty, recalculateTarget]
  | encounter encounter active => simp only [historyRing, meetEncounter]
  | lost now active staying bold short => simp only [historyRing]
  | ended now outcome timed active decided result =>
    simp only [historyRing, appendJournal, settle]
  | rescued result now timed waiting played =>
    simp only [historyRing, appendJournal, settle, joinParty, recalculateTarget]
  | acknowledged routeId returned => simp only [historyRing, clearRoute]

theorem historyRing_step {call : Call}
    (other : ∀ request now entropy, call ≠ .begin request now entropy) :
    historyRing (step state call) = historyRing state := by
  by_cases valid : validateProgressState state = true
  · have performed := perform_cases valid call
    generalize step state call = after at performed
    cases performed with
    | kept _ _ unended => rfl
    | changed after _ _ change =>
      have same := historyRing_changes other change
      exact same
  · have broken : validateProgressState state = false := by
      simpa using valid
    exact congrArg historyRing (perform_invalid broken call).2

/-- What one call does to the history. -/
inductive HistoryStep (state : ProgressState) (call : Call) : Prop where
  | same (unbegun : routeBegun state call = none)
      (ring : historyRing (step state call) = historyRing state)
  | pushed (route : Route) (begun : routeBegun state call = some route)
      (known : route.Known)
      (fresh : route.signature ∉ (historyRing state).used)
      (ring : historyRing (step state call) =
        (historyRing state).push route.signature)

theorem historyStep_begin (request : RouteRequest) (now : ClockSample)
    (entropy : UInt32) : HistoryStep state (.begin request now entropy) := by
  rcases begin_cases state request now entropy with
    ⟨refused, same⟩ | ⟨valid, requested, begun⟩
  · exact .same (if_neg refused) (congrArg historyRing same)
  · have coherent := ((validateProgressState_iff state).mp valid).1
    have filled := (historyValid_iff state).mp coherent.history
    have started := validRequest_start requested
    have ok : (begin state request now entropy).1 = .ok := congrArg (·.1) begun
    have after : (begin state request now entropy).2 =
        refreshCrc (startRoute state request now entropy) := congrArg (·.2) begun
    refine .pushed ⟨request.terrain, request.objective,
      (startRoute state request now entropy).routeVariant⟩ ?_ ?_ ?_ ?_
    · rw [routeBegun, if_pos ok, after]
      rfl
    · exact ⟨started.1, started.2.1, freshVariant_lt _ _ _ _ (variant_lt _)⟩
    · intro used
      exact absurd (startRoute_fresh requested)
        (Bool.not_eq_false _ ▸ (historyContains_iff _).mpr used)
    · show historyRing (begin state request now entropy).2 = _
      rw [after]
      exact historyRing_startRoute state request now entropy filled.next_lt

theorem historyStep (state : ProgressState) (call : Call) :
    HistoryStep state call := by
  by_cases starting : ∃ request now entropy, call = .begin request now entropy
  · rcases starting with ⟨request, now, entropy, rfl⟩
    exact historyStep_begin request now entropy
  · have other (request : RouteRequest) (now : ClockSample) (entropy : UInt32) :
        call ≠ .begin request now entropy := by
      intro same
      exact starting ⟨request, now, entropy, same⟩
    refine .same ?_ (historyRing_step other)
    cases call with
    | begin request now entropy => exact absurd rfl (other request now entropy)
    | _ => rfl

/-! ## The history of a run -/

/-- The signatures of the last routes, the last one first: those a run begins, then
    those the record it starts from remembers. -/
def recentSignatures (start : ProgressState) (calls : List Call) : List UInt16 :=
  ((routesBegun start calls).map Route.signature ++
    (historyRing start).newestFirst).take kRouteHistoryCapacity

/-- The ring holds the signatures of the last routes. -/
structure HistoryHolds (start : ProgressState) (calls : List Call) : Prop where
  filled : (historyRing (exec step start calls)).Filled
    (fun entry => (entry == 0) = true) (fun entry => (entry != 0) = true)
  recent : (historyRing (exec step start calls)).newestFirst =
    recentSignatures start calls

theorem Route.Known.signature_ne_zero {route : Route} (known : route.Known) :
    (route.signature != 0) = true :=
  bne_iff_ne.mpr
    (routeSignature_ne_zero known.terrain known.objective known.variant)

variable {start : ProgressState}

theorem historyHolds (valid : validateProgressState start = true)
    (calls : List Call) : HistoryHolds start calls := by
  have coherent := ((validateProgressState_iff start).mp valid).1
  have filled := (historyValid_iff start).mp coherent.history
  induction calls using List.reverseRecOn with
  | nil =>
    refine ⟨filled, ?_⟩
    exact (List.take_of_length_le filled.length_newestFirst).symm
  | append_singleton calls call holds =>
    cases historyStep (exec step start calls) call with
    | same unbegun ring =>
      constructor
      · rw [exec_concat, ring]
        exact holds.filled
      · rw [exec_concat, ring, holds.recent, recentSignatures, recentSignatures,
          routesBegun_concat, unbegun]
        rfl
    | pushed route begun known fresh ring =>
      constructor
      · rw [exec_concat, ring]
        exact (holds.filled.push_iff _).mpr known.signature_ne_zero
      · rw [exec_concat, ring, holds.filled.newestFirst_push, holds.recent,
          recentSignatures, recentSignatures, routesBegun_concat, begun]
        exact take_append_take _ [route.signature] _

/-- A route that begins has none of the last four signatures. -/
theorem routeBegun_fresh (valid : validateProgressState start = true)
    {calls : List Call} {call : Call} {route : Route}
    (begun : routeBegun (exec step start calls) call = some route) :
    route.Known ∧ route.signature ∉ recentSignatures start calls := by
  have holds := historyHolds valid calls
  cases historyStep (exec step start calls) call with
  | same unbegun ring => exact absurd (unbegun.symm.trans begun) nofun
  | pushed chosen chose known fresh ring =>
    cases Option.some.inj (chose.symm.trans begun)
    refine ⟨known, ?_⟩
    rw [← holds.recent]
    exact fun recent => fresh (holds.filled.mem_newestFirst recent)

end Kitsu.Adventure

/-!
# Bounded targets and growing progress

Every call that recalculates the target leaves it among those a record may hold.
The percentage is a sum of three capped shares, each of which grows with the counter
it is taken of, so counting steps can only raise it as long as the target is the same.
-/

namespace Kitsu.Adventure

open Kitsu.Lib
open Kitsu.Lib.Run

/-! ## Targets -/

/-- A route under way or over has a target in range, and without one there is none. -/
structure TargetBounded (state : ProgressState) : Prop where
  idle : state.phase = RoutePhase.idle.code → state.targetSteps = 0
  underway : state.phase ≠ RoutePhase.idle.code →
    100 ≤ state.targetSteps ∧ state.targetSteps ≤ 100000

section Targets

variable {state after : ProgressState} {call : Call}

theorem Coherent.targetBounded (coherent : Coherent state) : TargetBounded state := by
  constructor
  · intro idle
    have phase := coherent.phase
    rw [phaseValid_idle idle] at phase
    simp only [idleValid, Bool.and_eq_true, beq_iff_eq] at phase
    tauto
  · intro underway
    have route := (phaseValid_underway underway).mp coherent.phase
    simpa [targetValid] using route.target

/-- A settled route keeps its target. -/
theorem TargetBounded.ended (bounded : TargetBounded state)
    (underway : state.phase ≠ RoutePhase.idle.code) (outcome : Outcome)
    (now : ClockSample) :
    TargetBounded (appendJournal (settle state outcome) now) := by
  constructor
  · intro idle
    exact absurd idle (show RoutePhase.returned.code ≠ RoutePhase.idle.code by decide)
  · intro _
    exact bounded.underway underway

theorem TargetBounded.changed (coherent : Coherent state)
    (change : Changes state call after) : TargetBounded after := by
  have sound := changes_coherent_iff coherent change
  cases change with
  | ended now outcome timed active decided result =>
    exact coherent.targetBounded.ended (active_underway active) outcome now
  | rescued result now timed waiting played =>
    have underway : state.phase ≠ RoutePhase.idle.code := by
      rw [waiting]
      decide
    have joined := coherent.joinParty underway played 20
    exact joined.targetBounded.ended underway _ now
  | lost now active staying bold short =>
    exact (coherent.awaitRescue active staying bold).targetBounded
  | _ => exact (sound.mpr (timed_of_not_ends nofun)).targetBounded

theorem TargetBounded.step (bounded : TargetBounded state) (call : Call) :
    TargetBounded (step state call) := by
  by_cases valid : validateProgressState state = true
  · have coherent := ((validateProgressState_iff state).mp valid).1
    have performed := perform_cases valid call
    generalize Adventure.step state call = after at performed
    cases performed with
    | kept _ _ unended => exact bounded
    | changed after _ _ change =>
      have changed := TargetBounded.changed coherent change
      exact ⟨changed.idle, changed.underway⟩
  · have broken : validateProgressState state = false := by
      simpa using valid
    rw [(perform_invalid broken call).2]
    exact bounded

theorem targetBounded_exec (valid : validateProgressState start = true)
    (calls : List Call) : TargetBounded (exec Adventure.step start calls) := by
  have coherent := ((validateProgressState_iff start).mp valid).1
  apply exec_invariant
  · exact coherent.targetBounded
  · intro state call bounded
    exact bounded.step call

end Targets

/-! ## Progress -/

theorem progressPercent_le (state : ProgressState) : progressPercent state ≤ 100 := by
  rw [progressPercent]
  split
  · exact Nat.zero_le _
  · exact Nat.min_le_right _ _

/-- What counting steps does to the counters of a route. -/
structure Counted (before after : ProgressState) : Prop where
  steps : before.steps ≤ after.steps
  points : before.progressPoints = after.progressPoints
  distance : before.routeDistanceMeters ≤ after.routeDistanceMeters

section Counted

variable {before after last state : ProgressState}

theorem Counted.refl (state : ProgressState) : Counted state state :=
  ⟨UInt32.le_refl _, rfl, UInt32.le_refl _⟩

theorem Counted.trans (first : Counted before after) (second : Counted after last) :
    Counted before last :=
  ⟨UInt32.le_trans first.steps second.steps, first.points.trans second.points,
    UInt32.le_trans first.distance second.distance⟩

/-- The share of the steps in the target, in percent. -/
theorem stepPercent_le {target fewer more : UInt32} (grown : fewer ≤ more) :
    (if fewer ≥ target then 100 else fewer.toNat * 100 / target.toNat) ≤
      if more ≥ target then 100 else more.toNat * 100 / target.toNat := by
  have counted := UInt32.le_iff_toNat_le.mp grown
  by_cases reached : more ≥ target
  · rw [if_pos reached]
    split
    · exact Nat.le_refl _
    · next short =>
        have under : fewer.toNat < target.toNat := by
          simpa [UInt32.le_iff_toNat_le] using short
        apply Nat.le_of_lt_succ
        apply Nat.div_lt_of_lt_mul
        omega
  · have short : ¬ fewer ≥ target := by
      intro enough
      exact reached (UInt32.le_trans enough grown)
    rw [if_neg reached, if_neg short]
    exact Nat.div_le_div_right (Nat.mul_le_mul_right _ counted)

/-- For one target, the percentage grows with the counters. -/
theorem Counted.progressPercent_le (counted : Counted before after)
    (same : after.targetSteps = before.targetSteps) :
    progressPercent before ≤ progressPercent after := by
  rw [progressPercent, progressPercent, same]
  split
  · exact Nat.le_refl _
  · apply min_le_min_right
    apply Nat.add_le_add (stepPercent_le counted.steps)
    apply Nat.add_le_add
    · rw [counted.points]
    · apply min_le_min_right
      exact Nat.div_le_div_right (UInt32.le_iff_toNat_le.mp counted.distance)

theorem le_saturatingAddU32 (left right : UInt32) :
    left ≤ saturatingAddU32 left right := by
  have room : (0xffffffff - left).toNat = 4294967295 - left.toNat := by
    rw [UInt32.toNat_sub_of_le]
    · rfl
    · rw [UInt32.le_iff_toNat_le]
      exact Nat.le_of_lt_succ left.toNat_lt
  have small := left.toNat_lt
  rw [saturatingAddU32, UInt32.le_iff_toNat_le]
  split
  · exact Nat.le_of_lt_succ small
  · next fits =>
      rw [gt_iff_lt, UInt32.lt_iff_toNat_lt, room] at fits
      rw [UInt32.toNat_add, Nat.mod_eq_of_lt]
      · exact Nat.le_add_right _ _
      · show _ < 4294967296
        omega

/-! ## Calls that count steps -/

/-- The calls that can add steps to a route. -/
def Call.countsSteps : Call → Bool
  | .addSteps _ => true
  | .observeCoarseZone _ _ _ => true
  | .observePreciseTransient _ _ _ => true
  | _ => false

theorem counted_walkRoute (state : ProgressState) (stepDelta segmentMeters : UInt32) :
    Counted state (walkRoute state stepDelta segmentMeters) := by
  rw [walkRoute]
  split
  · exact ⟨le_saturatingAddU32 _ _, rfl, le_saturatingAddU32 _ _⟩
  · exact .refl state

theorem counted_placeZone (state : ProgressState) (token : UInt32) :
    Counted state (placeZone state token).state := by
  simp only [placeZone]
  split
  · exact .refl state
  · split
    · exact ⟨UInt32.le_refl _, rfl, UInt32.le_refl _⟩
    · exact ⟨UInt32.le_refl _, rfl, UInt32.le_refl _⟩

theorem counted_enterZone (state : ProgressState)
    (token stepDelta segmentMeters : UInt32) :
    Counted state (enterZone state token stepDelta segmentMeters) := by
  apply (counted_placeZone state token).trans
  refine Counted.trans ?_ (counted_walkRoute _ _ _)
  exact ⟨UInt32.le_refl _, rfl, UInt32.le_refl _⟩

theorem counted_changes {call : Call} (counting : call.countsSteps = true)
    (change : Changes state call after) : Counted state after := by
  cases change with
  | coarse token stepDelta segmentMeters shared known =>
    exact counted_enterZone _ _ _ _
  | precise sample stepDelta segmentMeters shared =>
    exact counted_enterZone _ _ _ _
  | steps stepDelta active =>
    exact ⟨le_saturatingAddU32 _ _, rfl, UInt32.le_refl _⟩
  | _ => cases counting

theorem counted_step {call : Call} (counting : call.countsSteps = true) :
    Counted state (step state call) := by
  by_cases valid : validateProgressState state = true
  · have performed := perform_cases valid call
    generalize step state call = after at performed
    cases performed with
    | kept _ _ unended => exact .refl state
    | changed after _ _ change =>
      have counted := counted_changes counting change
      exact ⟨counted.steps, counted.points, counted.distance⟩
  · have broken : validateProgressState state = false := by
      simpa using valid
    rw [(perform_invalid broken call).2]
    exact .refl state

theorem counted_exec {calls : List Call}
    (counting : ∀ call ∈ calls, call.countsSteps = true) :
    Counted state (exec step state calls) := by
  induction calls generalizing state with
  | nil => exact .refl state
  | cons call later induction =>
    have first := counting call List.mem_cons_self
    have rest := fun other member => counting other (List.mem_cons_of_mem _ member)
    exact (counted_step first).trans (induction rest)

end Counted

/-! ## The result -/

/-- In a run from `reset` or from any valid snapshot: a route that begins is known by a
    signature, and is a triple, that none of the four routes before it had; the target
    stays in range; the percentage stays in range and does not fall while steps are
    counted for one target. -/
theorem fresh_route_bounded_target (start : ProgressState)
    (valid : validateProgressState start = true) (calls : List Call) :
    (∀ request now entropy route,
      routeBegun (exec step start calls) (.begin request now entropy) = some route →
      route.signature ∉ recentSignatures start calls ∧
        route ∉ (routesBegun start calls).take kRouteHistoryCapacity) ∧
    TargetBounded (exec step start calls) ∧
    progressPercent (exec step start calls) ≤ 100 ∧
    ∀ later : List Call, (∀ call ∈ later, call.countsSteps = true) →
      (exec step start (calls ++ later)).targetSteps =
        (exec step start calls).targetSteps →
      progressPercent (exec step start calls) ≤
        progressPercent (exec step start (calls ++ later)) := by
  refine ⟨?_, targetBounded_exec valid calls, progressPercent_le _, ?_⟩
  · intro request now entropy route begun
    have fresh := (routeBegun_fresh valid begun).2
    refine ⟨fresh, ?_⟩
    intro recent
    apply fresh
    rw [recentSignatures, List.take_append, List.mem_append, ← List.map_take]
    exact Or.inl (List.mem_map_of_mem recent)
  · intro later counting same
    rw [exec_append] at same ⊢
    exact (counted_exec counting).progressPercent_le same

/-- A route begun, finished and acknowledged. -/
def firstRoute : List Call :=
  [.begin {} {} 0, .finish {}, .acknowledge 1055043853]

theorem second_route_fresh :
    routeBegun (exec step reset firstRoute) (.begin {} {} 0) = some ⟨0, 0, 4⟩ ∧
      (⟨0, 0, 4⟩ : Route) ∉ (routesBegun reset firstRoute).take 4 := by
  have second : routeBegun (exec step reset firstRoute) (.begin {} {} 0) =
      some ⟨0, 0, 4⟩ := by
    decide +kernel
  have fresh := (fresh_route_bounded_target reset validateProgressState_reset
    firstRoute).1 {} {} 0 _ second
  exact ⟨second, fresh.2⟩

end Kitsu.Adventure
