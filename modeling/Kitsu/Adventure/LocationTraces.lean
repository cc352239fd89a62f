import Kitsu.Adventure.Restorable

/-!
# What a record tells of a location

A record holds a location in plain: the zones, the salt, the distances, and in
the journal the zones in which routes ended.  It also holds what `begin` draws
from the zone in which a route begins, the seed of the route, and with the seed
its identifier, its variant and its signature in the history.

Two histories that differ only in their location inputs, and have the same other
results, stay in step: they are in a zone at the same times, and what they draw
is the same as long as no route begins in a zone.
-/

namespace Kitsu.Adventure

open Kitsu.Lib
open Kitsu.Lib.Run

/-! ## Location-derived fields -/

/-- The fields that hold a location in plain. -/
structure StoredLocation where
  currentZoneToken : UInt32
  homeZoneToken : UInt32
  locationSalt : UInt32
  totalDistanceMeters : UInt32
  routeDistanceMeters : UInt32
  currentZoneNew : Bool
  zoneCount : UInt8
  zones : Vector ZoneState kMaximumZones
  journalZones : Vector UInt32 kJournalCapacity
  journalHomes : Vector Bool kJournalCapacity
deriving DecidableEq

/-- The fields that `begin` draws from the zone the device is in. -/
structure DrawnRoutes where
  routeSeed : UInt32
  routeId : UInt32
  routeVariant : UInt8
  routeHistory : Vector UInt16 kRouteHistoryCapacity
  journalRoutes : Vector UInt32 kJournalCapacity
  journalVariants : Vector UInt8 kJournalCapacity
deriving DecidableEq

/-- Every field of a record that is derived from a location. -/
structure LocationView where
  stored : StoredLocation
  drawn : DrawnRoutes
deriving DecidableEq

/-- What the state holds of a location as it was observed. -/
def storedLocation (state : ProgressState) : StoredLocation where
  currentZoneToken := state.currentZoneToken
  homeZoneToken := state.homeZoneToken
  locationSalt := state.locationSalt
  totalDistanceMeters := state.totalDistanceMeters
  routeDistanceMeters := state.routeDistanceMeters
  currentZoneNew := flagged state.flags kFlagCurrentZoneNew
  zoneCount := state.zoneCount
  zones := state.zones
  journalZones := state.journal.map (·.zoneToken)
  journalHomes := state.journal.map (flagged ·.flags kJournalFlagHomeComfort)

/-- What the state holds of the routes that were drawn, by a zone or not. -/
def drawnRoutes (state : ProgressState) : DrawnRoutes where
  routeSeed := state.routeSeed
  routeId := state.routeId
  routeVariant := state.routeVariant
  routeHistory := state.routeHistory
  journalRoutes := state.journal.map (·.routeId)
  journalVariants := state.journal.map (·.routeVariant)

/-- Everything of the state that may depend on a location. -/
def locationView (state : ProgressState) : LocationView where
  stored := storedLocation state
  drawn := drawnRoutes state

/-- What is stored by a record that has never seen a location. -/
def StoredLocation.blank : StoredLocation where
  currentZoneToken := 0
  homeZoneToken := 0
  locationSalt := 0
  totalDistanceMeters := 0
  routeDistanceMeters := 0
  currentZoneNew := false
  zoneCount := 0
  zones := .replicate _ {}
  journalZones := .replicate _ 0
  journalHomes := .replicate _ false

/-! ## Histories that differ in their location inputs -/

/-- A call without its zone token, coordinates, salt and distance. -/
def Call.withoutLocation : Call → Call
  | .setPrivacyMode mode _ => .setPrivacyMode mode 0
  | .setHomeZone _ => .setHomeZone 0
  | .observeCoarseZone _ stepDelta _ => .observeCoarseZone 0 stepDelta 0
  | .observePreciseTransient _ stepDelta _ =>
    .observePreciseTransient {} stepDelta 0
  | call => call

/-- Two runs of the same calls, but for the locations in them. -/
def DifferOnlyInLocation (first second : List Call) : Prop :=
  first.map Call.withoutLocation = second.map Call.withoutLocation

/-- A journal entry without what is derived from a location. -/
def JournalEntry.withoutLocation (entry : JournalEntry) : JournalEntry :=
  { entry with
    routeId := 0
    routeVariant := 0
    zoneToken := 0
    flags := entry.flags &&& ~~~ kJournalFlagHomeComfort }

/-- A record without its location-derived fields and its checksum. -/
def ProgressState.withoutLocation (state : ProgressState) : ProgressState :=
  { state with
    currentZoneToken := 0
    homeZoneToken := 0
    locationSalt := 0
    totalDistanceMeters := 0
    routeDistanceMeters := 0
    zoneCount := 0
    flags := state.flags &&& ~~~ kFlagCurrentZoneNew
    zones := .replicate _ {}
    routeSeed := 0
    routeId := 0
    routeVariant := 0
    routeHistory := .replicate _ 0
    journal := state.journal.map JournalEntry.withoutLocation
    crc32 := 0 }

/-- What a call returns, its location aside. -/
def replyTo (state : ProgressState) (call : Call) : Reply :=
  { (perform state call).1 with location := none }

/-- What each call of a history returns and leaves, its location aside. -/
def results (state : ProgressState) : List Call → List (Reply × ProgressState)
  | [] => []
  | call :: later =>
    (replyTo state call, (step state call).withoutLocation) ::
      results (step state call) later

/-- Two runs whose calls are answered alike. -/
def SameResults (first second : List Call) : Prop :=
  results reset first = results reset second

/-- Two histories that only their locations tell apart. -/
structure Twins (first second : List Call) : Prop where
  differ : DifferOnlyInLocation first second
  agree : SameResults first second

instance (first second : List Call) :
    Decidable (DifferOnlyInLocation first second) :=
  inferInstanceAs (Decidable (_ = _))

instance (first second : List Call) :
    Decidable (SameResults first second) :=
  inferInstanceAs (Decidable (_ = _))

theorem results_concat (state : ProgressState) (history : List Call)
    (call : Call) :
    results state (history ++ [call]) = results state history ++
      [(replyTo (exec step state history) call,
        (step (exec step state history) call).withoutLocation)] := by
  induction history generalizing state with
  | nil => rfl
  | cons first later induction =>
    rw [List.cons_append, results, induction]
    rfl

/-- The last calls of twins, and the twins in front of them. -/
theorem Twins.of_concat {history twin : List Call} {call : Call}
    (twins : Twins (history ++ [call]) twin) :
    ∃ before last, twin = before ++ [last] ∧ Twins history before ∧
      call.withoutLocation = last.withoutLocation ∧
      replyTo (exec step reset history) call =
        replyTo (exec step reset before) last ∧
      (step (exec step reset history) call).withoutLocation =
        (step (exec step reset before) last).withoutLocation := by
  have differ := twins.differ
  rw [DifferOnlyInLocation, List.map_append] at differ
  rcases List.map_eq_append_iff.mp differ.symm with
    ⟨before, rest, rfl, front, back⟩
  rcases List.map_eq_singleton_iff.mp back with ⟨last, rfl, same⟩
  have agree := twins.agree
  rw [SameResults, results_concat, results_concat] at agree
  rcases List.append_inj' agree rfl with ⟨earlier, final⟩
  have final := Prod.mk.inj (List.singleton_inj.mp final)
  exact ⟨before, last, rfl, ⟨front.symm, earlier⟩, same.symm, final.1, final.2⟩

/-! ## In step -/

variable {state after other otherAfter : ProgressState} {call last : Call}

/-- A call is refused and changes nothing, or it makes one of the changes. -/
theorem perform_changes (state : ProgressState) (call : Call) :
    ((perform state call).1.status.accepts = false ∧ step state call = state) ∨
      ((perform state call).1.status.accepts = true ∧
        validateProgressState state = true ∧ ∃ after, Changes state call after ∧
          step state call = refreshCrc after) := by
  by_cases valid : validateProgressState state = true
  · have performed := perform_cases valid call
    generalize step state call = after at performed ⊢
    cases performed with
    | kept refused _ _ => exact Or.inl ⟨refused, rfl⟩
    | changed after accepted _ change =>
      exact Or.inr ⟨accepted, valid, after, change, rfl⟩
  · have broken : validateProgressState state = false := by
      simpa using valid
    rcases perform_invalid broken call with ⟨status, same⟩
    exact Or.inl ⟨by rw [status]; rfl, same⟩

/-- Where a call that is accepted leaves the device: in a zone, or in none. -/
def Call.located : Call → Option Bool
  | .setPrivacyMode _ _ => some false
  | .observeCoarseZone _ _ _ | .observePreciseTransient _ _ _ => some true
  | _ => none

theorem located_withoutLocation (call : Call) :
    call.withoutLocation.located = call.located := by
  cases call <;> rfl

/-- The calls that write what is drawn. -/
def Call.draws : Call → Bool
  | .begin _ _ _ | .finish _ | .rescue _ _ | .acknowledge _ => true
  | _ => false

theorem draws_withoutLocation (call : Call) :
    call.withoutLocation.draws = call.draws := by
  cases call <;> rfl

/-- A call that draws has no location input. -/
theorem withoutLocation_of_draws (draws : call.draws = true) :
    call.withoutLocation = call := by
  cases call <;> first | rfl | cases draws

theorem same_of_draws (draws : call.draws = true)
    (same : call.withoutLocation = last.withoutLocation) : last = call := by
  have lastDraws : last.draws = true := by
    rw [← draws_withoutLocation, ← same, draws_withoutLocation, draws]
  rw [← withoutLocation_of_draws lastDraws, ← same, withoutLocation_of_draws draws]

/-- What the calls that neither locate the device nor draw leave alone. -/
def kept (state : ProgressState) : UInt32 × DrawnRoutes :=
  (state.currentZoneToken, drawnRoutes state)

theorem zone_enterZone (state : ProgressState)
    (token stepDelta segmentMeters : UInt32) :
    (enterZone state token stepDelta segmentMeters).currentZoneToken =
      token := by
  simp only [enterZone, walkRoute]
  split <;> rfl

theorem drawn_enterZone (state : ProgressState)
    (token stepDelta segmentMeters : UInt32) :
    drawnRoutes (enterZone state token stepDelta segmentMeters) =
      drawnRoutes state := by
  have placed : drawnRoutes (placeZone state token).state =
      drawnRoutes state := by
    unfold placeZone
    split
    · rfl
    · split <;> rfl
  refine Eq.trans ?_ placed
  simp only [enterZone, walkRoute]
  split <;> rfl

theorem kept_visitHotspot (state : ProgressState) (token : UInt32)
    (participantCount : UInt8) (now : ClockSample) :
    kept (visitHotspot state token participantCount now) = kept state := by
  simp only [visitHotspot]
  split
  · simp only [kept, drawnRoutes, awardCommunityDay]
  · simp only [kept, drawnRoutes]

theorem kept_followDecision (state : ProgressState) (decision : UInt8) :
    kept (followDecision state decision) = kept state := by
  simp only [followDecision]
  split
  · simp only [kept, drawnRoutes]
  · split
    · simp only [kept, drawnRoutes]
    · split
      · simp only [kept, drawnRoutes]
      · simp only [kept, drawnRoutes]

/-- The other calls leave the device where it is. -/
theorem Changes.stays (change : Changes state call after)
    (unlocated : call.located = none) :
    after.currentZoneToken = state.currentZoneToken := by
  cases change with
  | privacy | coarse | precise => cases unlocated
  | hotspot token participantCount now known =>
    exact congrArg Prod.fst (kept_visitHotspot _ _ _ _)
  | decision decision active room =>
    exact congrArg Prod.fst (kept_followDecision _ _)
  | _ =>
    simp only [recalculateTarget, startRoute, appendHistory, joinParty,
      meetEncounter, appendJournal, settle, clearRoute]

/-- An accepted call locates the device, or leaves it where it is. -/
theorem Changes.zone (change : Changes state call after) :
    after.currentZoneToken = 0 ↔
      call.located.elim (state.currentZoneToken = 0) (· = false) := by
  cases located : call.located with
  | none => rw [change.stays located, Option.elim]
  | some inZone =>
    cases change with
    | privacy mode given known salted =>
      cases located
      exact iff_of_true rfl rfl
    | coarse token stepDelta segmentMeters shared known =>
      cases located
      rw [zone_enterZone]
      exact iff_of_false known nofun
    | precise sample stepDelta segmentMeters shared =>
      cases located
      rw [zone_enterZone]
      exact iff_of_false (preciseZoneToken_ne_zero _ _) nofun
    | _ => cases located

theorem Changes.drawn (change : Changes state call after)
    (draws : call.draws = false) : drawnRoutes after = drawnRoutes state := by
  cases change with
  | coarse token stepDelta segmentMeters shared known =>
    exact drawn_enterZone _ _ _ _
  | precise sample stepDelta segmentMeters shared =>
    exact drawn_enterZone _ _ _ _
  | hotspot token participantCount now known =>
    exact congrArg Prod.snd (kept_visitHotspot _ _ _ _)
  | decision decision active room =>
    exact congrArg Prod.snd (kept_followDecision _ _)
  | begin | lost | ended | rescued | acknowledged => cases draws
  | _ =>
    simp only [drawnRoutes, recalculateTarget, clearLocation, joinParty,
      meetEncounter]

/-! ## The journal -/

/-- The entry a route leaves in the zone the device is in. -/
structure EntryIn (token : UInt32) (entry : JournalEntry) : Prop where
  zone : entry.zoneToken = token
  home : flagged entry.flags kJournalFlagHomeComfort = true →
    entry.zoneToken ≠ 0

theorem entryIn_journalEntry (state : ProgressState) (now : ClockSample) :
    EntryIn state.currentZoneToken (journalEntry state now) := by
  constructor
  · rfl
  · rcases @journalFlags_spec state now with ⟨-, -, -, home⟩
    show flagged (journalFlags state now) _ = true → _
    rw [home]
    intro comfort none
    simp only [homeComfort, Bool.and_eq_true, bne_iff_ne, beq_iff_eq]
      at comfort
    exact comfort.1 (comfort.2.trans none)

/-- The journal holds no zone. -/
def JournalPlain (journal : Vector JournalEntry kJournalCapacity) : Prop :=
  ∀ (slot : Nat) (_ : slot < kJournalCapacity), EntryIn 0 journal[slot]

theorem JournalPlain.set {journal : Vector JournalEntry kJournalCapacity}
    (plain : JournalPlain journal) {entry : JournalEntry}
    (entered : EntryIn 0 entry) (next : Nat) :
    JournalPlain (journal.setIfInBounds next entry) := by
  intro slot inside
  by_cases here : next = slot
  · have written : (journal.setIfInBounds next entry)[slot] = entry := by
      simp [here]
    rw [written]
    exact entered
  · have unwritten : (journal.setIfInBounds next entry)[slot] = journal[slot] := by
      simp [here]
    rw [unwritten]
    exact plain slot inside

/-- The journal of a device that is in no zone stays without zones. -/
theorem JournalPlain.append (plain : JournalPlain state.journal)
    (nowhere : state.currentZoneToken = 0) (now : ClockSample) :
    JournalPlain (appendJournal state now).journal := by
  have entered := entryIn_journalEntry state now
  rw [nowhere] at entered
  exact plain.set entered _

/-- A change that leaves both rings leaves the journal. -/
theorem JournalPlain.of_rings (plain : JournalPlain state.journal)
    (same : rings after = rings state) : JournalPlain after.journal := by
  have journal : after.journal = state.journal :=
    congrArg (fun rings => rings.2.slots) same
  rw [journal]
  exact plain

/-- A route ends in no zone, or the call ends none: the journal stays plain. -/
theorem Changes.plain (change : Changes state call after)
    (plain : JournalPlain state.journal)
    (nowhere : ∀ now, Ends state call now → state.currentZoneToken = 0) :
    JournalPlain after.journal := by
  cases change with
  | coarse token stepDelta segmentMeters shared known =>
    exact plain.of_rings (rings_enterZone state token stepDelta segmentMeters)
  | precise sample stepDelta segmentMeters shared =>
    exact plain.of_rings (rings_enterZone state _ stepDelta segmentMeters)
  | hotspot token participantCount now known =>
    exact plain.of_rings (rings_visitHotspot state token participantCount now)
  | decision decision active room =>
    exact @JournalPlain.of_rings (countDecision state decision) _ plain
      (rings_followDecision _ decision)
  | ended now outcome timed active decided result =>
    have here := nowhere now (.finished now timed active decided)
    exact @JournalPlain.append (settle state outcome) plain here now
  | rescued result now timed waiting played =>
    have here := nowhere now (.rescued result now timed waiting played)
    exact @JournalPlain.append
      (settle (joinParty state result 20) .rescued) plain here now
  | _ => exact plain

/-- The calls that can end a route. -/
def Call.ends : Call → Bool
  | .finish _ | .rescue _ _ => true
  | _ => false

/-- Whether a route ended shows in the phase of the record. -/
theorem Changes.ends_iff (change : Changes state call after) :
    (∃ now, Ends state call now) ↔
      call.ends = true ∧ after.phase = RoutePhase.returned.code := by
  cases change with
  | lost now active staying bold short =>
    refine iff_of_false ?_ (fun returned => nomatch returned.2)
    rintro ⟨_, ends⟩
    cases ends with
    | finished _ _ _ decided =>
      rcases decided with early | far
      · rw [staying] at early
        cases early
      · exact far ⟨bold, short⟩
  | ended now outcome timed active decided result =>
    exact iff_of_true ⟨now, .finished now timed active decided⟩ ⟨rfl, rfl⟩
  | rescued result now timed waiting played =>
    exact iff_of_true ⟨now, .rescued result now timed waiting played⟩
      ⟨rfl, rfl⟩
  | _ =>
    refine iff_of_false ?_ (fun returned => nomatch returned.1)
    rintro ⟨_, ends⟩
    cases ends

/-- The end of a route copies what it drew into the journal. -/
def DrawnRoutes.entered (drawn : DrawnRoutes) (next : UInt8) : DrawnRoutes :=
  { drawn with
    journalRoutes := drawn.journalRoutes.setIfInBounds next.toNat
      drawn.routeId
    journalVariants := drawn.journalVariants.setIfInBounds next.toNat
      drawn.routeVariant }

/-- An acknowledged route leaves its signature and its journal entry. -/
def DrawnRoutes.cleared (drawn : DrawnRoutes) : DrawnRoutes :=
  { drawn with routeSeed := 0, routeId := 0, routeVariant := 0 }

theorem drawn_ended (state : ProgressState) (outcome : Outcome)
    (now : ClockSample) :
    drawnRoutes (appendJournal (settle state outcome) now) =
      (drawnRoutes state).entered state.journalNext := by
  simp only [drawnRoutes, DrawnRoutes.entered, appendJournal, settle,
    Vector.map_setIfInBounds, journalEntry]

theorem drawn_rescued (state : ProgressState) (result : HuntResult)
    (now : ClockSample) :
    drawnRoutes
        (appendJournal (settle (joinParty state result 20) .rescued) now) =
      (drawnRoutes state).entered state.journalNext := by
  rw [drawn_ended]
  simp only [drawnRoutes, joinParty, recalculateTarget]

theorem drawn_clearRoute (state : ProgressState) :
    drawnRoutes (clearRoute state) = (drawnRoutes state).cleared := by
  simp only [drawnRoutes, DrawnRoutes.cleared, clearRoute]

/-! ## Records in step -/

/-- Two records that only their locations tell apart. -/
structure InStep (first second : ProgressState) : Prop where
  elsewhere : first.withoutLocation = second.withoutLocation
  located : first.currentZoneToken = 0 ↔ second.currentZoneToken = 0
  drawn : drawnRoutes first = drawnRoutes second
  plain : JournalPlain first.journal
  otherPlain : JournalPlain second.journal

section Congruence

variable (inStep : InStep state other)

include inStep

theorem InStep.historyNext : state.historyNext = other.historyNext :=
  (congrArg ProgressState.historyNext inStep.elsewhere :)

theorem InStep.journalNext : state.journalNext = other.journalNext :=
  (congrArg ProgressState.journalNext inStep.elsewhere :)

theorem InStep.sequence : state.sequence = other.sequence :=
  (congrArg ProgressState.sequence inStep.elsewhere :)

theorem InStep.contains : historyContains state = historyContains other := by
  have count : state.historyCount = other.historyCount :=
    (congrArg ProgressState.historyCount inStep.elsewhere :)
  have history : state.routeHistory = other.routeHistory :=
    (congrArg DrawnRoutes.routeHistory inStep.drawn :)
  funext signature
  simp only [historyContains, count, history]

omit inStep in
theorem freshVariant_congr
    (contains : historyContains state = historyContains other)
    (terrain objective : UInt8) (attempts : Nat) (variant : UInt8) :
    freshVariant state terrain objective attempts variant =
      freshVariant other terrain objective attempts variant := by
  induction attempts generalizing variant with
  | zero => rfl
  | succ attempts induction =>
    simp only [freshVariant, contains, induction]

/-- Routes that begin in no zone draw the same. -/
theorem InStep.drawn_startRoute (nowhere : state.currentZoneToken = 0)
    (request : RouteRequest) (now : ClockSample) (entropy : UInt32) :
    drawnRoutes (startRoute state request now entropy) =
      drawnRoutes (startRoute other request now entropy) := by
  have seed : routeSeedFor state request now entropy =
      routeSeedFor other request now entropy := by
    simp only [routeSeedFor, inStep.sequence, nowhere, inStep.located.mp nowhere]
  have variant := freshVariant_congr inStep.contains request.terrain
    request.objective
  have drawn := inStep.drawn
  simp only [drawnRoutes, DrawnRoutes.mk.injEq] at drawn
  rcases drawn with ⟨-, -, -, history, routes, variants⟩
  simp only [drawnRoutes, startRoute, recalculateTarget, appendHistory, seed,
    variant, inStep.historyNext, inStep.sequence, history, routes, variants]

end Congruence

/-- A route begins. -/
inductive Begins (state : ProgressState) : Call → Prop where
  | begun (request : RouteRequest) (now : ClockSample) (entropy : UInt32)
      (idle : state.phase = RoutePhase.idle.code)
      (requested : validRequest request = true)
      (timed : validClock now = true)
      (careful : request.commuteSafe ≠ 0 → request.risk = Risk.careful.code)
      (room : state.sequence ≠ 0xffffffff) :
      Begins state (.begin request now entropy)

/-- The call copies the zone the device is in into a route or the journal. -/
def Copies (state : ProgressState) (call : Call) : Prop :=
  Begins state call ∨ ∃ now, Ends state call now

/-- Records in step draw the same from a call that copies no zone. -/
theorem InStep.drawn_changes (inStep : InStep state other)
    (change : Changes state call after)
    (otherChange : Changes other last otherAfter)
    (same : call.withoutLocation = last.withoutLocation)
    (elsewhere : after.withoutLocation = otherAfter.withoutLocation)
    (nowhere : Copies state call → state.currentZoneToken = 0) :
    drawnRoutes after = drawnRoutes otherAfter := by
  cases draws : call.draws with
  | false =>
    have otherDraws : last.draws = false := by
      rw [← draws_withoutLocation, ← same, draws_withoutLocation, draws]
    rw [change.drawn draws, otherChange.drawn otherDraws, inStep.drawn]
  | true =>
    cases same_of_draws draws same
    have phase : after.phase = otherAfter.phase :=
      (congrArg ProgressState.phase elsewhere :)
    cases change with
    | begin request now entropy idle requested timed careful room =>
      cases otherChange
      refine inStep.drawn_startRoute (nowhere (.inl ?_)) request now entropy
      exact .begun request now entropy idle requested timed careful room
    | lost now active staying bold short =>
      cases otherChange with
      | lost => exact inStep.drawn
      | ended => cases phase
    | ended now outcome timed active decided result =>
      cases otherChange with
      | lost => cases phase
      | ended _ otherOutcome =>
        rw [drawn_ended, drawn_ended, inStep.drawn, inStep.journalNext]
    | rescued result now timed waiting played =>
      cases otherChange
      rw [drawn_rescued, drawn_rescued, inStep.drawn, inStep.journalNext]
    | acknowledged routeId returned =>
      cases otherChange
      rw [drawn_clearRoute, drawn_clearRoute, inStep.drawn]
    | _ => cases draws

theorem ends_withoutLocation (call : Call) :
    call.withoutLocation.ends = call.ends := by
  cases call <;> rfl

/-- A call that copies no zone keeps two records in step. -/
theorem InStep.changes (inStep : InStep state other)
    (change : Changes state call after)
    (otherChange : Changes other last otherAfter)
    (same : call.withoutLocation = last.withoutLocation)
    (elsewhere : after.withoutLocation = otherAfter.withoutLocation)
    (nowhere : Copies state call → state.currentZoneToken = 0) :
    InStep after otherAfter where
  elsewhere := elsewhere
  located := by
    rw [change.zone, otherChange.zone, ← located_withoutLocation call, same,
      located_withoutLocation, inStep.located]
  drawn := inStep.drawn_changes change otherChange same elsewhere nowhere
  plain := change.plain inStep.plain fun now ends => nowhere (.inr ⟨now, ends⟩)
  otherPlain := by
    refine otherChange.plain inStep.otherPlain ?_
    intro now ends
    have ended := otherChange.ends_iff.mp ⟨now, ends⟩
    have phase : after.phase = otherAfter.phase :=
      (congrArg ProgressState.phase elsewhere :)
    rw [← ends_withoutLocation, ← same, ends_withoutLocation, ← phase] at ended
    exact inStep.located.mp (nowhere (.inr (change.ends_iff.mpr ended)))

/-- Storing the checksum keeps two records in step. -/
theorem InStep.refreshCrc (inStep : InStep after otherAfter) :
    InStep (refreshCrc after) (refreshCrc otherAfter) where
  elsewhere := inStep.elsewhere
  located := inStep.located
  drawn := inStep.drawn
  plain := inStep.plain
  otherPlain := inStep.otherPlain

/-- Calls with the same reply and the same rest keep two records in step. -/
theorem InStep.step (inStep : InStep state other)
    (same : call.withoutLocation = last.withoutLocation)
    (reply : replyTo state call = replyTo other last)
    (elsewhere : (step state call).withoutLocation =
      (step other last).withoutLocation)
    (nowhere : validateProgressState state = true → Copies state call →
      state.currentZoneToken = 0) :
    InStep (step state call) (step other last) := by
  have status : (perform state call).1.status = (perform other last).1.status :=
    (congrArg Reply.status reply :)
  rcases perform_changes state call with
    ⟨refused, kept⟩ | ⟨accepted, valid, after, change, stepped⟩
  · rcases perform_changes other last with
      ⟨-, otherKept⟩ | ⟨otherAccepted, -⟩
    · rw [kept, otherKept]
      exact inStep
    · rw [status, otherAccepted] at refused
      cases refused
  · rcases perform_changes other last with
      ⟨otherRefused, -⟩ | ⟨-, -, otherAfter, otherChange, otherStepped⟩
    · rw [status, otherRefused] at accepted
      cases accepted
    · rw [stepped, otherStepped] at elsewhere ⊢
      exact (inStep.changes change otherChange same elsewhere
        (nowhere valid)).refreshCrc

theorem inStep_reset : InStep reset reset := by
  have plain : JournalPlain reset.journal := by
    intro slot inside
    constructor
    · simp [reset, Adventure.refreshCrc]
    · simp [reset, Adventure.refreshCrc, flagged]
  exact ⟨rfl, Iff.rfl, rfl, plain, plain⟩

end Kitsu.Adventure
