import Kitsu.Adventure.Progression

/-!
# What a call can do to the record

`Changes` lists, operation by operation, what an accepted call makes of the
record before its checksum is refreshed, together with the guards it has passed.
`perform_cases` says that a call on a valid record either leaves it alone or
makes one of these changes; every invariant below is read off this list.
-/

namespace Kitsu.Adventure

/-- The coordinates or the accuracy of a sample are out of range. -/
def PreciseLocationSample.outside (sample : PreciseLocationSample) : Bool :=
  sample.latitudeE7 < -900000000 || sample.latitudeE7 > 900000000 ||
    sample.longitudeE7 < -1800000000 || sample.longitudeE7 > 1800000000 ||
    sample.accuracyMeters == 0 || sample.accuracyMeters > 10000

/-- The changes an accepted call makes. -/
inductive Changes (state : ProgressState) : Call → ProgressState → Prop where
  | privacy (mode : UInt8) (given : UInt32)
      (known : validPrivacy mode = true)
      (salted : mode = PrivacyMode.preciseTransient.code ↔
        saltFor mode given ≠ 0) :
      Changes state (.setPrivacyMode mode given)
        (recalculateTarget (clearLocation state mode (saltFor mode given)))
  | home (token : UInt32)
      (shared : state.privacyMode ≠ PrivacyMode.off.code) :
      Changes state (.setHomeZone token)
        (recalculateTarget { state with homeZoneToken := token })
  | coarse (token stepDelta segmentMeters : UInt32)
      (shared : state.privacyMode ≠ PrivacyMode.off.code)
      (known : token ≠ 0)
      (mode : state.privacyMode = PrivacyMode.coarse.code) :
      Changes state (.observeCoarseZone token stepDelta segmentMeters)
        (enterZone state token stepDelta segmentMeters)
  | precise (sample : PreciseLocationSample) (stepDelta segmentMeters : UInt32)
      (shared : state.privacyMode ≠ PrivacyMode.off.code)
      (mode : state.privacyMode = PrivacyMode.preciseTransient.code)
      (inside : sample.outside = false) :
      Changes state (.observePreciseTransient sample stepDelta segmentMeters)
        (enterZone state (preciseZoneToken sample state.locationSalt)
          stepDelta segmentMeters)
  | hotspot (token : UInt32) (participantCount : UInt8) (now : ClockSample)
      (known : token ≠ 0) :
      Changes state (.observeHotspot token participantCount now)
        (visitHotspot state token participantCount now)
  | begin (request : RouteRequest) (now : ClockSample) (entropy : UInt32)
      (idle : state.phase = RoutePhase.idle.code)
      (requested : validRequest request = true)
      (timed : validClock now = true)
      (careful : request.commuteSafe ≠ 0 → request.risk = Risk.careful.code)
      (room : state.sequence ≠ 0xffffffff) :
      Changes state (.begin request now entropy)
        (startRoute state request now entropy)
  | steps (stepDelta : UInt32)
      (active : state.phase = RoutePhase.active.code) :
      Changes state (.addSteps stepDelta)
        { state with steps := saturatingAddU32 state.steps stepDelta }
  | decision (decision : UInt8)
      (active : state.phase = RoutePhase.active.code)
      (room : state.decisionCount < kMaximumMidDecisions) :
      Changes state (.decide decision)
        (followDecision (countDecision state decision) decision)
  | expedition (completion : CompletionHooks)
      (active : state.phase = RoutePhase.active.code) :
      Changes state (.applyExpedition completion)
        { state with
          lastExpeditionId := completion.expeditionId
          progressPoints := saturatingAddU16 state.progressPoints
            (expeditionPoints completion) }
  | party (result : HuntResult)
      (underway : state.phase = RoutePhase.active.code ∨
        state.phase = RoutePhase.awaitingRescue.code)
      (played : validPartyResult result = true) :
      Changes state (.applyParty result)
        (joinParty state result (result.participantCount.toUInt32 * 2))
  | encounter (encounter : EncounterRecord)
      (active : state.phase = RoutePhase.active.code) :
      Changes state (.applyEncounter encounter)
        (meetEncounter state encounter)
  | lost (now : ClockSample)
      (active : state.phase = RoutePhase.active.code)
      (staying : flagged state.flags kFlagEarlyReturn = false)
      (bold : state.risk = Risk.bold.code)
      (short : progressPercent state < 40) :
      Changes state (.finish now)
        { state with phase := RoutePhase.awaitingRescue.code }
  | ended (now : ClockSample) (outcome : Outcome)
      (timed : validClock now = true)
      (active : state.phase = RoutePhase.active.code)
      (decided : flagged state.flags kFlagEarlyReturn = true ∨
        ¬ (state.risk = Risk.bold.code ∧ progressPercent state < 40))
      (result : outcome ≠ .none) :
      Changes state (.finish now) (appendJournal (settle state outcome) now)
  | rescued (result : HuntResult) (now : ClockSample)
      (timed : validClock now = true)
      (waiting : state.phase = RoutePhase.awaitingRescue.code)
      (played : validPartyResult result = true) :
      Changes state (.rescue result now)
        (appendJournal (settle (joinParty state result 20) .rescued) now)
  | acknowledged (routeId : UInt32)
      (returned : state.phase = RoutePhase.returned.code) :
      Changes state (.acknowledge routeId) (clearRoute state)

/-- A route that may begin but has no sequence number left. -/
def Exhausted (state : ProgressState) : Call → Prop
  | .begin request now _ =>
    state.phase = RoutePhase.idle.code ∧ validRequest request = true ∧
      validClock now = true ∧
      ¬ (request.commuteSafe ≠ 0 ∧ request.risk ≠ Risk.careful.code) ∧
      state.sequence = 0xffffffff
  | _ => False

/-- A call that ends the route under way, and the clock it ends by. -/
inductive Ends (state : ProgressState) : Call → ClockSample → Prop where
  | finished (now : ClockSample) (timed : validClock now = true)
      (active : state.phase = RoutePhase.active.code)
      (decided : flagged state.flags kFlagEarlyReturn = true ∨
        ¬ (state.risk = Risk.bold.code ∧ progressPercent state < 40)) :
      Ends state (.finish now) now
  | rescued (result : HuntResult) (now : ClockSample)
      (timed : validClock now = true)
      (waiting : state.phase = RoutePhase.awaitingRescue.code)
      (played : validPartyResult result = true) :
      Ends state (.rescue result now) now

/-- The statuses with which a call changes the record. -/
def Status.accepts : Status → Bool
  | .ok | .rescueRequired => true
  | _ => false

/-- The two ways a call on a valid record can go. -/
inductive Performed (state : ProgressState) (call : Call) :
    Status → ProgressState → Prop where
  | kept (status : Status) (refused : status.accepts = false)
      (stuck : status = .invalidState ↔ Exhausted state call)
      (unended : ∀ now, ¬ Ends state call now) :
      Performed state call status state
  | changed (status : Status) (after : ProgressState)
      (accepted : status.accepts = true)
      (fresh : status ≠ .invalidState ∧ ¬ Exhausted state call)
      (change : Changes state call after) :
      Performed state call status (refreshCrc after)

/-- Only the start of a route can run out of sequence numbers. -/
theorem Performed.refused {state : ProgressState} {call : Call}
    {status : Status} (refused : status.accepts = false)
    (answered : status ≠ .invalidState) (other : ¬ Exhausted state call)
    (unended : ∀ now, ¬ Ends state call now) : Performed state call status state :=
  .kept status refused ⟨fun same => absurd same answered,
    fun exhausted => absurd exhausted other⟩ unended

section Operations

variable {state : ProgressState} (valid : validateProgressState state = true)

include valid

theorem setPrivacyMode_performed (mode : UInt8) (given : UInt32) :
    Performed state (.setPrivacyMode mode given)
      (setPrivacyMode state mode given).1
      (setPrivacyMode state mode given).2 := by
  simp only [setPrivacyMode, valid, Bool.not_true, Bool.false_eq_true, if_false]
  split_ifs with unknown unsalted unchanged
  · exact .refused rfl nofun id nofun
  · exact .refused rfl nofun id nofun
  · exact .refused rfl nofun id nofun
  · refine .changed _ _ rfl ⟨nofun, id⟩ ?_
    apply Changes.privacy
    · simpa using unknown
    · by_cases precise : mode = PrivacyMode.preciseTransient.code
      · simp_all [saltFor]
      · simp [saltFor, precise]

theorem setHomeZone_performed (token : UInt32) :
    Performed state (.setHomeZone token) (setHomeZone state token).1
      (setHomeZone state token).2 := by
  simp only [setHomeZone, valid, Bool.not_true, Bool.false_eq_true, if_false]
  split_ifs with disabled zero same
  · exact .refused rfl nofun id nofun
  · exact .refused rfl nofun id nofun
  · exact .refused rfl nofun id nofun
  · refine .changed _ _ rfl ⟨nofun, id⟩ ?_
    exact Changes.home token (by simpa using disabled)

omit valid in
theorem observeZoneToken_cases (token stepDelta segmentMeters : UInt32) :
    ((observeZoneToken state token stepDelta segmentMeters).1 = .invalidArgument ∧
      (observeZoneToken state token stepDelta segmentMeters).2.1 = state) ∨
    ((observeZoneToken state token stepDelta segmentMeters).1 = .ok ∧
      (observeZoneToken state token stepDelta segmentMeters).2.1 =
        refreshCrc (enterZone state token stepDelta segmentMeters)) := by
  simp only [observeZoneToken]
  split
  · exact Or.inl ⟨rfl, rfl⟩
  · exact Or.inr ⟨rfl, rfl⟩

theorem observeCoarseZone_performed (token stepDelta segmentMeters : UInt32) :
    Performed state (.observeCoarseZone token stepDelta segmentMeters)
      (observeCoarseZone state token stepDelta segmentMeters).1
      (observeCoarseZone state token stepDelta segmentMeters).2.1 := by
  simp only [observeCoarseZone, valid, Bool.not_true, Bool.false_eq_true, if_false]
  split_ifs with disabled mismatched zero
  · exact .refused rfl nofun id nofun
  · exact .refused rfl nofun id nofun
  · exact .refused rfl nofun id nofun
  · rcases observeZoneToken_cases token stepDelta segmentMeters with
      ⟨status, same⟩ | ⟨status, entered⟩
    · rw [status, same]
      exact .refused rfl nofun id nofun
    · rw [status, entered]
      refine .changed _ _ rfl ⟨nofun, id⟩ ?_
      exact Changes.coarse token stepDelta segmentMeters
        (by simpa using disabled) (by simpa using zero)
        (by simpa using mismatched)

theorem observePreciseTransient_performed (sample : PreciseLocationSample)
    (stepDelta segmentMeters : UInt32) :
    Performed state (.observePreciseTransient sample stepDelta segmentMeters)
      (observePreciseTransient state sample stepDelta segmentMeters).1
      (observePreciseTransient state sample stepDelta segmentMeters).2.1 := by
  simp only [observePreciseTransient, valid, Bool.not_true,
    Bool.false_eq_true, if_false]
  split_ifs with disabled mismatched outside
  · exact .refused rfl nofun id nofun
  · exact .refused rfl nofun id nofun
  · exact .refused rfl nofun id nofun
  · rcases @observeZoneToken_cases state
      (preciseZoneToken sample state.locationSalt) stepDelta segmentMeters
      with ⟨status, same⟩ | ⟨status, entered⟩
    · rw [status, same]
      exact .refused rfl nofun id nofun
    · rw [status, entered]
      refine .changed _ _ rfl ⟨nofun, id⟩ ?_
      exact Changes.precise sample stepDelta segmentMeters
        (by simpa using disabled) (by simpa using mismatched)
        (Bool.eq_false_iff.mpr outside)

theorem observeHotspot_performed (token : UInt32) (participantCount : UInt8)
    (now : ClockSample) :
    Performed state (.observeHotspot token participantCount now)
      (observeHotspot state token participantCount now).1
      (observeHotspot state token participantCount now).2.1 := by
  simp only [observeHotspot, valid, Bool.not_true, Bool.false_eq_true, if_false]
  split_ifs with untimed argument again
  · exact .refused rfl nofun id nofun
  · exact .refused rfl nofun id nofun
  · exact .refused rfl nofun id nofun
  · refine .changed _ _ rfl ⟨nofun, id⟩ ?_
    apply Changes.hotspot
    intro zero
    simp [zero] at argument

theorem begin_performed (request : RouteRequest) (now : ClockSample)
    (entropy : UInt32) :
    Performed state (.begin request now entropy)
      (begin state request now entropy).1
      (begin state request now entropy).2 := by
  simp only [begin, valid, Bool.not_true, Bool.false_eq_true, if_false]
  split_ifs with busy argument untimed restricted exhausted
  · exact .refused rfl nofun (by simp_all [Exhausted]) nofun
  · exact .refused rfl nofun (by simp_all [Exhausted]) nofun
  · exact .refused rfl nofun (by simp_all [Exhausted]) nofun
  · exact .refused rfl nofun (by simp_all [Exhausted]) nofun
  · exact .kept _ rfl (by simp_all [Exhausted]) nofun
  · refine .changed _ _ rfl ⟨nofun, by simp_all [Exhausted]⟩ ?_
    apply Changes.begin
    · simpa using busy
    · simpa using argument
    · simpa using untimed
    · simpa using restricted
    · simpa using exhausted

theorem addSteps_performed (stepDelta : UInt32) :
    Performed state (.addSteps stepDelta) (addSteps state stepDelta).1
      (addSteps state stepDelta).2 := by
  simp only [addSteps, valid, Bool.not_true, Bool.false_eq_true, if_false]
  split_ifs with phase argument none
  · exact .refused rfl nofun id nofun
  · exact .refused rfl nofun id nofun
  · exact .refused rfl nofun id nofun
  · refine .changed _ _ rfl ⟨nofun, id⟩ ?_
    exact Changes.steps stepDelta (by simpa using phase)

theorem decide_performed (decision : UInt8) :
    Performed state (.decide decision) (Adventure.decide state decision).1
      (Adventure.decide state decision).2 := by
  simp only [Adventure.decide, valid, Bool.not_true, Bool.false_eq_true, if_false]
  split_ifs with phase argument limit restricted
  · exact .refused rfl nofun id nofun
  · exact .refused rfl nofun id nofun
  · exact .refused rfl nofun id nofun
  · exact .refused rfl nofun id nofun
  · refine .changed _ _ rfl ⟨nofun, id⟩ ?_
    apply Changes.decision
    · simp_all
    · simpa using limit

theorem applyExpedition_performed (completion : CompletionHooks) :
    Performed state (.applyExpedition completion)
      (applyExpedition state completion).1
      (applyExpedition state completion).2 := by
  simp only [applyExpedition, valid, Bool.not_true, Bool.false_eq_true, if_false]
  split_ifs with phase argument again
  · exact .refused rfl nofun id nofun
  · exact .refused rfl nofun id nofun
  · exact .refused rfl nofun id nofun
  · refine .changed _ _ rfl ⟨nofun, id⟩ ?_
    exact Changes.expedition completion (by simpa using phase)

theorem applyParty_performed (result : HuntResult) :
    Performed state (.applyParty result) (applyParty state result).1
      (applyParty state result).2 := by
  simp only [applyParty, valid, Bool.not_true, Bool.false_eq_true, if_false]
  split_ifs with phase argument again
  · exact .refused rfl nofun id nofun
  · exact .refused rfl nofun id nofun
  · exact .refused rfl nofun id nofun
  · refine .changed _ _ rfl ⟨nofun, id⟩ ?_
    apply Changes.party
    · by_cases active : state.phase = RoutePhase.active.code
      · exact Or.inl active
      · exact Or.inr (by simp_all)
    · simpa using argument

theorem applyEncounter_performed (encounter : EncounterRecord) :
    Performed state (.applyEncounter encounter) (applyEncounter state encounter).1
      (applyEncounter state encounter).2 := by
  simp only [applyEncounter, valid, Bool.not_true, Bool.false_eq_true, if_false]
  split_ifs with phase argument again old
  · exact .refused rfl nofun id nofun
  · exact .refused rfl nofun id nofun
  · exact .refused rfl nofun id nofun
  · exact .refused rfl nofun id nofun
  · refine .changed _ _ rfl ⟨nofun, id⟩ ?_
    exact Changes.encounter encounter (by simpa using phase)

theorem finish_performed (now : ClockSample) :
    Performed state (.finish now) (finish state now).1
      (finish state now).2 := by
  simp only [finish, valid, Bool.not_true, Bool.false_eq_true, if_false]
  split_ifs with untimed phase early complete rescue
  · refine .refused rfl nofun id ?_
    intro _ ends
    cases ends with
    | finished _ timed => simp [timed] at untimed
  · refine .refused rfl nofun id ?_
    intro _ ends
    cases ends with
    | finished _ _ active => simp [active] at phase
  · refine .changed _ _ rfl ⟨nofun, id⟩ ?_
    exact Changes.ended now .earlyReturn (by simpa using untimed)
      (by simpa using phase) (Or.inl early) nofun
  · refine .changed _ _ rfl ⟨nofun, id⟩ ?_
    refine Changes.ended now .complete (by simpa using untimed)
      (by simpa using phase) (Or.inr ?_) nofun
    rintro ⟨-, short⟩
    omega
  · refine .changed _ _ rfl ⟨nofun, id⟩ ?_
    have lost : state.risk = Risk.bold.code ∧ progressPercent state < 40 := by
      simpa using rescue
    exact Changes.lost now (by simpa using phase) (by simpa using early)
      lost.1 lost.2
  · refine .changed _ _ rfl ⟨nofun, id⟩ ?_
    exact Changes.ended now .partly (by simpa using untimed)
      (by simpa using phase) (Or.inr (by simpa using rescue)) nofun

theorem rescue_performed (result : HuntResult) (now : ClockSample) :
    Performed state (.rescue result now) (rescue state result now).1
      (rescue state result now).2 := by
  simp only [rescue, valid, Bool.not_true, Bool.false_eq_true, if_false]
  split_ifs with untimed phase argument
  · refine .refused rfl nofun id ?_
    intro _ ends
    cases ends with
    | rescued _ _ timed => simp [timed] at untimed
  · refine .refused rfl nofun id ?_
    intro _ ends
    cases ends with
    | rescued _ _ _ waiting => simp [waiting] at phase
  · refine .refused rfl nofun id ?_
    intro _ ends
    cases ends with
    | rescued _ _ _ _ played => simp [played] at argument
  · refine .changed _ _ rfl ⟨nofun, id⟩ ?_
    exact Changes.rescued result now (by simpa using untimed)
      (by simpa using phase) (by simpa using argument)

theorem acknowledge_performed (routeId : UInt32) :
    Performed state (.acknowledge routeId) (acknowledge state routeId).1
      (acknowledge state routeId).2 := by
  simp only [acknowledge, valid, Bool.not_true, Bool.false_eq_true, if_false]
  split_ifs with phase other
  · exact .refused rfl nofun id nofun
  · exact .refused rfl nofun id nofun
  · refine .changed _ _ rfl ⟨nofun, id⟩ ?_
    exact Changes.acknowledged routeId (by simpa using phase)

/-- A call on a valid record leaves it alone or makes one listed change. -/
theorem perform_cases (call : Call) :
    Performed state call (perform state call).1.status
      (step state call) := by
  cases call with
  | setPrivacyMode mode salt => exact setPrivacyMode_performed valid mode salt
  | setHomeZone token => exact setHomeZone_performed valid token
  | observeCoarseZone token stepDelta segmentMeters =>
    exact observeCoarseZone_performed valid token stepDelta segmentMeters
  | observePreciseTransient sample stepDelta segmentMeters =>
    exact observePreciseTransient_performed valid sample stepDelta
      segmentMeters
  | observeHotspot token participantCount now =>
    exact observeHotspot_performed valid token participantCount now
  | begin request now entropy =>
    exact begin_performed valid request now entropy
  | addSteps stepDelta => exact addSteps_performed valid stepDelta
  | decide decision => exact decide_performed valid decision
  | applyExpedition completion =>
    exact applyExpedition_performed valid completion
  | applyParty result => exact applyParty_performed valid result
  | applyEncounter encounter => exact applyEncounter_performed valid encounter
  | finish now => exact finish_performed valid now
  | rescue result now => exact rescue_performed valid result now
  | acknowledge routeId => exact acknowledge_performed valid routeId

end Operations

/-- A record that is not valid answers every call with `invalidState`. -/
theorem perform_invalid {state : ProgressState}
    (broken : validateProgressState state = false) (call : Call) :
    (perform state call).1.status = .invalidState ∧
      step state call = state := by
  have refused : (!validateProgressState state) = true := by
    simp [broken]
  cases call with
  | setPrivacyMode mode salt =>
    have same : setPrivacyMode state mode salt = _ := if_pos refused
    exact ⟨congrArg (·.1) same, congrArg (·.2) same⟩
  | setHomeZone token =>
    have same : setHomeZone state token = _ := if_pos refused
    exact ⟨congrArg (·.1) same, congrArg (·.2) same⟩
  | observeCoarseZone token stepDelta segmentMeters =>
    have same : observeCoarseZone state token stepDelta segmentMeters = _ :=
      if_pos refused
    exact ⟨congrArg (·.1) same, congrArg (·.2.1) same⟩
  | observePreciseTransient sample stepDelta segmentMeters =>
    have same : observePreciseTransient state sample stepDelta
      segmentMeters = _ := if_pos refused
    exact ⟨congrArg (·.1) same, congrArg (·.2.1) same⟩
  | observeHotspot token participantCount now =>
    have same : observeHotspot state token participantCount now = _ :=
      if_pos refused
    exact ⟨congrArg (·.1) same, congrArg (·.2.1) same⟩
  | begin request now entropy =>
    have same : begin state request now entropy = _ := if_pos refused
    exact ⟨congrArg (·.1) same, congrArg (·.2) same⟩
  | addSteps stepDelta =>
    have same : addSteps state stepDelta = _ := if_pos refused
    exact ⟨congrArg (·.1) same, congrArg (·.2) same⟩
  | decide decision =>
    have same : Adventure.decide state decision = _ := if_pos refused
    exact ⟨congrArg (·.1) same, congrArg (·.2) same⟩
  | applyExpedition completion =>
    have same : applyExpedition state completion = _ := if_pos refused
    exact ⟨congrArg (·.1) same, congrArg (·.2) same⟩
  | applyParty result =>
    have same : applyParty state result = _ := if_pos refused
    exact ⟨congrArg (·.1) same, congrArg (·.2) same⟩
  | applyEncounter encounter =>
    have same : applyEncounter state encounter = _ := if_pos refused
    exact ⟨congrArg (·.1) same, congrArg (·.2) same⟩
  | finish now =>
    have same : finish state now = _ := if_pos refused
    exact ⟨congrArg (·.1) same, congrArg (·.2) same⟩
  | rescue result now =>
    have same : rescue state result now = _ := if_pos refused
    exact ⟨congrArg (·.1) same, congrArg (·.2) same⟩
  | acknowledge routeId =>
    have same : acknowledge state routeId = _ := if_pos refused
    exact ⟨congrArg (·.1) same, congrArg (·.2) same⟩

end Kitsu.Adventure
