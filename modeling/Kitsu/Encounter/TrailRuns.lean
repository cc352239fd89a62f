import Kitsu.Encounter.SignalTrail

/-!
# Runs of the signal trail

The meter is available exactly when its snapshot is a valid state.  A watch keeps
the latest state the meter had while it was available, so that a restore can be
said to put it back.  As long as nothing puts it back, the ids it counts increase,
and a row of misses grows no longer than what the count has left.
-/

namespace Kitsu.Encounter.Trail

open Kitsu.Lib Kitsu.Lib.Run

variable {trail : SignalTrail} {state : SignalTrailState}
  {event : LogicalOperationEvent} {naturallyOccurred mergedMissCount : UInt8}

/-! ## What a call does -/

/-- What a valid state satisfies. -/
structure Valid (state : SignalTrailState) : Prop where
  schema : state.schemaVersion = kSignalTrailStateSchemaVersion
  missCount : state.missCount ≤ kSignalTrailMaximumMisses
  flag : state.hasLastOperation ≤ 1
  /-- Progress without a local operation is marked. -/
  shared : state.hasLastOperation = 0 → state.lastOperationId = 0 ∧
    state.reserved =
      if state.missCount = 0 then 0 else kSharedProgressWithoutLocalOperation
  ownProgress : state.hasLastOperation ≠ 0 →
    state.lastOperationId ≠ 0 ∧ state.reserved = 0

theorem validateSignalTrailState_iff :
    validateSignalTrailState state = true ↔ Valid state := by
  constructor
  · intro valid
    rw [validateSignalTrailState] at valid
    split at valid
    · cases valid
    · rename_i bounds
      simp only [bne_iff_ne, ne_eq, gt_iff_lt, Bool.or_eq_true,
        decide_eq_true_eq, not_or, not_not, UInt8.not_lt] at bounds
      rcases bounds with ⟨⟨⟨schema, missCount⟩, flag⟩, -⟩
      refine ⟨schema, missCount, flag, ?_, ?_⟩
      · intro absent
        simp only [absent, beq_self_eq_true, if_true] at valid
        split at valid
        · cases valid
        · rename_i id
          constructor
          · simpa using id
          · by_cases fresh : state.missCount = 0
            · simpa [fresh] using valid
            · simpa [fresh] using valid
      · intro present
        simpa [present] using valid
  · intro valid
    have reserved : state.reserved ≤ kSharedProgressWithoutLocalOperation := by
      by_cases absent : state.hasLastOperation = 0
      · rw [(valid.shared absent).2]
        split <;> decide
      · rw [(valid.ownProgress absent).2]
        decide
    rw [validateSignalTrailState, if_neg]
    · by_cases absent : state.hasLastOperation = 0
      · rcases valid.shared absent with ⟨id, mark⟩
        by_cases fresh : state.missCount = 0
        · simpa [absent, id, fresh] using mark
        · simpa [absent, id, fresh] using mark
      · rcases valid.ownProgress absent with ⟨id, mark⟩
        simp [absent, id, mark]
    · simpa [valid.schema, UInt8.not_lt] using
        ⟨⟨valid.missCount, valid.flag⟩, reserved⟩

/-- What an accepted event satisfies. -/
structure Accepts (trail : SignalTrail) (event : LogicalOperationEvent) :
    Prop where
  available : trail.available = true
  id : event.operationId ≠ 0
  above : trail.state.hasLastOperation ≠ 0 →
    trail.state.lastOperationId.toNat < event.operationId.toNat

theorem refusal_none (accepted : refusal trail event naturallyOccurred = none) :
    Accepts trail event := by
  rw [refusal] at accepted
  split at accepted
  · cases accepted
  · rename_i available
    split at accepted
    · cases accepted
    · rename_i formed
      split at accepted
      · cases accepted
      · split at accepted
        · split at accepted
          · cases accepted
          · rename_i different
            split at accepted
            · cases accepted
            · rename_i notBelow
              refine ⟨by simpa using available, by simp_all, ?_⟩
              rw [UInt64.lt_iff_toNat_lt] at notBelow
              rw [beq_iff_eq, ← UInt64.toNat_inj] at different
              omega
        · rename_i absent
          refine ⟨by simpa using available, by simp_all, ?_⟩
          intro present
          exact absurd (bne_iff_ne.mpr present) absent

theorem process_refused {status : SignalTrailProcessStatus}
    (refused : refusal trail event naturallyOccurred = some status) :
    process trail event naturallyOccurred = ((status, none), trail) := by
  rw [process, refused]

/-- The result that an accepted event counts. -/
theorem process_accepted
    (accepted : refusal trail event naturallyOccurred = none) :
    (process trail event naturallyOccurred).2 = { trail with
        state := {
          missCount := missesAfter trail event naturallyOccurred
          hasLastOperation := 1
          lastOperationId := event.operationId } } ∧
      ∃ result, (process trail event naturallyOccurred).1.2 = some result ∧
        result.operationId = event.operationId ∧
        result.missesAfter = missesAfter trail event naturallyOccurred ∧
        result.encounterOccurred =
          if occurred trail event naturallyOccurred then 1 else 0 := by
  rw [process, accepted]
  exact ⟨rfl, _, rfl, rfl, rfl, rfl⟩

theorem missesAfter_le :
    missesAfter trail event naturallyOccurred ≤ kSignalTrailMaximumMisses := by
  rw [missesAfter]
  split
  · decide
  · split
    · rename_i below
      exact Nat.le_trans (Nat.mod_le _ _) below
    · exact UInt8.le_refl _

/-- A miss is one more, and there is none at the maximum. -/
theorem missesAfter_missed
    (missed : occurred trail event naturallyOccurred = false) :
    (missesAfter trail event naturallyOccurred).toNat =
      trail.state.missCount.toNat + 1 := by
  have below : trail.state.missCount < kSignalTrailMaximumMisses := by
    rw [← UInt8.not_le]
    intro full
    simp only [occurred, trailGuaranteed, full, Bool.or_eq_false_iff,
      Bool.and_eq_false_iff, decide_true, Bool.not_eq_false',
      Bool.true_eq_false, or_false] at missed
    rcases missed with ⟨⟨-, ordinary⟩, discovered⟩
    rw [ordinary] at discovered
    cases discovered
  have bound := UInt8.lt_iff_toNat_lt.mp below
  rw [missesAfter, missed, if_neg Bool.false_ne_true, if_pos below,
    UInt8.toNat_add]
  apply Nat.mod_eq_of_lt
  exact Nat.lt_of_le_of_lt bound (by decide)

theorem mergeSharedMissCount_missCount_le :
    trail.state.missCount ≤
      (mergeSharedMissCount trail mergedMissCount).2.state.missCount := by
  rw [mergeSharedMissCount]
  split
  · exact UInt8.le_refl _
  · split
    · exact UInt8.le_refl _
    · split
      · exact UInt8.le_refl _
      · rename_i notBelow
        exact UInt8.le_of_lt (UInt8.not_le.mp notBelow)

theorem mergeSharedMissCount_lastOperationId :
    (mergeSharedMissCount trail mergedMissCount).2.state.lastOperationId =
      trail.state.lastOperationId := by
  rw [mergeSharedMissCount]
  repeat' split
  all_goals rfl

theorem mergeSharedMissCount_available :
    (mergeSharedMissCount trail mergedMissCount).2.available =
      trail.available := by
  rw [mergeSharedMissCount]
  repeat' split
  all_goals rfl

theorem restore_ok (valid : validateSignalTrailState state = true) :
    restore state = (.ok, { state }) := by
  have schema := (validateSignalTrailState_iff.mp valid).schema
  rw [restore, if_neg (by simp [schema]), if_neg (by simp [valid])]

theorem restore_rejected (invalid : validateSignalTrailState state = false) :
    (restore state).1 ≠ .ok ∧ (restore state).2 = quarantine := by
  rw [restore]
  split
  · exact ⟨nofun, rfl⟩
  · rw [invalid, Bool.not_false, if_pos rfl]
    exact ⟨nofun, rfl⟩

/-! ## Validity -/

/-- The meter is available exactly when its state is valid. -/
def Sound (trail : SignalTrail) : Prop :=
  trail.available = validateSignalTrailState trail.state

theorem quarantine_sound : Sound quarantine :=
  rfl

theorem process_sound (sound : Sound trail) :
    Sound (process trail event naturallyOccurred).2 := by
  cases refused : refusal trail event naturallyOccurred with
  | some status =>
    rw [process_refused refused]
    exact sound
  | none =>
    have accepts := refusal_none refused
    rw [Sound, (process_accepted refused).1, accepts.available, Eq.comm,
      validateSignalTrailState_iff]
    refine ⟨rfl, missesAfter_le, UInt8.le_refl 1, nofun, ?_⟩
    intro _
    exact ⟨accepts.id, rfl⟩

theorem mergeSharedMissCount_sound (sound : Sound trail) :
    Sound (mergeSharedMissCount trail mergedMissCount).2 := by
  rw [mergeSharedMissCount]
  split
  · exact sound
  · rename_i available
    split
    · exact sound
    · rename_i bounded
      split
      · exact sound
      · rename_i above
        rw [Bool.not_eq_true', Bool.not_eq_false] at available
        have valid : Valid trail.state := by
          rw [← validateSignalTrailState_iff, ← sound]
          exact available
        rw [Sound, Eq.comm, available, validateSignalTrailState_iff]
        refine ⟨valid.schema, UInt8.not_lt.mp bounded, valid.flag, ?_, ?_⟩
        · intro absent
          have positive : mergedMissCount ≠ 0 := by
            rintro rfl
            exact above UInt8.zero_le
          refine ⟨(valid.shared absent).1, ?_⟩
          simp only at absent
          simp [absent, positive]
        · intro present
          simpa [present] using valid.ownProgress present

theorem restore_sound (state : SignalTrailState) : Sound (restore state).2 := by
  cases valid : validateSignalTrailState state with
  | false =>
    rw [(restore_rejected valid).2]
    exact quarantine_sound
  | true =>
    rw [restore_ok valid]
    exact valid.symm

/-- Every call keeps the meter sound. -/
theorem perform_sound (sound : Sound trail) (call : Call) :
    Sound (trail.perform call) := by
  cases call with
  | process event naturallyOccurred => exact process_sound sound
  | mergeSharedMissCount mergedMissCount =>
    exact mergeSharedMissCount_sound sound
  | restore state => exact restore_sound state
  | reset => rfl

/-- The call makes a quarantined meter available. -/
def Reopens : Call → Prop
  | .restore state => validateSignalTrailState state = true
  | .reset => True
  | _ => False

theorem perform_quarantine {call : Call} (shut : ¬Reopens call) :
    quarantine.perform call = quarantine := by
  cases call with
  | process event naturallyOccurred => rfl
  | mergeSharedMissCount mergedMissCount => rfl
  | restore state =>
    exact (restore_rejected (Bool.eq_false_iff.mpr shut)).2
  | reset => exact absurd trivial shut

/-- A quarantine lasts until a call ends it. -/
theorem exec_quarantine {later : List Call}
    (shut : ∀ call ∈ later, ¬Reopens call) :
    exec SignalTrail.perform quarantine later = quarantine := by
  induction later with
  | nil => rfl
  | cons call later induction =>
    rw [exec_cons, perform_quarantine (shut call List.mem_cons_self)]
    exact induction fun other member =>
      shut other (List.mem_cons_of_mem _ member)

/-! ## Stretches -/

/-- The meter with the latest state it had while available. -/
structure Watched where
  trail : SignalTrail := {}
  latest : SignalTrailState := {}

/-- A call, and the last state that was not quarantined. -/
def Watched.perform (watched : Watched) (call : Call) : Watched where
  trail := watched.trail.perform call
  latest :=
    if (watched.trail.perform call).available then
      (watched.trail.perform call).state
    else watched.latest

theorem exec_watched (watched : Watched) (history : List Call) :
    (exec Watched.perform watched history).trail =
      exec SignalTrail.perform watched.trail history := by
  induction history generalizing watched with
  | nil => rfl
  | cons call later induction =>
    exact induction _

/-- No call resets the meter or puts this measure of its state back. -/
def Keeps (measure : SignalTrailState → Nat) (watched : Watched) : Call → Prop
  | .restore state =>
    validateSignalTrailState state = true →
      measure watched.latest ≤ measure state
  | .reset => False
  | _ => True

def lastId (state : SignalTrailState) : Nat :=
  state.lastOperationId.toNat

def misses (state : SignalTrailState) : Nat :=
  state.missCount.toNat

variable {watched : Watched}

/-- The watch agrees with a meter that is sound. -/
structure Agrees (watched : Watched) : Prop where
  sound : Sound watched.trail
  latest : watched.trail.available = true → watched.latest = watched.trail.state
  valid : Valid watched.latest

theorem perform_agrees (agrees : Agrees watched) (call : Call) :
    Agrees (watched.perform call) := by
  have sound := perform_sound agrees.sound call
  constructor
  · exact sound
  · intro available
    exact if_pos available
  · rw [Watched.perform]
    by_cases available : (watched.trail.perform call).available = true
    · simp only [available, if_true]
      rw [← validateSignalTrailState_iff, ← sound]
      exact available
    · simp only [available, Bool.false_eq_true, if_false]
      exact agrees.valid

theorem agrees_initially : Agrees {} where
  sound := rfl
  latest := fun _ => rfl
  valid := validateSignalTrailState_iff.mp rfl

/-- A call counts nothing, or it is an accepted event. -/
theorem perform_counts (watched : Watched) (call : Call) :
    watched.trail.counted call = none ∨
      ∃ event naturallyOccurred, call = .process event naturallyOccurred ∧
        refusal watched.trail event naturallyOccurred = none := by
  cases call with
  | process event naturallyOccurred =>
    cases refused : refusal watched.trail event naturallyOccurred with
    | some status =>
      left
      rw [SignalTrail.counted, process_refused refused]
    | none => exact .inr ⟨event, naturallyOccurred, rfl, refused⟩
  | mergeSharedMissCount mergedMissCount => exact .inl rfl
  | restore state => exact .inl rfl
  | reset => exact .inl rfl

/-- A call that counts nothing puts neither measure back. -/
theorem keeps_measure {measure : SignalTrailState → Nat} {call : Call}
    (merges : ∀ trail mergedMissCount, measure trail.state ≤
      measure (mergeSharedMissCount trail mergedMissCount).2.state)
    (agrees : Agrees watched) (keeps : Keeps measure watched call)
    (uncounted : watched.trail.counted call = none) :
    measure watched.latest ≤ measure (watched.perform call).latest := by
  rw [Watched.perform]
  by_cases available : (watched.trail.perform call).available = true
  · simp only [available, if_true]
    cases call with
    | process event naturallyOccurred =>
      cases refused : refusal watched.trail event naturallyOccurred with
      | some status =>
        rw [SignalTrail.perform, process_refused refused] at available ⊢
        exact Nat.le_of_eq (by rw [agrees.latest available])
      | none =>
        rcases (process_accepted refused).2 with ⟨result, counted, -⟩
        rw [SignalTrail.counted, counted] at uncounted
        cases uncounted
    | mergeSharedMissCount mergedMissCount =>
      rw [SignalTrail.perform, mergeSharedMissCount_available] at available
      rw [agrees.latest available]
      exact merges _ _
    | restore state =>
      cases valid : validateSignalTrailState state with
      | false =>
        rw [SignalTrail.perform, (restore_rejected valid).2] at available
        cases available
      | true =>
        rw [SignalTrail.perform, restore_ok valid]
        exact keeps valid
    | reset => exact keeps.elim
  · simp only [available, Bool.false_eq_true, if_false]
    exact Nat.le_refl _

/-- The ids a stretch counts increase, above the last one before it. -/
theorem countedResults_increasing (agrees : Agrees watched) {later : List Call}
    (keeps : Throughout Watched.perform watched (Keeps lastId) later) :
    (∀ result ∈ countedResults watched.trail later,
        lastId watched.latest < result.operationId.toNat) ∧
      (countedResults watched.trail later).Pairwise fun result other =>
        result.operationId.toNat < other.operationId.toNat := by
  induction later generalizing watched with
  | nil => exact ⟨nofun, .nil⟩
  | cons call later induction =>
    rcases throughout_cons.mp keeps with ⟨first, rest⟩
    rcases induction (perform_agrees agrees call) rest with ⟨above, increasing⟩
    rw [countedResults]
    rcases perform_counts watched call with
      uncounted | ⟨event, naturallyOccurred, rfl, accepted⟩
    · have kept := @keeps_measure _ lastId _
        (fun trail merged => by
          exact Nat.le_of_eq
            (by rw [lastId, lastId, mergeSharedMissCount_lastOperationId]))
        agrees first uncounted
      rw [uncounted]
      exact ⟨fun result member => Nat.lt_of_le_of_lt kept (above result member),
        increasing⟩
    · have accepts := refusal_none accepted
      rcases process_accepted accepted with ⟨after, result, counted, id, -⟩
      have next : lastId (watched.perform
          (.process event naturallyOccurred)).latest =
            event.operationId.toNat := by
        rw [Watched.perform, SignalTrail.perform, after, accepts.available]
        rfl
      have before : lastId watched.latest < event.operationId.toNat := by
        rw [agrees.latest accepts.available]
        by_cases absent : watched.trail.state.hasLastOperation = 0
        · have valid := agrees.valid
          rw [agrees.latest accepts.available] at valid
          rw [lastId, (valid.shared absent).1]
          exact Nat.pos_of_ne_zero fun zero =>
            accepts.id (UInt64.toNat_inj.mp zero)
        · exact accepts.above absent
      rw [SignalTrail.counted, counted]
      simp only [Option.toList_some, List.singleton_append, List.mem_cons,
        List.pairwise_cons]
      rw [next] at above
      constructor
      · rintro other (rfl | member)
        · rw [id]
          exact before
        · exact Nat.lt_trans before (above other member)
      · refine ⟨?_, increasing⟩
        rw [id]
        exact above

/-- All the results are misses. -/
def Missed (results : List SignalTrailResult) : Prop :=
  ∀ result ∈ results, result.encounterOccurred = 0

/-- The misses a stretch begins with add to those before it. -/
theorem misses_atFront (agrees : Agrees watched) {later : List Call}
    (keeps : Throughout Watched.perform watched (Keeps misses) later)
    {row : List SignalTrailResult}
    (front : row <+: countedResults watched.trail later) (missed : Missed row) :
    misses watched.latest + row.length ≤ kSignalTrailMaximumMisses.toNat := by
  have bound := UInt8.le_iff_toNat_le.mp agrees.valid.missCount
  induction later generalizing watched row with
  | nil =>
    rw [countedResults, List.prefix_nil] at front
    rw [front]
    exact bound
  | cons call later induction =>
    rcases throughout_cons.mp keeps with ⟨first, rest⟩
    have agreesNext := perform_agrees agrees call
    have boundNext := UInt8.le_iff_toNat_le.mp agreesNext.valid.missCount
    rw [countedResults] at front
    rcases perform_counts watched call with
      uncounted | ⟨event, naturallyOccurred, rfl, accepted⟩
    · have kept := @keeps_measure _ misses _
        (fun trail merged =>
          UInt8.le_iff_toNat_le.mp mergeSharedMissCount_missCount_le)
        agrees first uncounted
      rw [uncounted] at front
      have next := induction agreesNext rest front missed boundNext
      omega
    · rcases process_accepted accepted with
        ⟨after, result, counted, -, -, encounter⟩
      rw [SignalTrail.counted, counted] at front
      cases row with
      | nil => exact bound
      | cons head tail =>
        rw [Option.toList_some, List.singleton_append,
          List.cons_prefix_cons] at front
        rcases front with ⟨rfl, front⟩
        have available := (refusal_none accepted).available
        have ordinary : occurred watched.trail event naturallyOccurred =
            false := by
          have zero := missed head List.mem_cons_self
          rw [encounter] at zero
          by_contra met
          rw [if_pos (Bool.not_eq_false _ ▸ met)] at zero
          cases zero
        have counts : misses (watched.perform
            (.process event naturallyOccurred)).latest =
              misses watched.latest + 1 := by
          rw [Watched.perform, SignalTrail.perform, after, available,
            agrees.latest available]
          exact missesAfter_missed ordinary
        have next := induction agreesNext rest front
          (fun other member => missed other (List.mem_cons_of_mem _ member))
          boundNext
        rw [List.length_cons]
        omega

/-- No row of misses in a stretch is longer than the maximum. -/
theorem misses_inside (agrees : Agrees watched) {later : List Call}
    (keeps : Throughout Watched.perform watched (Keeps misses) later)
    {row : List SignalTrailResult}
    (inside : row <:+: countedResults watched.trail later)
    (missed : Missed row) : row.length ≤ kSignalTrailMaximumMisses.toNat := by
  induction later generalizing watched with
  | nil =>
    rw [countedResults, List.infix_nil] at inside
    rw [inside]
    exact Nat.zero_le _
  | cons call later induction =>
    rcases throughout_cons.mp keeps with ⟨first, rest⟩
    have whole := @misses_atFront watched agrees _ keeps row
    rw [countedResults] at inside whole
    cases counted : watched.trail.counted call with
    | none =>
      rw [counted] at inside
      exact induction (perform_agrees agrees call) rest inside
    | some result =>
      rw [counted, Option.toList_some, List.singleton_append] at inside whole
      rcases List.infix_cons_iff.mp inside with front | inside
      · have bound := whole front missed
        omega
      · exact induction (perform_agrees agrees call) rest inside

/-! ## Pity and counting at most once -/

/-- The meter after calls from the start. -/
def trailAfter (history : List Call) : Watched :=
  exec Watched.perform {} history

theorem trailAfter_agrees (history : List Call) : Agrees (trailAfter history) :=
  exec_invariant agrees_initially (fun _ call agrees => perform_agrees agrees call)
    history

/--
The meter is valid exactly while it is available, and a rejected restore makes it
invalid until a call reopens it.  A merge never lowers the count.  Between calls
that reset it or put the measure back, ids are counted once, in order, and no row
of misses is longer than the maximum.  A coordinator under a valid configuration
records every operation with increasing ids, and picks rarity by the cumulative
weights.
-/
theorem pity_and_atMostOnce (history : List Call) :
    ((trailAfter history).trail.available = true ↔
        validateSignalTrailState (snapshot (trailAfter history).trail) = true) ∧
      (∀ state later, (restore state).1 ≠ .ok → (∀ call ∈ later, ¬Reopens call) →
        validateSignalTrailState (snapshot (trailAfter
          (history ++ .restore state :: later)).trail) = false) ∧
      (∀ mergedMissCount, (trailAfter history).trail.state.missCount ≤
        (mergeSharedMissCount (trailAfter history).trail
          mergedMissCount).2.state.missCount) ∧
      (∀ later, Throughout Watched.perform (trailAfter history) (Keeps lastId)
          later → (countedResults (trailAfter history).trail later).Pairwise
          fun result other =>
            result.operationId.toNat < other.operationId.toNat) ∧
      (∀ later, Throughout Watched.perform (trailAfter history) (Keeps misses)
          later → ∀ row, row <:+: countedResults (trailAfter history).trail later →
          Missed row → row.length ≤ kSignalTrailMaximumMisses.toNat) ∧
      ∀ configuration calls events,
        validateConfiguration configuration = .ok →
        (∀ event ∈ events, Wellformed event.1) →
        (∀ event ∈ events,
          (exec SignalEncounterCoordinator.perform (.create configuration)
              calls).state.hasLastRecord ≠ 0 →
            (exec SignalEncounterCoordinator.perform (.create configuration)
              calls).state.lastOperationId < event.1.operationId) →
        (events.Pairwise fun event later =>
          event.1.operationId < later.1.operationId) →
        List.Forall₂ (Recorded configuration) events
          (replies (exec SignalEncounterCoordinator.perform
            (.create configuration) calls) events) := by
  have agrees := trailAfter_agrees history
  refine ⟨?_, ?_, ?_, ?_, ?_, ?_⟩
  · rw [agrees.sound]
    exact Iff.rfl
  · intro state later rejected shut
    have invalid : validateSignalTrailState state = false := by
      rw [Bool.eq_false_iff]
      intro valid
      rw [restore_ok valid] at rejected
      exact rejected rfl
    have closed : (trailAfter (history ++ .restore state :: later)).trail =
        quarantine := by
      rw [trailAfter, exec_watched, exec_append, exec_cons,
        SignalTrail.perform, (restore_rejected invalid).2]
      exact exec_quarantine shut
    rw [closed]
    rfl
  · intro mergedMissCount
    exact mergeSharedMissCount_missCount_le
  · intro later keeps
    exact (countedResults_increasing agrees keeps).2
  · intro later keeps row inside missed
    exact misses_inside agrees keeps inside missed
  · intro configuration calls events valid wellformed above increasing
    exact replies_recorded (run_configured calls) valid wellformed above
      increasing

/-- The operation of this id, sent or received. -/
def operation (operationId : UInt64) : Call :=
  .process { operationId, successful := 1 } 0

/-- A restore of an earlier snapshot counts an id again, and a reset misses. -/
theorem restored_counts_again :
    (∃ history, .reset ∉ history ∧
      ¬((countedResults {} history).map (·.operationId)).Nodup) ∧
    ∃ history row, row <:+: countedResults {} history ∧ Missed row ∧
      kSignalTrailMaximumMisses.toNat < row.length := by
  constructor
  · refine ⟨[operation 1, .restore (snapshot {}), operation 1], ?_, ?_⟩
    · decide
    · decide
  · refine ⟨(List.range 20).map (fun id => operation (.ofNat (id + 1))) ++
      [.reset, operation 21], _, List.infix_rfl, ?_, ?_⟩
    · intro result member
      revert result
      decide
    · decide

end Kitsu.Encounter.Trail
