import Kitsu.Encounter.EncounterRecords

/-!
# The signal trail

The pity meter of `signal_trail.cpp`.  It counts the operations in a row that met
no encounter and grants one after twenty.  A peer's larger count may be merged
without a local operation, which the reserved byte then marks.  A rejected restore
quarantines the meter under a schema that no state has.
-/

namespace Kitsu.Encounter.Trail

open Kitsu.Lib Kitsu.Lib.Run

def kSignalTrailMaximumMisses : UInt8 := 20

def kSignalTrailStateSchemaVersion : UInt8 := 1

def kSharedProgressWithoutLocalOperation : UInt8 := 1

/-- How many operations in a row met nothing. -/
structure SignalTrailState where
  schemaVersion : UInt8 := kSignalTrailStateSchemaVersion
  missCount : UInt8 := 0
  hasLastOperation : UInt8 := 0
  reserved : UInt8 := 0
  lastOperationId : UInt64 := 0
deriving DecidableEq

/-- What became of an operation on the trail. -/
structure SignalTrailResult where
  operationId : UInt64 := 0
  operationKind : UInt8 := MeshOperationKind.otherCompleted.byte
  encounterOccurred : UInt8 := 0
  guaranteed : UInt8 := 0
  guaranteedByTrail : UInt8 := 0
  guaranteedByRepeater : UInt8 := 0
  missesBefore : UInt8 := 0
  missesAfter : UInt8 := 0
deriving DecidableEq

/-- What the trail answers to an operation. -/
inductive SignalTrailProcessStatus where
  | recordedMiss
  | recordedEncounter
  | invalidEvent
  | unsuccessfulOperation
  | duplicateOperation
  | staleOperation
  | stateUnavailable
deriving DecidableEq

/-- What the reading of a stored trail answers. -/
inductive SignalTrailRestoreStatus where
  | ok
  | unsupportedSchema
  | invalidState
deriving DecidableEq

/-- What the trail answers to a shared count. -/
inductive SignalTrailMergeStatus where
  | applied
  | unchanged
  | invalidMissCount
  | stateUnavailable
deriving DecidableEq

/-- The trail; not available after a bad record. -/
structure SignalTrail where
  state : SignalTrailState := {}
  available : Bool := true
deriving DecidableEq

/-- What a stored trail must meet before it is taken over. -/
def validateSignalTrailState (state : SignalTrailState) : Bool :=
  if state.schemaVersion != kSignalTrailStateSchemaVersion ||
      state.missCount > kSignalTrailMaximumMisses ||
      state.hasLastOperation > 1 ||
      state.reserved > kSharedProgressWithoutLocalOperation then false
  else if state.hasLastOperation == 0 then
    if state.lastOperationId != 0 then false
    else if state.missCount == 0 then state.reserved == 0
    else state.reserved == kSharedProgressWithoutLocalOperation
  else state.lastOperationId != 0 && state.reserved == 0

/-- The refusal of an event, if it is refused. -/
def refusal (trail : SignalTrail) (event : LogicalOperationEvent)
    (naturallyOccurred : UInt8) : Option SignalTrailProcessStatus :=
  if !trail.available then some .stateUnavailable
  else if event.operationId == 0 || !validOperationKind event.kind.byte ||
      event.successful > 1 || naturallyOccurred > 1 then some .invalidEvent
  else if event.successful == 0 then some .unsuccessfulOperation
  else if trail.state.hasLastOperation != 0 then
    if event.operationId == trail.state.lastOperationId then
      some .duplicateOperation
    else if event.operationId < trail.state.lastOperationId then
      some .staleOperation
    else none
  else none

/-- A repeater always brings an encounter. -/
def repeaterGuaranteed (event : LogicalOperationEvent) : Bool :=
  event.kind == .repeaterDiscovered

/-- After enough misses the trail guarantees an encounter. -/
def trailGuaranteed (trail : SignalTrail) (event : LogicalOperationEvent) :
    Bool :=
  !repeaterGuaranteed event &&
    trail.state.missCount ≥ kSignalTrailMaximumMisses

/-- An encounter happens by chance, at a repeater or by the trail. -/
def occurred (trail : SignalTrail) (event : LogicalOperationEvent)
    (naturallyOccurred : UInt8) : Bool :=
  naturallyOccurred != 0 || repeaterGuaranteed event ||
    trailGuaranteed trail event

/-- The misses in a row after an operation. -/
def missesAfter (trail : SignalTrail) (event : LogicalOperationEvent)
    (naturallyOccurred : UInt8) : UInt8 :=
  if occurred trail event naturallyOccurred then 0
  else if trail.state.missCount < kSignalTrailMaximumMisses then
    trail.state.missCount + 1
  else kSignalTrailMaximumMisses

/-- The reply to an event: its status and the result, if it is accepted. -/
def process (trail : SignalTrail) (event : LogicalOperationEvent)
    (naturallyOccurred : UInt8) :
    (SignalTrailProcessStatus × Option SignalTrailResult) × SignalTrail :=
  match refusal trail event naturallyOccurred with
  | some status => ((status, none), trail)
  | none =>
    let occurred := occurred trail event naturallyOccurred
    let missesAfter := missesAfter trail event naturallyOccurred
    ((if occurred then .recordedEncounter else .recordedMiss, some {
      operationId := event.operationId
      operationKind := event.kind.byte
      encounterOccurred := if occurred then 1 else 0
      guaranteed :=
        if repeaterGuaranteed event || trailGuaranteed trail event then 1
        else 0
      guaranteedByTrail := if trailGuaranteed trail event then 1 else 0
      guaranteedByRepeater := if repeaterGuaranteed event then 1 else 0
      missesBefore := trail.state.missCount
      missesAfter := missesAfter }),
      { trail with
        state := {
          missCount := missesAfter
          hasLastOperation := 1
          lastOperationId := event.operationId } })

/-- Take over a longer count that others share. -/
def mergeSharedMissCount (trail : SignalTrail) (mergedMissCount : UInt8) :
    SignalTrailMergeStatus × SignalTrail :=
  if !trail.available then (.stateUnavailable, trail)
  else if mergedMissCount > kSignalTrailMaximumMisses then
    (.invalidMissCount, trail)
  else if mergedMissCount ≤ trail.state.missCount then (.unchanged, trail)
  else
    (.applied, { trail with
      state := { trail.state with
        missCount := mergedMissCount
        reserved :=
          if trail.state.hasLastOperation == 0 then
            kSharedProgressWithoutLocalOperation
          else trail.state.reserved } })

def snapshot (trail : SignalTrail) : SignalTrailState :=
  trail.state

/-- The trail after a bad record. -/
def quarantine : SignalTrail where
  state := { schemaVersion := 0 }
  available := false

/-- Take over a valid record; any other quarantines the trail. -/
def restore (state : SignalTrailState) :
    SignalTrailRestoreStatus × SignalTrail :=
  if state.schemaVersion != kSignalTrailStateSchemaVersion then
    (.unsupportedSchema, quarantine)
  else if !validateSignalTrailState state then (.invalidState, quarantine)
  else (.ok, { state })

/-- The trail that has missed nothing. -/
def reset : SignalTrail :=
  {}

/-! ## Calls -/

/-- The calls of the trail. -/
inductive Call where
  | process (event : LogicalOperationEvent) (naturallyOccurred : UInt8)
  | mergeSharedMissCount (mergedMissCount : UInt8)
  | restore (state : SignalTrailState)
  | reset
deriving DecidableEq

/-- A call by its name. -/
def SignalTrail.perform (trail : SignalTrail) : Call → SignalTrail
  | .process event naturallyOccurred =>
    (process trail event naturallyOccurred).2
  | .mergeSharedMissCount mergedMissCount =>
    (mergeSharedMissCount trail mergedMissCount).2
  | .restore state => (restore state).2
  | .reset => reset

/-- The result of a call that counts an operation. -/
def SignalTrail.counted (trail : SignalTrail) : Call → Option SignalTrailResult
  | .process event naturallyOccurred =>
    (process trail event naturallyOccurred).1.2
  | _ => none

/-- The results a run counts, in order. -/
def countedResults (trail : SignalTrail) :
    List Call → List SignalTrailResult
  | [] => []
  | call :: later =>
    (trail.counted call).toList ++ countedResults (trail.perform call) later

end Kitsu.Encounter.Trail
