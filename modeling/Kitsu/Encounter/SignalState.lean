import Kitsu.Crc32
import Kitsu.Encounter.TrailRuns

/-!
# The stored signal state

The coordinator and the trail are two machines in one record.  Both are advanced before
the record is written, both are put back when it is not, and a shared trail moves one of
them alone.  What either of them holds is checked again at the next start.
-/

namespace Kitsu.Encounter.SignalState

open Kitsu.Lib
open Kitsu.Lib.ByteString
open Kitsu.Lib.Run
open Kitsu.Encounter.Trail

/-- The chances that the firmware uses. -/
def makeSignalEncounterConfiguration : Configuration where
  encounterChanceBasisPoints := ⟨#[0, 1500, 1200, 1500, 800, 500, 500, 300], rfl⟩
  rarityWeightBasisPoints := ⟨#[5500, 2500, 1200, 500, 200, 50, 50], rfl⟩
  codeChanceBasisPoints := ⟨#[1000, 1200, 1500, 2000, 3000, 5000, 10000], rfl⟩

theorem configuration_valid :
    validateConfiguration makeSignalEncounterConfiguration = .ok := by
  decide

/-! ## Records -/

/-- What both records hold of the coordinator. -/
structure SignalFields where
  lastOperationId : UInt64 := 0
  hasLastRecord : UInt8 := 0
  operationKind : UInt8 := 0
  encounterOccurred : UInt8 := 0
  guaranteed : UInt8 := 0
  rarity : UInt8 := 0
  codeOutcome : UInt8 := 0
  encounterRoll : UInt16 := 0
  rarityRoll : UInt16 := 0
  codeRoll : UInt16 := 0
  recordOperationId : UInt64 := 0
  entropy : UInt32 := 0
deriving DecidableEq

/-- Two bytes of the record. -/
def u16 (value : UInt16) : Bytes := littleEndian 2 value.toNat
/-- Four bytes of the record. -/
def u32 (value : UInt32) : Bytes := littleEndian 4 value.toNat
/-- Eight bytes of the record. -/
def u64 (value : UInt64) : Bytes := littleEndian 8 value.toNat

/-- The bytes of the fields, as the checksum runs over them. -/
def SignalFields.layout (fields : SignalFields) : Bytes :=
  u64 fields.lastOperationId ++
  [fields.hasLastRecord, fields.operationKind, fields.encounterOccurred, fields.guaranteed,
    fields.rarity, fields.codeOutcome] ++
  u16 fields.encounterRoll ++ u16 fields.rarityRoll ++ u16 fields.codeRoll ++
  u64 fields.recordOperationId ++ u32 fields.entropy

/-- The record of the older format, without a trail. -/
structure SignalStateV1 where
  magic : UInt32 := 0x4b534731
  schema : UInt16 := 1
  bytes : UInt16 := 0
  fields : SignalFields := {}
  crc32 : UInt32 := 0
deriving DecidableEq

/-- The record: the coordinator's fields and the trail. -/
structure SignalStateV2 where
  magic : UInt32 := 0x4b534732
  schema : UInt16 := 2
  bytes : UInt16 := 0
  fields : SignalFields := {}
  trailSchema : UInt8 := kSignalTrailStateSchemaVersion
  trailMissCount : UInt8 := 0
  trailHasLastOperation : UInt8 := 0
  trailReserved : UInt8 := 0
  trailLastOperationId : UInt64 := 0
  crc32 : UInt32 := 0
deriving DecidableEq

/-- The checksum of an older record. -/
def SignalStateV1.signalStateCrc (stored : SignalStateV1) : UInt32 :=
  Crc32.crc32 (u32 stored.magic ++ u16 stored.schema ++ u16 stored.bytes ++
    stored.fields.layout)

/-- The checksum of a record. -/
def SignalStateV2.signalStateCrc (stored : SignalStateV2) : UInt32 :=
  Crc32.crc32 (u32 stored.magic ++ u16 stored.schema ++ u16 stored.bytes ++
    stored.fields.layout ++
    [stored.trailSchema, stored.trailMissCount, stored.trailHasLastOperation,
      stored.trailReserved] ++ u64 stored.trailLastOperationId)

/-- An older record that is whole. -/
def SignalStateV1.intact (stored : SignalStateV1) : Bool :=
  stored.magic == 0x4b534731 && stored.schema == 1 && stored.bytes == 44 &&
    stored.fields.hasLastRecord ≤ 1 && stored.crc32 == stored.signalStateCrc

def SignalStateV2.intact (stored : SignalStateV2) : Bool :=
  stored.magic == 0x4b534732 && stored.schema == 2 && stored.bytes == 56 &&
    stored.fields.hasLastRecord ≤ 1 && stored.crc32 == stored.signalStateCrc

/-- The coordinator's state as the record keeps it. -/
def fieldsOf (state : CoordinatorState) : SignalFields :=
  if state.hasLastRecord != 0 then
    { lastOperationId := state.lastOperationId
      hasLastRecord := state.hasLastRecord
      operationKind := state.lastRecord.operationKind
      encounterOccurred := state.lastRecord.encounterOccurred
      guaranteed := state.lastRecord.guaranteed
      rarity := state.lastRecord.rarity
      codeOutcome := state.lastRecord.codeOutcome
      encounterRoll := state.lastRecord.encounterRollBasisPoints
      rarityRoll := state.lastRecord.rarityRollBasisPoints
      codeRoll := state.lastRecord.codeRollBasisPoints
      recordOperationId := state.lastRecord.operationId
      entropy := state.lastRecord.entropy }
  else
    { lastOperationId := state.lastOperationId, hasLastRecord := state.hasLastRecord }

/-- The coordinator's state that a record stands for. -/
def coordinatorOf (fields : SignalFields) : CoordinatorState where
  lastOperationId := fields.lastOperationId
  hasLastRecord := fields.hasLastRecord
  lastRecord :=
    if fields.hasLastRecord != 0 then
      { operationKind := fields.operationKind
        encounterOccurred := fields.encounterOccurred
        guaranteed := fields.guaranteed
        rarity := fields.rarity
        codeOutcome := fields.codeOutcome
        encounterRollBasisPoints := fields.encounterRoll
        rarityRollBasisPoints := fields.rarityRoll
        codeRollBasisPoints := fields.codeRoll
        operationId := fields.recordOperationId
        entropy := fields.entropy }
    else {}

/-- The record of the older firmware, which had no trail. -/
def legacyRecord (state : CoordinatorState) : SignalStateV1 :=
  let stored : SignalStateV1 := { bytes := 44, fields := fieldsOf state }
  { stored with crc32 := stored.signalStateCrc }

/-- The record of both machines. -/
def signalRecord (state : CoordinatorState) (trail : SignalTrailState) : SignalStateV2 :=
  let stored : SignalStateV2 :=
    { bytes := 56
      fields := fieldsOf state
      trailSchema := trail.schemaVersion
      trailMissCount := trail.missCount
      trailHasLastOperation := trail.hasLastOperation
      trailReserved := trail.reserved
      trailLastOperationId := trail.lastOperationId }
  { stored with crc32 := stored.signalStateCrc }

/-! ## Writing and reading -/

/-- What becomes of a write; the record may be there though an error was reported. -/
inductive WriteOutcome where
  | written
  | reportedFailed
  | failed
deriving DecidableEq

/-- Whether the record is stored, reported or not. -/
def WriteOutcome.lands : WriteOutcome → Bool
  | .written | .reportedFailed => true
  | .failed => false

/-- The records of both formats. -/
structure Store where
  v2 : Option SignalStateV2 := none
  v1 : Option SignalStateV1 := none
deriving DecidableEq

/-- Both machines with their record. -/
structure Signal where
  coordinator : SignalEncounterCoordinator := .create makeSignalEncounterConfiguration
  trail : SignalTrail := {}
  signalEncounterStateReady : Bool := false
  storageReady : Bool := false
  store : Store := {}
deriving DecidableEq

/-- Write the record of both machines. -/
def persistSignalEncounterState (signal : Signal) (outcome : WriteOutcome) : Bool × Signal :=
  if !signal.storageReady || !signal.signalEncounterStateReady ||
      !validateSignalTrailState signal.trail.state then (false, signal)
  else
    (outcome = .written,
      if outcome.lands then
        { signal with
          store.v2 := some (signalRecord signal.coordinator.state signal.trail.state) }
      else signal)

/-- What is found in the store, and whether it is of the older firmware. -/
inductive Found where
  | nothing
  | invalid
  | states (restored : CoordinatorState) (restoredTrail : SignalTrailState) (migrate : Bool)
deriving DecidableEq

/-- What is stored, in the newer format first. -/
def findSignalState (store : Store) : Found :=
  match store.v2 with
  | some stored =>
    if !stored.intact then .invalid
    else
      .states (coordinatorOf stored.fields)
        { schemaVersion := stored.trailSchema
          missCount := stored.trailMissCount
          hasLastOperation := stored.trailHasLastOperation
          reserved := stored.trailReserved
          lastOperationId := stored.trailLastOperationId } false
  | none =>
    match store.v1 with
    | none => .nothing
    | some legacy =>
      if !legacy.intact then .invalid
      else
        .states (coordinatorOf legacy.fields)
          { hasLastOperation := legacy.fields.hasLastRecord
            lastOperationId :=
              if legacy.fields.hasLastRecord != 0 then legacy.fields.lastOperationId
              else 0 } true

/-- Load both machines at boot; what is not valid leaves them unready. -/
def loadSignalEncounterState (signal : Signal) (outcome : WriteOutcome) : Signal :=
  let reset := { signal with
    coordinator := signal.coordinator.reset
    trail := Trail.reset
    signalEncounterStateReady := signal.coordinator.configurationStatus == .ok }
  if !reset.storageReady || !reset.signalEncounterStateReady then reset
  else
    match findSignalState reset.store with
    | .nothing => reset
    | .invalid => { reset with signalEncounterStateReady := false }
    | .states restored restoredTrail migrate =>
      if (reset.coordinator.restore restored).1 != .ok ||
          (Trail.restore restoredTrail).1 != .ok ||
          restored.lastOperationId != restoredTrail.lastOperationId then
        { reset with signalEncounterStateReady := false }
      else
        let loaded := { reset with
          coordinator := (reset.coordinator.restore restored).2
          trail := (Trail.restore restoredTrail).2 }
        if migrate then (persistSignalEncounterState loaded outcome).2 else loaded

/-- A start finds the memory as it is before anything was loaded. -/
def boot (storageReady : Bool) (store : Store) (outcome : WriteOutcome) : Signal :=
  loadSignalEncounterState { storageReady, store } outcome

/-! ## Triggers and shared trails -/

/-- Both machines as they were. -/
def Signal.rollBack (signal : Signal) (previous : CoordinatorState)
    (previousTrail : SignalTrailState) : Signal :=
  { signal with
    coordinator := (signal.coordinator.restore previous).2
    trail := (Trail.restore previousTrail).2 }

/-- A trigger, and what the rest of the firmware makes of it. -/
structure Trigger where
  kind : MeshOperationKind
  entropy : UInt32
  /-- An earlier encounter is still pending or shown. -/
  waiting : Bool
  /-- The catalogue has a creature of the rarity. -/
  catalogued : Bool
  /-- The pending encounter is written. -/
  prepared : Bool
  outcome : WriteOutcome
deriving DecidableEq

/-- An operation with the number after the last one. -/
def nextEvent (signal : Signal) (kind : MeshOperationKind) : LogicalOperationEvent where
  operationId := signal.coordinator.state.lastOperationId + 1
  kind
  successful := 1

/-- The encounter can be shown, and can be found again after a restart. -/
def prepares (trigger : Trigger) (record : EncounterRecord) : Bool :=
  (record.encounterOccurred != 0 ||
    (rarityForRoll makeSignalEncounterConfiguration record.rarityRollBasisPoints).isSome) &&
  trigger.catalogued && trigger.prepared

/-- An operation goes to both machines, and both are written or taken back. -/
def recordSuccessfulEncounterTrigger (signal : Signal) (trigger : Trigger) : Signal :=
  if !signal.signalEncounterStateReady || !validOperationKind trigger.kind.byte ||
      trigger.waiting || signal.coordinator.state.lastOperationId == .ofNat (2 ^ 64 - 1) then
    signal
  else
    let previous := signal.coordinator.state
    let previousTrail := signal.trail.state
    let event := nextEvent signal trigger.kind
    match process signal.coordinator event trigger.entropy with
    | ((_, none), _) => signal
    | ((_, some record), coordinator) =>
      let (reply, trail) := Trail.process signal.trail event record.encounterOccurred
      let advanced := { signal with coordinator, trail }
      match reply.2 with
      | none => advanced.rollBack previous previousTrail
      | some result =>
        if result.encounterOccurred != 0 && !prepares trigger record then
          advanced.rollBack previous previousTrail
        else
          let (persisted, stored) := persistSignalEncounterState advanced trigger.outcome
          if persisted then stored else stored.rollBack previous previousTrail

/-- The first part of `applyModePartySocialOutcome`; without it there is no second. -/
def mergeSharedTrail (signal : Signal) (outcomeValue : UInt16) (outcome : WriteOutcome) :
    Bool × Signal :=
  if outcomeValue > kSignalTrailMaximumMisses.toUInt16 then (false, signal)
  else
    let (status, trail) := mergeSharedMissCount signal.trail outcomeValue.toUInt8
    let merged := { signal with trail }
    match status with
    | .applied =>
      let (persisted, stored) := persistSignalEncounterState merged outcome
      if persisted then (true, stored)
      else (false, { stored with trail := (Trail.restore signal.trail.state).2 })
    | .unchanged => (true, merged)
    | _ => (false, merged)

/-- What happens to both machines. -/
inductive Call where
  | trigger (trigger : Trigger)
  | merge (outcomeValue : UInt16) (outcome : WriteOutcome)
  | boot (storageReady : Bool) (outcome : WriteOutcome)
deriving DecidableEq

/-- One call. -/
def step (signal : Signal) : Call → Signal
  | .trigger trigger => recordSuccessfulEncounterTrigger signal trigger
  | .merge outcomeValue outcome => (mergeSharedTrail signal outcomeValue outcome).2
  | .boot storageReady outcome => boot storageReady signal.store outcome

/-! ## What a record says -/

/-- The state of a coordinator that a record can hold. -/
structure Whole (state : CoordinatorState) : Prop where
  schema : state.schemaVersion = kCoordinatorStateSchemaVersion
  reserved : state.reserved = 0
  flag : state.hasLastRecord ≤ 1
  blank : state.hasLastRecord = 0 → state.lastOperationId = 0 ∧ state.lastRecord = {}
  recorded : state.hasLastRecord ≠ 0 → state.lastOperationId ≠ 0 ∧
    state.lastRecord.operationId = state.lastOperationId ∧
    validateRecord state.lastRecord = true

variable {state : CoordinatorState}

theorem Whole.restored (whole : Whole state)
    (coordinator : SignalEncounterCoordinator) :
    coordinator.restore state = (.ok, { coordinator with state }) := by
  rw [SignalEncounterCoordinator.restore, if_neg (by simp [whole.schema]),
    if_neg (by simpa [whole.reserved] using whole.flag)]
  by_cases recorded : state.hasLastRecord = 0
  · simp [recorded, whole.blank recorded]
  · have facts := whole.recorded recorded
    simp [recorded, facts]

theorem coordinatorOf_fieldsOf (whole : Whole state) :
    coordinatorOf (fieldsOf state) = state := by
  rcases state with ⟨schema, flag, reserved, id, record⟩
  rcases whole with ⟨rfl, rfl, _, blank, recorded⟩
  by_cases absent : flag = 0
  · rcases blank absent with ⟨_, rfl⟩
    simp [coordinatorOf, fieldsOf, absent]
  · have checked := (recorded absent).2.2
    rcases record with ⟨version, _⟩
    simp only [validateRecord, Bool.and_eq_true, beq_iff_eq] at checked
    obtain rfl : version = kRecordSchemaVersion := by
      tauto
    simp [coordinatorOf, fieldsOf, absent]

theorem fieldsOf_hasLastRecord (state : CoordinatorState) :
    (fieldsOf state).hasLastRecord = state.hasLastRecord := by
  unfold fieldsOf
  split <;> rfl

theorem fieldsOf_lastOperationId (state : CoordinatorState) :
    (fieldsOf state).lastOperationId = state.lastOperationId := by
  unfold fieldsOf
  split <;> rfl

theorem whole_coordinatorOf {fields : SignalFields} {coordinator : SignalEncounterCoordinator}
    (accepted : (coordinator.restore (coordinatorOf fields)).1 = .ok) :
    Whole (coordinatorOf fields) := by
  simp only [SignalEncounterCoordinator.restore, coordinatorOf] at accepted
  constructor
  · rfl
  · rfl
  all_goals grind [coordinatorOf]

theorem legacyRecord_intact (whole : Whole state) :
    (legacyRecord state).intact = true := by
  simp [SignalStateV1.intact, legacyRecord, fieldsOf_hasLastRecord, whole.flag,
    SignalStateV1.signalStateCrc]

theorem signalRecord_intact (whole : Whole state) (trail : SignalTrailState) :
    (signalRecord state trail).intact = true := by
  simp [SignalStateV2.intact, signalRecord, fieldsOf_hasLastRecord, whole.flag,
    SignalStateV2.signalStateCrc]

theorem find_signalRecord (whole : Whole state) (trail : SignalTrailState)
    (legacy : Option SignalStateV1) :
    findSignalState ⟨some (signalRecord state trail), legacy⟩ = .states state trail false := by
  have intact := signalRecord_intact whole trail
  simp only [findSignalState, intact]
  rw [signalRecord, coordinatorOf_fieldsOf whole]
  rfl

/-- The trail of a device that had none; no miss was counted yet. -/
def legacyTrail (state : CoordinatorState) : SignalTrailState where
  hasLastOperation := state.hasLastRecord
  lastOperationId := state.lastOperationId

theorem Whole.legacyTrail {state : CoordinatorState} (whole : Whole state) :
    Valid (legacyTrail state) := by
  constructor
  · rfl
  · exact UInt8.zero_le
  · exact whole.flag
  · intro absent
    exact ⟨(whole.blank absent).1, rfl⟩
  · intro present
    exact ⟨(whole.recorded present).1, rfl⟩

theorem find_legacyRecord (whole : Whole state) :
    findSignalState ⟨none, some (legacyRecord state)⟩ =
      .states state (legacyTrail state) true := by
  have intact := legacyRecord_intact whole
  simp only [findSignalState, intact, Bool.not_true, Bool.false_eq_true, if_false]
  rw [legacyRecord, coordinatorOf_fieldsOf whole, fieldsOf_hasLastRecord,
    fieldsOf_lastOperationId]
  by_cases recorded : state.hasLastRecord = 0
  · simp [legacyTrail, recorded, (whole.blank recorded).1]
  · simp [legacyTrail, recorded]

/-! ## Lockstep -/

/-- Both machines hold what a record can hold, and agree on the last operation. -/
structure Lockstep (signal : Signal) : Prop where
  configured : Configured makeSignalEncounterConfiguration signal.coordinator
  whole : Whole signal.coordinator.state
  valid : Valid signal.trail.state
  available : signal.trail.available = true
  same : signal.coordinator.state.lastOperationId = signal.trail.state.lastOperationId

/-- What is in the store is accepted by a start. -/
def Accepted (store : Store) : Prop :=
  (boot true store .failed).signalEncounterStateReady = true

/-- The memory after these states were restored. -/
def held (store : Store) (state : CoordinatorState) (trail : SignalTrailState) : Signal where
  coordinator := { SignalEncounterCoordinator.create makeSignalEncounterConfiguration with state }
  trail := { state := trail }
  signalEncounterStateReady := true
  storageReady := true
  store

variable {store : Store} {trail : SignalTrailState}

theorem held_lockstep (whole : Whole state) (valid : Valid trail)
    (same : state.lastOperationId = trail.lastOperationId) :
    Lockstep (held store state trail) where
  configured := ⟨rfl, rfl⟩
  whole := whole
  valid := valid
  available := rfl
  same := same

variable {signal : Signal}

theorem Lockstep.eq_held (lockstep : Lockstep signal) (store : Store) :
    (held store signal.coordinator.state signal.trail.state).coordinator = signal.coordinator ∧
      (held store signal.coordinator.state signal.trail.state).trail = signal.trail := by
  rcases signal with ⟨⟨configuration, status, state⟩, ⟨trail, available⟩, _⟩
  rcases lockstep with ⟨⟨rfl, rfl⟩, _, _, rfl, _⟩
  exact ⟨rfl, rfl⟩

theorem boot_unread (store : Store) (outcome : WriteOutcome) :
    boot false store outcome = { signalEncounterStateReady := true, store } := by
  simp [boot, loadSignalEncounterState, configuration_valid, SignalEncounterCoordinator.reset,
    SignalEncounterCoordinator.create, Trail.reset]

theorem boot_nothing (nothing : findSignalState store = .nothing)
    (outcome : WriteOutcome) : boot true store outcome = held store {} {} := by
  simp [boot, loadSignalEncounterState, configuration_valid, nothing, held,
    SignalEncounterCoordinator.reset, SignalEncounterCoordinator.create, Trail.reset]

theorem boot_states {migrate : Bool}
    (found : findSignalState store = .states state trail migrate)
    (whole : Whole state) (valid : Valid trail)
    (same : state.lastOperationId = trail.lastOperationId)
    (outcome : WriteOutcome) :
    boot true store outcome =
      if migrate then (persistSignalEncounterState (held store state trail) outcome).2
      else held store state trail := by
  have restored := restore_ok (validateSignalTrailState_iff.mpr valid)
  simp [boot, loadSignalEncounterState, configuration_valid, found, whole.restored,
    restored, same, held, SignalEncounterCoordinator.reset, SignalEncounterCoordinator.create]

/-- The coordinator's part of what is found was read from fields. -/
theorem found_fields {migrate : Bool}
    (found : findSignalState store = .states state trail migrate) :
    ∃ fields, state = coordinatorOf fields := by
  unfold findSignalState at found
  split at found
  · split at found
    · contradiction
    · cases found
      exact ⟨_, rfl⟩
  · split at found
    · contradiction
    split at found
    · contradiction
    · cases found
      exact ⟨_, rfl⟩

theorem accepted_found (accepted : Accepted store) :
    findSignalState store = .nothing ∨ ∃ state trail migrate,
      findSignalState store = .states state trail migrate ∧ Whole state ∧ Valid trail ∧
        state.lastOperationId = trail.lastOperationId := by
  cases found : findSignalState store with
  | nothing => exact .inl rfl
  | invalid =>
    simp [Accepted, boot, loadSignalEncounterState, configuration_valid, found,
      SignalEncounterCoordinator.create] at accepted
  | states state trail migrate =>
    rcases found_fields found with ⟨fields, rfl⟩
    simp only [Accepted, boot, loadSignalEncounterState, found] at accepted
    split at accepted
    · simp_all [configuration_valid, SignalEncounterCoordinator.create]
    split at accepted
    · contradiction
    rename_i _ checked
    simp only [Bool.or_eq_true, bne_iff_ne, ne_eq, not_or, not_not] at checked
    refine .inr ⟨_, _, _, rfl, whole_coordinatorOf checked.1.1, ?_, checked.2⟩
    rw [← validateSignalTrailState_iff]
    by_contra invalid
    exact (restore_rejected (by simpa using invalid)).1 checked.1.2

theorem persist_kept (signal : Signal) (outcome : WriteOutcome) :
    ∃ store, (persistSignalEncounterState signal outcome).2 = { signal with store } ∧
      (store = signal.store ∨ store = { signal.store with
        v2 := some (signalRecord signal.coordinator.state signal.trail.state) }) := by
  unfold persistSignalEncounterState
  split
  · exact ⟨signal.store, rfl, .inl rfl⟩
  · dsimp only
    split
    · exact ⟨_, rfl, .inr rfl⟩
    · exact ⟨signal.store, rfl, .inl rfl⟩

variable {outcome : WriteOutcome}

theorem persist_failed (signal : Signal) (failed : ¬ outcome.lands = true) :
    (persistSignalEncounterState signal outcome).2 = signal := by
  unfold persistSignalEncounterState
  split <;> rfl

theorem persist_written (powered : signal.storageReady = true)
    (ready : signal.signalEncounterStateReady = true)
    (lockstep : Lockstep signal) (lands : outcome.lands = true) :
    (persistSignalEncounterState signal outcome).2 = { signal with
      store.v2 := some (signalRecord signal.coordinator.state signal.trail.state) } := by
  have valid := validateSignalTrailState_iff.mpr lockstep.valid
  simp [persistSignalEncounterState, powered, ready, valid, lands]

/-- What was stored is what the next start restores. -/
theorem Lockstep.reloads (lockstep : Lockstep signal)
    (legacy : Option SignalStateV1) (outcome : WriteOutcome) :
    boot true ⟨some (signalRecord signal.coordinator.state signal.trail.state), legacy⟩ outcome =
      held ⟨some (signalRecord signal.coordinator.state signal.trail.state), legacy⟩
        signal.coordinator.state signal.trail.state :=
  boot_states (find_signalRecord lockstep.whole _ _) lockstep.whole lockstep.valid
    lockstep.same outcome

/-- The signal state may be used and stored, and was accepted by the store. -/
structure Sound (signal : Signal) : Prop where
  lockstep : Lockstep signal
  ready : signal.signalEncounterStateReady = true
  accepted : Accepted signal.store

theorem persist_sound (sound : Sound signal) (outcome : WriteOutcome) :
    Sound (persistSignalEncounterState signal outcome).2 := by
  rcases persist_kept signal outcome with ⟨store, equal, same | written⟩
  all_goals rw [equal]
  · rw [same]
    exact sound
  · refine ⟨{ sound.lockstep with }, sound.ready, ?_⟩
    rw [written, Accepted, sound.lockstep.reloads]
    rfl

theorem boot_sound (accepted : Accepted store) (storageReady : Bool)
    (outcome : WriteOutcome) : Sound (boot storageReady store outcome) := by
  have blank : Whole {} ∧ Valid {} := by
    constructor <;> constructor <;> simp
  cases storageReady with
  | false =>
    exact ⟨⟨⟨rfl, rfl⟩, blank.1, blank.2, rfl, rfl⟩, rfl, accepted⟩
  | true =>
    rcases accepted_found accepted with nothing | ⟨state, trail, migrate, found⟩
    · rw [boot_nothing nothing]
      exact ⟨held_lockstep blank.1 blank.2 rfl, rfl, accepted⟩
    · rcases found with ⟨found, whole, valid, same⟩
      have sound : Sound (held store state trail) :=
        ⟨held_lockstep whole valid same, rfl, accepted⟩
      rw [boot_states found whole valid same]
      split
      · exact persist_sound sound outcome
      · exact sound

theorem rollBack_sound {advanced : Signal} (sound : Sound signal)
    (same : advanced.coordinator.configuration = signal.coordinator.configuration ∧
      advanced.coordinator.configurationStatus = signal.coordinator.configurationStatus)
    (ready : advanced.signalEncounterStateReady = true)
    (accepted : Accepted advanced.store) :
    Sound (advanced.rollBack signal.coordinator.state signal.trail.state) := by
  have lockstep := sound.lockstep
  have restored := restore_ok (validateSignalTrailState_iff.mpr lockstep.valid)
  have coordinator := lockstep.whole.restored advanced.coordinator
  refine ⟨?_, ready, accepted⟩
  constructor
  · simp only [Signal.rollBack, coordinator]
    exact ⟨same.1.trans lockstep.configured.kept, same.2.trans lockstep.configured.checked⟩
  all_goals simp only [Signal.rollBack, coordinator, restored]
  · exact lockstep.whole
  · exact lockstep.valid
  · exact lockstep.same

/-! ## Steps -/

/-- Both machines record the next operation. -/
theorem advanced_lockstep {event : LogicalOperationEvent}
    {record : EncounterRecord} {occurred : UInt8} (lockstep : Lockstep signal)
    (records : Records makeSignalEncounterConfiguration event record)
    (nonzero : event.operationId ≠ 0)
    (accepted : Trail.refusal signal.trail event occurred = none) :
    Lockstep { signal with
      coordinator.state :=
        { hasLastRecord := 1, lastOperationId := event.operationId, lastRecord := record }
      trail := (Trail.process signal.trail event occurred).2 } := by
  have trail := (process_accepted accepted).1
  have sound : Trail.Sound signal.trail :=
    lockstep.available.trans (validateSignalTrailState_iff.mpr lockstep.valid).symm
  have available : (Trail.process signal.trail event occurred).2.available = true := by
    rw [trail]
    exact lockstep.available
  constructor
  · exact ⟨lockstep.configured.kept, lockstep.configured.checked⟩
  · constructor <;> simp [nonzero, records.id, records.valid]
  · have processed : Trail.Sound (Trail.process signal.trail event occurred).2 :=
      process_sound sound
    rw [Trail.Sound, available] at processed
    exact validateSignalTrailState_iff.mp processed.symm
  · exact available
  · simp only [trail]

theorem trigger_sound (sound : Sound signal) (trigger : Trigger) :
    Sound (recordSuccessfulEncounterTrigger signal trigger) := by
  have lockstep := sound.lockstep
  unfold recordSuccessfulEncounterTrigger
  split
  · exact sound
  rename_i goes
  simp only [Bool.or_eq_true, not_or, Bool.not_eq_true', Bool.not_eq_false, beq_iff_eq] at goes
  have below : signal.coordinator.state.lastOperationId.toNat < 2 ^ 64 - 1 := by
    have bound := signal.coordinator.state.lastOperationId.toNat_lt
    have apart : signal.coordinator.state.lastOperationId.toNat ≠ 2 ^ 64 - 1 := by
      intro last
      exact goes.2 (UInt64.toNat_inj.mp last)
    omega
  have later : (nextEvent signal trigger.kind).operationId.toNat =
      signal.coordinator.state.lastOperationId.toNat + 1 := by
    simp only [nextEvent, UInt64.toNat_add, UInt64.toNat_one]
    omega
  have nonzero : (nextEvent signal trigger.kind).operationId ≠ 0 := by
    intro zero
    rw [zero] at later
    simp at later
  have fresh : Fresh signal.coordinator (nextEvent signal trigger.kind) := by
    refine ⟨nonzero, goes.1.1.2, rfl, fun _ => ?_⟩
    rw [UInt64.lt_iff_toNat_lt, later]
    exact Nat.lt_succ_self _
  have configured := lockstep.configured
  rcases process_fresh trigger.entropy (configured.kept ▸ configured.checked)
    (configured.kept ▸ configuration_valid) fresh with ⟨record, processed, records⟩
  rw [configured.kept] at records
  simp only [processed]
  split
  · exact rollBack_sound sound ⟨rfl, rfl⟩ sound.ready sound.accepted
  rename_i result replied
  split
  · exact rollBack_sound sound ⟨rfl, rfl⟩ sound.ready sound.accepted
  have taken : Trail.refusal signal.trail (nextEvent signal trigger.kind)
      record.encounterOccurred = none := by
    cases refused : Trail.refusal signal.trail (nextEvent signal trigger.kind)
        record.encounterOccurred with
    | none => rfl
    | some status =>
      rw [process_refused refused] at replied
      contradiction
  have advanced : Sound { signal with
      coordinator.state := {
        hasLastRecord := 1
        lastOperationId := (nextEvent signal trigger.kind).operationId
        lastRecord := record }
      trail := (Trail.process signal.trail (nextEvent signal trigger.kind)
        record.encounterOccurred).2 } :=
    ⟨advanced_lockstep lockstep records nonzero taken, sound.ready, sound.accepted⟩
  have persisted := persist_sound advanced trigger.outcome
  split
  · exact persisted
  · rcases persist_kept _ trigger.outcome with ⟨store, equal, _⟩
    rw [equal] at persisted ⊢
    exact rollBack_sound sound ⟨rfl, rfl⟩ persisted.ready persisted.accepted

theorem merge_sound (sound : Sound signal) (outcomeValue : UInt16)
    (outcome : WriteOutcome) :
    Sound (mergeSharedTrail signal outcomeValue outcome).2 := by
  have lockstep := sound.lockstep
  have merged : Sound { signal with
      trail := (mergeSharedMissCount signal.trail outcomeValue.toUInt8).2 } := by
    have meter : Trail.Sound signal.trail :=
      lockstep.available.trans (validateSignalTrailState_iff.mpr lockstep.valid).symm
    have kept : Trail.Sound (mergeSharedMissCount signal.trail outcomeValue.toUInt8).2 :=
      mergeSharedMissCount_sound meter
    have available := @mergeSharedMissCount_available signal.trail outcomeValue.toUInt8
    rw [lockstep.available] at available
    rw [Trail.Sound, available] at kept
    refine ⟨⟨lockstep.configured, lockstep.whole, ?_, available, ?_⟩, sound.ready,
      sound.accepted⟩
    · exact validateSignalTrailState_iff.mp kept.symm
    · exact lockstep.same.trans mergeSharedMissCount_lastOperationId.symm
  unfold mergeSharedTrail
  split
  · exact sound
  dsimp only
  split
  · have persisted := persist_sound merged outcome
    split
    · exact persisted
    · rcases persist_kept _ outcome with ⟨store, equal, _⟩
      rw [equal] at persisted ⊢
      rw [restore_ok (validateSignalTrailState_iff.mpr lockstep.valid)]
      exact ⟨⟨lockstep.configured, lockstep.whole, lockstep.valid, rfl, lockstep.same⟩,
        persisted.ready, persisted.accepted⟩
  · exact merged
  · exact merged

theorem step_sound (sound : Sound signal) (call : Call) :
    Sound (step signal call) := by
  cases call with
  | trigger trigger => exact trigger_sound sound trigger
  | merge outcomeValue outcome => exact merge_sound sound outcomeValue outcome
  | boot storageReady outcome => exact boot_sound sound.accepted storageReady outcome

/-! ## Runs -/

/-- In every run from a store that is accepted, what is written is accepted and restored. -/
def RunsAccepted : Prop :=
  ∀ (store : Store) (storageReady : Bool) (outcome : WriteOutcome) (calls : List Call),
    Accepted store →
      let signal := exec step (boot storageReady store outcome) calls
      signal.signalEncounterStateReady = true ∧
      signal.coordinator.state.lastOperationId = signal.trail.state.lastOperationId ∧
      Accepted signal.store ∧
      ∀ write, signal.storageReady = true → write.lands = true →
        let stored := (persistSignalEncounterState signal write).2.store
        stored.v2 ≠ none ∧ ∀ again,
          (boot true stored again).signalEncounterStateReady = true ∧
          (boot true stored again).coordinator = signal.coordinator ∧
          (boot true stored again).trail = signal.trail

/--
A record of the older firmware is loaded with no misses, and the record that takes its
place is loaded as the same state.
-/
def LegacyAccepted : Prop :=
  ∀ (state : CoordinatorState) (outcome : WriteOutcome), Whole state →
    let loaded := boot true ⟨none, some (legacyRecord state)⟩ outcome
    loaded.signalEncounterStateReady = true ∧ loaded.coordinator.state = state ∧
      loaded.trail.state.missCount = 0 ∧
      (outcome.lands = true → loaded.store.v2 ≠ none) ∧
      ∀ again, boot true loaded.store again = { loaded with
        store := (boot true loaded.store again).store }

theorem runs_accepted : RunsAccepted := by
  intro store storageReady outcome calls accepted
  have sound : Sound (exec step (boot storageReady store outcome) calls) :=
    exec_invariant (boot_sound accepted storageReady outcome)
      (fun _ call sound => step_sound sound call) calls
  refine ⟨sound.ready, sound.lockstep.same, sound.accepted, ?_⟩
  intro write powered lands
  rw [persist_written powered sound.ready sound.lockstep lands]
  refine ⟨by simp, fun again => ?_⟩
  rw [sound.lockstep.reloads]
  exact ⟨rfl, (sound.lockstep.eq_held _).1, (sound.lockstep.eq_held _).2⟩

theorem legacy_accepted : LegacyAccepted := by
  intro state outcome whole
  have valid := whole.legacyTrail
  have lockstep := @held_lockstep _ ⟨none, some (legacyRecord state)⟩ _ whole valid rfl
  have boots := boot_states (find_legacyRecord whole) whole valid rfl
  simp only [if_true] at boots
  rw [boots outcome]
  by_cases lands : outcome.lands = true
  · rw [persist_written rfl rfl lockstep lands]
    refine ⟨rfl, rfl, rfl, by simp, fun again => ?_⟩
    have reloads := lockstep.reloads (some (legacyRecord state)) again
    simp only [held] at reloads ⊢
    rw [reloads]
  · rw [persist_failed _ lands]
    refine ⟨rfl, rfl, rfl, fun written => absurd written lands, fun again => ?_⟩
    rcases persist_kept (held ⟨none, some (legacyRecord state)⟩ state (legacyTrail state))
      again with ⟨store, equal, _⟩
    have again := boots again
    rw [equal] at again
    simp only [held] at again ⊢
    rw [again]

theorem signal_states_accepted : RunsAccepted ∧ LegacyAccepted :=
  ⟨runs_accepted, legacy_accepted⟩

end Kitsu.Encounter.SignalState
