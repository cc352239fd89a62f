import Kitsu.Encounter.SignalState
import Kitsu.Unlocks.LedgerRuns

/-!
# The pending wild encounter

An encounter is prepared in a record of its own, committed with the signal state, and
pending until its code is in the ledger and its creature in the field guide.  While it is
pending no other trigger is looked at.  A dismissal closes the view in any case, and a
start finds the encounter in its record again.
-/

namespace Kitsu.Encounter.PendingWild

open Kitsu.Lib
open Kitsu.Lib.ByteString
open Kitsu.Lib.Run
open Kitsu.Encounter.SignalState
open Kitsu.Unlocks (CodeStore CodeRecord FormattedCode kStoreSerializedBytes kCodeCapacity)

/-! ## The catalogue -/

/-- A creature that can be met. -/
structure Creature where
  packId : UInt32
  name : Bytes
  rarity : Rarity
  packPublished : Bool
deriving DecidableEq

/-- The creatures of the catalogue, in its order. -/
def kCreatures : List Creature :=
  [ ⟨0x5cac86a3, ascii "Frog", .common, true⟩,
    ⟨0x13793dc7, ascii "Hamster", .common, true⟩,
    ⟨0x7495dbfb, ascii "Turtle", .common, true⟩,
    ⟨0x68d9554e, ascii "Rabbit", .uncommon, true⟩,
    ⟨0x5df6be74, ascii "Hedgehog", .uncommon, true⟩,
    ⟨0xe59408e0, ascii "Ferret", .uncommon, true⟩,
    ⟨0x29b4b2f7, ascii "Otter", .rare, true⟩,
    ⟨0x69276d0c, ascii "Axolotl", .rare, true⟩,
    ⟨0x2dfb0797, ascii "Chinchilla", .rare, true⟩,
    ⟨0xc163efed, ascii "Raccoon", .veryRare, true⟩,
    ⟨0x374d2540, ascii "Capybara", .veryRare, true⟩,
    ⟨0x39fc5b1a, ascii "Sugar Glider", .veryRare, true⟩,
    ⟨0x91a2de7b, ascii "Red Panda", .epic, true⟩,
    ⟨0xe04ec405, ascii "Pangolin", .epic, true⟩,
    ⟨0x8e0e1b03, ascii "Tasmanian Devil", .epic, true⟩,
    ⟨0x533b9b30, ascii "Snow Leopard", .legendary, true⟩,
    ⟨0x86f3bb5d, ascii "Okapi", .legendary, true⟩,
    ⟨0x2d1d89af, ascii "Shoebill", .legendary, true⟩,
    ⟨0xa52160c5, ascii "Cat Girl", .mythical, true⟩,
    ⟨0xf0f750bd, ascii "Rabbit Girl", .mythical, true⟩,
    ⟨0x52a1c03a, ascii "Deer Girl", .mythical, true⟩ ]

/-- A creature of the rarity, picked by the entropy. -/
def creatureForRarity (rarity : Rarity) (selectionEntropy : UInt32) : Option Creature :=
  let candidates := kCreatures.filter (·.rarity == rarity)
  if !validRarity rarity.byte || candidates.isEmpty then none
  else candidates[selectionEntropy.toNat % candidates.length]?

/-- The operation as the codes spell it. -/
def signalOperationName : MeshOperationKind → Bytes
  | .repeaterDiscovered => ascii "mesh_repeater"
  | .peerDiscovered => ascii "mesh_peer"
  | .messageSent => ascii "mesh_message_tx"
  | .messageReceived => ascii "mesh_message_rx"
  | .advertSent => ascii "mesh_advert_tx"
  | .advertReceived => ascii "mesh_advert_rx"
  | .otherCompleted => ascii "mesh_other"
  | .nearbyKitsuMet => ascii "kitsu_neighbor"
  | .count => ascii "mesh_other"

/-! ## Records and memory -/

/-- A record under its key; the size, the magic, the schema and the checksum may be wrong. -/
structure Stored (α : Type) where
  intact : Bool
  value : α
deriving DecidableEq

/-- The record of an encounter that was not settled yet. -/
structure PendingWildStateV1 where
  operationId : UInt64
  entropy : UInt32
  packId : UInt32
  active : UInt8
  source : UInt8
  rarity : UInt8
  codeOutcome : UInt8
  guaranteed : UInt8
deriving DecidableEq

/-- The record of the guide, with the last operation entered in it. -/
structure FunStateV1 where
  funDiscovery : DiscoveryState
  lastEncounterOperationId : UInt64
deriving DecidableEq

/-- A read may fail, or find no length where there is a record. -/
inductive ReadOutcome where
  | read
  | failed
  | nothing
deriving DecidableEq

/-- What a read finds: the record, a damaged one, or none. -/
def ReadOutcome.finds {α : Type} (outcome : ReadOutcome) (record : Option (Stored α)) :
    Option (Stored α) :=
  match outcome with
  | .read => record
  | .failed => record.map fun stored => { stored with intact := false }
  | .nothing => none

/-- The records of the encounter, the guide and the ledger; no bytes are no ledger. -/
structure Nvs where
  wild : Option (Stored PendingWildStateV1) := none
  fun_v1 : Option (Stored FunStateV1) := none
  codes : Bytes := []
  legacyCodes : Bytes := []
deriving DecidableEq

/-- The encounter that is shown. -/
structure WildEncounterView where
  available : Bool := false
  guaranteed : Bool := false
  codeRevealed : Bool := false
  creature : Option Creature := none
  source : MeshOperationKind := .otherCompleted
deriving DecidableEq

/-- The memory and the storage; the signal state has its records and the flag of storage. -/
structure Device where
  signal : Signal := {}
  encounterCodes : CodeStore := .empty
  encounterCodesReady : Bool := false
  funDiscovery : DiscoveryState := {}
  lastFunEncounterOperationId : UInt64 := 0
  funStateReady : Bool := false
  wildEncounterView : WildEncounterView := {}
  pendingWildOperationId : UInt64 := 0
  pendingWildEntropy : UInt32 := 0
  pendingWildCodeOutcome : CodeOutcome := .notApplicable
  pendingWildMaterialized : Bool := false
  nvs : Nvs := {}

/-- The store can be used in this boot. -/
abbrev Device.storageReady (device : Device) : Bool :=
  device.signal.storageReady

/-! ## The code ledger -/

def findByPackId (store : CodeStore) (value : UInt32) : Option CodeRecord :=
  if value = 0 then none else store.records.find? (·.packId == value)

/-- Write the codes; only a verified write counts. -/
def persistEncounterCodes (device : Device) (outcome : WriteOutcome) : Bool × Device :=
  if !device.storageReady || !device.encounterCodesReady then (false, device)
  else
    match device.encounterCodes.serialize kStoreSerializedBytes with
    | none => (false, device)
    | some bytes =>
      (outcome = .written,
        if outcome.lands then { device with nvs.codes := bytes } else device)

/-- Load the codes at boot, also under the key they had before. -/
def loadEncounterCodes (device : Device) (reading : ReadOutcome) (outcome : WriteOutcome) :
    Device :=
  let device := { device with
    encounterCodes := .empty, encounterCodesReady := device.storageReady }
  if !device.encounterCodesReady then device
  else
    let loadedLegacyKey := device.nvs.codes.isEmpty && !device.nvs.legacyCodes.isEmpty
    let bytes := if device.nvs.codes.isEmpty then device.nvs.legacyCodes else device.nvs.codes
    if bytes.isEmpty || reading = .nothing then device
    else
      let (loaded, encounterCodes) := device.encounterCodes.load bytes
      if bytes.length > kStoreSerializedBytes || reading = .failed || !loaded then
        { device with encounterCodesReady := false }
      else
        let device := { device with encounterCodes }
        if loadedLegacyKey || encounterCodes.migrationRequired then
          (persistEncounterCodes device outcome).2
        else device

/-- The rarity as the codes spell it. -/
def unlockRarity (rarity : Rarity) : UInt8 :=
  if rarity.byte ≤ Unlocks.kMythical then rarity.byte else 0

/-- What an attempt at a code is given. -/
structure Draws where
  entropies : Vector (ByteVec 10) 4
  acquiredAtEpoch : UInt32
  codes : WriteOutcome
  guide : WriteOutcome
deriving DecidableEq

/-- The record of a code for a creature. -/
def encounterRecord (creature : Creature) (source : MeshOperationKind) (draws : Draws)
    (code : FormattedCode) : CodeRecord where
  codeId := Unlocks.codeId code.bytes
  code
  packId := creature.packId
  creatureName := .front _ (creature.name.take Unlocks.kCreatureNameBytes)
  rarity := unlockRarity creature.rarity
  source := .front _ ((signalOperationName source).take Unlocks.kSourceNameBytes)
  acquiredAtEpoch := draws.acquiredAtEpoch
  redeemed := false
  installed := false

/-- The attempts that are left. -/
def addCode (device : Device) (creature : Creature) (source : MeshOperationKind)
    (draws : Draws) (encounterCodeRollback : Bytes) : List (ByteVec 10) → Bool × Device
  | [] => (false, device)
  | entropy :: later =>
    match Unlocks.generateCode entropy with
    | none => addCode device creature source draws encounterCodeRollback later
    | some code =>
      match device.encounterCodes.add (encounterRecord creature source draws code) with
      | (.duplicate, _) =>
        addCode device creature source draws encounterCodeRollback later
      | (.added, encounterCodes) =>
        let (persisted, stored) :=
          persistEncounterCodes { device with encounterCodes } draws.codes
        if persisted then (true, stored)
        else
          (false, { stored with
            encounterCodes := (stored.encounterCodes.load encounterCodeRollback).2 })
      | _ => (false, device)

/-- Enter a code for a creature, unless it has one already. -/
def addEncounterCode (device : Device) (creature : Creature) (source : MeshOperationKind)
    (draws : Draws) : Bool × Device :=
  if !creature.packPublished || !device.encounterCodesReady then (false, device)
  else if (findByPackId device.encounterCodes creature.packId).isSome then (true, device)
  else
    match device.encounterCodes.serialize kStoreSerializedBytes with
    | none => (false, device)
    | some rollback => addCode device creature source draws rollback draws.entropies.toList

/-! ## The field guide -/

/-- Write the guide, if it was loaded and is valid. -/
def persistFunState (device : Device) (outcome : WriteOutcome) : Bool × Device :=
  if !device.storageReady || !device.funStateReady ||
      !validateDiscoveryState device.funDiscovery then (false, device)
  else
    (outcome = .written,
      if outcome.lands then
        { device with
          nvs.fun_v1 := some ⟨true, device.funDiscovery, device.lastFunEncounterOperationId⟩ }
      else device)

/-- Load the guide at boot; a damaged one leaves it unready. -/
def loadFunState (device : Device) (reading : ReadOutcome) : Device :=
  let device := { device with
    funDiscovery := {}
    lastFunEncounterOperationId := 0
    funStateReady := device.storageReady }
  if !device.storageReady then device
  else
    match reading.finds device.nvs.fun_v1 with
    | none => device
    | some stored =>
      if !stored.intact || !validateDiscoveryState stored.value.funDiscovery then
        { device with funStateReady := false }
      else
        { device with
          funDiscovery := stored.value.funDiscovery
          lastFunEncounterOperationId := stored.value.lastEncounterOperationId }

/-- The part of `materializePendingWildEncounter` that is about the guide. -/
def recordInGuide (device : Device) (creature : Creature) (outcome : WriteOutcome) :
    Bool × Device :=
  if !device.funStateReady then (false, device)
  else if device.lastFunEncounterOperationId = device.pendingWildOperationId then (true, device)
  else if device.lastFunEncounterOperationId < device.pendingWildOperationId then
    match kCreatures.findIdx? (·.packId == creature.packId) with
    | none => (false, device)
    | some index =>
      match recordCreatureEncounter device.funDiscovery (.ofNat index)
          device.wildEncounterView.source.byte with
      | none => (false, device)
      | some funDiscovery =>
        let (guideReady, stored) := persistFunState { device with
          funDiscovery
          lastFunEncounterOperationId := device.pendingWildOperationId } outcome
        if guideReady then (true, stored)
        else
          (false, { stored with
            funDiscovery := device.funDiscovery
            lastFunEncounterOperationId := device.lastFunEncounterOperationId })
  else (false, device)

/-! ## Materializing and clearing -/

def Device.revealed (device : Device) (codeRevealed : Bool) : Device :=
  { device with wildEncounterView.codeRevealed := codeRevealed }

/-- Enter the encounter in the guide and, where it revealed one, its code. -/
def materializePendingWildEncounter (device : Device) (draws : Draws) : Bool × Device :=
  if device.pendingWildOperationId = 0 || !device.wildEncounterView.available then
    (false, device)
  else
    match device.wildEncounterView.creature with
    | none => (false, device)
    | some creature =>
      let wantsCode := device.pendingWildCodeOutcome = .revealed
      let (codeReady, device) :=
        if wantsCode then
          addEncounterCode device creature device.wildEncounterView.source draws
        else (true, device)
      let (guideReady, device) :=
        recordInGuide (device.revealed (wantsCode && codeReady)) creature draws.guide
      (codeReady && guideReady, device)

/-- What becomes of a removal; a record that is not seen is taken for removed. -/
structure Removal where
  seen : Bool
  outcome : WriteOutcome
deriving DecidableEq

/-- Remove the record of the pending encounter. -/
def clearPendingWildEncounter (device : Device) (removal : Removal) : Bool × Device :=
  if !device.storageReady then (false, device)
  else if device.nvs.wild.isNone || !removal.seen then (true, device)
  else
    (removal.outcome = .written,
      if removal.outcome.lands then { device with nvs.wild := none } else device)

/-- Materialize and remember whether it was done. -/
def materialized (device : Device) (draws : Draws) : Device :=
  let (pendingWildMaterialized, device) := materializePendingWildEncounter device draws
  { device with pendingWildMaterialized }

/-- What was materialized is no longer pending, once its record is gone. -/
def clearMaterialized (device : Device) (removal : Removal) : Device :=
  if !device.pendingWildMaterialized then device
  else
    let (cleared, device) := clearPendingWildEncounter device removal
    if cleared then
      { device with
        pendingWildOperationId := 0
        pendingWildEntropy := 0
        pendingWildCodeOutcome := .notApplicable
        pendingWildMaterialized := false }
    else device

/--
The player dismisses the encounter; what was not entered yet is tried once more.
-/
def dismissWildEncounter (device : Device) (removal : Removal) (draws : Draws) : Device :=
  let device :=
    if !device.pendingWildMaterialized && device.pendingWildOperationId != 0 then
      materialized device draws
    else device
  { clearMaterialized device removal with wildEncounterView.available := false }

/-! ## Starting -/

def CodeOutcome.ofByte (value : UInt8) : CodeOutcome :=
  if value = 2 then .revealed else if value = 1 then .notRevealed else .notApplicable

/-- The operation that a byte stands for. -/
def MeshOperationKind.ofByte (value : UInt8) : MeshOperationKind :=
  match value.toNat with
  | 0 => .repeaterDiscovered
  | 1 => .peerDiscovered
  | 2 => .messageSent
  | 3 => .messageReceived
  | 4 => .advertSent
  | 5 => .advertReceived
  | 6 => .otherCompleted
  | 7 => .nearbyKitsuMet
  | _ => .count

/-- A stored encounter that can be taken up again. -/
def acceptable (stored : Stored PendingWildStateV1) : Bool :=
  stored.intact && stored.value.active == 1 && stored.value.operationId != 0 &&
    stored.value.packId != 0 && stored.value.guaranteed ≤ 1 &&
    validOperationKind stored.value.source && validRarity stored.value.rarity &&
    stored.value.codeOutcome ≤ CodeOutcome.revealed.byte

/-- The encounter that a start takes from its record. -/
def resumed (device : Device) (stored : PendingWildStateV1) (creature : Creature) : Device :=
  { device with
    pendingWildOperationId := stored.operationId
    pendingWildEntropy := stored.entropy
    pendingWildCodeOutcome := CodeOutcome.ofByte stored.codeOutcome
    wildEncounterView :=
      { available := true
        guaranteed := stored.guaranteed != 0
        creature := some creature
        source := MeshOperationKind.ofByte stored.source } }

/-- Nothing is pending in the memory, and the record is looked at. -/
def resumePendingWild (device : Device) (reading : ReadOutcome) (removal : Removal)
    (draws : Draws) : Device :=
  if !device.storageReady then device
  else
    match reading.finds device.nvs.wild with
    | none => device
    | some stored =>
      if !acceptable stored || !device.signal.signalEncounterStateReady then device
      else if device.signal.coordinator.state.lastOperationId != stored.value.operationId then
        (clearPendingWildEncounter device removal).2
      else
        match creatureForRarity (.ofIndex stored.value.rarity.toNat) stored.value.entropy with
        | none => device
        | some creature =>
          if creature.packId != stored.value.packId then device
          else materialized (resumed device stored.value creature) draws

/-- No encounter is pending or shown. -/
def Device.withdrawn (device : Device) (signal : Signal) : Device :=
  { device with
    signal
    wildEncounterView := {}
    pendingWildOperationId := 0
    pendingWildEntropy := 0
    pendingWildCodeOutcome := .notApplicable
    pendingWildMaterialized := false }

/-- Take up the stored encounter at boot. -/
def loadPendingWildEncounter (device : Device) (reading : ReadOutcome) (removal : Removal)
    (draws : Draws) : Device :=
  resumePendingWild (device.withdrawn device.signal) reading removal draws

/-- What becomes of the reads and the writes of a start. -/
structure Start where
  storageReady : Bool
  signalRead : ReadOutcome
  signal : WriteOutcome
  codesRead : ReadOutcome
  codes : WriteOutcome
  guideRead : ReadOutcome
  wildRead : ReadOutcome
  removal : Removal
  draws : Draws
deriving DecidableEq

/-- Boot the coordinator with what the read finds of its record. -/
def bootSignal (store : SignalState.Store) (start : Start) : Signal :=
  match start.signalRead with
  | .read => SignalState.boot start.storageReady store start.signal
  | .failed =>
    { SignalState.boot start.storageReady {} start.signal with
      store, signalEncounterStateReady := false }
  | .nothing => { SignalState.boot start.storageReady {} start.signal with store }

/-- The memory after the other loads of a start. -/
def loaded (device : Device) (start : Start) : Device :=
  let device : Device := { signal := bootSignal device.signal.store start, nvs := device.nvs }
  let device := loadEncounterCodes device start.codesRead start.codes
  loadFunState device start.guideRead

def boot (device : Device) (start : Start) : Device :=
  loadPendingWildEncounter (loaded device start) start.wildRead start.removal start.draws

/-! ## Triggers -/

/-- A trigger, and what becomes of its writes. -/
structure Trigger where
  kind : MeshOperationKind
  entropy : UInt32
  wild : WriteOutcome
  signal : WriteOutcome
  removal : Removal
  draws : Draws
deriving DecidableEq

/-- Write the record of the encounter that is shown. -/
def persistPendingWildEncounter (device : Device) (outcome : WriteOutcome) : Bool × Device :=
  match device.wildEncounterView.creature with
  | none => (false, device)
  | some creature =>
    if !device.storageReady || device.pendingWildOperationId = 0 ||
        !device.wildEncounterView.available ||
        !validOperationKind device.wildEncounterView.source.byte ||
        !validRarity creature.rarity.byte then (false, device)
    else
      (outcome = .written,
        if outcome.lands then
          { device with
            nvs.wild := some ⟨true, {
              operationId := device.pendingWildOperationId
              entropy := device.pendingWildEntropy
              packId := creature.packId
              active := 1
              source := device.wildEncounterView.source.byte
              rarity := creature.rarity.byte
              codeOutcome := device.pendingWildCodeOutcome.byte
              guaranteed := if device.wildEncounterView.guaranteed then 1 else 0 }⟩ }
        else device)

/-- The rarity and the code of an encounter that the trail may have brought about. -/
def encounterOutcome (record : EncounterRecord) : Option (Rarity × CodeOutcome) :=
  if record.encounterOccurred != 0 then
    some (.ofIndex record.rarity.toNat, CodeOutcome.ofByte record.codeOutcome)
  else
    (rarityForRoll makeSignalEncounterConfiguration record.rarityRollBasisPoints).map
      fun rarity => (rarity,
        codeOutcomeForRoll makeSignalEncounterConfiguration rarity record.codeRollBasisPoints)

/-- The encounter is prepared, committed and, if it can be, materialized. -/
def beginEncounter (device : Device) (advanced : Signal) (event : LogicalOperationEvent)
    (record : EncounterRecord) (guaranteed : Bool) (codeOutcome : CodeOutcome)
    (creature : Creature) (trigger : Trigger) : Device :=
  let rolledBack (signal : Signal) : Signal :=
    signal.rollBack device.signal.coordinator.state device.signal.trail.state
  let (prepared, device) := persistPendingWildEncounter
    { device with
      signal := advanced
      pendingWildOperationId := event.operationId
      pendingWildEntropy := record.entropy
      pendingWildCodeOutcome := codeOutcome
      pendingWildMaterialized := false
      wildEncounterView :=
        { available := true, guaranteed, creature := some creature, source := event.kind } }
    trigger.wild
  if !prepared then device.withdrawn (rolledBack device.signal)
  else
    let (committed, signal) := persistSignalEncounterState device.signal trigger.signal
    if !committed then
      let (_, device) := clearPendingWildEncounter { device with signal } trigger.removal
      device.withdrawn (rolledBack device.signal)
    else materialized { device with signal } trigger.draws

/-- The adventure and the memory of an encounter are not looked at here. -/
def recordSuccessfulEncounterTrigger (device : Device) (trigger : Trigger) : Device :=
  let signal := device.signal
  if !signal.signalEncounterStateReady || !validOperationKind trigger.kind.byte ||
      device.pendingWildOperationId != 0 || device.wildEncounterView.available ||
      signal.coordinator.state.lastOperationId == .ofNat (2 ^ 64 - 1) then device
  else
    let event := nextEvent signal trigger.kind
    match process signal.coordinator event trigger.entropy with
    | ((_, none), _) => device
    | ((_, some record), coordinator) =>
      let (reply, trail) := Trail.process signal.trail event record.encounterOccurred
      let advanced := { signal with coordinator, trail }
      let rolledBack (signal : Signal) : Signal :=
        signal.rollBack device.signal.coordinator.state device.signal.trail.state
      match reply.2 with
      | none => { device with signal := rolledBack advanced }
      | some result =>
        if result.encounterOccurred = 0 then
          let (persisted, stored) := persistSignalEncounterState advanced trigger.signal
          { device with signal := if persisted then stored else rolledBack stored }
        else
          match encounterOutcome record with
          | none => { device with signal := rolledBack advanced }
          | some (rarity, codeOutcome) =>
            match creatureForRarity rarity record.entropy with
            | none => { device with signal := rolledBack advanced }
            | some creature =>
              beginEncounter device advanced event record (result.guaranteed != 0)
                codeOutcome creature trigger

/-! ## Calls -/

/-- The rest of the firmware may leave any signal state, any ledger and any valid guide. -/
structure Others where
  signal : Signal
  encounterCodes : CodeStore
  funDiscovery : DiscoveryState
  nvs : Nvs

/-- What happens to the device, by itself or by others. -/
inductive Call where
  | trigger (trigger : Trigger)
  | dismiss (removal : Removal) (draws : Draws)
  | boot (start : Start)
  | others (others : Others)

/-- One call; the other parts of the firmware keep the guide valid. -/
def step (device : Device) : Call → Device
  | .trigger trigger => recordSuccessfulEncounterTrigger device trigger
  | .dismiss removal draws => dismissWildEncounter device removal draws
  | .boot start => boot device start
  | .others others =>
    if !validateDiscoveryState others.funDiscovery then device
    else
      { device with
        signal := { others.signal with storageReady := device.storageReady }
        encounterCodes := others.encounterCodes
        funDiscovery := others.funDiscovery
        nvs := { others.nvs with wild := device.nvs.wild } }

/-- Before the first start, over any records but that of an encounter. -/
def unbooted (store : SignalState.Store) (nvs : Nvs) : Device where
  signal := { store }
  nvs := { nvs with wild := none }

/-! ## What is asked of a dismissal -/

/-- The next trigger is not ignored, and a start finds nothing to recover. -/
structure Cleared (device : Device) : Prop where
  pending : device.pendingWildOperationId = 0
  view : device.wildEncounterView.available = false
  record : device.nvs.wild = none

/-- Draws whose writes succeed. -/
def Draws.Written (draws : Draws) : Prop :=
  draws.codes = .written ∧ draws.guide = .written

/-- A removal that finds the record and succeeds. -/
def Removal.Written (removal : Removal) : Prop :=
  removal.seen = true ∧ removal.outcome = .written

/-- A boot whose reads and writes all succeed. -/
structure Start.Written (start : Start) : Prop where
  storage : start.storageReady = true
  reads : start.signalRead = .read ∧ start.codesRead = .read ∧ start.guideRead = .read ∧
    start.wildRead = .read
  writes : start.signal = .written ∧ start.codes = .written
  removal : start.removal.Written
  draws : start.draws.Written

/-- The entropy makes a code that the ledger does not have. -/
def Fresh (store : CodeStore) (entropy : ByteVec 10) : Prop :=
  ∃ code, Unlocks.generateCode entropy = some code ∧
    store.findById (Unlocks.codeId code.bytes) = none ∧ store.find code.bytes = none

/-- A ledger that has the pack, or has room and is offered a fresh code. -/
def Enterable (device : Device) (packId : UInt32) (draws : Draws) : Prop :=
  device.encounterCodesReady = true ∧
    ((findByPackId device.encounterCodes packId).isSome = true ∨
      device.encounterCodes.records.length < kCodeCapacity ∧
        ∃ entropy ∈ draws.entropies.toList, Fresh device.encounterCodes entropy)

/-- The guide can be written and has no later operation. -/
def GuideTakes (device : Device) (operationId : UInt64) : Prop :=
  device.funStateReady = true ∧ device.lastFunEncounterOperationId ≤ operationId

/-! ## What a materialization leaves alone -/

/-- The encounter is shown and pending as it was. -/
structure Untouched (device after : Device) : Prop where
  signal : after.signal = device.signal
  available : after.wildEncounterView.available = device.wildEncounterView.available
  creature : after.wildEncounterView.creature = device.wildEncounterView.creature
  source : after.wildEncounterView.source = device.wildEncounterView.source
  pending : after.pendingWildOperationId = device.pendingWildOperationId
  outcome : after.pendingWildCodeOutcome = device.pendingWildCodeOutcome
  wild : after.nvs.wild = device.nvs.wild
  ready : after.funStateReady = device.funStateReady ∧
    after.encounterCodesReady = device.encounterCodesReady
  guide : validateDiscoveryState device.funDiscovery = true →
    validateDiscoveryState after.funDiscovery = true

theorem Untouched.refl (device : Device) : Untouched device device where
  signal := rfl
  available := rfl
  creature := rfl
  source := rfl
  pending := rfl
  outcome := rfl
  wild := rfl
  ready := ⟨rfl, rfl⟩
  guide := id

theorem Untouched.trans {device middle after : Device} (first : Untouched device middle)
    (second : Untouched middle after) : Untouched device after where
  signal := second.signal.trans first.signal
  available := second.available.trans first.available
  creature := second.creature.trans first.creature
  source := second.source.trans first.source
  pending := second.pending.trans first.pending
  outcome := second.outcome.trans first.outcome
  wild := second.wild.trans first.wild
  ready := ⟨second.ready.1.trans first.ready.1, second.ready.2.trans first.ready.2⟩
  guide := second.guide ∘ first.guide

theorem Untouched.revealed {device after : Device} (untouched : Untouched device after)
    (codeRevealed : Bool) : Untouched device (after.revealed codeRevealed) :=
  { untouched with }

variable {device : Device} {creature : Creature} {source : MeshOperationKind} {draws : Draws}

theorem persistEncounterCodes_untouched (device : Device) (outcome : WriteOutcome) :
    Untouched device (persistEncounterCodes device outcome).2 := by
  unfold persistEncounterCodes
  split
  · exact .refl device
  split
  · exact .refl device
  · dsimp only
    split <;> exact { Untouched.refl device with }

theorem addCode_untouched (rollback : Bytes) (entropies : List (ByteVec 10)) :
    Untouched device (addCode device creature source draws rollback entropies).2 := by
  induction entropies with
  | nil => exact .refl device
  | cons entropy later induction =>
    rw [addCode]
    split
    · exact induction
    split
    · exact induction
    · rename_i encounterCodes _
      dsimp only
      have kept := persistEncounterCodes_untouched { device with encounterCodes } draws.codes
      split
      · exact { kept with }
      · exact { kept with }
    · exact .refl device

theorem addEncounterCode_untouched :
    Untouched device (addEncounterCode device creature source draws).2 := by
  unfold addEncounterCode
  split
  · exact .refl device
  split
  · exact .refl device
  split
  · exact .refl device
  · exact addCode_untouched _ _

theorem recordCreatureEncounter_valid {guide after : DiscoveryState} {index kind : UInt8}
    (recorded : recordCreatureEncounter guide index kind = some after) :
    validateDiscoveryState after = true := by
  unfold recordCreatureEncounter at recorded
  split at recorded
  · split at recorded
    · rename_i valid
      cases recorded
      exact validateDiscoveryState_metCreature valid _ _
    · contradiction
  · contradiction

theorem persistFunState_untouched (device : Device) (outcome : WriteOutcome) :
    Untouched device (persistFunState device outcome).2 := by
  unfold persistFunState
  split
  · exact .refl device
  · dsimp only
    split <;> exact { Untouched.refl device with }

theorem recordInGuide_untouched (outcome : WriteOutcome) :
    Untouched device (recordInGuide device creature outcome).2 := by
  unfold recordInGuide
  split
  · exact .refl device
  split
  · exact .refl device
  split
  · split
    · exact .refl device
    split
    · exact .refl device
    · rename_i funDiscovery recorded
      have kept := persistFunState_untouched { device with
        funDiscovery
        lastFunEncounterOperationId := device.pendingWildOperationId } outcome
      have valid := kept.guide (recordCreatureEncounter_valid recorded)
      dsimp only
      split
      · exact { kept with guide := fun _ => valid }
      · exact { kept with guide := id }
  · exact .refl device

theorem materializePendingWildEncounter_untouched (device : Device) (draws : Draws) :
    Untouched device (materializePendingWildEncounter device draws).2 := by
  unfold materializePendingWildEncounter
  split
  · exact .refl device
  split
  · exact .refl device
  · rename_i creature _
    dsimp only
    split
    · exact (addEncounterCode_untouched.revealed _).trans (recordInGuide_untouched draws.guide)
    · exact ((Untouched.refl device).revealed _).trans (recordInGuide_untouched draws.guide)

theorem materialized_untouched (device : Device) (draws : Draws) :
    Untouched device (materialized device draws) :=
  { materializePendingWildEncounter_untouched device draws with }

/-! ## The code of a creature -/

theorem creature_named (member : creature ∈ kCreatures) :
    creature.packId ≠ 0 ∧ creature.packPublished = true ∧
      validRarity creature.rarity.byte = true ∧
      Unlocks.validToken (ByteVec.front (Unlocks.kCreatureNameBytes + 1)
        (creature.name.take Unlocks.kCreatureNameBytes)).bytes
        Unlocks.kCreatureNameBytes true = true := by
  revert creature
  decide +kernel

theorem source_named (source : MeshOperationKind) :
    Unlocks.validToken (ByteVec.front (Unlocks.kSourceNameBytes + 1)
      ((signalOperationName source).take Unlocks.kSourceNameBytes)).bytes
      Unlocks.kSourceNameBytes false = true := by
  cases source <;> decide +kernel

theorem validRecord_encounterRecord (member : creature ∈ kCreatures) {entropy : ByteVec 10}
    {code : FormattedCode} (generated : Unlocks.generateCode entropy = some code) :
    Unlocks.validRecord (encounterRecord creature source draws code) = true := by
  have normalized := Unlocks.normalizeCode_generateCode generated
  have text := Unlocks.cString_normalized normalized
  have length : (Unlocks.cString code.bytes).length = Unlocks.kFormattedCodeBytes - 1 := by
    have whole := code.length_eq
    rw [text, List.length_append, List.length_singleton] at whole
    omega
  have full : Unlocks.boundedLength code.bytes (Unlocks.kFormattedCodeBytes - 1) =
      Unlocks.kFormattedCodeBytes - 1 := by
    have whole : code.bytes.take (Unlocks.kFormattedCodeBytes - 1 + 1) = code.bytes :=
      List.take_of_length_le code.length_eq.le
    rw [Unlocks.boundedLength, whole, length]
  have named : Unlocks.codeId code.bytes ≠ 0 := by
    rw [Unlocks.codeId, if_neg (not_not.mpr full)]
    dsimp only
    split
    · decide
    · rename_i nonzero
      exact fun zero => nonzero (beq_iff_eq.mpr zero)
  rcases creature_named member with ⟨identified, _, _, called⟩
  have rare : unlockRarity creature.rarity ≤ Unlocks.kMythical := by
    unfold unlockRarity
    split
    · assumption
    · decide
  simp only [Unlocks.validRecord, encounterRecord, normalized]
  simpa [named, identified, rare, called, source_named] using full

/-- What an attempt at a code does when its record is written. -/
structure CodeEntered (device : Device) (creature : Creature) (possible : Prop)
    (answer : Bool × Device) : Prop where
  iff : answer.1 = true ↔ possible
  refused : answer.1 = false → answer.2 = device
  accepted : answer.1 = true →
    (findByPackId answer.2.encounterCodes creature.packId).isSome = true
  guide : answer.2.funDiscovery = device.funDiscovery ∧
    answer.2.lastFunEncounterOperationId = device.lastFunEncounterOperationId

theorem findByPackId_concat {store other : CodeStore} {record : CodeRecord}
    (named : record.packId ≠ 0) (records : other.records = store.records ++ [record]) :
    (findByPackId other record.packId).isSome = true := by
  rw [findByPackId, if_neg named, List.find?_isSome, records]
  exact ⟨record, List.mem_append_right _ (List.mem_singleton_self _), beq_self_eq_true _⟩

theorem add_added {store : CodeStore} {record : CodeRecord}
    (valid : (!Unlocks.validRecord record) = false)
    (unknown : ((store.findById record.codeId).isSome ||
      (store.find record.code.bytes).isSome) = false)
    (room : store.records.length < kCodeCapacity) :
    ∃ other, store.add record = (.added, other) ∧
      other.records = store.records ++ [record] := by
  rw [CodeStore.add, valid, unknown, dif_pos room]
  exact ⟨_, rfl, rfl⟩

theorem persistEncounterCodes_frame (device : Device) (outcome : WriteOutcome) :
    (persistEncounterCodes device outcome).2 =
      { device with nvs.codes := (persistEncounterCodes device outcome).2.nvs.codes } := by
  unfold persistEncounterCodes
  split
  · rfl
  split
  · rfl
  · dsimp only
    split <;> rfl

theorem persistEncounterCodes_written (powered : device.storageReady = true)
    (ready : device.encounterCodesReady = true) :
    (persistEncounterCodes device .written).1 = true := by
  rcases Unlocks.serialize_some device.encounterCodes le_rfl with ⟨bytes, serialized⟩
  unfold persistEncounterCodes
  rw [powered, ready, serialized]
  rfl

theorem addCode_entered (powered : device.storageReady = true)
    (ready : device.encounterCodesReady = true) (member : creature ∈ kCreatures)
    (written : draws.codes = .written) (rollback : Bytes) (entropies : List (ByteVec 10)) :
    CodeEntered device creature
      (device.encounterCodes.records.length < kCodeCapacity ∧
        ∃ entropy ∈ entropies, Fresh device.encounterCodes entropy)
      (addCode device creature source draws rollback entropies) := by
  induction entropies with
  | nil =>
    refine ⟨⟨by rintro ⟨⟩, ?_⟩, fun _ => rfl, by rintro ⟨⟩, rfl, rfl⟩
    rintro ⟨_, _, member, _⟩
    contradiction
  | cons entropy later induction =>
    have skipped (stale : ¬ Fresh device.encounterCodes entropy) :
        CodeEntered device creature
          (device.encounterCodes.records.length < kCodeCapacity ∧
            ∃ other ∈ entropy :: later, Fresh device.encounterCodes other)
          (addCode device creature source draws rollback later) := by
      refine { induction with iff := induction.iff.trans (and_congr_right fun _ => ?_) }
      simp [stale]
    rw [addCode]
    cases generated : Unlocks.generateCode entropy with
    | none =>
      apply skipped
      rintro ⟨code, made, _⟩
      rw [generated] at made
      contradiction
    | some code =>
      have valid : (!Unlocks.validRecord (encounterRecord creature source draws code)) =
          false := by
        rw [validRecord_encounterRecord member generated]
        rfl
      dsimp only
      cases unknown : (device.encounterCodes.findById
          (encounterRecord creature source draws code).codeId).isSome ||
          (device.encounterCodes.find
            (encounterRecord creature source draws code).code.bytes).isSome with
      | true =>
        have added : device.encounterCodes.add
            (encounterRecord creature source draws code) =
              (.duplicate, device.encounterCodes) := by
          simp [CodeStore.add, valid, unknown]
        rw [added]
        apply skipped
        rintro ⟨other, made, absent, unheard⟩
        cases generated.symm.trans made
        simp only [encounterRecord, absent, unheard] at unknown
        contradiction
      | false =>
        have fresh : Fresh device.encounterCodes entropy := by
          rw [Bool.or_eq_false_iff] at unknown
          exact ⟨code, generated, Option.not_isSome_iff_eq_none.mp
            (Bool.eq_false_iff.mp unknown.1), Option.not_isSome_iff_eq_none.mp
            (Bool.eq_false_iff.mp unknown.2)⟩
        by_cases room : device.encounterCodes.records.length < kCodeCapacity
        · rcases add_added valid unknown room with ⟨encounterCodes, added, records⟩
          rw [added]
          dsimp only
          have stored : (persistEncounterCodes { device with encounterCodes }
              draws.codes).1 = true := by
            rw [written]
            exact persistEncounterCodes_written powered ready
          rw [if_pos stored]
          refine ⟨iff_of_true rfl ⟨room, entropy, List.mem_cons_self, fresh⟩, by rintro ⟨⟩,
            fun _ => ?_, ?_⟩
          · rw [persistEncounterCodes_frame]
            exact findByPackId_concat (creature_named member).1 records
          · rw [persistEncounterCodes_frame]
            exact ⟨rfl, rfl⟩
        · have added : device.encounterCodes.add
              (encounterRecord creature source draws code) =
                (.full, device.encounterCodes) := by
            simp [CodeStore.add, valid, unknown, room]
          rw [added]
          exact ⟨⟨by rintro ⟨⟩, fun possible => absurd possible.1 room⟩, fun _ => rfl, by rintro ⟨⟩,
            rfl, rfl⟩

theorem addEncounterCode_entered (powered : device.storageReady = true)
    (member : creature ∈ kCreatures) (written : draws.codes = .written) :
    CodeEntered device creature (Enterable device creature.packId draws)
      (addEncounterCode device creature source draws) := by
  unfold addEncounterCode
  rw [(creature_named member).2.1]
  cases ready : device.encounterCodesReady with
  | false =>
    refine ⟨⟨nofun, fun possible => ?_⟩, fun _ => rfl, nofun, rfl, rfl⟩
    rw [Enterable, ready] at possible
    exact possible.1
  | true =>
    rw [if_neg (by decide)]
    split
    · rename_i found
      exact ⟨iff_of_true rfl ⟨ready, .inl found⟩, nofun, fun _ => found, rfl, rfl⟩
    rename_i absent
    rcases Unlocks.serialize_some device.encounterCodes le_rfl with ⟨bytes, serialized⟩
    rw [serialized]
    have entered := @addCode_entered device creature source draws powered ready member
      written bytes draws.entropies.toList
    refine { entered with iff := entered.iff.trans ?_ }
    simp [Enterable, ready, absent]

/-! ## The guide -/

theorem creature_catalogued (member : creature ∈ kCreatures) :
    ∃ index, kCreatures.findIdx? (·.packId == creature.packId) = some index ∧
      index < kCatalogCreatureCount := by
  cases found : kCreatures.findIdx? (·.packId == creature.packId) with
  | none =>
    have absent := List.findIdx?_eq_none_iff.mp found creature member
    simp at absent
  | some index =>
    refine ⟨index, rfl, ?_⟩
    rcases List.findIdx?_eq_some_iff_getElem.mp found with ⟨inside, _⟩
    exact inside

/-- What entering in the guide answers and leaves. -/
structure Guided (device : Device) (answer : Bool × Device) : Prop where
  iff : answer.1 = true ↔ GuideTakes device device.pendingWildOperationId
  takes : GuideTakes answer.2 device.pendingWildOperationId ↔
    GuideTakes device device.pendingWildOperationId
  codes : answer.2.encounterCodes = device.encounterCodes

theorem persistFunState_written (powered : device.storageReady = true)
    (ready : device.funStateReady = true)
    (valid : validateDiscoveryState device.funDiscovery = true) :
    persistFunState device .written = (true, { device with
      nvs.fun_v1 :=
        some ⟨true, device.funDiscovery, device.lastFunEncounterOperationId⟩ }) := by
  unfold persistFunState
  rw [powered, ready, valid]
  rfl

theorem recordInGuide_guided (powered : device.storageReady = true)
    (valid : device.funStateReady = true → validateDiscoveryState device.funDiscovery = true)
    (member : creature ∈ kCreatures) :
    Guided device (recordInGuide device creature .written) := by
  unfold recordInGuide
  split
  · rename_i unready
    refine ⟨⟨nofun, fun takes => ?_⟩, .rfl, rfl⟩
    rw [takes.1] at unready
    contradiction
  rename_i ready
  have ready : device.funStateReady = true := by simpa using ready
  split
  · rename_i same
    exact ⟨iff_of_true rfl ⟨ready, UInt64.le_of_eq same⟩, .rfl, rfl⟩
  split
  · rename_i below
    have takes : GuideTakes device device.pendingWildOperationId :=
      ⟨ready, UInt64.le_of_lt below⟩
    rcases creature_catalogued member with ⟨index, found, inside⟩
    have index_byte : (UInt8.ofNat index).toNat = index := by
      exact Nat.mod_eq_of_lt (inside.trans (by decide))
    rcases recorded : recordCreatureEncounter device.funDiscovery (.ofNat index)
        device.wildEncounterView.source.byte with _ | funDiscovery
    · have catalogued : (UInt8.ofNat index).toNat < kCatalogCreatureCount := by
        rw [index_byte]
        exact inside
      rw [recordCreatureEncounter, dif_pos catalogued, if_pos (valid ready)] at recorded
      contradiction
    · have sound := recordCreatureEncounter_valid recorded
      rw [found]
      dsimp only
      rw [recorded]
      dsimp only
      have stored := @persistFunState_written { device with
        funDiscovery
        lastFunEncounterOperationId := device.pendingWildOperationId } powered ready sound
      rw [stored]
      exact ⟨iff_of_true rfl takes, iff_of_true ⟨ready, UInt64.le_refl _⟩ takes, rfl⟩
  · rename_i other above
    refine ⟨⟨nofun, fun takes => ?_⟩, .rfl, rfl⟩
    rcases UInt64.lt_or_eq_of_le takes.2 with below | same
    · exact absurd below above
    · exact absurd same other

/-! ## Materializing -/

/-- What materializing answers, and what it leaves for the next try. -/
structure Materialization (device : Device) (creature : Creature) (draws : Draws)
    (answer : Bool × Device) : Prop where
  iff : answer.1 = true ↔ GuideTakes device device.pendingWildOperationId ∧
    (device.pendingWildCodeOutcome = .revealed → Enterable device creature.packId draws)
  takes : GuideTakes answer.2 device.pendingWildOperationId ↔
    GuideTakes device device.pendingWildOperationId
  enterable : device.pendingWildCodeOutcome = .revealed → ∀ later : Draws,
    (Enterable answer.2 creature.packId later ↔
      Enterable device creature.packId draws ∨ Enterable device creature.packId later)

theorem CodeEntered.later {possible : Prop} {answer : Bool × Device}
    (entered : CodeEntered device creature possible answer)
    (possible_iff : possible ↔ Enterable device creature.packId draws)
    (ready : answer.2.encounterCodesReady = device.encounterCodesReady) (later : Draws) :
    Enterable answer.2 creature.packId later ↔
      Enterable device creature.packId draws ∨ Enterable device creature.packId later := by
  cases taken : answer.1 with
  | false =>
    have impossible : ¬ Enterable device creature.packId draws := by
      rw [← possible_iff, ← entered.iff, taken]
      nofun
    rw [entered.refused taken]
    simp [impossible]
  | true =>
    have before := possible_iff.mp (entered.iff.mp taken)
    refine iff_of_true ⟨ready.trans before.1, .inl (entered.accepted taken)⟩ (.inl before)

/-- The guide comes after the code, and neither looks at what the other did. -/
theorem Guided.materialization {middle : Device} {codeReady : Bool} {answer : Bool × Device}
    (untouched : Untouched device middle)
    (last : middle.lastFunEncounterOperationId = device.lastFunEncounterOperationId)
    (entered : codeReady = true ↔ (device.pendingWildCodeOutcome = .revealed →
      Enterable device creature.packId draws))
    (later : device.pendingWildCodeOutcome = .revealed → ∀ later : Draws,
      (Enterable middle creature.packId later ↔
        Enterable device creature.packId draws ∨ Enterable device creature.packId later))
    (guided : Guided middle answer) (kept : Untouched middle answer.2) :
    Materialization device creature draws (codeReady && answer.1, answer.2) := by
  have same (operationId : UInt64) :
      GuideTakes middle operationId ↔ GuideTakes device operationId := by
    rw [GuideTakes, untouched.ready.1, last, GuideTakes]
  constructor
  · rw [Bool.and_eq_true, entered, guided.iff, same, untouched.pending, and_comm]
  · have takes := guided.takes
    rw [untouched.pending, same] at takes
    exact takes
  · intro revealed draws
    rw [← later revealed draws, Enterable, Enterable, kept.ready.2, guided.codes]

theorem materialize_pending (powered : device.storageReady = true)
    (valid : device.funStateReady = true → validateDiscoveryState device.funDiscovery = true)
    (member : creature ∈ kCreatures) (shown : device.wildEncounterView.creature = some creature)
    (available : device.wildEncounterView.available = true)
    (pending : device.pendingWildOperationId ≠ 0) (written : draws.Written) :
    Materialization device creature draws (materializePendingWildEncounter device draws) := by
  unfold materializePendingWildEncounter
  rw [available, shown, if_neg (by simpa using pending), written.2]
  dsimp only
  by_cases wanted : device.pendingWildCodeOutcome = .revealed
  · rw [if_pos wanted]
    have entered := @addEncounterCode_entered device creature
      device.wildEncounterView.source draws powered member written.1
    have kept := @addEncounterCode_untouched device creature
      device.wildEncounterView.source draws
    generalize addEncounterCode device creature device.wildEncounterView.source draws = answer
      at entered kept
    have shown := kept.revealed (decide (device.pendingWildCodeOutcome = .revealed) && answer.1)
    apply Guided.materialization shown entered.guide.2
    · exact entered.iff.trans ⟨fun possible _ => possible, fun possible => possible wanted⟩
    · exact fun _ later => entered.later .rfl kept.ready.2 later
    · apply recordInGuide_guided
      · exact (congrArg Signal.storageReady kept.signal).trans powered
      · exact fun ready => kept.guide (valid (kept.ready.1.symm.trans ready))
      · exact member
    · exact recordInGuide_untouched _
  · rw [if_neg wanted]
    have shown := (Untouched.refl device).revealed
      (decide (device.pendingWildCodeOutcome = .revealed) && true)
    apply Guided.materialization shown rfl
    · exact ⟨fun _ revealed => absurd revealed wanted, fun _ => rfl⟩
    · exact fun revealed => absurd revealed wanted
    · exact recordInGuide_guided powered valid member
    · exact recordInGuide_untouched _

/-! ## Dismissing -/

/-- A record that `persistPendingWildEncounter` could have written. -/
structure Genuine (stored : Stored PendingWildStateV1) : Prop where
  accepted : acceptable stored = true
  creature : ∃ creature ∈ kCreatures,
    creatureForRarity (.ofIndex stored.value.rarity.toNat) stored.value.entropy =
      some creature ∧ creature.packId = stored.value.packId

/--
The invariant: records are genuine, the guide is valid, a shown creature is
known.
-/
structure Sound (device : Device) : Prop where
  wild : ∀ stored, device.nvs.wild = some stored → Genuine stored
  guide : device.funStateReady = true → validateDiscoveryState device.funDiscovery = true
  view : device.wildEncounterView.available = true →
    ∃ creature ∈ kCreatures, device.wildEncounterView.creature = some creature

/-- The view still shows the encounter, and both of its records take it. -/
def Materializes (device : Device) (draws : Draws) : Prop :=
  device.pendingWildOperationId ≠ 0 ∧ ∃ creature,
    device.wildEncounterView.available = true ∧
    device.wildEncounterView.creature = some creature ∧
    GuideTakes device device.pendingWildOperationId ∧
    (device.pendingWildCodeOutcome = .revealed → Enterable device creature.packId draws)

/-- The encounter can be dismissed without loss. -/
def Dismissible (device : Device) (draws : Draws) : Prop :=
  device.pendingWildMaterialized = true ∨ Materializes device draws ∨
    device.pendingWildOperationId = 0 ∧ device.nvs.wild = none

variable {removal : Removal}

theorem clearPendingWildEncounter_written (powered : device.storageReady = true)
    (written : removal.Written) :
    clearPendingWildEncounter device removal = (true, { device with nvs.wild := none }) := by
  unfold clearPendingWildEncounter
  rw [powered, written.1, written.2]
  cases absent : device.nvs.wild with
  | none =>
    rcases device with ⟨_, _, _, _, _, _, _, _, _, _, _, nvs⟩
    rcases nvs with ⟨wild, _, _, _⟩
    cases absent
    rfl
  | some stored => rfl

theorem clearMaterialized_cleared (powered : device.storageReady = true)
    (written : removal.Written) :
    Cleared { clearMaterialized device removal with wildEncounterView.available := false } ↔
      device.pendingWildMaterialized = true ∨
        device.pendingWildOperationId = 0 ∧ device.nvs.wild = none := by
  unfold clearMaterialized
  cases kind : device.pendingWildMaterialized with
  | true =>
    rw [if_neg (by decide), clearPendingWildEncounter_written powered written]
    exact iff_of_true ⟨rfl, rfl, rfl⟩ (.inl rfl)
  | false =>
    constructor
    · exact fun cleared => .inr ⟨cleared.pending, cleared.record⟩
    · rintro (materialized | ⟨pending, record⟩)
      · contradiction
      · exact ⟨pending, rfl, record⟩

/-- An answer of a materialization, when there is something to materialize. -/
theorem materialize_iff (sound : Sound device) (powered : device.storageReady = true)
    (written : draws.Written) :
    (materializePendingWildEncounter device draws).1 = true ↔ Materializes device draws := by
  by_cases pending : device.pendingWildOperationId = 0
  · have refused : materializePendingWildEncounter device draws = (false, device) := by
      rw [materializePendingWildEncounter, if_pos (by simp [pending])]
    rw [refused]
    exact ⟨nofun, fun possible => absurd pending possible.1⟩
  · cases available : device.wildEncounterView.available with
    | false =>
      have refused : materializePendingWildEncounter device draws = (false, device) := by
        rw [materializePendingWildEncounter, if_pos (by simp [available])]
      rw [refused]
      refine ⟨nofun, ?_⟩
      rintro ⟨_, creature, shown, _⟩
      rw [available] at shown
      contradiction
    | true =>
      rcases sound.view available with ⟨creature, member, shown⟩
      have materialization := materialize_pending powered sound.guide member shown available
        pending written
      rw [materialization.iff]
      constructor
      · exact fun possible => ⟨pending, creature, available, shown, possible⟩
      · rintro ⟨_, other, _, same, possible⟩
        cases shown.symm.trans same
        exact possible

theorem dismissWildEncounter_cleared (sound : Sound device)
    (powered : device.storageReady = true) (removed : removal.Written)
    (written : draws.Written) :
    Cleared (dismissWildEncounter device removal draws) ↔ Dismissible device draws := by
  rw [dismissWildEncounter, Dismissible]
  have kept := materialized_untouched device draws
  have materializes := materialize_iff sound powered written
  split
  · rename_i waits
    rw [Bool.and_eq_true, Bool.not_eq_true', bne_iff_ne] at waits
    rw [clearMaterialized_cleared ((congrArg Signal.storageReady kept.signal).trans powered)
      removed, kept.pending, kept.wild, waits.1]
    have answered : (materialized device draws).pendingWildMaterialized = true ↔
        Materializes device draws := materializes
    rw [answered]
    simp [waits.2]
  · rename_i settled
    rw [clearMaterialized_cleared powered removed]
    constructor
    · exact Or.imp_right .inr
    · rintro (done | possible | blank)
      · exact .inl done
      · refine .inl ?_
        by_contra waits
        exact settled (by simp [waits, possible.1])
      · exact .inr blank

/-! ## Starting again -/

/-- What the start reads decides whether the encounter of the record can be finished. -/
def Recoverable (device : Device) (start : Start) (draws : Draws) : Prop :=
  ∀ stored, device.nvs.wild = some stored →
    (loaded device start).signal.signalEncounterStateReady = true ∧
    ((loaded device start).signal.coordinator.state.lastOperationId ≠
        stored.value.operationId ∨
      GuideTakes (loaded device start) stored.value.operationId ∧
      (stored.value.codeOutcome = CodeOutcome.revealed.byte →
        Enterable (loaded device start) stored.value.packId start.draws ∨
          Enterable (loaded device start) stored.value.packId draws))

theorem loadEncounterCodes_kept (device : Device) (reading : ReadOutcome)
    (outcome : WriteOutcome) :
    (loadEncounterCodes device reading outcome).signal = device.signal ∧
      (loadEncounterCodes device reading outcome).nvs.wild = device.nvs.wild := by
  unfold loadEncounterCodes
  dsimp only
  generalize (if device.nvs.codes.isEmpty = true then device.nvs.legacyCodes
    else device.nvs.codes) = bytes
  split
  · exact ⟨rfl, rfl⟩
  split
  · exact ⟨rfl, rfl⟩
  split
  · exact ⟨rfl, rfl⟩
  split
  · rw [persistEncounterCodes_frame]
    exact ⟨rfl, rfl⟩
  · exact ⟨rfl, rfl⟩

theorem validateDiscoveryState_blank : validateDiscoveryState {} = true := by
  decide +kernel

theorem loadFunState_kept (device : Device) (reading : ReadOutcome) :
    (loadFunState device reading).signal = device.signal ∧
      (loadFunState device reading).nvs = device.nvs ∧
      validateDiscoveryState (loadFunState device reading).funDiscovery = true := by
  unfold loadFunState
  dsimp only
  split
  · exact ⟨rfl, rfl, validateDiscoveryState_blank⟩
  split
  · exact ⟨rfl, rfl, validateDiscoveryState_blank⟩
  split
  · exact ⟨rfl, rfl, validateDiscoveryState_blank⟩
  · rename_i accepted
    refine ⟨rfl, rfl, ?_⟩
    by_contra refused
    exact accepted (by simp [refused])

theorem loaded_kept (device : Device) (start : Start) :
    (loaded device start).signal = bootSignal device.signal.store start ∧
      (loaded device start).nvs.wild = device.nvs.wild ∧
      validateDiscoveryState (loaded device start).funDiscovery = true := by
  have codes := loadEncounterCodes_kept
    { signal := bootSignal device.signal.store start, nvs := device.nvs }
    start.codesRead start.codes
  have guide := loadFunState_kept (loadEncounterCodes
    { signal := bootSignal device.signal.store start, nvs := device.nvs }
    start.codesRead start.codes) start.guideRead
  rw [codes.1] at guide
  refine ⟨guide.1, ?_, guide.2.2⟩
  rw [loaded, guide.2.1]
  exact codes.2

theorem boot_powered (storageReady : Bool) (store : SignalState.Store)
    (outcome : WriteOutcome) :
    (SignalState.boot storageReady store outcome).storageReady = storageReady := by
  unfold SignalState.boot loadSignalEncounterState
  dsimp only
  split
  · rfl
  split
  · rfl
  · rfl
  split
  · rfl
  split
  · rcases persist_kept _ outcome with ⟨store, equal, _⟩
    rw [equal]
  · rfl

theorem bootSignal_powered (store : SignalState.Store) (start : Start) :
    (bootSignal store start).storageReady = start.storageReady := by
  unfold bootSignal
  split <;> exact boot_powered _ _ _

theorem creatureForRarity_some {rarity : Rarity} {entropy : UInt32}
    (selected : creatureForRarity rarity entropy = some creature) :
    creature ∈ kCreatures ∧ creature.rarity = rarity := by
  unfold creatureForRarity at selected
  dsimp only at selected
  split at selected
  · contradiction
  · have member := List.mem_of_getElem? selected
    rw [List.mem_filter, beq_iff_eq] at member
    exact member

/-- Nothing is pending after the start, and the record is as it is said here. -/
structure Idle (device : Device) (wild : Option (Stored PendingWildStateV1)) : Prop where
  pending : device.pendingWildOperationId = 0
  materialized : device.pendingWildMaterialized = false
  wild : device.nvs.wild = wild

theorem Idle.dismissible {wild : Option (Stored PendingWildStateV1)}
    (idle : Idle device wild) : Dismissible device draws ↔ wild = none := by
  rw [Dismissible, Materializes, idle.pending, idle.materialized, idle.wild]
  simp

section Resume

variable {stored : Stored PendingWildStateV1} (powered : device.storageReady = true)

include powered

theorem resume_nothing (idle : Idle device none) :
    Idle (resumePendingWild device .read removal draws) none := by
  unfold resumePendingWild
  rw [powered, idle.wild]
  exact idle

theorem resume_unread (idle : Idle device (some stored))
    (unready : device.signal.signalEncounterStateReady = false) :
    Idle (resumePendingWild device .read removal draws) (some stored) := by
  unfold resumePendingWild
  rw [powered, idle.wild, unready, ReadOutcome.finds]
  simpa using idle

theorem resume_stale (removed : removal.Written) (idle : Idle device (some stored))
    (genuine : Genuine stored) (ready : device.signal.signalEncounterStateReady = true)
    (stale : device.signal.coordinator.state.lastOperationId ≠ stored.value.operationId) :
    Idle (resumePendingWild device .read removal draws) none := by
  unfold resumePendingWild
  rw [powered, idle.wild, ready, ReadOutcome.finds]
  simp only [genuine.accepted, bne_iff_ne.mpr stale]
  rw [clearPendingWildEncounter_written powered removed]
  exact ⟨idle.pending, idle.materialized, rfl⟩

theorem resume_current (idle : Idle device (some stored)) (genuine : Genuine stored)
    (ready : device.signal.signalEncounterStateReady = true)
    (current : device.signal.coordinator.state.lastOperationId = stored.value.operationId) :
    ∃ creature ∈ kCreatures, creature.packId = stored.value.packId ∧
      resumePendingWild device .read removal draws =
        materialized (resumed device stored.value creature) draws := by
  rcases genuine.creature with ⟨creature, member, selected, pack⟩
  refine ⟨creature, member, pack, ?_⟩
  unfold resumePendingWild
  rw [powered, idle.wild, ready, ReadOutcome.finds]
  simp [genuine.accepted, current, selected, pack]

end Resume

/-! ## Runs -/

theorem Sound.untouched {after : Device} (sound : Sound device)
    (untouched : Untouched device after) : Sound after where
  wild := by
    rw [untouched.wild]
    exact sound.wild
  guide := by
    rw [untouched.ready.1]
    exact fun ready => untouched.guide (sound.guide ready)
  view := by
    rw [untouched.available, untouched.creature]
    exact sound.view

section

variable (sound : Sound device)

include sound

theorem Sound.cleared (removal : Removal) :
    Sound (clearPendingWildEncounter device removal).2 := by
  unfold clearPendingWildEncounter
  split
  · exact sound
  split
  · exact sound
  · dsimp only
    split
    · exact { sound with wild := nofun }
    · exact sound

theorem Sound.dismiss (removal : Removal) (draws : Draws) :
    Sound (dismissWildEncounter device removal draws) := by
  have clears {device : Device} (sound : Sound device) :
      Sound (clearMaterialized device removal) := by
    unfold clearMaterialized
    split
    · exact sound
    · dsimp only
      split
      · exact { sound.cleared removal with }
      · exact sound.cleared removal
  unfold dismissWildEncounter
  split
  · exact { clears (sound.untouched (materialized_untouched device draws)) with view := nofun }
  · exact { clears sound with view := nofun }

theorem Sound.withdrawn (signal : Signal) : Sound (device.withdrawn signal) :=
  { sound with view := nofun }

theorem Sound.resume (reading : ReadOutcome) (removal : Removal)
    (draws : Draws) : Sound (resumePendingWild device reading removal draws) := by
  unfold resumePendingWild
  split
  · exact sound
  split
  · exact sound
  split
  · exact sound
  split
  · exact sound.cleared removal
  split
  · exact sound
  rename_i creature selected
  split
  · exact sound
  · refine Sound.untouched ?_ (materialized_untouched _ _)
    exact { sound with view := fun _ => ⟨creature, (creatureForRarity_some selected).1, rfl⟩ }

theorem Sound.boot (start : Start) : Sound (boot device start) := by
  rcases loaded_kept device start with ⟨_, wild, guide⟩
  apply Sound.resume
  constructor
  · rw [Device.withdrawn, wild]
    exact sound.wild
  · exact fun _ => guide
  · exact nofun

/-- What is written of an encounter that the catalogue gave. -/
theorem Sound.prepared (outcome : WriteOutcome)
    (shown : device.wildEncounterView.creature = some creature)
    (selected : creatureForRarity creature.rarity device.pendingWildEntropy = some creature) :
    Sound (persistPendingWildEncounter device outcome).2 := by
  have member := (creatureForRarity_some selected).1
  unfold persistPendingWildEncounter
  rw [shown]
  dsimp only
  split
  · exact sound
  rename_i formed
  split
  · refine { sound with wild := ?_ }
    intro stored same
    cases same
    simp only [Bool.or_eq_true, not_or, Bool.not_eq_true', Bool.not_eq_false,
      decide_eq_true_eq] at formed
    constructor
    · have outcome : device.pendingWildCodeOutcome.byte ≤ CodeOutcome.revealed.byte := by
        cases device.pendingWildCodeOutcome <;> decide
      have guaranteed : (if device.wildEncounterView.guaranteed = true then (1 : UInt8) else 0) ≤
          1 := by
        split <;> decide
      simp only [acceptable, formed, outcome, guaranteed, bne_iff_ne.mpr formed.1.1.1.2,
        bne_iff_ne.mpr (creature_named member).1]
      rfl
    · refine ⟨creature, member, ?_, rfl⟩
      rw [Rarity.ofIndex_byte]
      exact selected
  · exact sound

theorem Sound.begin (advanced : Signal)
    (event : LogicalOperationEvent) {record : EncounterRecord} (guaranteed : Bool)
    (codeOutcome : CodeOutcome) (trigger : Trigger)
    (selected : creatureForRarity creature.rarity record.entropy = some creature) :
    Sound (beginEncounter device advanced event record guaranteed codeOutcome creature
      trigger) := by
  have member := (creatureForRarity_some selected).1
  have shown : Sound { device with
      signal := advanced
      pendingWildOperationId := event.operationId
      pendingWildEntropy := record.entropy
      pendingWildCodeOutcome := codeOutcome
      pendingWildMaterialized := false
      wildEncounterView :=
        { available := true, guaranteed, creature := some creature, source := event.kind } } :=
    { sound with view := fun _ => ⟨creature, member, rfl⟩ }
  have prepared := shown.prepared trigger.wild rfl selected
  unfold beginEncounter
  dsimp only
  split
  · exact prepared.withdrawn _
  split
  · apply Sound.withdrawn
    apply Sound.cleared
    exact { prepared with }
  · refine Sound.untouched ?_ (materialized_untouched _ _)
    exact { prepared with }

theorem Sound.trigger (trigger : Trigger) :
    Sound (recordSuccessfulEncounterTrigger device trigger) := by
  unfold recordSuccessfulEncounterTrigger
  dsimp only
  split
  · exact sound
  split
  · exact sound
  split
  · exact { sound with }
  split
  · exact { sound with }
  split
  · exact { sound with }
  split
  · exact { sound with }
  · rename_i creature selected
    apply Sound.begin sound
    rwa [(creatureForRarity_some selected).2]

theorem step_sound (call : Call) : Sound (step device call) := by
  cases call with
  | trigger trigger => exact sound.trigger trigger
  | dismiss removal draws => exact sound.dismiss removal draws
  | boot start => exact sound.boot start
  | others others =>
    rw [step]
    split
    · exact sound
    · rename_i valid
      exact { sound with guide := fun _ => by simpa using valid }

end

theorem unbooted_sound (store : SignalState.Store) (nvs : Nvs) : Sound (unbooted store nvs) where
  wild := nofun
  guide := nofun
  view := nofun

/-! ## Recovering -/

theorem CodeOutcome.ofByte_revealed (value : UInt8) :
    CodeOutcome.ofByte value = .revealed ↔ value = CodeOutcome.revealed.byte := by
  unfold CodeOutcome.ofByte
  split
  · rename_i two
    simp [two, CodeOutcome.byte]
  · rename_i other
    split
    · rename_i one
      subst one
      decide
    · simpa [CodeOutcome.byte] using other

/-- Two materializations are tried, by the start and by the dismissal. -/
theorem resumed_dismissible {stored : PendingWildStateV1} {first : Draws}
    (powered : device.storageReady = true)
    (valid : validateDiscoveryState device.funDiscovery = true) (member : creature ∈ kCreatures)
    (pending : stored.operationId ≠ 0) (written : first.Written) :
    Dismissible (materialized (resumed device stored creature) first) draws ↔
      GuideTakes device stored.operationId ∧
      (stored.codeOutcome = CodeOutcome.revealed.byte →
        Enterable device creature.packId first ∨ Enterable device creature.packId draws) := by
  have materialization := @materialize_pending (resumed device stored creature) creature first
    powered (fun _ => valid) member rfl rfl pending written
  have kept := materialized_untouched (resumed device stored creature) first
  have answered : (materialized (resumed device stored creature) first).pendingWildMaterialized =
      (materializePendingWildEncounter (resumed device stored creature) first).1 := rfl
  have guide : GuideTakes (materialized (resumed device stored creature) first)
      stored.operationId ↔ GuideTakes device stored.operationId := materialization.takes
  have enterable : stored.codeOutcome = CodeOutcome.revealed.byte →
      (Enterable (materialized (resumed device stored creature) first) creature.packId draws ↔
        Enterable device creature.packId first ∨ Enterable device creature.packId draws) :=
    fun revealed => materialization.enterable ((CodeOutcome.ofByte_revealed _).mpr revealed) draws
  have revealed := CodeOutcome.ofByte_revealed stored.codeOutcome
  have again : Materializes (materialized (resumed device stored creature) first) draws ↔
      GuideTakes device stored.operationId ∧
      (stored.codeOutcome = CodeOutcome.revealed.byte →
        Enterable device creature.packId first ∨ Enterable device creature.packId draws) := by
    rw [Materializes, kept.pending, kept.available, kept.creature, kept.outcome]
    constructor
    · rintro ⟨_, other, _, same, takes, entered⟩
      cases same
      exact ⟨guide.mp takes,
        fun reveals => (enterable reveals).mp (entered (revealed.mpr reveals))⟩
    · rintro ⟨takes, entered⟩
      exact ⟨pending, creature, rfl, rfl, guide.mpr takes,
        fun reveals => (enterable (revealed.mp reveals)).mpr (entered (revealed.mp reveals))⟩
  rw [Dismissible, answered, materialization.iff, again]
  constructor
  · rintro (⟨takes, entered⟩ | possible | ⟨none, _⟩)
    · exact ⟨takes, fun reveals => .inl (entered (revealed.mpr reveals))⟩
    · exact possible
    · rw [kept.pending] at none
      exact absurd none pending
  · exact fun possible => .inr (.inl possible)

theorem resume_signal (device : Device) (reading : ReadOutcome) (removal : Removal)
    (draws : Draws) :
    (resumePendingWild device reading removal draws).signal = device.signal := by
  unfold resumePendingWild
  split
  · rfl
  split
  · rfl
  split
  · rfl
  split
  · unfold clearPendingWildEncounter
    split
    · rfl
    split
    · rfl
    · dsimp only
      split <;> rfl
  split
  · rfl
  split
  · rfl
  · exact (materialized_untouched _ _).signal

theorem boot_recoverable (sound : Sound device) {start : Start} (started : start.Written)
    (removed : removal.Written) (written : draws.Written) :
    Cleared (dismissWildEncounter (boot device start) removal draws) ↔
      Recoverable device start draws := by
  rcases loaded_kept device start with ⟨signal, wild, guide⟩
  have powered : ((loaded device start).withdrawn
      (loaded device start).signal).storageReady = true := by
    show (loaded device start).signal.storageReady = true
    rw [signal, bootSignal_powered]
    exact started.storage
  have booted : (boot device start).storageReady = true :=
    (congrArg Signal.storageReady (resume_signal _ _ _ _)).trans powered
  rw [dismissWildEncounter_cleared (sound.boot start) booted removed written]
  have idle : Idle ((loaded device start).withdrawn (loaded device start).signal)
      device.nvs.wild := ⟨rfl, rfl, wild⟩
  rw [boot, loadPendingWildEncounter, started.reads.2.2.2]
  cases record : device.nvs.wild with
  | none =>
    rw [record] at idle
    rw [(resume_nothing powered idle).dismissible]
    refine iff_of_true rfl fun stored same => ?_
    rw [record] at same
    contradiction
  | some stored =>
    rw [record] at idle
    have genuine := sound.wild stored record
    have only : Recoverable device start draws ↔ _ :=
      ⟨fun recoverable => recoverable stored record, fun possible other same => by
        cases record.symm.trans same
        exact possible⟩
    rw [only]
    cases ready : (loaded device start).signal.signalEncounterStateReady with
    | false =>
      rw [(resume_unread powered idle ready).dismissible]
      exact iff_of_false nofun fun possible => absurd possible.1 nofun
    | true =>
      by_cases current : (loaded device start).signal.coordinator.state.lastOperationId =
          stored.value.operationId
      · rcases resume_current powered idle genuine ready current with
          ⟨creature, member, pack, resumes⟩
        have pending : stored.value.operationId ≠ 0 := by
          have accepted := genuine.accepted
          intro zero
          simp [acceptable, zero] at accepted
        rw [resumes, resumed_dismissible powered guide member pending started.draws, pack]
        simp only [ne_eq, current, not_true_eq_false, false_or, true_and]
        exact .rfl
      · rw [(resume_stale powered started.removal idle genuine ready current).dismissible]
        exact iff_of_true rfl ⟨rfl, .inl current⟩

/-- After every run, and from whatever the other records held before it. -/
theorem pending_wild_cleared (store : SignalState.Store) (nvs : Nvs) (calls : List Call) :
    let device := exec step (unbooted store nvs) calls
    (∀ removal draws, device.storageReady = true → removal.Written → draws.Written →
      (Cleared (dismissWildEncounter device removal draws) ↔ Dismissible device draws)) ∧
    ∀ start removal draws, start.Written → removal.Written → draws.Written →
      (Cleared (dismissWildEncounter (boot device start) removal draws) ↔
        Recoverable device start draws) := by
  have sound : Sound (exec step (unbooted store nvs) calls) :=
    exec_invariant (unbooted_sound store nvs) (fun _ call sound => step_sound sound call) calls
  constructor
  · intro removal draws powered removed written
    exact dismissWildEncounter_cleared sound powered removed written
  · intro start removal draws started removed written
    exact boot_recoverable sound started removed written

/-! ## A damaged guide -/

/-- Draws whose writes succeed. -/
def allWritten : Draws where
  entropies := .replicate 4 (.zero 10)
  acquiredAtEpoch := 0
  codes := .written
  guide := .written

def removes : Removal where
  seen := true
  outcome := .written

/-- A boot at which everything succeeds. -/
def powerOn : Start where
  storageReady := true
  signalRead := .read
  signal := .written
  codesRead := .read
  codes := .written
  guideRead := .read
  wildRead := .read
  removal := removes
  draws := allWritten

/-- A repeater, which always brings an encounter. -/
def repeaterFound : Trigger where
  kind := .repeaterDiscovered
  entropy := 0
  wild := .written
  signal := .written
  removal := removes
  draws := allWritten

/-- The guide was damaged before the start, and the encounter is dismissed. -/
def wedged : Device :=
  dismissWildEncounter
    (exec step (unbooted {} { fun_v1 := some ⟨false, {}, 0⟩ })
      [.boot powerOn, .trigger repeaterFound]) removes allWritten

/-- Neither that dismissal nor one after a start helps, and triggers are ignored after both. -/
theorem pending_wild_wedged :
    powerOn.Written ∧ removes.Written ∧ allWritten.Written ∧
      wedged.pendingWildOperationId = 1 ∧
      (dismissWildEncounter (boot wedged powerOn) removes
        allWritten).pendingWildOperationId = 1 ∧
      ∀ trigger, recordSuccessfulEncounterTrigger wedged trigger = wedged := by
  have pending : wedged.pendingWildOperationId = 1 := by decide +kernel
  refine ⟨⟨rfl, ⟨rfl, rfl, rfl, rfl⟩, ⟨rfl, rfl⟩, ⟨rfl, rfl⟩, rfl, rfl⟩, ⟨rfl, rfl⟩,
    ⟨rfl, rfl⟩, pending, by decide +kernel, fun trigger => ?_⟩
  exact if_pos (by simp [pending])

end Kitsu.Encounter.PendingWild
