import Kitsu.Ble.ReplayCache
import Kitsu.Lib.Crash

/-!
# Applying an action from the phone

`applyAction` of `main.cpp` with the durable copy of the replay cache.  A fresh
command is reserved in the stored blob before its side effect is invoked and
marked afterwards; a message or advert that the mesh layer refuses is taken
back.  Every choice outside of this code is part of the circumstances of a
request: the state of the other components, the results of the storage and of
the mesh layer, and the device call in which the power fails.
-/

namespace Kitsu.Ble.ApplyAction

open Kitsu.Lib.ByteString
open Kitsu.Lib.Crash
open Kitsu.Ble.Action
open Kitsu.Ble.Permissions
open Kitsu.Ble.ReplayCache

/-! ## Texts -/

/-- What the mesh transport answers. -/
inductive TransportStatus where
  | ok
  | disabled
  | noProfile
  | invalidSettings
  | invalidIdentity
  | identityStorageFailed
  | radioInitFailed
  | timeUnset
  | invalidTime
  | locationUnavailable
  | txLocked
  | packetPoolFull
  | outputTooSmall
  | invalidArgument
  | contactNotFound
  | contactNotClient
  | contactTableFull
  | channelNotFound
  | textTooLong
  | sendBusy
  | messagingStorageFailed
  | advertiseCooldown
deriving DecidableEq, Repr

/-- The name of a status in the log and in a receipt. -/
def transportStatusName : TransportStatus → String
  | .ok => "ok"
  | .disabled => "disabled"
  | .noProfile => "no_profile"
  | .invalidSettings => "invalid_settings"
  | .invalidIdentity => "invalid_identity"
  | .identityStorageFailed => "identity_storage_failed"
  | .radioInitFailed => "radio_init_failed"
  | .timeUnset => "time_unset"
  | .invalidTime => "invalid_time"
  | .locationUnavailable => "location_unavailable"
  | .txLocked => "tx_locked"
  | .packetPoolFull => "packet_pool_full"
  | .outputTooSmall => "output_too_small"
  | .invalidArgument => "invalid_argument"
  | .contactNotFound => "contact_not_found"
  | .contactNotClient => "contact_not_client"
  | .contactTableFull => "contact_table_full"
  | .channelNotFound => "channel_not_found"
  | .textTooLong => "text_too_long"
  | .sendBusy => "send_busy"
  | .messagingStorageFailed => "messaging_storage_failed"
  | .advertiseCooldown => "advertise_cooldown"

/-- The name of a status for the phone, where it has one of its own. -/
def bleMeshErrorName : TransportStatus → String
  | .disabled => "mesh_disabled"
  | .identityStorageFailed => "mesh_identity_unavailable"
  | .radioInitFailed => "mesh_radio_unavailable"
  | .timeUnset => "time_unset"
  | .txLocked => "tx_policy_locked"
  | .packetPoolFull => "queue_full"
  | .contactNotFound => "unknown_contact"
  | .contactNotClient => "contact_not_client"
  | .contactTableFull => "contact_full"
  | .channelNotFound => "unknown_channel"
  | .textTooLong => "text_too_long"
  | .sendBusy => "send_busy"
  | .messagingStorageFailed => "storage_failed"
  | .invalidArgument => "invalid_argument"
  | status => transportStatusName status

/-- Why a command was not accepted. -/
inductive ActionError where
  | companionUnavailable
  | busyGame
  | radioUnavailable
  | idempotencyUnavailable
  | idempotencyBusy
  | timeUnset
  | actionExpired
  | invalidExpiry
  | actionIdConflict
  | actionResultUnknown
  | meshIdentityUnavailable
  | meshDisabled
  | meshRadioUnavailable
  | mesh (status : TransportStatus)
deriving DecidableEq, Repr

/-- The error as the receipt spells it. -/
def ActionError.text : ActionError → String
  | .companionUnavailable => "companion_unavailable"
  | .busyGame => "busy_game"
  | .radioUnavailable => "radio_unavailable"
  | .idempotencyUnavailable => "idempotency_unavailable"
  | .idempotencyBusy => "idempotency_busy"
  | .timeUnset => "time_unset"
  | .actionExpired => "action_expired"
  | .invalidExpiry => "invalid_expiry"
  | .actionIdConflict => "action_id_conflict"
  | .actionResultUnknown => "action_result_unknown"
  | .meshIdentityUnavailable => "mesh_identity_unavailable"
  | .meshDisabled => "mesh_disabled"
  | .meshRadioUnavailable => "mesh_radio_unavailable"
  | .mesh status => bleMeshErrorName status

/-- What became of an action that was taken. -/
inductive ReceiptState where
  | queued
  | applied
deriving DecidableEq, Repr

/-- The answer to an action. -/
inductive Receipt where
  | accepted (state : ReceiptState)
  | rejected (error : ActionError)
deriving DecidableEq, Repr

/-- The state in the receipt of an accepted command. -/
def acceptedState : BleActionKind → ReceiptState
  | .sendMessage | .advertiseOnce => .queued
  | .pet | .feed | .play | .listenOnce => .applied

/-! ## The device -/

/-- What happens to the cache and because of it. -/
inductive Event where
  | loaded
  | reservationFailed
  | executed (command : BleActionCommand) (now : Nat)

/--
The key `ble_act_v3` of the preferences, the cache and its scratch buffer, and
what has happened so far.
-/
structure Device where
  storageReady : Bool
  stored : Option Bytes
  cache : Blob
  ready : Bool
  scratch : Bytes
  log : List Event

/-- What invoking the side effect does. -/
inductive Effect where
  | completed (applied : Bool) (status : TransportStatus)
  | cut (taken : Bool)
deriving DecidableEq, Repr

/--
What the device finds when an action arrives, and what becomes of its writes.
-/
structure Circumstances where
  companionValid : Bool
  gameActive : Bool
  radioReady : Bool
  /-- The mesh epoch, if the mesh time is valid. -/
  epoch : Option Nat
  identityReady : Bool
  meshEnabled : Bool
  meshActive : Bool
  advertiseReadiness : TransportStatus
  reservation : PutOutcome
  effect : Effect
  rollback : PutOutcome
  completion : PutOutcome

/-- Load the cache at boot; a record that is not accepted leaves it unready. -/
def loadActionReplay (device : Device) : Device :=
  let device := { device with ready := false, cache := reset }
  if !device.storageReady then device
  else
    match device.stored with
    | none => { device with ready := true }
    | some bytes =>
      if bytes.length ≠ blobBytes then device
      else
        match load bytes with
        | (cache, accepted) =>
          { device with
            cache
            ready := accepted
            scratch := List.replicate blobBytes 0 }

/-- The stored copy becomes the cache. -/
def Device.flushed (device : Device) : Device :=
  { device with stored := some device.cache.serialized }

/-- Write the cache, if it was loaded. -/
def persistActionReplay (outcome : PutOutcome) : Prog Device Bool := do
  let device ← Prog.get
  if !device.storageReady || !device.ready then pure false
  else Prog.put Device.flushed outcome

/-- The buffer and the cache have the same size. -/
def snapshotActionReplay : Prog Device Unit :=
  Prog.modify fun device =>
    { device with scratch := device.cache.serialized }

/-- Wipe the buffer that the snapshot was taken in. -/
def clearScratch : Prog Device Unit :=
  Prog.modify fun device =>
    { device with scratch := List.replicate blobBytes 0 }

/-- Load the snapshot into the cache. -/
def loadSnapshot : Prog Device Bool :=
  fun device =>
    .done (load device.scratch).2
      { device with cache := (load device.scratch).1 }

/-- Take the cache back in memory only. -/
def restoreActionReplaySnapshotInMemory : Prog Device Bool := do
  let loaded ← loadSnapshot
  clearScratch
  pure loaded

/-- Take the cache back, in memory and in the record. -/
def restoreActionReplaySnapshot (outcome : PutOutcome) :
    Prog Device Bool := do
  let loaded ← loadSnapshot
  clearScratch
  if loaded then persistActionReplay outcome else pure false

/-- The cache is not used until the next boot. -/
def disable : Prog Device Unit :=
  Prog.modify fun device => { device with ready := false }

/-- Log what was done. -/
def record (event : Event) : Prog Device Unit :=
  Prog.modify fun device => { device with log := device.log ++ [event] }

/-! ## The action -/

/-- The actions that the companion itself performs. -/
def careAction (kind : BleActionKind) : Bool :=
  kind == .pet || kind == .feed || kind == .play || kind == .listenOnce

/-- The checks in front of the replay cache; every kind is available. -/
def precondition (command : BleActionCommand)
    (circumstances : Circumstances) : Option ActionError :=
  if careAction command.kind && !circumstances.companionValid then
    some .companionUnavailable
  else if command.kind = .listenOnce then
    if circumstances.gameActive then some .busyGame
    else if !circumstances.radioReady then some .radioUnavailable
    else none
  else none

/-- What stands in the way of an advert, in the order it is asked. -/
def bleAdvertiseReadinessError (device : Device)
    (circumstances : Circumstances) : Option ActionError :=
  if !device.ready then some .idempotencyUnavailable
  else if !circumstances.companionValid then some .companionUnavailable
  else if !circumstances.identityReady then some .meshIdentityUnavailable
  else if !circumstances.meshEnabled then some .meshDisabled
  else if !circumstances.meshActive then some .meshRadioUnavailable
  else if circumstances.advertiseReadiness = .ok then none
  else some (.mesh circumstances.advertiseReadiness)

/-- The time that an action is measured by; zero is unknown. -/
def Circumstances.actionNow (circumstances : Circumstances) : Nat :=
  circumstances.epoch.getD 0

/--
Invoke the side effect.  The care functions report whether they applied; the
mesh layer refuses a message or an advert by its status.
-/
def invoke (command : BleActionCommand) (now : Nat) (effect : Effect) :
    Prog Device (Except TransportStatus Bool) :=
  fun device =>
    let executed :=
      { device with log := device.log ++ [.executed command now] }
    match effect with
    | .cut taken => .cut (if taken then executed else device)
    | .completed applied status =>
      match command.kind with
      | .pet | .feed | .play | .listenOnce =>
        .done (.ok applied) executed
      | .advertiseOnce | .sendMessage =>
        if status = .ok then .done (.ok true) executed
        else .done (.error status) device

section Commands

variable (sha256 : Bytes → Option (ByteVec 32))

/-- Reserve a record of the cache for a command. -/
def remember (command : BleActionCommand) (now : Nat) :
    Prog Device Bool :=
  fun device =>
    .done (device.cache.remember sha256 command now).2
      { device with cache := (device.cache.remember sha256 command now).1 }

/-- Mark the record of a command as applied. -/
def markApplied (command : BleActionCommand) : Prog Device Bool :=
  fun device =>
    .done (device.cache.markApplied sha256 command).2
      { device with cache := (device.cache.markApplied sha256 command).1 }

/-- The applied mark, behind the side effect. -/
def complete (command : BleActionCommand)
    (circumstances : Circumstances) : Prog Device Receipt := do
  snapshotActionReplay
  let marked ← markApplied sha256 command
  let persisted ←
    if marked then persistActionReplay circumstances.completion
    else pure false
  if persisted then
    clearScratch
    pure (.accepted (acceptedState command.kind))
  else
    let _ ← loadSnapshot
    clearScratch
    pure (.rejected .actionResultUnknown)

/-- The mesh layer refused, so the reservation is taken back. -/
def takeBack (status : TransportStatus)
    (circumstances : Circumstances) : Prog Device Receipt := do
  let restored ← restoreActionReplaySnapshot circumstances.rollback
  if restored then pure (.rejected (.mesh status))
  else
    disable
    pure (.rejected .actionResultUnknown)

/-- The side effect, behind its reservation. -/
def execute (command : BleActionCommand)
    (circumstances : Circumstances) : Prog Device Receipt := do
  let result ←
    invoke command circumstances.actionNow circumstances.effect
  match result with
  | .error status => takeBack status circumstances
  | .ok false =>
    clearScratch
    pure (.rejected .actionResultUnknown)
  | .ok true => complete sha256 command circumstances

/-- The cache has no room for a fresh command. -/
def reject : Prog Device Receipt := do
  let restored ← restoreActionReplaySnapshotInMemory
  let device ← Prog.get
  if !restored || !device.ready then
    disable
    pure (.rejected .idempotencyUnavailable)
  else pure (.rejected .idempotencyBusy)

/-- The reservation could not be stored. -/
def abandon : Prog Device Receipt := do
  let _ ← restoreActionReplaySnapshotInMemory
  disable
  record .reservationFailed
  pure (.rejected .idempotencyUnavailable)

/-- The reservation of a fresh command. -/
def reserve (command : BleActionCommand)
    (circumstances : Circumstances) : Prog Device Receipt := do
  snapshotActionReplay
  let remembered ← remember sha256 command circumstances.actionNow
  if !remembered then reject
  else
    let persisted ← persistActionReplay circumstances.reservation
    if !persisted then abandon
    else execute sha256 command circumstances

/--
Reserve, persist, execute and mark a command; a known one is not executed again.
-/
def applyCommand (command : BleActionCommand)
    (circumstances : Circumstances) : Prog Device Receipt := do
  match precondition command circumstances with
  | some error => pure (.rejected error)
  | none =>
    let device ← Prog.get
    if !device.ready then pure (.rejected .idempotencyUnavailable)
    else
      match device.cache.inspect sha256 command
        circumstances.actionNow with
      | .timeUnavailable => pure (.rejected .timeUnset)
      | .expired => pure (.rejected .actionExpired)
      | .invalidExpiry => pure (.rejected .invalidExpiry)
      | .conflict => pure (.rejected .actionIdConflict)
      | .duplicateApplied =>
        pure (.accepted (acceptedState command.kind))
      | .duplicateIndeterminate =>
        pure (.rejected .actionResultUnknown)
      | .fresh =>
        match (if command.kind = .advertiseOnce then
            bleAdvertiseReadinessError device circumstances
          else none) with
        | some error => pure (.rejected error)
        | none => reserve sha256 command circumstances

/-- What the phone is sent. -/
inductive Reply where
  | undecoded (error : BleActionDecodeError)
  | receipt (command : BleActionCommand) (receipt : Receipt)

/-- Decode a payload and apply what it stands for. -/
def applyAction (payload : Bytes) (circumstances : Circumstances) :
    Prog Device Reply :=
  match decodeBleActionCommand payload with
  | .error error => pure (.undecoded error)
  | .ok command => do
      let receipt ← applyCommand sha256 command circumstances
      pure (.receipt command receipt)

/-! ## Runs -/

/-- A device whose power may be off. -/
structure Machine where
  device : Device
  running : Bool

/-- What happens to the device: a request of the phone, or a boot. -/
inductive Input where
  | request (payload : Bytes) (circumstances : Circumstances)
  | boot (storageReady : Bool)

/-- The machine after a run of its program. -/
def Machine.afterwards {α : Type} : Outcome Device α → Machine
  | .done _ device => ⟨device, true⟩
  | .cut device => ⟨device, false⟩

/-- One input; without a boot a device that was cut does nothing. -/
def step (machine : Machine) : Input → Machine
  | .request payload circumstances =>
    if !machine.running then machine
    else
      .afterwards
        (applyAction sha256 payload circumstances machine.device)
  | .boot storageReady =>
    let device := loadActionReplay { machine.device with storageReady }
    ⟨{ device with log := device.log ++ [.loaded] }, true⟩

/-- What the phone is sent, unless the power fails. -/
def Machine.reply (machine : Machine) (payload : Bytes)
    (circumstances : Circumstances) : Option Reply :=
  if !machine.running then none
  else (applyAction sha256 payload circumstances machine.device).result?

end Commands

/-- A device that has never stored a replay cache, before its first boot. -/
def factory : Machine where
  device :=
    { storageReady := false
      stored := none
      cache := reset
      ready := false
      scratch := List.replicate blobBytes 0
      log := [] }
  running := false

/-- The cache that the next boot restores. -/
def Device.durable (device : Device) : Blob :=
  (loadActionReplay { device with storageReady := true }).cache

/-- The mesh epoch a request meets. -/
def Input.time : Input → Option Nat
  | .request _ circumstances => circumstances.epoch
  | .boot _ => none

def Input.command : Input → Option BleActionCommand
  | .request payload _ => (decodeBleActionCommand payload).toOption
  | .boot _ => none

end Kitsu.Ble.ApplyAction
