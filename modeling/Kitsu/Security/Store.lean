import Kitsu.Lib.Crash
import Kitsu.Lib.SlotTable
import Kitsu.Security.Record

/-!
# The controller store

`KitsuDeviceSecurity` as a program over its members, the two storage slots and
the outcomes its environment has in store: what each storage call will do and
what the random source will return.  A storage call completes, fails or is cut
by a power loss; a call that changes a slot and does not complete leaves the
slot old, new, empty or unreadable.

`hardwareId` and the platform are parameters.  The platform's answers are
functions of their arguments, so the wrapping key of a board is always the same.
-/

namespace Kitsu.Security.Store

open Kitsu.Lib.ByteString
open Kitsu.Lib.Crash
open Kitsu.Lib.TwoSlot
open Kitsu.Ble.Permissions
open Kitsu.Security.Record

/-- What the store answers. -/
inductive SecurityResult where
  | ok
  | okReflashable
  | notBegun
  | invalidArgument
  | wrappingRootUnavailable
  | storageReadFailed
  | storageWriteFailed
  | readbackFailed
  | corruptStorage
  | cryptoFailed
  | authorizationRequired
  | controllerNotProvisioned
  | controllerTableFull
deriving DecidableEq, Repr

/-- The members of the store. -/
structure Ram where
  material : Material
  wrappingKey : Secret
  lastResult : SecurityResult
  begun : Bool
  controllerCount : Nat
  activeSlot : Option Slot
  generation : UInt32

/-- The members after `clear()`. -/
def Ram.cleared : Ram where
  material := .zeroed
  wrappingKey := .zero _
  lastResult := .notBegun
  begun := false
  controllerCount := 0
  activeSlot := none
  generation := 0

/-- What an unfinished change leaves in its slot. -/
inductive Residue where
  | kept
  | written
  | emptied
  | torn (blob : Bytes)

/-- What a storage call does. -/
inductive StorageOutcome where
  | complete
  | failed (residue : Residue)
  | cut (residue : Residue)

/-- A store, its slots and the outcomes still to come. -/
structure Machine where
  ram : Ram
  slots : Slot → Bytes
  storage : List StorageOutcome
  random : List (Option (Nat → UInt8))

variable (platform : Platform)

/-! ## The environment -/

/--
The bytes an unfinished change leaves.  A torn blob does not open and is no
longer than a slot; any other choice of the environment counts as an empty slot.
-/
def Residue.leaves (key : Secret) (old new : Bytes) : Residue → Bytes
  | .kept => old
  | .written => new
  | .emptied => []
  | .torn blob =>
    if (validateBlob platform key blob).isSome ∨
        kSecurityBlobCapacity < blob.length then []
    else blob

/-- The outcome of the next storage call; past the list, calls complete. -/
def nextOutcome : List StorageOutcome → StorageOutcome
  | [] => .complete
  | outcome :: _ => outcome

/-- What the random source returns next. -/
def nextSource : List (Option (Nat → UInt8)) → Option (Nat → UInt8)
  | [] => some fun _ => 0
  | source :: _ => source

/-- The machine after a storage call that left `blob` in `slot`. -/
def Machine.changed (machine : Machine) (slot : Slot) (blob : Bytes) :
    Machine :=
  { machine with
    slots := Function.update machine.slots slot blob
    storage := machine.storage.tail }

/-- `readSlot`: an empty slot reads as no bytes, an oversized one fails. -/
def readSlot (slot : Slot) : Prog Machine (Option Bytes) :=
  fun machine =>
    let after := { machine with storage := machine.storage.tail }
    match nextOutcome machine.storage with
    | .complete =>
      if (machine.slots slot).length ≤ kSecurityBlobCapacity then
        .done (some (machine.slots slot)) after
      else .done none after
    | .failed _ => .done none after
    | .cut _ => .cut after

/-- Replace the contents of a slot. -/
def changeSlot (slot : Slot) (blob : Bytes) : Prog Machine Bool :=
  fun machine =>
    let left (residue : Residue) :=
      residue.leaves platform machine.ram.wrappingKey
        (machine.slots slot) blob
    match nextOutcome machine.storage with
    | .complete => .done true (machine.changed slot blob)
    | .failed residue => .done false (machine.changed slot (left residue))
    | .cut residue => .cut (machine.changed slot (left residue))

abbrev writeSlot (slot : Slot) (blob : Bytes) : Prog Machine Bool :=
  changeSlot platform slot blob

abbrev clearSlot (slot : Slot) : Prog Machine Bool :=
  changeSlot platform slot []

/-- The next bytes of the random source, which may fail. -/
def randomBytes (count : Nat) : Prog Machine (Option (ByteVec count)) :=
  fun machine =>
    .done ((nextSource machine.random).map (.generate count))
      { machine with random := machine.random.tail }

/-! ## Slots -/

/-- Update the members. -/
def modifyRam (update : Ram → Ram) : Prog Machine Unit :=
  Prog.modify fun machine => { machine with ram := update machine.ram }

/-- Remember a result and answer it. -/
def setResult (result : SecurityResult) : Prog Machine SecurityResult := do
  modifyRam fun ram => { ram with lastResult := result }
  pure result

/-- Wipe what is in memory. -/
def clear : Prog Machine Unit :=
  modifyRam fun _ => .cleared

/-- What `validateSlot` reports through its result and its outputs. -/
inductive SlotCheck where
  | readFailed
  | empty
  | corrupt
  | valid (generation : UInt32) (plain : ByteVec kPlainBytes)
deriving DecidableEq

/-- Something is stored in the slot. -/
def SlotCheck.nonempty : SlotCheck → Bool
  | .readFailed | .empty => false
  | .corrupt | .valid _ _ => true

def SlotCheck.generation? : SlotCheck → Option UInt32
  | .valid generation _ => some generation
  | _ => none

/-- The verdict on the bytes of a slot that could be read. -/
def checkBlob (key : Secret) (blob : Bytes) : SlotCheck :=
  if blob = [] then .empty
  else
    match validateBlob platform key blob with
    | none => .corrupt
    | some (generation, plain) => .valid generation plain

/-- Read a slot and open what it holds. -/
def validateSlot (slot : Slot) : Prog Machine SlotCheck := do
  match ← readSlot slot with
  | none =>
    modifyRam fun ram => { ram with lastResult := .storageReadFailed }
    pure .readFailed
  | some blob =>
    let machine ← Prog.get
    let check := checkBlob platform machine.ram.wrappingKey blob
    if check = .corrupt then
      modifyRam fun ram => { ram with lastResult := .corruptStorage }
    pure check

/-- The record of the next generation, drawing a nonce for it. -/
def encodeNext (generation : UInt32) : Prog Machine (Option Bytes) := do
  let machine ← Prog.get
  if (encodePlain machine.ram.material).isNone then pure none
  else
    match ← randomBytes kSecurityNonceBytes with
    | none => pure none
    | some nonce =>
      pure (encode platform machine.ram.wrappingKey generation
        machine.ram.material nonce)

/-- The slot the next record goes to. -/
def Ram.target (ram : Ram) : Slot :=
  match ram.activeSlot with
  | none => .first
  | some active => active.other

/-- The members after a record was written and read back. -/
def Ram.persisted (ram : Ram) : Ram :=
  { ram with
    activeSlot := some ram.target
    generation := ram.generation + 1
    controllerCount := ram.material.controllers.count
    lastResult := .ok }

/--
Write the next generation in the slot that is not in use and read it back.
-/
def persist : Prog Machine SecurityResult := do
  let machine ← Prog.get
  let nextGeneration := machine.ram.generation + 1
  match ← encodeNext platform nextGeneration with
  | none => setResult .cryptoFailed
  | some blob =>
    let target := machine.ram.target
    if ← writeSlot platform target blob then
      modifyRam fun ram => { ram with lastResult := .ok }
      match ← validateSlot platform target with
      | .valid generation _ =>
        if generation ≠ nextGeneration then setResult .readbackFailed
        else
          modifyRam Ram.persisted
          pure .ok
      | _ => setResult .readbackFailed
    else setResult .storageWriteFailed

/-- Set the pending bit of the material. -/
def setPending (pending : Bool) : Prog Machine Unit :=
  modifyRam fun ram =>
    { ram with
      material :=
        { ram.material with controllerRetirementPending := pending } }

/--
Clear the slot of the last generation, which still holds a removed controller.
-/
def retirePreviousSlot : Prog Machine SecurityResult := do
  let machine ← Prog.get
  if machine.ram.material.controllerRetirementPending then
    match machine.ram.activeSlot with
    | none => setResult .notBegun
    | some active =>
      if ← clearSlot platform active.other then
        match ← readSlot active.other with
        | none => setResult .storageReadFailed
        | some blob =>
          if blob ≠ [] then setResult .readbackFailed
          else
            setPending false
            let finalized ← persist platform
            if finalized ≠ .ok then
              setPending true
              pure finalized
            else setResult .ok
      else setResult .storageWriteFailed
  else setResult .ok

/-! ## Starting -/

/-- The last lines of `begin()`. -/
def finishBegin : Prog Machine SecurityResult := do
  modifyRam fun ram =>
    { ram with
      begun := true
      controllerCount := ram.material.controllers.count }
  setResult .okReflashable

/-- Replace a record of the older firmware by one without its retired parts. -/
def migrate : Prog Machine SecurityResult := do
  setPending true
  let migrated ← persist platform
  if migrated ≠ .ok then
    clear
    setResult migrated
  else
    let retired ← retirePreviousSlot platform
    if retired ≠ .ok then
      clear
      setResult retired
    else finishBegin

/-- The tail of the branch of `begin()` that found a record. -/
def resumeLoaded (retiredMaterialPresent : Bool) :
    Prog Machine SecurityResult := do
  let machine ← Prog.get
  let resumed ←
    if machine.ram.material.controllerRetirementPending then
      retirePreviousSlot platform
    else pure .ok
  if resumed ≠ .ok then
    clear
    setResult resumed
  else if retiredMaterialPresent then migrate platform
  else finishBegin

/-- The branch of `begin()` that found a record. -/
def beginLoaded (chosen : Slot) : Prog Machine SecurityResult := do
  match ← validateSlot platform chosen with
  | .valid generation plain =>
    match decodeLoaded plain with
    | none => setResult .corruptStorage
    | some (material, retiredMaterialPresent) =>
      modifyRam fun ram =>
        { ram with
          material := material
          activeSlot := some chosen
          generation := generation }
      resumeLoaded platform retiredMaterialPresent
  | _ => setResult .corruptStorage

/-- The branch of `begin()` that found two empty slots. -/
def beginBlank : Prog Machine SecurityResult := do
  match ← randomBytes kKitsuDeviceIdBytes with
  | none => setResult .cryptoFailed
  | some deviceId =>
    modifyRam fun ram =>
      { ram with material := { ram.material with deviceId := deviceId } }
    match ← randomBytes kKitsuSecretBytes with
    | none => setResult .cryptoFailed
    | some deviceSecret =>
      modifyRam fun ram =>
        { ram with
          begun := true
          material :=
            { ram.material with deviceSecret := deviceSecret } }
      let persisted ← persist platform
      if persisted ≠ .ok then
        modifyRam fun ram => { ram with begun := false }
        pure persisted
      else finishBegin

/-- The generations of the slots that hold a record. -/
def checkedGenerations (first second : SlotCheck) : Slot → Option UInt32
  | .first => first.generation?
  | .second => second.generation?

/-- `begin()` once both slots have been looked at. -/
def beginChecked (first second : SlotCheck) :
    Prog Machine SecurityResult :=
  match newest (checkedGenerations first second) with
  | some chosen => beginLoaded platform chosen
  | none =>
    if first.nonempty || second.nonempty then setResult .corruptStorage
    else beginBlank platform

/-- Load the newest generation at boot, or begin a new store. -/
def begin (hardwareId : ByteVec 8) : Prog Machine SecurityResult := do
  clear
  match platform.deriveWrappingKey hardwareId with
  | none => setResult .wrappingRootUnavailable
  | some key =>
    modifyRam fun ram =>
      { ram with wrappingKey := key, lastResult := .ok }
    let first ← validateSlot platform .first
    if first = .readFailed then setResult .storageReadFailed
    else
      modifyRam fun ram => { ram with lastResult := .ok }
      let second ← validateSlot platform .second
      if second = .readFailed then setResult .storageReadFailed
      else beginChecked platform first second

/-! ## Queries -/

/-- `findControllerRoot`: the root and the role of the same entry. -/
def Ram.findControllerRoot (ram : Ram) (controllerId : ControllerId) :
    Option (Secret × ControllerRole) :=
  if ram.begun then
    (ram.material.controllers.find controllerId).map fun controller =>
      (controller.root, controller.role)
  else none

/-! ## Changing the table -/

/-- The facts about the link that pairing requires. -/
structure LinkFacts where
  secureConnections : Bool
  linkEncrypted : Bool
  bonded : Bool
  physicalConfirmed : Bool
deriving DecidableEq

def LinkFacts.all (facts : LinkFacts) : Bool :=
  facts.secureConnections && facts.linkEncrypted && facts.bonded &&
    facts.physicalConfirmed

/-- A root for a controller that is to be paired; nothing is stored yet. -/
def generatePendingControllerRoot (facts : LinkFacts) :
    Prog Machine (SecurityResult × Secret) := do
  let machine ← Prog.get
  if !machine.ram.begun then
    let result ← setResult .notBegun
    pure (result, .zero _)
  else if !facts.all then
    let result ← setResult .authorizationRequired
    pure (result, .zero _)
  else
    match ← randomBytes kKitsuSecretBytes with
    | none =>
      let result ← setResult .cryptoFailed
      pure (result, .zero _)
    | some root =>
      let result ← setResult .ok
      pure (result, root)

/-- Store a table in the members. -/
def setControllers (table : ControllerTable) : Prog Machine Unit :=
  modifyRam fun ram =>
    { ram with material := { ram.material with controllers := table } }

/-- The entry a pairing goes to. -/
def pairingTarget (table : ControllerTable) (controllerId : ControllerId) :
    Option Nat :=
  match table.indexOf controllerId with
  | some index => some index
  | none => table.firstFree

/-- The arguments of `commitControllerAfterPairing`. -/
structure PairingCommit where
  controllerId : ControllerId
  pendingRoot : Secret
  facts : LinkFacts
  pairCommitVerified : Bool
  role : ControllerRole
deriving DecidableEq

/-- The controller that a commit asks for. -/
def PairingCommit.controller (commit : PairingCommit) : Controller where
  valid := true
  role := commit.role
  id := commit.controllerId
  root := commit.pendingRoot

/-- Store a controller whose pairing was confirmed and proved. -/
def commitControllerAfterPairing (commit : PairingCommit) :
    Prog Machine SecurityResult := do
  let machine ← Prog.get
  if !machine.ram.begun then setResult .notBegun
  else if commit.role = .invalid then setResult .invalidArgument
  else if !commit.facts.all || !commit.pairCommitVerified then
    setResult .authorizationRequired
  else if commit.controllerId.allZero || commit.pendingRoot.allZero then
    setResult .invalidArgument
  else
    let table := machine.ram.material.controllers
    match pairingTarget table commit.controllerId with
    | none => setResult .controllerTableFull
    | some target =>
      setControllers (table.set target commit.controller)
      let persisted ← persist platform
      if persisted ≠ .ok then setControllers table
      pure persisted

/-- Replace the table by a smaller one and retire the slot with the old one. -/
def retireTable (table : ControllerTable) : Prog Machine SecurityResult := do
  let machine ← Prog.get
  setControllers table
  setPending true
  let persisted ← persist platform
  if persisted ≠ .ok then
    setControllers machine.ram.material.controllers
    setPending false
    pure persisted
  else retirePreviousSlot platform

/-- Remove a controller, if it is there. -/
def revokeFound (controllerId : ControllerId) (resumedRetirement : Bool) :
    Prog Machine SecurityResult := do
  let machine ← Prog.get
  let table := machine.ram.material.controllers
  match table.indexOf controllerId with
  | none =>
    setResult (if resumedRetirement then .ok
      else .controllerNotProvisioned)
  | some target => retireTable platform (table.set target .zeroed)

/-- Remove a controller, after a removal that was not completed. -/
def revokeController (controllerId : ControllerId) :
    Prog Machine SecurityResult := do
  let machine ← Prog.get
  if machine.ram.material.controllerRetirementPending then
    let resumed ← retirePreviousSlot platform
    if resumed ≠ .ok then pure resumed
    else revokeFound platform controllerId true
  else revokeFound platform controllerId false

/-- Remove a controller that the player chose. -/
def revokeControllerAfterPhysicalConfirmation
    (controllerId : ControllerId) (physicalConfirmed : Bool) :
    Prog Machine SecurityResult := do
  let machine ← Prog.get
  if !machine.ram.begun then setResult .notBegun
  else if !physicalConfirmed then setResult .authorizationRequired
  else revokeController platform controllerId

/-- Remove the controller that asks for it. -/
def revokeAuthenticatedController (controllerId : ControllerId) :
    Prog Machine SecurityResult := do
  let machine ← Prog.get
  if !machine.ram.begun then setResult .notBegun
  else revokeController platform controllerId

/-- The part of `revokeAll…` that follows a resumed retirement. -/
def revokeEvery : Prog Machine SecurityResult := do
  let machine ← Prog.get
  if machine.ram.material.controllers.entries.any (·.valid) then
    retireTable platform .empty
  else setResult .ok

/-- Remove all controllers, if the player confirmed. -/
def revokeAllControllersAfterPhysicalConfirmation
    (physicalConfirmed : Bool) : Prog Machine SecurityResult := do
  let machine ← Prog.get
  if !machine.ram.begun then setResult .notBegun
  else if !physicalConfirmed then setResult .authorizationRequired
  else if machine.ram.material.controllerRetirementPending then
    let resumed ← retirePreviousSlot platform
    if resumed ≠ .ok then pure resumed
    else revokeEvery platform
  else revokeEvery platform

/-! ## Runs -/

/-- The calls that change the table. -/
inductive ControllerChange where
  | commit (pairing : PairingCommit)
  | revoke (controllerId : ControllerId) (physicalConfirmed : Bool)
  | revokeAuthenticated (controllerId : ControllerId)
  | revokeAll (physicalConfirmed : Bool)

/-- The program of a change. -/
def ControllerChange.program : ControllerChange →
    Prog Machine SecurityResult
  | .commit pairing => commitControllerAfterPairing platform pairing
  | .revoke controllerId physicalConfirmed =>
    revokeControllerAfterPhysicalConfirmation platform controllerId
      physicalConfirmed
  | .revokeAuthenticated controllerId =>
    revokeAuthenticatedController platform controllerId
  | .revokeAll physicalConfirmed =>
    revokeAllControllersAfterPhysicalConfirmation platform
      physicalConfirmed

/-- What the environment will do during one call. -/
structure Environment where
  storage : List StorageOutcome
  random : List (Option (Nat → UInt8))

/-- A store and its slots between calls. -/
structure Device where
  ram : Ram
  slots : Slot → Bytes

/-- The machine a call starts on. -/
def Device.machine (device : Device) (environment : Environment) :
    Machine where
  ram := device.ram
  slots := device.slots
  storage := environment.storage
  random := environment.random

/-- Run a call in an environment. -/
def Device.call {α : Type} (device : Device) (program : Prog Machine α)
    (environment : Environment) : Outcome Device α :=
  match program (device.machine environment) with
  | .done value after => .done value ⟨after.ram, after.slots⟩
  | .cut after => .cut ⟨.cleared, after.slots⟩

/-- What can happen to a board. -/
inductive Input where
  | begin (environment : Environment)
  | change (change : ControllerChange) (environment : Environment)
  | generatePending (facts : LinkFacts) (environment : Environment)
  | corrupt (slot : Slot) (blob : Bytes)
  | powerLoss

/-- The state a call leaves, whether it returned or was cut. -/
def settle {α : Type} : Outcome Device α → Device
  | .done _ after => after
  | .cut after => after

/-- One input; the wrapping key is the board's. -/
def Device.step (hardwareId : ByteVec 8) (device : Device) :
    Input → Device
  | .begin environment =>
    settle (device.call (begin platform hardwareId) environment)
  | .change change environment =>
    settle (device.call (change.program platform) environment)
  | .generatePending facts environment =>
    settle (device.call (generatePendingControllerRoot facts) environment)
  | .corrupt slot blob =>
    -- Corruption does not forge a record that opens.
    if ((platform.deriveWrappingKey hardwareId).bind fun key =>
        validateBlob platform key blob).isSome then device
    else { device with slots := Function.update device.slots slot blob }
  | .powerLoss => { device with ram := .cleared }

/-! ## A sample board -/

/-- Mask every byte. -/
def masked {count : Nat} (input : ByteVec count) : ByteVec count :=
  ⟨input.bytes.map (· ^^^ 0x5a), by simp⟩

/--
A platform for worked runs: the cipher masks every byte and the tag names the
generation and the key.
-/
def maskingPlatform : Platform where
  deriveWrappingKey hardwareId :=
    some (.front _ ((List.replicate 4 hardwareId.bytes).flatten))
  sealRecord key generation _ plain :=
    some (masked plain, .front _ (littleEndian 4 generation.toNat ++ key.bytes))
  openRecord key generation _ cipher tag :=
    if tag = .front _ (littleEndian 4 generation.toNat ++ key.bytes) then
      some (masked cipher)
    else none

theorem masked_masked {count : Nat} (input : ByteVec count) :
    masked (masked input) = input := by
  apply ByteVec.ext
  simp only [masked, List.map_map]
  have involutive : ((fun byte : UInt8 => byte ^^^ 0x5a) ∘
      fun byte : UInt8 => byte ^^^ 0x5a) = id := by
    funext byte
    simp only [Function.comp_apply, id_eq, UInt8.xor_assoc,
      UInt8.xor_self, UInt8.xor_zero]
  rw [involutive, List.map_id]

theorem maskingPlatform_opens : maskingPlatform.OpensSealed := by
  intro key generation nonce plain cipher tag made
  rcases made with ⟨rfl, rfl⟩
  simp [maskingPlatform, masked_masked]

/-- The hardware id of the sample board. -/
def sampleHardwareId : ByteVec 8 := .replicate 8 7

/-- A board that has never been started. -/
def blankDevice : Device := ⟨.cleared, fun _ => []⟩

/-- An environment without faults, with a counting random source. -/
def calmEnvironment : Environment where
  storage := []
  random := List.replicate 3 (some fun index => (index + 1).toUInt8)

/-- The sample board after its first start. -/
def sampleDevice : Device :=
  settle (blankDevice.call (begin maskingPlatform sampleHardwareId)
    calmEnvironment)

/-- An admissible pairing. -/
def samplePairing : PairingCommit where
  controllerId := .replicate _ 3
  pendingRoot := .replicate _ 9
  facts := ⟨true, true, true, true⟩
  pairCommitVerified := true
  role := .caretaker

end Kitsu.Security.Store
