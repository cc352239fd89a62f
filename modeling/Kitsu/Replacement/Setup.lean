import Kitsu.Crc32
import Kitsu.Lib.Crash

/-!
# The replacement transaction

`companion_replacement_intent.cpp`: two sectors of the retired `kitsu_conn`
partition hold one record each.  PREPARED is written before a companion pack of
another species, COMMITTED behind it, and only two valid and equal records
authorize the firmware to give up the stored companion.
-/

namespace Kitsu.Replacement

open Kitsu.Lib.ByteString

def KITSU_REPLACEMENT_INTENT_SCHEMA : UInt16 := 1
def KITSU_COMPANION_PACK_MAX_BYTES : Nat := 0x140000
def KITSU_PACK_HEADER_BYTES : Nat := 64
def kIntentRecordBytes : UInt16 := 40
def kIntentMagic : Bytes := ascii "K868RP1" ++ [0]

/-- A structurally valid companion pack, by what its header says. -/
structure Pack where
  packId : UInt32
  revision : UInt32
  totalBytes : UInt32
  payloadCrc32 : UInt32
  headerCrc32 : UInt32
  packId_ne : packId ≠ 0
  revision_ne : revision ≠ 0
  header_le : KITSU_PACK_HEADER_BYTES ≤ totalBytes.toNat
  totalBytes_le : totalBytes.toNat ≤ KITSU_COMPANION_PACK_MAX_BYTES
deriving DecidableEq

/-- The companion slot, as both the flasher and the firmware judge it. -/
inductive Slot where
  | empty
  | invalid
  | valid (pack : Pack)
deriving DecidableEq

/-- The record of a replacement that was asked for. -/
structure CompanionReplacementIntent where
  magic : Bytes
  schema : UInt16
  recordBytes : UInt16
  sourcePackId : UInt32
  targetPackId : UInt32
  targetRevision : UInt32
  targetBytes : UInt32
  targetPayloadCrc32 : UInt32
  targetHeaderCrc32 : UInt32
  recordCrc32 : UInt32
deriving DecidableEq

/-- The bytes behind the magic, with a cleared checksum. -/
def CompanionReplacementIntent.covered
    (intent : CompanionReplacementIntent) : Bytes :=
  littleEndian 2 intent.schema.toNat ++
    littleEndian 2 intent.recordBytes.toNat ++
    littleEndian 4 intent.sourcePackId.toNat ++
    littleEndian 4 intent.targetPackId.toNat ++
    littleEndian 4 intent.targetRevision.toNat ++
    littleEndian 4 intent.targetBytes.toNat ++
    littleEndian 4 intent.targetPayloadCrc32.toNat ++
    littleEndian 4 intent.targetHeaderCrc32.toNat ++ littleEndian 4 0

/-- The checksum of a record. -/
def companionReplacementIntentCrc32
    (intent : CompanionReplacementIntent) : UInt32 :=
  Crc32.crc32 intent.covered

/-- A record of the known format that names two different packs. -/
def validRecord (intent : CompanionReplacementIntent) : Bool :=
  intent.magic == kIntentMagic &&
    intent.schema == KITSU_REPLACEMENT_INTENT_SCHEMA &&
    intent.recordBytes == kIntentRecordBytes &&
    intent.sourcePackId != 0 && intent.targetPackId != 0 &&
    intent.targetRevision != 0 && intent.targetBytes != 0 &&
    intent.targetBytes.toNat ≤ KITSU_COMPANION_PACK_MAX_BYTES &&
    intent.sourcePackId != intent.targetPackId &&
    companionReplacementIntentCrc32 intent == intent.recordCrc32

/-- The record is about this very pack. -/
def targetMatches (intent : CompanionReplacementIntent) (pack : Pack) :
    Bool :=
  intent.targetPackId == pack.packId &&
    intent.targetRevision == pack.revision &&
    intent.targetBytes == pack.totalBytes &&
    intent.targetPayloadCrc32 == pack.payloadCrc32 &&
    intent.targetHeaderCrc32 == pack.headerCrc32

/-- A sector: its record, and whether the bytes behind it are erased. -/
structure Sector where
  record : CompanionReplacementIntent
  paddingErased : Bool
deriving DecidableEq

/-- What forty erased bytes read as. -/
def erasedRecord : CompanionReplacementIntent where
  magic := List.replicate 8 0xff
  schema := 0xffff
  recordBytes := 0xffff
  sourcePackId := 0xffffffff
  targetPackId := 0xffffffff
  targetRevision := 0xffffffff
  targetBytes := 0xffffffff
  targetPayloadCrc32 := 0xffffffff
  targetHeaderCrc32 := 0xffffffff
  recordCrc32 := 0xffffffff

def erasedSector : Sector := ⟨erasedRecord, true⟩

/-- The two sectors of the transaction. -/
structure Transaction where
  prepared : Sector
  committed : Sector
deriving DecidableEq

/-- A record that was erased. -/
def erasedTransaction : Transaction := ⟨erasedSector, erasedSector⟩

/-- The firmware accepts PREPARED. -/
def Transaction.preparedValid (transaction : Transaction) : Bool :=
  transaction.prepared.paddingErased &&
    validRecord transaction.prepared.record

/-- The firmware accepts both records. -/
def Transaction.committedValid (transaction : Transaction) : Bool :=
  transaction.preparedValid && transaction.committed.paddingErased &&
    validRecord transaction.committed.record &&
    transaction.prepared.record == transaction.committed.record

/-- The record allows to replace the stored pack by this one. -/
def companionReplacementIntentAuthorizes
    (intent : CompanionReplacementIntent) (storedPackId : UInt32)
    (pack : Pack) : Bool :=
  validRecord intent && intent.sourcePackId == storedPackId &&
    targetMatches intent pack

/-- Both sectors allow the same replacement. -/
def companionReplacementTransactionAuthorizes (transaction : Transaction)
    (storedPackId : UInt32) (pack : Pack) : Bool :=
  validRecord transaction.prepared.record &&
    validRecord transaction.committed.record &&
    transaction.prepared.record == transaction.committed.record &&
    companionReplacementIntentAuthorizes transaction.committed.record
      storedPackId pack

/-- The record of a replacement, as the flasher builds it. -/
def buildReplacementIntent (sourcePackId : UInt32) (pack : Pack) :
    CompanionReplacementIntent :=
  let intent : CompanionReplacementIntent :=
    { magic := kIntentMagic
      schema := KITSU_REPLACEMENT_INTENT_SCHEMA
      recordBytes := kIntentRecordBytes
      sourcePackId
      targetPackId := pack.packId
      targetRevision := pack.revision
      targetBytes := pack.totalBytes
      targetPayloadCrc32 := pack.payloadCrc32
      targetHeaderCrc32 := pack.headerCrc32
      recordCrc32 := 0 }
  { intent with recordCrc32 := companionReplacementIntentCrc32 intent }

/--
The transaction names the stored companion as its source and the installed pack
as its target, in two canonical and equal records.
-/
structure Authorizes (transaction : Transaction) (storedPackId : UInt32)
    (pack : Pack) : Prop where
  canonical : transaction.prepared.paddingErased = true ∧
    transaction.committed.paddingErased = true
  valid : validRecord transaction.prepared.record = true
  same : transaction.prepared.record = transaction.committed.record
  source : transaction.prepared.record.sourcePackId = storedPackId
  target : targetMatches transaction.prepared.record pack = true

variable {transaction : Transaction} {storedPackId : UInt32} {pack : Pack}

/-- What the firmware checks before it replaces a companion. -/
theorem authorizes_iff :
    (transaction.committedValid = true ∧
      companionReplacementTransactionAuthorizes transaction storedPackId
        pack = true) ↔ Authorizes transaction storedPackId pack := by
  simp only [Transaction.committedValid, Transaction.preparedValid,
    companionReplacementTransactionAuthorizes,
    companionReplacementIntentAuthorizes, Bool.and_eq_true, beq_iff_eq]
  constructor
  · rintro ⟨⟨⟨⟨⟨preparedPadding, valid⟩, committedPadding⟩, _⟩, same⟩,
      _, ⟨_, source⟩, target⟩
    exact ⟨⟨preparedPadding, committedPadding⟩, valid, same,
      same ▸ source, same ▸ target⟩
  · intro authorizes
    have same := authorizes.same
    have valid := authorizes.valid
    have source := authorizes.source
    have target := authorizes.target
    rw [same] at valid source target
    exact ⟨⟨⟨⟨⟨authorizes.canonical.1, authorizes.valid⟩,
      authorizes.canonical.2⟩, valid⟩, same⟩, ⟨⟨authorizes.valid, valid⟩,
      same⟩, ⟨valid, source⟩, target⟩

theorem Authorizes.committedValid
    (authorizes : Authorizes transaction storedPackId pack) :
    transaction.committedValid = true :=
  (authorizes_iff.mpr authorizes).1

/-- The record that the flasher builds is accepted by the firmware. -/
theorem validRecord_build (source_ne : storedPackId ≠ 0)
    (other : storedPackId ≠ pack.packId) :
    validRecord (buildReplacementIntent storedPackId pack) = true := by
  have bytes_ne : pack.totalBytes ≠ 0 := by
    intro zero
    have header := pack.header_le
    rw [zero] at header
    exact absurd header (by decide)
  simp only [validRecord, buildReplacementIntent, Bool.and_eq_true,
    beq_self_eq_true, bne_iff_ne, true_and]
  have checked : companionReplacementIntentCrc32
      (buildReplacementIntent storedPackId pack) ==
        (buildReplacementIntent storedPackId pack).recordCrc32 :=
    beq_iff_eq.mpr rfl
  exact ⟨⟨⟨⟨⟨⟨source_ne, pack.packId_ne⟩, pack.revision_ne⟩, bytes_ne⟩,
    decide_eq_true pack.totalBytes_le⟩, other⟩, checked⟩

theorem targetMatches_build :
    targetMatches (buildReplacementIntent storedPackId pack) pack =
      true := by
  simp [targetMatches, buildReplacementIntent]

/-- Both records of a replacement, written by the flasher. -/
def builtTransaction (storedPackId : UInt32) (pack : Pack) :
    Transaction where
  prepared := ⟨buildReplacementIntent storedPackId pack, true⟩
  committed := ⟨buildReplacementIntent storedPackId pack, true⟩

theorem authorizes_built (source_ne : storedPackId ≠ 0)
    (other : storedPackId ≠ pack.packId) :
    Authorizes (builtTransaction storedPackId pack) storedPackId pack where
  canonical := ⟨rfl, rfl⟩
  valid := validRecord_build source_ne other
  same := rfl
  source := rfl
  target := targetMatches_build

end Kitsu.Replacement

/-!
# Boots around a replacement

The part of `setup` that decides about a companion: it reads the transaction,
retires the rest of the partition, loads the core record, compares it with the
installed pack, and starts the brain.  Every erase and every write of a boot may
fail or be cut, and an erase that does not complete leaves anything in the range
it was to erase.  Power that goes between two of these calls is power that goes
in the later one before it has an effect.
-/

namespace Kitsu.Replacement

open Kitsu.Lib.ByteString
open Kitsu.Lib.Crash

def kTraitCount : UInt8 := 16
def kGiftCount : UInt8 := 12

/-- The record `core_v2`, without the identity of the device. -/
structure CoreState where
  energy : UInt8 := 72
  curiosity : UInt8 := 14
  affection : UInt8 := 5
  sleeping : Bool := false
  pets : UInt32 := 0
  collectiblePackId : UInt32 := 0
  unlockedTraits : UInt16 := 0
  collectedGifts : UInt16 := 0
  lastTrait : UInt8 := 0xff
  lastGift : UInt8 := 0xff
deriving DecidableEq, Repr

/-- What a stored companion must meet before it is taken over. -/
def validCoreState (state : CoreState) : Bool :=
  state.energy ≤ 100 && state.curiosity ≤ 100 && state.affection ≤ 100 &&
    state.collectedGifts &&& 0xf000 == 0 &&
    (state.lastTrait == 0xff || state.lastTrait < kTraitCount) &&
    (state.lastGift == 0xff || state.lastGift < kGiftCount)

/-- The per-key layout of the first releases, brought into range. -/
def sanitized (keys : CoreState) : CoreState :=
  { keys with
    energy := min 100 keys.energy
    curiosity := min 100 keys.curiosity
    affection := min 100 keys.affection
    collectedGifts := keys.collectedGifts &&& 0x0fff
    lastTrait := if kTraitCount ≤ keys.lastTrait then 0xff else keys.lastTrait
    lastGift := if kGiftCount ≤ keys.lastGift then 0xff else keys.lastGift }

/-- A brain that validates for one pack, with what it has lived through. -/
structure StoredBrain where
  packId : UInt32
  generation : UInt32
  lived : Bytes
deriving DecidableEq, Repr

/-- The brain of a companion that has just hatched. -/
def freshBrain (packId : UInt32) : StoredBrain where
  packId
  generation := 1
  lived := []

/-- The retired partition: the transaction and the rest. -/
structure Conn where
  transaction : Transaction
  tailErased : Bool
deriving DecidableEq

/-- A namespace whose record was erased. -/
def erasedConn : Conn := ⟨erasedTransaction, true⟩

/-- What the flash holds of a companion, its pack and a replacement. -/
structure Flash where
  core : Option CoreState
  legacy : Option CoreState
  brainA : Option StoredBrain
  brainB : Option StoredBrain
  slot : Slot
  conn : Conn
  replayUsed : Bool
deriving DecidableEq

/-! ## Device calls -/

/-- An erase that fails or is cut leaves something in its range. -/
inductive EraseOutcome where
  | erased
  | failed (left : Conn)
  | cut (left : Conn)
deriving DecidableEq

/-- A clear that fails or is cut may keep either brain. -/
inductive ClearOutcome where
  | cleared
  | failed (keepA keepB : Bool)
  | cut (keepA keepB : Bool)
deriving DecidableEq

/-- What becomes of every erase and write of one boot. -/
structure Faults where
  retire : EraseOutcome := .erased
  replay : PutOutcome := .written
  migrate : PutOutcome := .written
  clearBrain : ClearOutcome := .cleared
  save : PutOutcome := .written
  consume : EraseOutcome := .erased
  brain : PutOutcome := .written
deriving DecidableEq

/-- How much of the record stays when the former partition is erased. -/
inductive LegacyConnectivityPreservation where
  | none
  | prepared
  | transaction
deriving DecidableEq

/-- The partition with everything behind the preserved prefix replaced. -/
def overlay (preservation : LegacyConnectivityPreservation)
    (conn left : Conn) : Conn :=
  match preservation with
  | .none => left
  | .prepared =>
    { left with
      transaction :=
        { left.transaction with prepared := conn.transaction.prepared } }
  | .transaction => { left with transaction := conn.transaction }

/-- Everything behind the preserved prefix reads as erased. -/
def verifyErased (preservation : LegacyConnectivityPreservation)
    (conn : Conn) : Bool :=
  overlay preservation conn erasedConn == conn

/-- Erase what lies behind the preserved prefix. -/
def eraseAfter (preservation : LegacyConnectivityPreservation)
    (outcome : EraseOutcome) : Prog Flash Bool :=
  fun flash =>
    let leaving (left : Conn) : Flash :=
      { flash with conn := overlay preservation flash.conn left }
    match outcome with
    | .erased => .done true (leaving erasedConn)
    | .failed left => .done false (leaving left)
    | .cut left => .cut (leaving left)

/-- Erase both sectors of the transaction. -/
def consume (outcome : EraseOutcome) : Prog Flash Bool :=
  fun flash =>
    let leaving (left : Transaction) : Flash :=
      { flash with conn := { flash.conn with transaction := left } }
    match outcome with
    | .erased => .done true (leaving erasedTransaction)
    | .failed left => .done false (leaving left.transaction)
    | .cut left => .cut (leaving left.transaction)

/-- Clear what the former connectivity kept against replays. -/
def clearLegacyReplayNamespace (outcome : PutOutcome) : Prog Flash Bool := do
  let flash ← Prog.get
  if flash.replayUsed then
    Prog.put (fun flash => { flash with replayUsed := false }) outcome
  else
    return true

/-- Clear the brain of the former companion; a failed clear may leave a part. -/
def clearStoredState (outcome : ClearOutcome) : Prog Flash Bool :=
  fun flash =>
    let keeping (keepA keepB : Bool) : Flash :=
      { flash with
        brainA := if keepA then flash.brainA else none
        brainB := if keepB then flash.brainB else none }
    match outcome with
    | .cleared => .done true (keeping false false)
    | .failed keepA keepB => .done false (keeping keepA keepB)
    | .cut keepA keepB => .cut (keeping keepA keepB)

/-- Write the core record and read it back. -/
def saveState (state : CoreState) (outcome : PutOutcome) :
    Prog Flash Bool := do
  let written ← Prog.put (fun flash => { flash with core := state }) outcome
  return written && validCoreState state

/-! ## The steps of a boot -/

/-- `KitsuLegacyConnectivityRetirement::run`, by whether it succeeded. -/
def retire (preservation : LegacyConnectivityPreservation)
    (faults : Faults) : Prog Flash Bool := do
  let flash ← Prog.get
  if verifyErased preservation flash.conn then
    clearLegacyReplayNamespace faults.replay
  else
    let erased ← eraseAfter preservation faults.retire
    if erased then
      clearLegacyReplayNamespace faults.replay
    else
      return false

/-- The companion that is stored, if it is valid. -/
def loadedCore (flash : Flash) : Option CoreState :=
  flash.core.filter validCoreState

/-- The companion that a boot finds. -/
def companion (flash : Flash) : CoreState :=
  match loadedCore flash with
  | some state => state
  | none => (flash.legacy.map sanitized).getD {}

/-- Load the companion, also from the older format. -/
def loadState (faults : Faults) : Prog Flash CoreState := do
  let flash ← Prog.get
  let state := companion flash
  if (loadedCore flash).isNone then
    let _ ← saveState state faults.migrate
    return state
  else
    return state

/-- The transaction, by what the firmware found in it. -/
def preservation (transaction : Transaction) :
    LegacyConnectivityPreservation :=
  if transaction.committedValid then .transaction
  else if transaction.preparedValid then .prepared
  else .none

/-- The state of a companion that replaces another. -/
def replaced (state : CoreState) (packId : UInt32) : CoreState :=
  { state with
    energy := 72
    curiosity := 14
    affection := 5
    pets := 0
    sleeping := false
    collectiblePackId := packId
    unlockedTraits := 0
    collectedGifts := 0
    lastTrait := 0xff
    lastGift := 0xff }

/-- The state of a companion that gets its first pack. -/
def assigned (state : CoreState) (packId : UInt32) : CoreState :=
  { state with
    collectiblePackId := packId
    unlockedTraits := 0
    collectedGifts := 0
    lastTrait := 0xff
    lastGift := 0xff }

/-- The companion in memory, the pack it shows, and whether it was replaced. -/
structure Settled where
  state : CoreState
  exposed : Option Pack
  attempted : Bool
deriving DecidableEq

/-- The replacement block of `setup`. -/
def settlePack (transaction : Transaction) (ready : Bool)
    (state : CoreState) (faults : Faults) : Prog Flash Settled := do
  let flash ← Prog.get
  match flash.slot with
  | .empty => return ⟨state, none, false⟩
  | .invalid => return ⟨state, none, false⟩
  | .valid pack =>
    if state.collectiblePackId = pack.packId then
      return ⟨state, some pack, false⟩
    else if state.collectiblePackId ≠ 0 && ready &&
        transaction.committedValid &&
        companionReplacementTransactionAuthorizes transaction
          state.collectiblePackId pack then
      let _ ← clearStoredState faults.clearBrain
      let state := replaced state pack.packId
      let saved ← saveState state faults.save
      if saved then
        let _ ← consume faults.consume
        return ⟨state, some pack, true⟩
      else
        return ⟨state, some pack, true⟩
    else if state.collectiblePackId = 0 then
      let state := assigned state pack.packId
      let _ ← saveState state faults.save
      return ⟨state, some pack, false⟩
    else
      return ⟨state, none, false⟩

/-- A finished or stale transaction is erased. -/
def cleanUp (transaction : Transaction) (ready : Bool) (settled : Settled)
    (faults : Faults) : Prog Flash Unit :=
  if !settled.attempted && ready && transaction.preparedValid &&
      transaction.prepared.record.sourcePackId !=
        settled.state.collectiblePackId then do
    let _ ← consume faults.consume
    return ()
  else
    return ()

def hasBrain (flash : Flash) (packId : UInt32) : Bool :=
  flash.brainA.any (·.packId == packId) ||
    flash.brainB.any (·.packId == packId)

/-- The pack that a brain is stored under. -/
def brainPackId (settled : Settled) : UInt32 :=
  if settled.state.collectiblePackId ≠ 0 then
    settled.state.collectiblePackId
  else
    (settled.exposed.map Pack.packId).getD 0

/-- `CompanionBrain::begin`: a companion without a brain gets a fresh one. -/
def beginBrain (packId : UInt32) (faults : Faults) : Prog Flash Unit := do
  let flash ← Prog.get
  if hasBrain flash packId then
    return ()
  else
    let _ ← Prog.put
      (fun flash => { flash with brainA := some (freshBrain packId) })
      faults.brain
    return ()

/-- One boot, with the companion and the pack it ends with. -/
def boot (faults : Faults) : Prog Flash Settled := do
  let flash ← Prog.get
  let transaction := flash.conn.transaction
  let ready ← retire (preservation transaction) faults
  let state ← loadState faults
  let settled ← settlePack transaction ready state faults
  cleanUp transaction ready settled faults
  beginBrain (brainPackId settled) faults
  return settled

/-- The flash behind a boot, whether it was cut or not. -/
def step (flash : Flash) (faults : Faults) : Flash :=
  match boot faults flash with
  | .done _ after => after
  | .cut after => after

end Kitsu.Replacement
