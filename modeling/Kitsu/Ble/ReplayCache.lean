import Kitsu.Ble.Action
import Kitsu.Crc32

/-!
# The at-most-once ledger of actions

`BleActionReplayCache` of `kitsu_ble_action.cpp`: eight records in a packed,
checksummed blob that the caller stores and loads again at boot.  A record
binds an action identifier to the digest of its command until the command
expires; the slot of an expired record may be taken by a new one.  The hash is
that of the platform.
-/

namespace Kitsu.Ble.ReplayCache

open Kitsu.Lib.ByteString
open Kitsu.Crc32
open Kitsu.Ble.Action

def kBleActionReplayCapacity : Nat := 8
def kBleActionMaximumExpirySeconds : Nat := 120
def kReplayMagic : UInt32 := 0x3341524b
def kReplayPending : UInt8 := 1
def kReplayApplied : UInt8 := 2

/-- What the cache says about a command. -/
inductive BleActionReplayDecision where
  | fresh
  | duplicateApplied
  | duplicateIndeterminate
  | conflict
  | expired
  | timeUnavailable
  | invalidExpiry
deriving DecidableEq, Repr

/-! ## The blob -/

/-- A command that was taken: its identifier, digest, expiry and outcome. -/
structure Record where
  actionId : ByteVec 16
  commandDigest : ByteVec 32
  expiresAtEpoch : UInt32
  outcome : UInt8
deriving DecidableEq

def Record.empty : Record := ⟨ByteVec.zero 16, ByteVec.zero 32, 0, 0⟩

/-- The packed layout of a record. -/
def Record.serialized (record : Record) : Bytes :=
  record.actionId.bytes ++ (record.commandDigest.bytes ++
    (littleEndian 4 record.expiresAtEpoch.toNat ++ [record.outcome]))

def recordBytes : Nat := 53

def Record.parse (buffer : Bytes) : Record :=
  ⟨ByteVec.slice 16 buffer 0, ByteVec.slice 32 buffer 16,
    (getU32 buffer 48).toUInt32, buffer.getD 52 0⟩

/-- The cache as it is stored: a header, the records and a checksum. -/
structure Blob where
  magic : UInt32
  bytes : UInt16
  count : UInt8
  reserved : UInt8
  records : List Record
  crc32 : UInt32
  records_length : records.length = kBleActionReplayCapacity
deriving DecidableEq

def blobBytes : Nat := 436

/-- The bytes of a blob in front of its checksum. -/
def Blob.body (blob : Blob) : Bytes :=
  littleEndian 4 blob.magic.toNat ++ (littleEndian 2 blob.bytes.toNat ++
    ([blob.count, blob.reserved] ++ (blob.records.map Record.serialized).flatten))

/-- The bytes of the cache with its checksum. -/
def Blob.serialized (blob : Blob) : Bytes :=
  blob.body ++ littleEndian 4 blob.crc32.toNat

/-- The records at the front of a buffer. -/
def parseRecords : Nat → Bytes → List Record
  | 0, _ => []
  | count + 1, buffer =>
    Record.parse buffer :: parseRecords count (buffer.drop recordBytes)

theorem length_parseRecords (count : Nat) (buffer : Bytes) :
    (parseRecords count buffer).length = count := by
  induction count generalizing buffer with
  | zero => rfl
  | succ count induction => simp [parseRecords, induction]

/-- The cache that a buffer stands for. -/
def Blob.parse (buffer : Bytes) : Blob where
  magic := (getU32 buffer 0).toUInt32
  bytes := (getU16 buffer 4).toUInt16
  count := buffer.getD 6 0
  reserved := buffer.getD 7 0
  records := parseRecords kBleActionReplayCapacity (buffer.drop 8)
  crc32 := (getU32 buffer 432).toUInt32
  records_length := length_parseRecords _ _

/-- The records in use, and the others. -/
def Blob.occupied (blob : Blob) : List Record :=
  blob.records.take blob.count.toNat

def Blob.free (blob : Blob) : List Record :=
  blob.records.drop blob.count.toNat

/-- The cache with the checksum that fits it. -/
def Blob.seal (blob : Blob) : Blob :=
  { blob with crc32 := Crc32.crc32 blob.body }

def reset : Blob :=
  Blob.seal ⟨kReplayMagic, blobBytes.toUInt16, 0, 0,
    List.replicate kBleActionReplayCapacity Record.empty, 0, by simp⟩

/-- A record in use is pending or applied and expires at a possible time. -/
def occupiedRecordValid (record : Record) : Bool :=
  (record.outcome == kReplayPending || record.outcome == kReplayApplied) &&
    kBleActionMinimumTrustedEpoch ≤ record.expiresAtEpoch.toNat &&
    record.expiresAtEpoch.toNat ≤ kBleActionMaximumTrustedEpoch

/-- Nothing was written to the record. -/
def Record.allZero (record : Record) : Bool :=
  record.serialized.all (· == 0)

/-- No record has the identifier of an earlier one. -/
def distinctActions (records : List Record) : Bool :=
  decide (records.Pairwise fun earlier record =>
    earlier.actionId ≠ record.actionId)

/-- What a stored cache must meet before it is taken over. -/
def Blob.valid (blob : Blob) : Bool :=
  blob.magic == kReplayMagic && blob.bytes == blobBytes.toUInt16 &&
    blob.count.toNat ≤ kBleActionReplayCapacity && blob.reserved == 0 &&
    blob.crc32 == Crc32.crc32 blob.body &&
    blob.occupied.all occupiedRecordValid &&
    distinctActions blob.occupied && blob.free.all Record.allZero

/-- The cache after a load, and whether the bytes were accepted. -/
def load (serialized : Bytes) : Blob × Bool :=
  if serialized.length ≠ blobBytes then (reset, false)
  else if !(Blob.parse serialized).valid then (reset, false)
  else (Blob.parse serialized, true)

/-! ## Operations -/

variable (sha256 : Bytes → Option (ByteVec 32))

/-- What is known of a command at a time. -/
def Blob.inspect (blob : Blob) (command : BleActionCommand)
    (trustedNowEpoch : Nat) : BleActionReplayDecision :=
  match commandDigest sha256 command with
  | none => .conflict
  | some digest =>
    if trustedNowEpoch < kBleActionMinimumTrustedEpoch ∨
        trustedNowEpoch > kBleActionMaximumTrustedEpoch then
      .timeUnavailable
    else if command.expiresAtEpoch ≤ trustedNowEpoch then .expired
    else if command.expiresAtEpoch - trustedNowEpoch >
        kBleActionMaximumExpirySeconds then .invalidExpiry
    else
      match blob.occupied.find? (·.actionId == command.actionId) with
      | none => .fresh
      | some record =>
        if record.commandDigest = digest then
          if record.outcome = kReplayApplied then .duplicateApplied
          else .duplicateIndeterminate
        else if record.expiresAtEpoch.toNat ≤ trustedNowEpoch then
          .fresh
        else .conflict

/-- The expired slot with this identifier, or else the first expired one. -/
def expiredSlot (actionId : ByteVec 16) (trustedNowEpoch : Nat) :
    Nat → Option Nat → List Record → Option Nat
  | _, slot, [] => slot
  | index, slot, record :: rest =>
    if record.expiresAtEpoch.toNat ≤ trustedNowEpoch then
      if record.actionId = actionId then some index
      else
        expiredSlot actionId trustedNowEpoch (index + 1)
          (slot.or (some index)) rest
    else expiredSlot actionId trustedNowEpoch (index + 1) slot rest

/-- Replace a record. -/
def Blob.put (blob : Blob) (slot : Nat) (record : Record) : Blob :=
  Blob.seal { blob with
    records := blob.records.set slot record
    records_length := by rw [List.length_set, blob.records_length] }

/-- Write the record of a command, once its slot is known. -/
def Blob.reserve (blob : Blob) (slot : Nat) (command : BleActionCommand) :
    Blob × Bool :=
  match commandDigest sha256 command with
  | none => (blob, false)
  | some digest =>
    (blob.put slot ⟨command.actionId, digest,
      command.expiresAtEpoch.toUInt32, kReplayPending⟩, true)

/-- Reserve a record for a new command, first that of an expired one. -/
def Blob.remember (blob : Blob) (command : BleActionCommand)
    (trustedNowEpoch : Nat) : Blob × Bool :=
  match blob.inspect sha256 command trustedNowEpoch with
  | .duplicateApplied | .duplicateIndeterminate => (blob, true)
  | .fresh =>
    match expiredSlot command.actionId trustedNowEpoch 0 none
      blob.occupied with
    | some slot => blob.reserve sha256 slot command
    | none =>
      if kBleActionReplayCapacity ≤ blob.count.toNat then (blob, false)
      else
        Blob.reserve sha256 { blob with count := blob.count + 1 }
          blob.count.toNat command
  | _ => (blob, false)

/-- The command is applied, if its record has its digest. -/
def Blob.markApplied (blob : Blob) (command : BleActionCommand) :
    Blob × Bool :=
  match commandDigest sha256 command with
  | none => (blob, false)
  | some digest =>
    match blob.occupied.findIdx?
      (·.actionId == command.actionId) with
    | none => (blob, false)
    | some slot =>
      match blob.occupied[slot]? with
      | none => (blob, false)
      | some record =>
        if record.commandDigest ≠ digest then (blob, false)
        else
          (blob.put slot { record with outcome := kReplayApplied },
            true)

/-! ## The layout of the blob -/

theorem Record.length_serialized (record : Record) :
    record.serialized.length = recordBytes := by
  simp [Record.serialized, recordBytes]

theorem Record.parse_append (record : Record) (rest : Bytes) :
    Record.parse (record.serialized ++ rest) = record := by
  have layout : record.serialized ++ rest =
      record.actionId.bytes ++ (record.commandDigest.bytes ++
        (littleEndian 4 record.expiresAtEpoch.toNat ++
          ([record.outcome] ++ rest))) := by
    simp [Record.serialized]
  have expires : getU32 (record.serialized ++ rest) 48 =
      record.expiresAtEpoch.toNat := by
    rw [layout, ← List.append_assoc]
    exact getU32_append _ _ _ _ (by simp) record.expiresAtEpoch.toNat_lt
  have outcome : (record.serialized ++ rest).getD 52 0 =
      record.outcome := by
    rw [layout, ← List.append_assoc, ← List.append_assoc]
    exact getD_append_cons _ _ _ (by simp)
  have identifier : ByteVec.slice 16 (record.serialized ++ rest) 0 =
      record.actionId := by
    rw [layout]
    exact ByteVec.front_append _ _
  have digest : ByteVec.slice 32 (record.serialized ++ rest) 16 =
      record.commandDigest := by
    rw [layout]
    exact ByteVec.slice_append _ _ _ (by simp)
  rw [Record.parse, expires, outcome, identifier, digest]
  simp

theorem parseRecords_append (records : List Record) (rest : Bytes) :
    parseRecords records.length
      ((records.map Record.serialized).flatten ++ rest) = records := by
  induction records with
  | nil => rfl
  | cons record records induction =>
    simp only [List.map_cons, List.flatten_cons, List.append_assoc,
      List.length_cons, parseRecords]
    rw [Record.parse_append,
      List.drop_left' (Record.length_serialized record), induction]

theorem length_flatten_serialized (records : List Record) :
    (records.map Record.serialized).flatten.length =
      recordBytes * records.length := by
  induction records with
  | nil => rfl
  | cons record records induction =>
    simp only [List.map_cons, List.flatten_cons, List.length_append,
      Record.length_serialized, induction, List.length_cons,
      Nat.mul_succ, Nat.add_comm]

theorem Blob.length_body (blob : Blob) : blob.body.length = 432 := by
  simp only [Blob.body, List.length_append, length_littleEndian,
    length_flatten_serialized, blob.records_length, recordBytes,
    kBleActionReplayCapacity, List.length_cons, List.length_nil]

theorem Blob.length_serialized (blob : Blob) :
    blob.serialized.length = blobBytes := by
  simp [Blob.serialized, Blob.length_body, blobBytes]

/-- A blob is what its bytes say. -/
theorem Blob.parse_serialized (blob : Blob) :
    Blob.parse blob.serialized = blob := by
  have layout : blob.serialized =
      littleEndian 4 blob.magic.toNat ++
        (littleEndian 2 blob.bytes.toNat ++ (blob.count :: blob.reserved ::
          ((blob.records.map Record.serialized).flatten ++
            littleEndian 4 blob.crc32.toNat))) := by
    simp [Blob.serialized, Blob.body]
  have magic : getU32 blob.serialized 0 = blob.magic.toNat := by
    exact getU32_append [] _ _ _ rfl blob.magic.toNat_lt
  have bytes : getU16 blob.serialized 4 = blob.bytes.toNat := by
    rw [layout]
    exact getU16_append _ _ _ _ (by simp) blob.bytes.toNat_lt
  have count : blob.serialized.getD 6 0 = blob.count := by
    rw [layout, ← List.append_assoc]
    exact getD_append_cons _ _ _ (by simp)
  have reserved : blob.serialized.getD 7 0 = blob.reserved := by
    rw [layout, ← List.append_assoc, List.append_cons]
    exact getD_append_cons _ _ _ (by simp)
  have records : parseRecords kBleActionReplayCapacity
      (blob.serialized.drop 8) = blob.records := by
    rw [layout, ← blob.records_length, ← List.append_assoc,
      List.append_cons, List.append_cons, List.drop_left' (by simp)]
    exact parseRecords_append blob.records _
  have crc : getU32 blob.serialized 432 = blob.crc32.toNat := by
    have behind := getU32_append blob.body [] blob.crc32.toNat 432
      blob.length_body blob.crc32.toNat_lt
    rwa [List.append_nil] at behind
  simp only [Blob.parse, magic, bytes, count, reserved, records, crc]
  simp

end Kitsu.Ble.ReplayCache
