import Kitsu.Crc32
import Kitsu.Ble.Action

/-!
# The sealed record of the controller store

The durable format of `kitsu_device_security.cpp`.  A slot holds a header, a
nonce, a tag and the sealed 320-byte body; the body carries the device identity,
the four controller entries and a checksum.  Two byte ranges of an older format
are kept and written as zeros.  The cipher belongs to the platform and is a
parameter here.

`validateBlob_encode` and `decodeLoaded_encodePlain` are the round trip: a record
that the store wrote validates under its generation and decodes to the material
it was made from.
-/

namespace Kitsu.Security.Record

open Kitsu.Lib.ByteString
open Kitsu.Ble.Permissions
open Kitsu.Crc32

abbrev kKitsuSecretBytes : Nat := 32
abbrev kKitsuDeviceIdBytes : Nat := 16
abbrev kKitsuControllerIdBytes : Nat := 16
abbrev kSecurityNonceBytes : Nat := 12
abbrev kSecurityTagBytes : Nat := 16
abbrev kKitsuControllerCapacity : Nat := 4
abbrev kSecurityBlobCapacity : Nat := 384
abbrev kSecurityVersion : Nat := 2
abbrev kOuterHeaderBytes : Nat := 44
abbrev kPlainBytes : Nat := 320
abbrev kPlainCrcOffset : Nat := kPlainBytes - 4
abbrev kRetiredKeyBytes : Nat := 32
abbrev kRetiredCounterBytes : Nat := 16

/-- The outer magic, `KSEC`. -/
def kOuterMagic : Bytes := ascii "KSEC"

/-- The magic of the sealed body, `KMAT`. -/
def kPlainMagic : Bytes := ascii "KMAT"

abbrev Secret := ByteVec kKitsuSecretBytes
abbrev ControllerId := ByteVec kKitsuControllerIdBytes

/-! ## Material -/

/-- One entry of the controller table. -/
structure Controller where
  valid : Bool
  role : ControllerRole
  id : ControllerId
  root : Secret
deriving DecidableEq

/-- The zeroed entry. -/
def Controller.zeroed : Controller where
  valid := false
  role := .owner
  id := .zero _
  root := .zero _

/-- The entry is in use for this identity. -/
def Controller.holds (controller : Controller) (id : ControllerId) : Bool :=
  controller.valid && controller.id == id

/-- The table of the four controller entries. -/
@[ext]
structure ControllerTable where
  entries : List Controller
  length_eq : entries.length = kKitsuControllerCapacity
deriving DecidableEq

namespace ControllerTable

/-- The table with no controller. -/
def empty : ControllerTable where
  entries := List.replicate kKitsuControllerCapacity .zeroed
  length_eq := rfl

/-- A list of four entries as a table. -/
def ofList? (entries : List Controller) : Option ControllerTable :=
  if length_eq : entries.length = kKitsuControllerCapacity then
    some ⟨entries, length_eq⟩
  else none

/-- Replace the entry at an index. -/
def set (table : ControllerTable) (index : Nat) (controller : Controller) :
    ControllerTable where
  entries := table.entries.set index controller
  length_eq := by simp [table.length_eq]

/-- The index of the entry in use for an identity. -/
def indexOf (table : ControllerTable) (id : ControllerId) : Option Nat :=
  table.entries.findIdx? (·.holds id)

/-- The first unused index. -/
def firstFree (table : ControllerTable) : Option Nat :=
  table.entries.findIdx? fun controller => !controller.valid

/-- The entry in use for an identity. -/
def find (table : ControllerTable) (id : ControllerId) :
    Option Controller :=
  table.entries.find? (·.holds id)

/-- The number of entries in use. -/
def count (table : ControllerTable) : Nat :=
  table.entries.countP (·.valid)

@[simp]
theorem ofList?_entries (table : ControllerTable) :
    ofList? table.entries = some table := by
  simp [ofList?, table.length_eq]

end ControllerTable

/-- What a record stores. -/
structure Material where
  deviceId : ByteVec kKitsuDeviceIdBytes
  deviceSecret : Secret
  controllers : ControllerTable
  controllerRetirementPending : Bool
deriving DecidableEq

/-- The zeroed material. -/
def Material.zeroed : Material where
  deviceId := .zero _
  deviceSecret := .zero _
  controllers := .empty
  controllerRetirementPending := false

/-! ## The sealed body -/

/-- The 52 bytes of one entry. -/
def encodeController (controller : Controller) : Option Bytes :=
  (encodeControllerRolePadding controller.role).map fun padding =>
    (if controller.valid then 1 else 0) ::
      (padding ++ (controller.id.bytes ++ controller.root.bytes))

/-- The entries in table order; an entry without a storable role fails. -/
def encodeControllers : List Controller → Option Bytes
  | [] => some []
  | controller :: rest => do
      let entry ← encodeController controller
      let entries ← encodeControllers rest
      some (entry ++ entries)

/-- The flag word. -/
def encodeFlags (material : Material) : Nat :=
  if material.controllerRetirementPending then 2 else 0

/-- The body before its checksum. -/
def encodeBody (material : Material) : Option Bytes :=
  (encodeControllers material.controllers.entries).map fun entries =>
    kPlainMagic ++ (littleEndian 2 kSecurityVersion ++
      (littleEndian 2 kPlainBytes ++ (littleEndian 4 (encodeFlags material) ++
          (material.deviceId.bytes ++ (material.deviceSecret.bytes ++
            (List.replicate kRetiredKeyBytes 0 ++ (entries ++
              List.replicate kRetiredCounterBytes 0)))))))

/-- The body with its checksum. -/
def encodePlain (material : Material) : Option (ByteVec kPlainBytes) :=
  (encodeBody material).bind fun body =>
    ByteVec.ofBytes? kPlainBytes
      (body ++ littleEndian 4 (crc32 body).toNat)

/-- The body has the right magic, version, size and checksum. -/
def validPlain (plain : ByteVec kPlainBytes) : Bool :=
  plain.bytes.take 4 == kPlainMagic &&
    getU16 plain.bytes 4 == kSecurityVersion &&
    getU16 plain.bytes 6 == kPlainBytes &&
    (crc32 (plain.bytes.take kPlainCrcOffset)).toNat ==
      getU32 plain.bytes kPlainCrcOffset

/-- Some byte is not zero. -/
def containsNonzero (input : Bytes) : Bool :=
  input.any (· != 0)

/-- Read `count` entries from the cursor. -/
def decodeControllers : Nat → Bytes → Option (List Controller × Bytes)
  | 0, cursor => some ([], cursor)
  | count + 1, cursor => do
      let role ← decodeControllerRolePadding ((cursor.drop 1).take 3)
      let controller : Controller :=
        { valid := cursor.headD 0 != 0
          role := role
          id := .front _ (cursor.drop 4)
          root := .front _ (cursor.drop 20) }
      let (rest, cursor) ← decodeControllers count (cursor.drop 52)
      some (controller :: rest, cursor)

/--
Decode a validated body.  The flag says that a retired range is in use, which
only a record of the older firmware has.
-/
def decodeLoaded (plain : ByteVec kPlainBytes) : Option (Material × Bool) :=
  let flags := getU32 plain.bytes 8
  let cursor := plain.bytes.drop 12
  let deviceId := ByteVec.front _ cursor
  let cursor := cursor.drop kKitsuDeviceIdBytes
  let deviceSecret := ByteVec.front _ cursor
  let cursor := cursor.drop kKitsuSecretBytes
  let retiredKey :=
    flags % 2 != 0 || containsNonzero (cursor.take kRetiredKeyBytes)
  let cursor := cursor.drop kRetiredKeyBytes
  match decodeControllers kKitsuControllerCapacity cursor with
  | none => none
  | some (entries, cursor) =>
    (ControllerTable.ofList? entries).map fun controllers =>
      ({ deviceId := deviceId
         deviceSecret := deviceSecret
         controllers := controllers
         controllerRetirementPending := flags / 2 % 2 != 0 },
        retiredKey ||
          containsNonzero (cursor.take kRetiredCounterBytes))

/-! ## Storable tables -/

/-- Every entry has a role the format can store. -/
def ControllerTable.Storable (table : ControllerTable) : Prop :=
  ∀ controller ∈ table.entries, controller.role ≠ .invalid

variable {controller : Controller}

theorem length_encodeController {entry : Bytes}
    (encoded : encodeController controller = some entry) : entry.length = 52 := by
  simp only [encodeController, Option.map_eq_some_iff] at encoded
  rcases encoded with ⟨padding, stored, rfl⟩
  cases role : controller.role <;>
    simp [role, encodeControllerRolePadding] at stored <;>
    simp [← stored, kKitsuControllerIdBytes, kKitsuSecretBytes]

variable {entries : List Controller}

theorem encodeControllers_storable
    (storable : ∀ controller ∈ entries, controller.role ≠ .invalid) :
    ∃ bytes, encodeControllers entries = some bytes ∧
      bytes.length = 52 * entries.length := by
  induction entries with
  | nil => exact ⟨[], rfl, rfl⟩
  | cons controller entries induction =>
    rcases induction fun other member =>
      storable other (List.mem_cons_of_mem _ member) with
      ⟨bytes, encoded, length_eq⟩
    have role := storable controller List.mem_cons_self
    have entryEncoded :
        ∃ entry, encodeController controller = some entry := by
      unfold encodeController
      cases held : controller.role with
      | owner => exact ⟨_, rfl⟩
      | caretaker => exact ⟨_, rfl⟩
      | invalid => exact absurd held role
    rcases entryEncoded with ⟨entry, entryEncoded⟩
    refine ⟨entry ++ bytes, by simp [encodeControllers, entryEncoded, encoded], ?_⟩
    have entryLength := length_encodeController entryEncoded
    simp only [List.length_append, List.length_cons]
    omega

variable {material : Material}

/-- The body of a storable table exists. -/
theorem encodePlain_storable (storable : material.controllers.Storable) :
    ∃ plain, encodePlain material = some plain := by
  rcases encodeControllers_storable storable with
    ⟨entries, encoded, length_eq⟩
  rw [material.controllers.length_eq] at length_eq
  simp only [encodePlain, encodeBody, encoded, Option.map_some,
    Option.bind_some, ByteVec.ofBytes?]
  rw [dif_pos]
  · exact ⟨_, rfl⟩
  · simp [length_eq, kPlainMagic, ascii, kKitsuDeviceIdBytes,
      kKitsuSecretBytes, kRetiredKeyBytes, kRetiredCounterBytes,
      kKitsuControllerCapacity, kPlainBytes]

theorem decodeControllers_storable {count : Nat} {cursor rest : Bytes}
    (decoded : decodeControllers count cursor = some (entries, rest)) :
    ∀ controller ∈ entries, controller.role ≠ .invalid := by
  induction count generalizing cursor entries with
  | zero =>
    simp only [decodeControllers, Option.some.injEq,
      Prod.mk.injEq] at decoded
    simp [← decoded.1]
  | succ count induction =>
    simp only [decodeControllers, Option.bind_eq_bind,
      Option.bind_eq_some_iff, Option.some.injEq,
      Prod.mk.injEq] at decoded
    rcases decoded with
      ⟨role, roleDecoded, ⟨tail, after⟩, tailDecoded, rfl, rfl⟩
    intro controller member
    rcases List.mem_cons.mp member with rfl | member
    · exact decodeControllerRolePadding_ne_invalid roleDecoded
    · exact induction tailDecoded controller member

variable {plain : ByteVec kPlainBytes}

/-- Every table read from a record is storable. -/
theorem decodeLoaded_storable {retired : Bool}
    (decoded : decodeLoaded plain = some (material, retired)) :
    material.controllers.Storable := by
  simp only [decodeLoaded] at decoded
  split at decoded
  · simp at decoded
  · rename_i entries cursor found
    simp only [ControllerTable.ofList?, Option.map_eq_some_iff,
      Prod.mk.injEq] at decoded
    rcases decoded with ⟨table, sized, rfl, _⟩
    split at sized
    · simp only [Option.some.injEq] at sized
      subst sized
      exact decodeControllers_storable found
    · simp at sized

/-! ## The round trip of the body -/

/-- Reading one encoded entry in front of the others. -/
theorem decodeControllers_encodeController {entry : Bytes}
    (encoded : encodeController controller = some entry) (count : Nat)
    (rest : Bytes) :
    decodeControllers (count + 1) (entry ++ rest) =
      (decodeControllers count rest).map fun decoded =>
        (controller :: decoded.1, decoded.2) := by
  simp only [encodeController, Option.map_eq_some_iff] at encoded
  rcases encoded with ⟨padding, stored, rfl⟩
  have role := decode_encodeControllerRolePadding stored
  have length_eq : padding.length = 3 := by
    cases held : controller.role <;>
      simp [held, encodeControllerRolePadding] at stored <;>
      simp [← stored]
  rcases List.length_eq_three.mp length_eq with ⟨kind, reserved, spare, rfl⟩
  have dropId :
      (controller.id.bytes ++ (controller.root.bytes ++ rest)).drop 16 =
        controller.root.bytes ++ rest :=
    ByteVec.drop_bytes_append _ _
  have dropRoot :
      (controller.id.bytes ++ (controller.root.bytes ++ rest)).drop 48 =
        rest := by
    rw [show 48 = 16 + 32 from rfl, ← List.drop_drop, dropId]
    exact ByteVec.drop_bytes_append _ _
  rw [decodeControllers]
  simp only [List.cons_append, List.nil_append, List.append_assoc,
    List.drop_succ_cons, List.drop_zero, List.take_succ_cons,
    List.take_zero, role, Option.bind_eq_bind, Option.bind_some,
    dropId, dropRoot, ByteVec.front_append, List.headD_cons]
  have valid :
      ((if controller.valid then 1 else 0 : UInt8) != 0) =
        controller.valid := by
    cases controller.valid <;> rfl
  rw [valid]
  cases decodeControllers count rest <;> rfl

theorem decodeControllers_encodeControllers {bytes : Bytes}
    (encoded : encodeControllers entries = some bytes) (rest : Bytes) :
    decodeControllers entries.length (bytes ++ rest) =
      some (entries, rest) := by
  induction entries generalizing bytes with
  | nil =>
    simp only [encodeControllers, Option.some.injEq] at encoded
    simp [← encoded, decodeControllers]
  | cons controller entries induction =>
    simp only [encodeControllers, Option.bind_eq_bind,
      Option.bind_eq_some_iff, Option.some.injEq] at encoded
    rcases encoded with ⟨entry, entryEncoded, tail, tailEncoded, rfl⟩
    rw [List.length_cons, List.append_assoc,
      decodeControllers_encodeController entryEncoded, induction tailEncoded]
    rfl

/-- The eight bytes in front of the flag word. -/
def plainHeader : Bytes :=
  kPlainMagic ++ (littleEndian 2 kSecurityVersion ++ littleEndian 2 kPlainBytes)

/-- The fields of an encoded body, in order. -/
theorem encodePlain_fields (encoded : encodePlain material = some plain) :
    ∃ entries body,
      encodeControllers material.controllers.entries = some entries ∧
      encodeBody material = some body ∧
      plain.bytes = body ++ littleEndian 4 (crc32 body).toNat ∧
      plain.bytes = plainHeader ++
        (littleEndian 4 (encodeFlags material) ++
          (material.deviceId.bytes ++ (material.deviceSecret.bytes ++
            (List.replicate kRetiredKeyBytes 0 ++ (entries ++
              (List.replicate kRetiredCounterBytes 0 ++
                littleEndian 4 (crc32 body).toNat)))))) := by
  simp only [encodePlain, Option.bind_eq_some_iff,
    ByteVec.ofBytes?] at encoded
  rcases encoded with ⟨body, bodyEncoded, sized⟩
  split at sized
  · rename_i length_eq
    simp only [Option.some.injEq] at sized
    have layout := bodyEncoded
    simp only [encodeBody, Option.map_eq_some_iff] at layout
    rcases layout with ⟨entries, entriesEncoded, rfl⟩
    refine ⟨entries, _, entriesEncoded, bodyEncoded, ?_, ?_⟩
    · rw [← sized]
    · rw [← sized]
      simp only [plainHeader, List.append_assoc]
  · simp at sized

theorem length_plainHeader : plainHeader.length = 8 := by
  decide

theorem validPlain_encodePlain (encoded : encodePlain material = some plain) :
    validPlain plain = true := by
  rcases encodePlain_fields encoded with
    ⟨entries, body, _, _, sealed, fields⟩
  have length_eq : body.length = kPlainCrcOffset := by
    have total := congrArg List.length sealed
    simp only [ByteVec.length_bytes, List.length_append,
      length_littleEndian] at total
    exact (Nat.sub_eq_of_eq_add total).symm
  have checksum : getU32 plain.bytes kPlainCrcOffset =
      (crc32 body).toNat := by
    have read := getU32_append body [] (crc32 body).toNat _ length_eq
      (UInt32.toNat_lt _)
    rwa [List.append_nil, ← sealed] at read
  have covered : plain.bytes.take kPlainCrcOffset = body := by
    rw [sealed, List.take_left' length_eq]
  have magic : plain.bytes.take 4 = kPlainMagic := by
    rw [fields, plainHeader, List.append_assoc,
      List.take_left' (by decide)]
  have version : getU16 plain.bytes 4 = kSecurityVersion := by
    rw [fields, plainHeader, List.append_assoc, List.append_assoc]
    exact getU16_append _ _ _ _ (by decide) (by decide)
  have size : getU16 plain.bytes 6 = kPlainBytes := by
    rw [fields, plainHeader, List.append_assoc, List.append_assoc,
      ← List.append_assoc kPlainMagic]
    exact getU16_append _ _ _ _ (by decide) (by decide)
  simp [validPlain, magic, version, size, checksum, covered]

/-- A body decodes to the material it was made from. -/
theorem decodeLoaded_encodePlain (encoded : encodePlain material = some plain) :
    decodeLoaded plain = some (material, false) := by
  rcases encodePlain_fields encoded with
    ⟨entries, body, entriesEncoded, _, _, fields⟩
  have flags : getU32 plain.bytes 8 = encodeFlags material := by
    rw [fields]
    refine getU32_append _ _ _ _ length_plainHeader ?_
    unfold encodeFlags
    split <;> decide
  have cursor : plain.bytes.drop 12 =
      material.deviceId.bytes ++ (material.deviceSecret.bytes ++
        (List.replicate kRetiredKeyBytes 0 ++ (entries ++
          (List.replicate kRetiredCounterBytes 0 ++
            littleEndian 4 (crc32 body).toNat)))) := by
    rw [fields, show 12 = 8 + 4 from rfl, ← List.drop_drop,
      List.drop_left' length_plainHeader,
      List.drop_left' (length_littleEndian _ _)]
  have decoded := decodeControllers_encodeControllers entriesEncoded
    (List.replicate kRetiredCounterBytes 0 ++ littleEndian 4 (crc32 body).toNat)
  rw [material.controllers.length_eq] at decoded
  have pending : (encodeFlags material / 2 % 2 != 0) =
      material.controllerRetirementPending := by
    unfold encodeFlags
    cases material.controllerRetirementPending <;> rfl
  have retired : encodeFlags material % 2 = 0 := by
    unfold encodeFlags
    split <;> rfl
  have zeros (count : Nat) :
      containsNonzero (List.replicate count 0) = false := by
    simp [containsNonzero]
  simp only [decodeLoaded, cursor, flags, ByteVec.front_append,
    ByteVec.drop_bytes_append, pending, retired,
    List.take_left' List.length_replicate,
    List.drop_left' List.length_replicate, decoded, zeros,
    ControllerTable.ofList?_entries]
  rfl

/-! ## The record -/

/-- The cryptography the platform provides. -/
structure Platform where
  deriveWrappingKey : ByteVec 8 → Option Secret
  sealRecord : Secret → UInt32 → ByteVec kSecurityNonceBytes →
    ByteVec kPlainBytes →
      Option (ByteVec kPlainBytes × ByteVec kSecurityTagBytes)
  openRecord : Secret → UInt32 → ByteVec kSecurityNonceBytes →
    ByteVec kPlainBytes → ByteVec kSecurityTagBytes →
      Option (ByteVec kPlainBytes)

/-- Opening returns what was sealed. -/
def Platform.OpensSealed (platform : Platform) : Prop :=
  ∀ key generation nonce plain cipher tag,
    platform.sealRecord key generation nonce plain = some (cipher, tag) →
      platform.openRecord key generation nonce cipher tag = some plain

variable (platform : Platform) (key : Secret)

/-- The sixteen bytes in front of the nonce. -/
def encodeHeader (generation : UInt32) : Bytes :=
  kOuterMagic ++ (littleEndian 2 kSecurityVersion ++
    (littleEndian 2 kOuterHeaderBytes ++ (littleEndian 4 generation.toNat ++
        (littleEndian 2 kPlainBytes ++ littleEndian 2 kPlainBytes))))

/-- The record of a generation, for a nonce drawn by the caller. -/
def encode (generation : UInt32) (material : Material)
    (nonce : ByteVec kSecurityNonceBytes) : Option Bytes := do
  let plain ← encodePlain material
  let (cipher, tag) ← platform.sealRecord key generation nonce plain
  some (encodeHeader generation ++ (nonce.bytes ++ (tag.bytes ++ cipher.bytes)))

/-- The header check, the authenticated opening and the body check. -/
def validateBlob (blob : Bytes) :
    Option (UInt32 × ByteVec kPlainBytes) :=
  if blob.length ≠ kOuterHeaderBytes + kPlainBytes ∨
      blob.take 4 ≠ kOuterMagic ∨
      getU16 blob 4 ≠ kSecurityVersion ∨
      getU16 blob 6 ≠ kOuterHeaderBytes ∨
      getU16 blob 12 ≠ kPlainBytes ∨
      getU16 blob 14 ≠ kPlainBytes then
    none
  else
    let generation := UInt32.ofNat (getU32 blob 8)
    match platform.openRecord key generation (.slice _ blob 16)
        (.slice _ blob kOuterHeaderBytes) (.slice _ blob 28) with
    | none => none
    | some plain =>
      if validPlain plain then some (generation, plain) else none

/-! ## The round trip of the record -/

theorem length_encodeHeader (generation : UInt32) :
    (encodeHeader generation).length = 16 := by
  simp [encodeHeader, kOuterMagic, ascii]

theorem encodeHeader_generation (generation : UInt32) (rest : Bytes) :
    getU32 (encodeHeader generation ++ rest) 8 = generation.toNat := by
  have read := getU32_append
    (kOuterMagic ++ (littleEndian 2 kSecurityVersion ++
      littleEndian 2 kOuterHeaderBytes))
    (littleEndian 2 kPlainBytes ++ littleEndian 2 kPlainBytes ++ rest)
    generation.toNat 8 (by decide) (UInt32.toNat_lt _)
  simpa only [encodeHeader, List.append_assoc] using read

variable {generation : UInt32} {nonce : ByteVec kSecurityNonceBytes}

/-- A record that was written validates under its generation. -/
theorem validateBlob_encode (opens : platform.OpensSealed) {blob : Bytes}
    (encoded : encode platform key generation material nonce = some blob) :
    ∃ plain, encodePlain material = some plain ∧
      validateBlob platform key blob = some (generation, plain) := by
  simp only [encode, Option.bind_eq_bind, Option.bind_eq_some_iff,
    Option.some.injEq] at encoded
  rcases encoded with ⟨plain, plainEncoded, ⟨cipher, tag⟩, sealed, rfl⟩
  refine ⟨plain, plainEncoded, ?_⟩
  have header := length_encodeHeader generation
  have nonceRead := ByteVec.slice_append (encodeHeader generation)
    (tag.bytes ++ cipher.bytes) nonce header
  have tagRead := ByteVec.slice_append
    (encodeHeader generation ++ nonce.bytes) cipher.bytes tag
    (show _ = 28 by simp [header, kSecurityNonceBytes])
  have cipherRead := ByteVec.slice_append
    (encodeHeader generation ++ (nonce.bytes ++ tag.bytes)) [] cipher
    (show _ = 44 by
      simp [header, kSecurityNonceBytes, kSecurityTagBytes])
  simp only [List.append_assoc, List.append_nil] at tagRead cipherRead
  have opened := opens key generation nonce plain cipher tag sealed
  have accepted := validPlain_encodePlain plainEncoded
  have stamp := encodeHeader_generation generation
    (nonce.bytes ++ (tag.bytes ++ cipher.bytes))
  have generationRead :
      UInt32.ofNat (getU32 (encodeHeader generation ++
        (nonce.bytes ++ (tag.bytes ++ cipher.bytes))) 8) =
          generation := by
    rw [stamp, UInt32.ofNat_toNat]
  rw [validateBlob, if_neg]
  · simp only [generationRead, nonceRead, tagRead, cipherRead, opened,
      accepted, if_true]
  · rw [getU16_append_left _ _ (by omega), getU16_append_left _ _ (by omega),
      getU16_append_left _ _ (by omega), getU16_append_left _ _ (by omega),
      List.take_append_of_le_length (by omega)]
    simp only [List.length_append, ByteVec.length_bytes, header]
    simp only [not_or, not_not]
    exact ⟨rfl, rfl, rfl, rfl, rfl, rfl⟩

theorem length_encode {blob : Bytes}
    (encoded : encode platform key generation material nonce = some blob) :
    blob.length = kOuterHeaderBytes + kPlainBytes := by
  simp only [encode, Option.bind_eq_bind, Option.bind_eq_some_iff,
    Option.some.injEq] at encoded
  rcases encoded with ⟨plain, _, ⟨cipher, tag⟩, _, rfl⟩
  simp [length_encodeHeader, kSecurityNonceBytes, kSecurityTagBytes,
    kPlainBytes, kOuterHeaderBytes]

end Kitsu.Security.Record
