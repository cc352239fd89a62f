import Kitsu.Lib.ByteString
import Mathlib.Tactic.Common

/-!
# Tables of records of one size

A codec of fixed size writes a record as so many bytes and reads it from the front
of a buffer.  Records packed one behind another are then read back one by one at
multiples of the size, and what is read from a buffer packs to its front again.
-/

namespace Kitsu.Lib.FixedRecords

open Kitsu.Lib.ByteString

/-- Writing back what a field of this length denotes. -/
theorem littleEndian_ofLittleEndian (bytes : Bytes) :
    littleEndian bytes.length (ofLittleEndian bytes) = bytes := by
  induction bytes with
  | nil => rfl
  | cons byte rest induction =>
    have bound := byte.toNat_lt
    have low : (byte.toNat + 256 * ofLittleEndian rest) % 256 =
        byte.toNat := by
      omega
    have high : (byte.toNat + 256 * ofLittleEndian rest) / 256 =
        ofLittleEndian rest := by
      omega
    rw [List.length_cons, ofLittleEndian, littleEndian, low, high, induction,
      Nat.toUInt8, UInt8.ofNat_toNat]

theorem ofLittleEndian_lt (bytes : Bytes) :
    ofLittleEndian bytes < 256 ^ bytes.length := by
  induction bytes with
  | nil => exact Nat.one_pos
  | cons byte rest induction =>
    have bound := byte.toNat_lt
    rw [List.length_cons, ofLittleEndian, Nat.pow_succ]
    omega

section Field

variable {buffer : Bytes} {offset : Nat}

/-- A field's bytes are those of the number it holds. -/
theorem littleEndian_field {size : Nat} (inside : offset + size ≤ buffer.length) :
    littleEndian size (ofLittleEndian ((buffer.drop offset).take size)) =
      (buffer.drop offset).take size := by
  have length : ((buffer.drop offset).take size).length = size := by
    rw [List.length_take, List.length_drop]
    omega
  have written := littleEndian_ofLittleEndian ((buffer.drop offset).take size)
  rwa [length] at written

theorem littleEndian_getU16 (inside : offset + 2 ≤ buffer.length) :
    littleEndian 2 (getU16 buffer offset) = (buffer.drop offset).take 2 :=
  littleEndian_field inside

theorem littleEndian_getU32 (inside : offset + 4 ≤ buffer.length) :
    littleEndian 4 (getU32 buffer offset) = (buffer.drop offset).take 4 :=
  littleEndian_field inside

theorem getU32_lt : getU32 buffer offset < 4294967296 := by
  have bound := ofLittleEndian_lt ((buffer.drop offset).take 4)
  have size := List.length_take_le 4 (buffer.drop offset)
  exact Nat.lt_of_lt_of_le bound
    (Nat.pow_le_pow_right (by decide) size)

theorem toNat_getU32 :
    (UInt32.ofNat (getU32 buffer offset)).toNat = getU32 buffer offset :=
  UInt32.toNat_ofNat_of_lt' getU32_lt

end Field

/-- An array is read from inside a buffer as it stands there. -/
theorem slice_bytes {count offset : Nat} {buffer : Bytes}
    (inside : offset + count ≤ buffer.length) :
    (ByteVec.slice count buffer offset).bytes =
      (buffer.drop offset).take count := by
  have fits : count ≤ (buffer.drop offset).length := by
    rw [List.length_drop]
    omega
  exact List.take_append_of_le_length fits

/-! ## Fields by what stands at their offset -/

section At

variable {buffer rest : Bytes} {offset : Nat}

theorem getU16_at {value : Nat} (bounded : value < 65536)
    (stands : buffer.drop offset = littleEndian 2 value ++ rest) :
    getU16 buffer offset = value := by
  rw [getU16, stands, List.take_left' (length_littleEndian 2 value),
    ofLittleEndian_littleEndian]
  exact Nat.mod_eq_of_lt bounded

theorem getU32_at {value : UInt32}
    (stands : buffer.drop offset = littleEndian 4 value.toNat ++ rest) :
    getU32 buffer offset = value.toNat := by
  rw [getU32, stands, List.take_left' (length_littleEndian 4 value.toNat),
    ofLittleEndian_littleEndian]
  exact Nat.mod_eq_of_lt value.toNat_lt

theorem slice_at {count : Nat} {array : ByteVec count}
    (stands : buffer.drop offset = array.bytes ++ rest) :
    ByteVec.slice count buffer offset = array := by
  apply ByteVec.ext
  simp only [ByteVec.slice, stands, List.append_assoc, ByteVec.take_bytes_append]

theorem getD_at {value : UInt8} (stands : buffer.drop offset = value :: rest) :
    buffer.getD offset 0 = value := by
  have found : buffer[offset]? = some value := by
    rw [← Nat.add_zero offset, ← List.getElem?_drop, stands]
    rfl
  rw [List.getD_eq_getElem?_getD, found, Option.getD_some]

/-- What stands behind a field of known length. -/
theorem drop_at {field : Bytes} {size : Nat} (length : field.length = size)
    (stands : buffer.drop offset = field ++ rest) :
    buffer.drop (offset + size) = rest := by
  rw [← List.drop_drop, stands, List.drop_left' length]

end At

/-- A buffer is cut behind a field. -/
theorem take_field {buffer : Bytes} {offset size count : Nat} :
    (buffer.drop offset).take (size + count) =
      (buffer.drop offset).take size ++
        (buffer.drop (offset + size)).take count := by
  rw [List.take_add, List.drop_drop]

theorem take_byte {buffer : Bytes} {offset count : Nat}
    (inside : offset < buffer.length) :
    (buffer.drop offset).take (count + 1) =
      buffer.getD offset 0 :: (buffer.drop (offset + 1)).take count := by
  rw [List.drop_eq_getElem_cons inside, List.take_succ_cons,
    List.getD_eq_getElem?_getD, List.getElem?_eq_getElem inside, Option.getD_some]

variable {α β : Type}

/-- A record of fixed size, and what is read back of it. -/
structure Format (size : Nat) (write : α → Bytes) (read : Bytes → β)
    (image : α → β) : Prop where
  length : ∀ value, (write value).length = size
  read_write : ∀ value rest, read (write value ++ rest) = image value

/-- A format that reads back what was written, and writes what was read. -/
structure Codec (size : Nat) (write : α → Bytes) (read : Bytes → α) : Prop
    extends Format size write read id where
  write_read : ∀ buffer, size ≤ buffer.length →
    write (read buffer) = buffer.take size

variable {size : Nat} {write : α → Bytes}

/-- The records of a table, read one by one. -/
def table (size : Nat) (read : Bytes → β) (count : Nat) (buffer : Bytes) :
    List β :=
  (List.range count).map fun index => read (buffer.drop (index * size))

theorem table_succ {read : Bytes → β} (count : Nat) (buffer : Bytes) :
    table size read (count + 1) buffer =
      read buffer :: table size read count (buffer.drop size) := by
  rw [table, List.range_succ_eq_map, List.map_cons, List.map_map, Nat.zero_mul,
    List.drop_zero, table]
  congr 1
  apply List.map_congr_left
  intro index _
  rw [Function.comp_apply, List.drop_drop, Nat.succ_mul, Nat.add_comm]

theorem length_flatten {read : Bytes → β} {image : α → β}
    (format : Format size write read image) (values : List α) :
    (values.map write).flatten.length = values.length * size := by
  induction values with
  | nil => simp
  | cons value later induction =>
    rw [List.map_cons, List.flatten_cons, List.length_append, induction,
      format.length, List.length_cons, Nat.succ_mul, Nat.add_comm]

/-- Packed records are read back. -/
theorem table_flatten {read : Bytes → β} {image : α → β}
    (format : Format size write read image) (values : List α) (rest : Bytes) :
    table size read values.length ((values.map write).flatten ++ rest) =
      values.map image := by
  induction values with
  | nil => rfl
  | cons value later induction =>
    rw [List.length_cons, table_succ, List.map_cons, List.flatten_cons,
      List.append_assoc, format.read_write,
      List.drop_left' (format.length value), induction, List.map_cons]

/-- The records of a table pack to its bytes. -/
theorem flatten_table {read : Bytes → α} (codec : Codec size write read)
    {count : Nat} {buffer : Bytes} (inside : count * size ≤ buffer.length) :
    ((table size read count buffer).map write).flatten =
      buffer.take (count * size) := by
  induction count generalizing buffer with
  | zero => simp [table]
  | succ count induction =>
    rw [Nat.succ_mul] at inside ⊢
    have rest : count * size ≤ (buffer.drop size).length := by
      rw [List.length_drop]
      omega
    rw [table_succ, List.map_cons, List.flatten_cons, induction rest,
      codec.write_read buffer (by omega), Nat.add_comm, List.take_add]

end Kitsu.Lib.FixedRecords
