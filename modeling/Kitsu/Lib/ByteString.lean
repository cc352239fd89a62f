import Mathlib.Algebra.Group.Nat.Defs
import Mathlib.Data.List.Basic
import Mathlib.Data.Nat.Basic

/-!
# Byte strings and fixed-length byte arrays

Buffers of a known size are carried as `ByteVec`, a byte string together with
the proof of its length, so that a key, a nonce or a record field of the wrong
size cannot be built.  Multi-byte integers are laid out by `littleEndian` and
`bigEndian`; the reading functions are their left inverses.
-/

namespace Kitsu.Lib.ByteString

/-- A byte string. -/
abbrev Bytes := List UInt8

/-- The bytes of an ASCII text. -/
def ascii (text : String) : Bytes :=
  text.toList.map fun character => character.toNat.toUInt8

/--
A table of characters is checked entry by entry; instance search would run
through all bytes.
-/
theorem forall_mem_of_all {alphabet : Bytes} {property : UInt8 → Prop}
    [DecidablePred property]
    (all : (alphabet.all fun entry => decide (property entry)) = true) :
    ∀ entry ∈ alphabet, property entry := by
  intro entry member
  exact of_decide_eq_true (List.all_eq_true.mp all entry member)

/-! ## Fixed-length arrays -/

/-- An array of exactly `count` bytes. -/
@[ext]
structure ByteVec (count : Nat) where
  bytes : Bytes
  length_eq : bytes.length = count
deriving DecidableEq

variable {count : Nat}

namespace ByteVec

/-- The array whose bytes are all `value`. -/
def replicate (count : Nat) (value : UInt8) : ByteVec count :=
  ⟨List.replicate count value, List.length_replicate⟩

/-- The zeroed array. -/
abbrev zero (count : Nat) : ByteVec count :=
  replicate count 0

/-- The array a byte source fills, one index at a time. -/
def generate (count : Nat) (source : Nat → UInt8) : ByteVec count :=
  ⟨(List.range count).map source, by simp⟩

/-- The array at `offset` of a buffer, padded with zeros past its end. -/
def slice (count : Nat) (buffer : Bytes) (offset : Nat) : ByteVec count :=
  ⟨(buffer.drop offset ++ List.replicate count 0).take count, by simp⟩

/-- The array at the front of a buffer. -/
abbrev front (count : Nat) (buffer : Bytes) : ByteVec count :=
  slice count buffer 0

/-- A byte string taken as an array, when it has the right length. -/
def ofBytes? (count : Nat) (bytes : Bytes) : Option (ByteVec count) :=
  if length_eq : bytes.length = count then some ⟨bytes, length_eq⟩ else none

/-- Overwrite the front of an array with the bytes written so far. -/
def overwrite {count : Nat} (old : ByteVec count) (written : Bytes) :
    ByteVec count :=
  ⟨(written ++ old.bytes.drop written.length).take count, by
    simp only [List.length_take, List.length_append, List.length_drop,
      old.length_eq]
    omega⟩

/-- Every byte is zero. -/
def allZero {count : Nat} (array : ByteVec count) : Bool :=
  array.bytes.all (· == 0)

@[simp]
theorem length_bytes (array : ByteVec count) : array.bytes.length = count :=
  array.length_eq

@[simp]
theorem take_bytes_append (array : ByteVec count) (rest : Bytes) :
    (array.bytes ++ rest).take count = array.bytes :=
  List.take_left' array.length_eq

@[simp]
theorem drop_bytes_append (array : ByteVec count) (rest : Bytes) :
    (array.bytes ++ rest).drop count = rest :=
  List.drop_left' array.length_eq

/-- Reading back an array that was laid out behind a known header. -/
theorem slice_append {offset : Nat} (header rest : Bytes)
    (array : ByteVec count) (offset_eq : header.length = offset) :
    slice count (header ++ (array.bytes ++ rest)) offset = array := by
  apply ByteVec.ext
  simp only [slice]
  rw [List.drop_left' offset_eq, List.append_assoc, take_bytes_append]

@[simp]
theorem front_append (array : ByteVec count) (rest : Bytes) :
    front count (array.bytes ++ rest) = array :=
  slice_append [] rest array rfl

end ByteVec

/-! ## Integers in memory -/

/-- The `count` low bytes of a number, least significant first. -/
def littleEndian : Nat → Nat → Bytes
  | 0, _ => []
  | count + 1, value =>
    (value % 256).toUInt8 :: littleEndian count (value / 256)

/-- The number a little-endian byte string denotes. -/
def ofLittleEndian : Bytes → Nat
  | [] => 0
  | byte :: rest => byte.toNat + 256 * ofLittleEndian rest

/-- The `count` low bytes of a number, most significant first. -/
def bigEndian (count value : Nat) : Bytes :=
  (littleEndian count value).reverse

@[simp]
theorem length_littleEndian (count value : Nat) :
    (littleEndian count value).length = count := by
  induction count generalizing value with
  | zero => rfl
  | succ count induction => simp [littleEndian, induction]

/-- Reading recovers the stored number modulo the size of the field. -/
theorem ofLittleEndian_littleEndian (count value : Nat) :
    ofLittleEndian (littleEndian count value) = value % 256 ^ count := by
  induction count generalizing value with
  | zero => simp [littleEndian, ofLittleEndian, Nat.mod_one]
  | succ count induction =>
    have byte : (value % 256).toUInt8.toNat = value % 256 := by
      rw [Nat.toUInt8, UInt8.toNat_ofNat_of_lt']
      exact Nat.mod_lt _ (by decide)
    rw [littleEndian, ofLittleEndian, induction, byte, Nat.pow_succ,
      Nat.mul_comm (256 ^ count), Nat.mod_mul]

/-- The 16-bit field at `offset`. -/
def getU16 (buffer : Bytes) (offset : Nat) : Nat :=
  ofLittleEndian ((buffer.drop offset).take 2)

/-- The 32-bit field at `offset`. -/
def getU32 (buffer : Bytes) (offset : Nat) : Nat :=
  ofLittleEndian ((buffer.drop offset).take 4)

theorem getU16_append_left (header rest : Bytes) {offset : Nat}
    (inside : offset + 2 ≤ header.length) :
    getU16 (header ++ rest) offset = getU16 header offset := by
  rw [getU16, getU16, List.drop_append_of_le_length (by omega),
    List.take_append_of_le_length (by rw [List.length_drop]; omega)]

theorem getU16_append (header rest : Bytes) (value offset : Nat)
    (offset_eq : header.length = offset) (bounded : value < 65536) :
    getU16 (header ++ (littleEndian 2 value ++ rest)) offset = value := by
  rw [getU16, List.drop_left' offset_eq,
    List.take_left' (length_littleEndian 2 value), ofLittleEndian_littleEndian]
  exact Nat.mod_eq_of_lt bounded

theorem getU32_append (header rest : Bytes) (value offset : Nat)
    (offset_eq : header.length = offset) (bounded : value < 4294967296) :
    getU32 (header ++ (littleEndian 4 value ++ rest)) offset = value := by
  rw [getU32, List.drop_left' offset_eq,
    List.take_left' (length_littleEndian 4 value), ofLittleEndian_littleEndian]
  exact Nat.mod_eq_of_lt bounded

/-- The byte behind a known header. -/
theorem getD_append_cons (header rest : Bytes) (value : UInt8)
    {offset : Nat} (offset_eq : header.length = offset) :
    (header ++ value :: rest).getD offset 0 = value := by
  subst offset_eq
  simp

end Kitsu.Lib.ByteString
