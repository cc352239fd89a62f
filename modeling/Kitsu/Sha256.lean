import Kitsu.Lib.ByteString

/-!
# The SHA-256 of the firmware

`kitsu_ble_ota.cpp` and `kitsu_ble_action.cpp` carry the same streaming hash: a
context holds the chaining state, the number of bytes taken so far and the bytes
of the block that is not full yet.  A context depends only on the concatenation
of what was fed to it, so a hash may be interrupted and taken up again.
-/

namespace Kitsu.Sha256

open Kitsu.Lib.ByteString

/-- The eight chaining words. -/
structure Words where
  a : UInt32
  b : UInt32
  c : UInt32
  d : UInt32
  e : UInt32
  f : UInt32
  g : UInt32
  h : UInt32
deriving DecidableEq, Repr

/-- A hash in progress; `block` holds the bytes of the open block. -/
structure Sha256Context where
  state : Words
  totalBytes : UInt64
  block : Bytes
deriving DecidableEq, Repr

def rotateRight (value bits : UInt32) : UInt32 :=
  (value >>> bits) ||| (value <<< (32 - bits))

/-- The sixty-four round constants. -/
def constants : List UInt32 :=
  [0x428a2f98, 0x71374491, 0xb5c0fbcf, 0xe9b5dba5, 0x3956c25b, 0x59f111f1,
    0x923f82a4, 0xab1c5ed5, 0xd807aa98, 0x12835b01, 0x243185be, 0x550c7dc3,
    0x72be5d74, 0x80deb1fe, 0x9bdc06a7, 0xc19bf174, 0xe49b69c1, 0xefbe4786,
    0x0fc19dc6, 0x240ca1cc, 0x2de92c6f, 0x4a7484aa, 0x5cb0a9dc, 0x76f988da,
    0x983e5152, 0xa831c66d, 0xb00327c8, 0xbf597fc7, 0xc6e00bf3, 0xd5a79147,
    0x06ca6351, 0x14292967, 0x27b70a85, 0x2e1b2138, 0x4d2c6dfc, 0x53380d13,
    0x650a7354, 0x766a0abb, 0x81c2c92e, 0x92722c85, 0xa2bfe8a1, 0xa81a664b,
    0xc24b8b70, 0xc76c51a3, 0xd192e819, 0xd6990624, 0xf40e3585, 0x106aa070,
    0x19a4c116, 0x1e376c08, 0x2748774c, 0x34b0bcb5, 0x391c0cb3, 0x4ed8aa4a,
    0x5b9cca4f, 0x682e6ff3, 0x748f82ee, 0x78a5636f, 0x84c87814, 0x8cc70208,
    0x90befffa, 0xa4506ceb, 0xbef9a3f7, 0xc67178f2]

/-- The words of a block, most significant byte first. -/
def blockWords : Bytes → List UInt32
  | a :: b :: c :: d :: rest =>
    ((a.toUInt32 <<< 24) ||| (b.toUInt32 <<< 16) ||| (c.toUInt32 <<< 8) |||
      d.toUInt32) :: blockWords rest
  | _ => []

/-- The next word of the schedule after those already computed. -/
def scheduleWord (schedule : List UInt32) : UInt32 :=
  let index := schedule.length
  let first := schedule.getD (index - 15) 0
  let second := schedule.getD (index - 2) 0
  let sigma0 := rotateRight first 7 ^^^ rotateRight first 18 ^^^ (first >>> 3)
  let sigma1 :=
    rotateRight second 17 ^^^ rotateRight second 19 ^^^ (second >>> 10)
  schedule.getD (index - 16) 0 + sigma0 + schedule.getD (index - 7) 0 + sigma1

/-- Extend the schedule by so many words. -/
def extendSchedule : Nat → List UInt32 → List UInt32
  | 0, schedule => schedule
  | remaining + 1, schedule =>
    extendSchedule remaining (schedule ++ [scheduleWord schedule])

/-- One round. -/
def round (words : Words) (constant scheduled : UInt32) : Words :=
  let sum1 := rotateRight words.e 6 ^^^ rotateRight words.e 11 ^^^
    rotateRight words.e 25
  let choice := (words.e &&& words.f) ^^^ ((~~~ words.e) &&& words.g)
  let temporary1 := words.h + sum1 + choice + constant + scheduled
  let sum0 := rotateRight words.a 2 ^^^ rotateRight words.a 13 ^^^
    rotateRight words.a 22
  let majority := (words.a &&& words.b) ^^^ (words.a &&& words.c) ^^^
    (words.b &&& words.c)
  ⟨temporary1 + (sum0 + majority), words.a, words.b, words.c,
    words.d + temporary1, words.e, words.f, words.g⟩

/-- A round for every word of the schedule. -/
def rounds : Words → List UInt32 → List UInt32 → Words
  | words, constant :: constants, scheduled :: schedule =>
    rounds (round words constant scheduled) constants schedule
  | words, _, _ => words

/-- Transform a full block into the chaining state. -/
def shaTransform (state : Words) (block : Bytes) : Words :=
  let words := rounds state constants (extendSchedule 48 (blockWords block))
  ⟨state.a + words.a, state.b + words.b, state.c + words.c,
    state.d + words.d, state.e + words.e, state.f + words.f,
    state.g + words.g, state.h + words.h⟩

/-- The context before the first byte. -/
def shaStart : Sha256Context where
  state := ⟨0x6a09e667, 0xbb67ae85, 0x3c6ef372, 0xa54ff53a, 0x510e527f,
    0x9b05688c, 0x1f83d9ab, 0x5be0cd19⟩
  totalBytes := 0
  block := []

/-- One input byte; a block that becomes full is transformed. -/
def shaByte (context : Sha256Context) (input : UInt8) : Sha256Context :=
  let block := context.block ++ [input]
  if block.length = 64 then
    { state := shaTransform context.state block,
      totalBytes := context.totalBytes + 1, block := [] }
  else { context with totalBytes := context.totalBytes + 1, block }

def shaUpdate (context : Sha256Context) (input : Bytes) : Sha256Context :=
  input.foldl shaByte context

/-- The bytes of a word, most significant first. -/
def wordBytes (word : UInt32) : Bytes :=
  [(word >>> 24).toUInt8, (word >>> 16).toUInt8, (word >>> 8).toUInt8,
    word.toUInt8]

/-- The bytes of the chaining state. -/
def Words.digest (words : Words) : ByteVec 32 :=
  ⟨wordBytes words.a ++ wordBytes words.b ++ wordBytes words.c ++
    wordBytes words.d ++ wordBytes words.e ++ wordBytes words.f ++
    wordBytes words.g ++ wordBytes words.h, rfl⟩

/-- A block filled up with zeros. -/
def padded (block : Bytes) (size : Nat) : Bytes :=
  block ++ List.replicate (size - block.length) 0

/-- The last block or the last two blocks, with the number of bits. -/
def shaFinish (context : Sha256Context) : ByteVec 32 :=
  let totalBits := context.totalBytes * 8
  let block := context.block ++ [0x80]
  let (state, block) :=
    if block.length > 56 then
      (shaTransform context.state (padded block 64), [])
    else (context.state, block)
  Words.digest
    (shaTransform state (padded block 56 ++ bigEndian 8 totalBits.toNat))

/-- The hash of a whole byte string. -/
def sha256 (input : Bytes) : ByteVec 32 :=
  shaFinish (shaUpdate shaStart input)

/-- The keyed hash of the platform, for keys of at most one block. -/
def hmacSha256 (key message : Bytes) : ByteVec 32 :=
  let block := padded key 64
  let inner := sha256 (block.map (· ^^^ 0x36) ++ message)
  sha256 (block.map (· ^^^ 0x5c) ++ inner.bytes)

/-- The key derivation of the platform, for one block of output. -/
def hkdfSha256 (inputKey salt info : Bytes) : ByteVec 32 :=
  hmacSha256 (hmacSha256 salt inputKey).bytes (info ++ [1])

theorem shaUpdate_append (context : Sha256Context) (first second : Bytes) :
    shaUpdate context (first ++ second) =
      shaUpdate (shaUpdate context first) second :=
  List.foldl_append

end Kitsu.Sha256
