import Kitsu.Lib.ByteString

/-!
# The Secure Hash Standard for byte strings

SHA-256 as FIPS 180-4 defines it: the message is padded to whole blocks, each
block gives a schedule of 64 words by a recurrence, and the chaining value goes
through 64 steps for every block.  Blocks, words and steps are numbered as in the
standard, and nothing is said about how a message arrives.
-/

namespace Kitsu.Lib.SecureHash

open Kitsu.Lib.ByteString

/-! ## Functions and constants -/

/-- A rotation to the right. -/
def rotr (count x : UInt32) : UInt32 :=
  (x >>> count) ||| (x <<< (32 - count))

/-- The first word chooses between the others, bit by bit. -/
def ch (x y z : UInt32) : UInt32 :=
  (x &&& y) ^^^ (~~~ x &&& z)

/-- The majority of three words, bit by bit. -/
def maj (x y z : UInt32) : UInt32 :=
  (x &&& y) ^^^ (x &&& z) ^^^ (y &&& z)

/-- The function that is added with the majority. -/
def bigSigma0 (x : UInt32) : UInt32 :=
  rotr 2 x ^^^ rotr 13 x ^^^ rotr 22 x

/-- The function that is added with the choice. -/
def bigSigma1 (x : UInt32) : UInt32 :=
  rotr 6 x ^^^ rotr 11 x ^^^ rotr 25 x

/-- The function of the older schedule word. -/
def smallSigma0 (x : UInt32) : UInt32 :=
  rotr 7 x ^^^ rotr 18 x ^^^ (x >>> 3)

/-- The function of the newer schedule word. -/
def smallSigma1 (x : UInt32) : UInt32 :=
  rotr 17 x ^^^ rotr 19 x ^^^ (x >>> 10)

/-- The first sixty-four primes. -/
def primes : List Nat :=
  [2, 3, 5, 7, 11, 13, 17, 19, 23, 29, 31, 37, 41, 43, 47, 53, 59, 61, 67, 71,
    73, 79, 83, 89, 97, 101, 103, 107, 109, 113, 127, 131, 137, 139, 149, 151,
    157, 163, 167, 173, 179, 181, 191, 193, 197, 199, 211, 223, 227, 229, 233,
    239, 241, 251, 257, 263, 269, 271, 277, 281, 283, 293, 307, 311]

/-- The sixty-four round constants. -/
def roundConstants : List UInt32 :=
  [0x428a2f98, 0x71374491, 0xb5c0fbcf, 0xe9b5dba5, 0x3956c25b, 0x59f111f1,
    0x923f82a4, 0xab1c5ed5, 0xd807aa98, 0x12835b01, 0x243185be, 0x550c7dc3,
    0x72be5d74, 0x80deb1fe, 0x9bdc06a7, 0xc19bf174, 0xe49b69c1, 0xefbe4786,
    0x0fc19dc6, 0x240ca1cc, 0x2de92c6f, 0x4a7484aa, 0x5cb0a9dc, 0x76f988da,
    0x983e5152, 0xa831c66d, 0xb00327c8, 0xbf597fc7, 0xc6e00bf3, 0xd5a79147,
    0x06ca6351, 0x14292967, 0x27b70a85, 0x2e1b2138, 0x4d2c6dfc, 0x53380d13,
    0x650a7354, 0x766a0abb, 0x81c2c92e, 0x92722c85, 0xa2bfe8a1, 0xa81a664b,
    0xc24b8b70, 0xc76c51a3, 0xd192e819, 0xd6990624, 0xf40e3585, 0x106aa070,
    0x19a4c116, 0x1e376c08, 0x2748774c, 0x34b0bcb5, 0x391c0cb3, 0x4ed8aa4a,
    0x5b9cca4f, 0x682e6ff3, 0x748f82ee, 0x78a5636f, 0x84c87814, 0x8cc70208,
    0x90befffa, 0xa4506ceb, 0xbef9a3f7, 0xc67178f2]

/-- The first 32 bits of the fractional part of a root below eight. -/
def RootBits (degree number : Nat) (bits : UInt32) : Prop :=
  ∃ whole < 8,
    (whole * 2 ^ 32 + bits.toNat) ^ degree ≤ number * 2 ^ (32 * degree) ∧
      number * 2 ^ (32 * degree) < (whole * 2 ^ 32 + bits.toNat + 1) ^ degree

instance (degree number : Nat) (bits : UInt32) :
    Decidable (RootBits degree number bits) :=
  inferInstanceAs (Decidable (∃ whole < 8, _ ∧ _))

def roundConstant (t : Nat) : UInt32 :=
  roundConstants.getD t 0

/-- Eight words, as they are chained and as they go through the steps. -/
structure Words where
  a : UInt32
  b : UInt32
  c : UInt32
  d : UInt32
  e : UInt32
  f : UInt32
  g : UInt32
  h : UInt32
deriving DecidableEq, Repr

/-- The chaining value that a hash starts with. -/
def initial : Words :=
  ⟨0x6a09e667, 0xbb67ae85, 0x3c6ef372, 0xa54ff53a, 0x510e527f, 0x9b05688c,
    0x1f83d9ab, 0x5be0cd19⟩

/-- The words in their order. -/
def Words.toList (words : Words) : List UInt32 :=
  [words.a, words.b, words.c, words.d, words.e, words.f, words.g, words.h]

/-- The sum of two chaining values, word by word. -/
def Words.add (left right : Words) : Words :=
  ⟨left.a + right.a, left.b + right.b, left.c + right.c, left.d + right.d,
    left.e + right.e, left.f + right.f, left.g + right.g, left.h + right.h⟩

/-! ## Compression -/

/-- The word at an index of a block, most significant byte first. -/
def messageWord (block : Bytes) (t : Nat) : UInt32 :=
  let code := fun index => (block.getD (4 * t + index) 0).toNat
  (code 0 * 2 ^ 24 + code 1 * 2 ^ 16 + code 2 * 2 ^ 8 + code 3).toUInt32

/-- The message schedule of a block. -/
def schedule (block : Bytes) (t : Nat) : UInt32 :=
  if t < 16 then messageWord block t
  else
    smallSigma1 (schedule block (t - 2)) + schedule block (t - 7) +
      smallSigma0 (schedule block (t - 15)) + schedule block (t - 16)
termination_by t

/-- One round of the compression. -/
def Words.step (words : Words) (constant scheduled : UInt32) : Words :=
  let temporary1 := words.h + bigSigma1 words.e +
    ch words.e words.f words.g + constant + scheduled
  let temporary2 := bigSigma0 words.a + maj words.a words.b words.c
  ⟨temporary1 + temporary2, words.a, words.b, words.c,
    words.d + temporary1, words.e, words.f, words.g⟩

/-- The working variables behind a number of steps. -/
def working (start : Words) (block : Bytes) : Nat → Words
  | 0 => start
  | t + 1 =>
    (working start block t).step (roundConstant t) (schedule block t)

/-- The chaining value after a block. -/
def compress (start : Words) (block : Bytes) : Words :=
  start.add (working start block 64)

/-! ## Messages -/

/-- The zero bytes between the end mark and the length. -/
def paddingZeros (count : Nat) : Nat :=
  (119 - count % 64) % 64

def pad (message : Bytes) : Bytes :=
  message ++ 0x80 :: (List.replicate (paddingZeros message.length) 0 ++
    bigEndian 8 (8 * message.length))

/-- A block of a padded message. -/
def blockAt (text : Bytes) (index : Nat) : Bytes :=
  (text.drop (64 * index)).take 64

/-- The chaining value behind a number of blocks. -/
def chain (text : Bytes) : Nat → Words
  | 0 => initial
  | index + 1 => compress (chain text index) (blockAt text index)

def digest (message : Bytes) : Bytes :=
  (chain (pad message) ((pad message).length / 64)).toList.flatMap
    fun word => bigEndian 4 word.toNat

/-! ## Padding -/

section Padding

variable {message text other : Bytes}

theorem length_bigEndian (count value : Nat) :
    (bigEndian count value).length = count := by
  rw [bigEndian, List.length_reverse, length_littleEndian]

theorem length_pad (message : Bytes) :
    (pad message).length = message.length + 9 +
      paddingZeros message.length := by
  simp only [pad, List.length_append, List.length_cons,
    List.length_replicate, length_bigEndian]
  omega

/-- Blocks that lie in a common front are the same. -/
theorem blockAt_append {index : Nat}
    (inside : 64 * (index + 1) ≤ text.length) (rest : Bytes) :
    blockAt (text ++ rest) index = blockAt text index := by
  unfold blockAt
  rw [List.drop_append_of_le_length (by omega),
    List.take_append_of_le_length (by rw [List.length_drop]; omega)]

theorem chain_append {index : Nat} (inside : 64 * index ≤ text.length)
    (rest : Bytes) : chain (text ++ rest) index = chain text index := by
  induction index with
  | zero => rfl
  | succ index induction =>
    rw [chain, chain, blockAt_append inside, induction (by omega)]

end Padding

/-! ## The constants are those of the standard -/

set_option maxRecDepth 4000 in
theorem roundConstants_cubeRoots :
    ∀ entry ∈ primes.zip roundConstants, RootBits 3 entry.1 entry.2 := by
  decide

theorem initial_squareRoots :
    ∀ entry ∈ primes.zip initial.toList, RootBits 2 entry.1 entry.2 := by
  decide

end Kitsu.Lib.SecureHash
