import Kitsu.Sha256Standard

/-!
# The hash of a frame

`kitsu_pet_presentation.cpp` has a SHA-256 of its own.  Its rounds are those of the
streaming hash of the firmware; what differs is the block buffer, which is written in
place and counted apart, and the number of bits, which is counted block by block.  Byte
for byte it follows the other hash, so it computes the digest of the standard.
-/

namespace Kitsu.Presentation

open Kitsu.Lib.ByteString
open Kitsu.Sha256 (Words shaTransform shaByte shaUpdate shaStart shaFinish padded)

/-- A hash in progress, with the block that is being filled. -/
structure Sha256Context where
  state : Words
  bitLength : UInt64 := 0
  block : ByteVec 64 := .zero 64
  blockBytes : Fin 64 := 0
deriving DecidableEq

/-- A byte written to the block. -/
def store (block : ByteVec 64) (index : Nat) (value : UInt8) : ByteVec 64 :=
  ⟨block.bytes.set index value, by rw [List.length_set, block.length_eq]⟩

/-- The schedule, the constants and the rounds are those of the streaming hash. -/
def sha256Transform (context : Sha256Context) : Sha256Context :=
  { context with state := shaTransform context.state context.block.bytes }

/-- The context before the first byte. -/
def sha256Start : Sha256Context where
  state := ⟨0x6a09e667, 0xbb67ae85, 0x3c6ef372, 0xa54ff53a, 0x510e527f, 0x9b05688c,
    0x1f83d9ab, 0x5be0cd19⟩

/-- One byte of the input; a block that becomes full is transformed. -/
def sha256Byte (context : Sha256Context) (input : UInt8) : Sha256Context :=
  let block := store context.block context.blockBytes input
  if full : context.blockBytes.val + 1 = 64 then
    { sha256Transform { context with block } with
      bitLength := context.bitLength + 512
      blockBytes := 0 }
  else
    { context with
      block
      blockBytes := ⟨context.blockBytes.val + 1, by have := context.blockBytes.isLt; omega⟩ }

/-- All bytes, one after the other. -/
def sha256Update (context : Sha256Context) (bytes : Bytes) : Sha256Context :=
  bytes.foldl sha256Byte context

/-- Zeros written to so many places of the block from the cursor on. -/
def zeroed : Nat → Nat → ByteVec 64 → ByteVec 64
  | 0, _, block => block
  | count + 1, cursor, block => zeroed count (cursor + 1) (store block cursor 0)

/-- The number of bits written to the last eight places, from the last one on. -/
def writeLength (block : ByteVec 64) (bitLength : UInt64) : ByteVec 64 :=
  (List.range 8).foldl (fun block index =>
    store block (63 - index) (bitLength >>> (index * 8).toUInt64).toUInt8) block

/-- The end mark is written, and a block that has no room for the length is closed. -/
def closeBlock (context : Sha256Context) : Sha256Context × Nat :=
  let cursor := context.blockBytes.val + 1
  let ended := { context with block := store context.block context.blockBytes 0x80 }
  if cursor > 56 then
    ({ sha256Transform { ended with block := zeroed (64 - cursor) cursor ended.block } with
        block := .zero 64 }, 0)
  else
    (ended, cursor)

/-- The padding, the length and the last transform. -/
def sha256Finish (context : Sha256Context) : ByteVec 32 :=
  let (closed, cursor) := closeBlock context
  let bitLength := closed.bitLength + context.blockBytes.val.toUInt64 * 8
  let block := writeLength (zeroed (56 - cursor) cursor closed.block) bitLength
  (sha256Transform { closed with block, bitLength }).state.digest

def frameHash (frame : Bytes) : ByteVec 32 :=
  sha256Finish (sha256Update sha256Start frame)

/-! ## Writing to the block -/

theorem store_bytes (block : ByteVec 64) (index : Nat) (value : UInt8) :
    (store block index value).bytes = block.bytes.set index value :=
  rfl

theorem take_store {block : ByteVec 64} {index : Nat} (inside : index < 64)
    (value : UInt8) :
    (store block index value).bytes.take (index + 1) =
      block.bytes.take index ++ [value] := by
  have bound : index < (block.bytes.set index value).length := by
    rw [List.length_set, block.length_eq]
    exact inside
  rw [store_bytes, List.take_add_one, List.getElem?_eq_getElem bound, List.getElem_set_self,
    List.take_set, List.set_eq_of_length_le]
  · rfl
  · rw [List.length_take]
    exact Nat.min_le_left _ _

theorem take_zeroed {count cursor : Nat} (block : ByteVec 64)
    (inside : cursor + count ≤ 64) :
    (zeroed count cursor block).bytes.take (cursor + count) =
      block.bytes.take cursor ++ List.replicate count 0 := by
  induction count generalizing cursor block with
  | zero => rw [List.replicate_zero, List.append_nil]; rfl
  | succ count next =>
    rw [zeroed, Nat.add_comm count 1, ← Nat.add_assoc, next _ (by omega),
      take_store (by omega), List.append_assoc, Nat.add_comm 1 count, List.replicate_succ]
    rfl

/-- A block filled with zeros to its end. -/
theorem zeroed_full {cursor : Nat} (block : ByteVec 64) (inside : cursor ≤ 64) :
    (zeroed (64 - cursor) cursor block).bytes =
      block.bytes.take cursor ++ List.replicate (64 - cursor) 0 := by
  have filled := @take_zeroed (64 - cursor) cursor block (by omega)
  rw [List.take_of_length_le] at filled
  · exact filled
  · rw [ByteVec.length_bytes]
    omega

/-- The most significant byte of a number is the last one of its layout. -/
theorem littleEndian_concat (count value : Nat) :
    littleEndian (count + 1) value =
      littleEndian count value ++ [(value / 256 ^ count % 256).toUInt8] := by
  induction count generalizing value with
  | zero => simp [littleEndian]
  | succ count next =>
    rw [littleEndian, next, littleEndian, Nat.div_div_eq_div_mul, Nat.pow_succ,
      Nat.mul_comm 256]
    rfl

theorem bigEndian_succ (count value : Nat) :
    bigEndian (count + 1) value =
      (value / 256 ^ count % 256).toUInt8 :: bigEndian count value := by
  rw [bigEndian, littleEndian_concat, List.reverse_append]
  rfl

/-- The bytes of the length that have been written so far. -/
theorem writeLength_front (block : ByteVec 64) (bitLength : UInt64) {count : Nat}
    (few : count ≤ 8) :
    ((List.range count).foldl (fun block index =>
        store block (63 - index) (bitLength >>> (index * 8).toUInt64).toUInt8) block).bytes =
      block.bytes.take (64 - count) ++ bigEndian count bitLength.toNat := by
  induction count with
  | zero =>
    rw [bigEndian, littleEndian, List.reverse_nil, List.append_nil,
      List.take_of_length_le (Nat.le_of_eq block.length_eq)]
    rfl
  | succ count next =>
    have front : (block.bytes.take (63 - count)).length = 63 - count := by
      rw [List.length_take, block.length_eq]
      omega
    have place : 64 - count = 63 - count + 1 := by omega
    have inside : 63 - count < block.bytes.length := by
      rw [block.length_eq]
      omega
    have code : (bitLength >>> (count * 8).toUInt64).toUInt8 =
        (bitLength.toNat / 256 ^ count % 256).toUInt8 := by
      have shift : (count * 8).toUInt64.toNat % 64 = 8 * count := by
        rw [Nat.toUInt64, UInt64.toNat_ofNat']
        omega
      apply UInt8.toNat_inj.mp
      rw [UInt64.toNat_toUInt8, UInt64.toNat_shiftRight, shift, Nat.shiftRight_eq_div_pow,
        Nat.pow_mul, Nat.toUInt8, UInt8.toNat_ofNat']
      exact (Nat.mod_mod _ _).symm
    rw [List.range_succ, List.foldl_append, List.foldl_cons, List.foldl_nil,
      store_bytes, next (by omega), place, List.take_add_one, List.getElem?_eq_getElem inside,
      List.append_assoc, List.set_append_right _ _ (Nat.le_of_eq front), front,
      Nat.sub_self, bigEndian_succ, code, Nat.sub_add_eq, Nat.sub_right_comm]
    rfl

theorem writeLength_bytes (block : ByteVec 64) (bitLength : UInt64) :
    (writeLength block bitLength).bytes =
      block.bytes.take 56 ++ bigEndian 8 bitLength.toNat :=
  writeLength_front block bitLength (Nat.le_refl 8)

/-! ## The streaming hash -/

/-- A context stands where the streaming hash stands. -/
structure Follows (context : Sha256Context) (reference : Sha256.Sha256Context) : Prop where
  state : context.state = reference.state
  block : context.block.bytes.take context.blockBytes = reference.block
  bits : context.bitLength + context.blockBytes.val.toUInt64 * 8 = reference.totalBytes * 8

variable {context : Sha256Context} {reference : Sha256.Sha256Context}

theorem Follows.count (follows : Follows context reference) :
    reference.block.length = context.blockBytes.val := by
  rw [← follows.block, List.length_take, context.block.length_eq]
  omega

theorem follows_start : Follows sha256Start shaStart :=
  ⟨rfl, rfl, rfl⟩

theorem Follows.byte (follows : Follows context reference) (input : UInt8) :
    Follows (sha256Byte context input) (shaByte reference input) := by
  have bound := context.blockBytes.isLt
  have count := follows.count
  have block := @take_store context.block _ bound input
  rw [follows.block] at block
  have length : (reference.block ++ [input]).length = context.blockBytes.val + 1 := by
    rw [List.length_append, count]
    rfl
  simp only [sha256Byte, shaByte, length]
  split
  · next full =>
      have whole : (store context.block context.blockBytes.val input).bytes =
          reference.block ++ [input] := by
        rw [← block, full, List.take_of_length_le (Nat.le_of_eq (ByteVec.length_bytes _))]
      have last : context.blockBytes.val = 63 := by omega
      have bits := follows.bits
      rw [last] at bits
      refine ⟨?_, rfl, ?_⟩
      · show shaTransform context.state _ = shaTransform reference.state _
        rw [follows.state, whole]
      · have sum : context.bitLength + 512 = (reference.totalBytes + 1) * 8 := by
          rw [UInt64.add_mul, ← bits, UInt64.add_assoc]
          rfl
        rw [← sum]
        exact UInt64.add_zero _
  · refine ⟨follows.state, block, ?_⟩
    have next : (context.blockBytes.val + 1).toUInt64 =
        context.blockBytes.val.toUInt64 + 1 := UInt64.ofNat_add _ 1
    rw [next, UInt64.add_mul, UInt64.add_mul, ← UInt64.add_assoc, follows.bits]

theorem Follows.update (follows : Follows context reference) (bytes : Bytes) :
    Follows (sha256Update context bytes) (shaUpdate reference bytes) := by
  induction bytes generalizing context reference with
  | nil => exact follows
  | cons first bytes next => exact next (follows.byte first)

/-- The end of a hash, with the number of bits behind the end mark. -/
theorem Follows.finish (follows : Follows context reference) :
    sha256Finish context = shaFinish reference := by
  have bound := context.blockBytes.isLt
  have count := follows.count
  have marked := @take_store context.block _ bound 0x80
  rw [follows.block] at marked
  have length : (reference.block ++ [0x80]).length = context.blockBytes.val + 1 := by
    rw [List.length_append, count]
    rfl
  have tail (block : ByteVec 64) (cursor : Nat) (short : cursor ≤ 56) :
      (writeLength (zeroed (56 - cursor) cursor block) (reference.totalBytes * 8)).bytes =
        padded (block.bytes.take cursor) 56 ++
          bigEndian 8 (reference.totalBytes * 8).toNat := by
    have filled := @take_zeroed (56 - cursor) cursor block (by omega)
    rw [Nat.add_sub_cancel' short] at filled
    have size : (block.bytes.take cursor).length = cursor := by
      rw [List.length_take, block.length_eq]
      omega
    rw [writeLength_bytes, filled, padded, size]
  simp only [sha256Finish, shaFinish, closeBlock, length]
  split
  · next full =>
      have bits : context.bitLength + context.blockBytes.val.toUInt64 * 8 =
        reference.totalBytes * 8 := follows.bits
      have closed := @zeroed_full (context.blockBytes.val + 1)
        (store context.block context.blockBytes.val 0x80) (by omega)
      rw [marked] at closed
      simp only [sha256Transform, bits]
      rw [tail _ 0 (Nat.zero_le _), closed, follows.state, ← length]
      rfl
  · next short =>
      simp only [sha256Transform, follows.bits]
      rw [tail _ _ (Nat.not_lt.mp short), marked, follows.state]

/-- The hash of a frame is the digest of the standard. -/
theorem frameHash_standard {frame : Bytes} (small : frame.length < 2 ^ 61) :
    (frameHash frame).bytes = Lib.SecureHash.digest frame := by
  have absorbed := Sha256Standard.absorbed_update Sha256Standard.absorbed_start frame
  rw [frameHash, (follows_start.update frame).finish]
  exact Sha256Standard.shaFinish_eq absorbed small

end Kitsu.Presentation

/-!
# The preview of the companion's presentation

`PetPresentationPreview` of `kitsu_pet_presentation.cpp`.  A capture points to a name and
to a frame in memory that is not its own, so a pointer is the memory behind it and a
caller may pass any.  Enumerations are passed as their byte, since the code checks their
range itself.
-/

namespace Kitsu.Presentation

open Kitsu.Lib.ByteString

/-- The memory from a pointer on. -/
abbrev Memory := Nat → UInt8

/-- So many bytes of a memory. -/
def Memory.read (memory : Memory) (count : Nat) : Bytes :=
  (List.range count).map memory

/-! ## Enumerations and constants -/

abbrev kPresentationSchemaVersion : UInt8 := 1
abbrev kFrameDigestBytes : Nat := 32
abbrev kMaximumPackNameBytes : Nat := 16
abbrev kMaximumFrameBytes : Nat := 640
abbrev kMaximumChunkBytes : UInt16 := 192
abbrev kPackV1Format : UInt16 := 1
abbrev kPackV2Format : UInt16 := 2
abbrev kPackFrameWidth : UInt16 := 64
abbrev kPackV1FrameHeight : UInt16 := 64
abbrev kPackV2FrameHeight : UInt16 := 80
abbrev kPackV1FrameBytes : Nat := 512
abbrev kPackV2FrameBytes : Nat := 640

/-- The last of the screens that have a name. -/
abbrev surfaceActivity : UInt8 := 18
abbrev surfaceUnknown : UInt8 := 0xff
abbrev roleEvolve : UInt8 := 11
abbrev roleUnknown : UInt8 := 0xff
abbrev playbackPingPong : UInt8 := 3
abbrev playbackUnknown : UInt8 := 0xff

/-- How the bytes of a frame are laid out. -/
inductive FrameEncoding where
  | none
  | xbmRowMajorLsbFirst
deriving DecidableEq

/-- What a call answers. -/
inductive Status where
  | ok
  | duplicate
  | invalidArgument
  | busy
  | staleSession
  | noSession
  | wrongSession
  | digestMismatch
  | noFrame
  | outOfRange
  | bufferTooSmall
deriving DecidableEq

/-- What is on the display, as its owner offers it. -/
structure Capture where
  capturedAtMs : UInt32 := 0
  surface : UInt8 := surfaceUnknown
  displayAwake : Bool := false
  frameVisible : Bool := false
  packValid : Bool := false
  packName : Option Memory := none
  packId : UInt32 := 0
  packRevision : UInt32 := 0
  packTotalBytes : UInt32 := 0
  packPayloadCrc32 : UInt32 := 0
  packHeaderCrc32 : UInt32 := 0
  packFormatVersion : UInt16 := 0
  frameWidth : UInt16 := 0
  frameHeight : UInt16 := 0
  frameCount : UInt16 := 0
  appearanceVariant : UInt8 := 0
  animationActive : Bool := false
  animationFinite : Bool := false
  requestedRole : UInt8 := roleUnknown
  resolvedRole : UInt8 := roleUnknown
  playback : UInt8 := playbackUnknown
  animationToken : UInt32 := 0
  animationElapsedMs : UInt32 := 0
  frameData : Option Memory := none
  frameBytes : Nat := 0

/-- What a session is told of its capture. -/
structure PresentationState where
  schemaVersion : UInt8 := kPresentationSchemaVersion
  sessionId : UInt32 := 0
  capturedAtMs : UInt32 := 0
  surface : UInt8 := surfaceUnknown
  displayAwake : Bool := false
  frameVisible : Bool := false
  packValid : Bool := false
  packName : ByteVec (kMaximumPackNameBytes + 1) := .zero _
  packId : UInt32 := 0
  packRevision : UInt32 := 0
  packTotalBytes : UInt32 := 0
  packPayloadCrc32 : UInt32 := 0
  packHeaderCrc32 : UInt32 := 0
  packFormatVersion : UInt16 := 0
  frameWidth : UInt16 := 0
  frameHeight : UInt16 := 0
  frameCount : UInt16 := 0
  appearanceVariant : UInt8 := 0
  animationActive : Bool := false
  animationFinite : Bool := false
  requestedRole : UInt8 := roleUnknown
  resolvedRole : UInt8 := roleUnknown
  playback : UInt8 := playbackUnknown
  animationToken : UInt32 := 0
  animationElapsedMs : UInt32 := 0
  frameAvailable : Bool := false
  frameEncoding : FrameEncoding := .none
  frameBytes : UInt16 := 0
  frameSha256 : ByteVec kFrameDigestBytes := .zero _
deriving DecidableEq

/-- A piece of the frame that is asked for. -/
structure ChunkRequest where
  sessionId : UInt32 := 0
  offset : UInt16 := 0
  bytes : UInt16 := 0
  expectedFrameSha256 : ByteVec kFrameDigestBytes := .zero _
deriving DecidableEq

/-- Which piece of the frame was read, and where the next one starts. -/
structure ChunkResult where
  offset : UInt16 := 0
  bytes : UInt16 := 0
  nextOffset : UInt16 := 0
  complete : Bool := false
deriving DecidableEq

/-! ## Captures -/

/-- A known surface, or the mark for none. -/
def validSurface (surface : UInt8) : Bool :=
  surface ≤ surfaceActivity || surface == surfaceUnknown

/-- A known role of an animation. -/
def validRole (role : UInt8) : Bool :=
  role ≤ roleEvolve

/-- A known way to play an animation. -/
def validPlayback (playback : UInt8) : Bool :=
  playback ≤ playbackPingPong

/-- The name from a place on: it ends in time and has only printable characters. -/
def validPackNameFrom (name : Memory) : Nat → Nat → Bool
  | 0, _ => false
  | remaining + 1, index =>
    let value := name index
    if value == 0 then index != 0
    else if index == kMaximumPackNameBytes || value < 0x20 || value > 0x7e then false
    else validPackNameFrom name remaining (index + 1)

/-- A name of plain characters that ends within its field. -/
def validPackName : Option Memory → Bool
  | none => false
  | some name => validPackNameFrom name (kMaximumPackNameBytes + 1) 0

/-- The text that stands for the name of a pack that is not there. -/
def absentName : Bytes :=
  ascii "None"

/-- The comparison of two texts, of which one is known, up to the zero behind it. -/
def sameText (name : Memory) (text : Bytes) : Bool :=
  name.read (text.length + 1) == text ++ [0]

/-- The bytes of a frame of a known format; none of any other. -/
def expectedFrameBytes (capture : Capture) : Nat :=
  if capture.packFormatVersion == kPackV1Format && capture.frameWidth == kPackFrameWidth &&
      capture.frameHeight == kPackV1FrameHeight then
    kPackV1FrameBytes
  else if capture.packFormatVersion == kPackV2Format &&
      capture.frameWidth == kPackFrameWidth &&
      capture.frameHeight == kPackV2FrameHeight then
    kPackV2FrameBytes
  else
    0

/-- Without a pack there is nothing to tell. -/
def absentCaptureValid (capture : Capture) : Bool :=
  capture.packName.all (fun name => sameText name absentName) && capture.packId == 0 &&
    capture.packRevision == 0 && capture.packTotalBytes == 0 &&
    capture.packPayloadCrc32 == 0 && capture.packHeaderCrc32 == 0 &&
    capture.packFormatVersion == 0 && capture.frameWidth == 0 &&
    capture.frameHeight == 0 && capture.frameCount == 0 &&
    capture.appearanceVariant == 0 && !capture.animationActive &&
    !capture.animationFinite && capture.requestedRole == roleUnknown &&
    capture.resolvedRole == roleUnknown && capture.playback == playbackUnknown &&
    capture.animationToken == 0 && capture.animationElapsedMs == 0 &&
    capture.frameData.isNone && capture.frameBytes == 0 && !capture.frameVisible

/-- A capture whose parts fit each other. -/
def validCapture (capture : Capture) : Bool :=
  if !validSurface capture.surface then false
  else if !capture.packValid then absentCaptureValid capture
  else
    let expectedBytes := expectedFrameBytes capture
    let minimumPackBytes := 64 + capture.frameCount.toNat * expectedBytes
    if !validPackName capture.packName || capture.packId == 0 ||
        capture.packRevision == 0 || capture.packTotalBytes ≤ 64 ||
        capture.frameCount == 0 || expectedBytes == 0 ||
        capture.packTotalBytes.toNat < minimumPackBytes then
      false
    else if capture.frameData.isNone != (capture.frameBytes == 0) then false
    else if capture.frameData.isSome && capture.frameBytes != expectedBytes then false
    else if capture.animationActive &&
        (!validRole capture.requestedRole || !validRole capture.resolvedRole ||
          !validPlayback capture.playback || capture.animationToken == 0) then
      false
    else if !capture.animationActive &&
        (capture.animationFinite || capture.requestedRole != roleUnknown ||
          capture.resolvedRole != roleUnknown || capture.playback != playbackUnknown ||
          capture.animationToken != 0 || capture.animationElapsedMs != 0 ||
          capture.frameData.isSome) then
      false
    else
      !capture.frameVisible ||
        capture.displayAwake && capture.animationActive && capture.frameData.isSome

/-- A name is copied up to its end, into an array of zeros. -/
def copyPackName : Option Memory → ByteVec (kMaximumPackNameBytes + 1)
  | none => .front _ (absentName ++ [0])
  | some input => .front _ ((input.read kMaximumPackNameBytes).takeWhile (· != 0))

def frameSha256 (frame : Memory) (frameBytes : Nat) : Option (ByteVec kFrameDigestBytes) :=
  if frameBytes == 0 || frameBytes > kMaximumFrameBytes then none
  else some (frameHash (frame.read frameBytes))

/-- What is announced of a capture, apart from its frame. -/
def describedState (sessionId : UInt32) (capture : Capture) : PresentationState where
  sessionId
  capturedAtMs := capture.capturedAtMs
  surface := capture.surface
  displayAwake := capture.displayAwake
  frameVisible := capture.frameVisible
  packValid := capture.packValid
  packName := copyPackName capture.packName
  packId := capture.packId
  packRevision := capture.packRevision
  packTotalBytes := capture.packTotalBytes
  packPayloadCrc32 := capture.packPayloadCrc32
  packHeaderCrc32 := capture.packHeaderCrc32
  packFormatVersion := capture.packFormatVersion
  frameWidth := capture.frameWidth
  frameHeight := capture.frameHeight
  frameCount := capture.frameCount
  appearanceVariant := capture.appearanceVariant
  animationActive := capture.animationActive
  animationFinite := capture.animationFinite
  requestedRole := capture.requestedRole
  resolvedRole := capture.resolvedRole
  playback := capture.playback
  animationToken := capture.animationToken
  animationElapsedMs := capture.animationElapsedMs
  frameAvailable := capture.frameData.isSome

/-- What a session is told of a capture. -/
def makeState (sessionId : UInt32) (capture : Capture) : PresentationState :=
  let state := describedState sessionId capture
  match capture.frameData with
  | none => state
  | some frame =>
    { state with
      frameEncoding := .xbmRowMajorLsbFirst
      frameBytes := capture.frameBytes.toUInt16
      frameSha256 := (frameSha256 frame capture.frameBytes).getD state.frameSha256 }

/-! ## The preview -/

/-- Two digests are compared without an early end. -/
def sameDigest (left right : ByteVec kFrameDigestBytes) : Bool :=
  (left.bytes.zip right.bytes).foldl
    (fun difference codes => difference ||| (codes.1 ^^^ codes.2)) 0 == 0

/-- The session that is open, with its copy of the frame. -/
structure Preview where
  state : PresentationState := {}
  frame : ByteVec kMaximumFrameBytes := .zero _
  lastSessionId : UInt32 := 0
  active : Bool := false
deriving DecidableEq

namespace Preview

/-- No session, and none before. -/
def reset : Preview := {}

/-- The frame buffer with the frame of a capture in it. -/
def heldFrame (capture : Capture) : ByteVec kMaximumFrameBytes :=
  match capture.frameData with
  | none => .zero _
  | some frame => ByteVec.overwrite (.zero _) (frame.read capture.frameBytes)

/--
Open a session with a copy of the capture; the same one again is answered.
-/
def openSession (preview : Preview) (sessionId : UInt32) (capture : Capture) :
    Status × PresentationState × Preview :=
  if sessionId == 0 then (.invalidArgument, {}, preview)
  else if preview.active then
    if sessionId != preview.state.sessionId then (.busy, {}, preview)
    else (.duplicate, preview.state, preview)
  else if sessionId == preview.lastSessionId then (.staleSession, {}, preview)
  else if !validCapture capture then (.invalidArgument, {}, preview)
  else
    let captured := makeState sessionId capture
    (.ok, captured, {
      state := captured
      frame := heldFrame capture
      lastSessionId := sessionId
      active := true })

/-- What the open session shows. -/
def describe (preview : Preview) (sessionId : UInt32) : Status × PresentationState :=
  if !preview.active then (.noSession, {})
  else if sessionId == 0 || sessionId != preview.state.sessionId then (.wrongSession, {})
  else (.ok, preview.state)

/-- The reply to a request, with the bytes that are copied to the destination. -/
def readChunk (preview : Preview) (request : ChunkRequest) (destination : Bool)
    (destinationCapacity : Nat) : Status × Bytes × ChunkResult :=
  if !preview.active then (.noSession, [], {})
  else if request.sessionId == 0 || request.sessionId != preview.state.sessionId then
    (.wrongSession, [], {})
  else if !sameDigest request.expectedFrameSha256 preview.state.frameSha256 then
    (.digestMismatch, [], {})
  else if !preview.state.frameAvailable then (.noFrame, [], {})
  else if request.bytes == 0 || request.bytes > kMaximumChunkBytes then
    (.invalidArgument, [], {})
  else
    let last := request.offset.toUInt32 + request.bytes.toUInt32
    if request.offset ≥ preview.state.frameBytes ||
        last > preview.state.frameBytes.toUInt32 then
      (.outOfRange, [], {})
    else if !destination || destinationCapacity < request.bytes.toNat then
      (.bufferTooSmall, [], {})
    else
      (.ok, (preview.frame.bytes.drop request.offset.toNat).take request.bytes.toNat,
        { offset := request.offset
          bytes := request.bytes
          nextOffset := last.toUInt16
          complete := last == preview.state.frameBytes.toUInt32 })

/-- Close the session; nothing of its frame stays. -/
def close (preview : Preview) (sessionId : UInt32) : Status × Preview :=
  if !preview.active then
    (if sessionId != 0 && sessionId == preview.lastSessionId then .duplicate
      else .noSession, preview)
  else if sessionId == 0 || sessionId != preview.state.sessionId then
    (.wrongSession, preview)
  else
    (.ok, { preview with state := {}, frame := .zero _, active := false })

end Preview

end Kitsu.Presentation
