import Kitsu.Lib.SecureHash
import Kitsu.Sha256

/-!
# The streaming hash computes SHA-256

`shaUpdate` of the source copies as much of its input as the open block has room
for and transforms the block when it is full.  Whatever the pieces are in which a
message arrives, the chaining state is that of the standard over the blocks that
are complete, and the open block holds what is left; so a hash that is finished
is the digest of the standard.
-/

namespace Kitsu.Sha256Standard

open Kitsu.Lib.ByteString
open Kitsu.Sha256
open Kitsu.Lib.SecureHash (schedule messageWord working roundConstant chain
  blockAt pad paddingZeros digest smallSigma0 smallSigma1)

/-! ## The loop of the source -/

/-- One pass: the room in the open block is filled as far as input is there. -/
def shaCopy (context : Sha256Context) (input : Bytes) : Sha256Context :=
  let available := 64 - context.block.length
  let copied := min input.length available
  let block := context.block ++ input.take copied
  if block.length = 64 then
    { context with state := shaTransform context.state block, block := [] }
  else { context with block }

/-- The passes over an input; an open block always has room. -/
def shaCopies (context : Sha256Context) (input : Bytes) : Sha256Context :=
  if input.length ≠ 0 ∧ context.block.length < 64 then
    shaCopies (shaCopy context input)
      (input.drop (min input.length (64 - context.block.length)))
  else context
termination_by input.length
decreasing_by
  rw [List.length_drop]
  omega

/-- The update of a hash as the source makes it. -/
def shaUpdateBlocks (context : Sha256Context) (input : Bytes) :
    Sha256Context :=
  shaCopies
    { context with
      totalBytes := context.totalBytes + input.length.toUInt64 }
    input

section Copies

variable {context : Sha256Context} {input piece : Bytes}

/-- The bytes of a piece that does not fill the block. -/
theorem shaUpdate_short (short : context.block.length + piece.length < 64) :
    shaUpdate context piece =
      { context with
        totalBytes := context.totalBytes + piece.length.toUInt64
        block := context.block ++ piece } := by
  induction piece generalizing context with
  | nil => simp [shaUpdate]
  | cons first rest induction =>
    simp only [List.length_cons] at short
    have step : shaByte context first =
        { context with
          totalBytes := context.totalBytes + 1
          block := context.block ++ [first] } := by
      unfold shaByte
      rw [if_neg]
      simp only [List.length_append, List.length_cons, List.length_nil]
      omega
    change shaUpdate (shaByte context first) rest = _
    rw [step, induction (by simp; omega)]
    have count : (rest.length + 1).toUInt64 =
        1 + rest.length.toUInt64 := by
      rw [Nat.add_comm]
      exact UInt64.ofNat_add 1 rest.length
    simp [count, UInt64.add_assoc]

/-- The bytes of a piece that fills the block. -/
theorem shaUpdate_full (full : context.block.length + piece.length = 64)
    (present : piece ≠ []) :
    shaUpdate context piece =
      { state := shaTransform context.state (context.block ++ piece)
        totalBytes := context.totalBytes + piece.length.toUInt64
        block := [] } := by
  obtain ⟨front, last, rfl⟩ := List.eq_nil_or_concat piece |>.resolve_left
    present
  rw [List.concat_eq_append] at full ⊢
  simp only [List.length_append, List.length_cons, List.length_nil] at full
  have count : (front.length + 1).toUInt64 = front.length.toUInt64 + 1 :=
    UInt64.ofNat_add front.length 1
  have first := @shaUpdate_short context front (by omega)
  rw [shaUpdate_append, first]
  change shaByte _ last = _
  unfold shaByte
  rw [if_pos (by simp; omega)]
  simp [count, List.append_assoc, UInt64.add_assoc]

theorem shaCopy_eq (room : context.block.length < 64) :
    shaUpdate context (input.take (min input.length (64 - context.block.length))) =
      { shaCopy context input with
        totalBytes := context.totalBytes + (min input.length
          (64 - context.block.length)).toUInt64 } := by
  have count : (input.take (min input.length (64 - context.block.length))).length =
        min input.length (64 - context.block.length) := by
    rw [List.length_take]
    omega
  unfold shaCopy
  simp only [List.length_append, count]
  split
  · rename_i full
    rw [shaUpdate_full (by rw [count]; exact full)
      (List.ne_nil_of_length_pos (by rw [count]; omega)), count]
  · rename_i short
    rw [shaUpdate_short (by rw [count]; omega), count]

theorem shaCopy_room (room : context.block.length < 64) :
    (shaCopy context input).block.length < 64 := by
  unfold shaCopy
  simp only
  split
  · exact Nat.zero_lt_succ 63
  · rename_i short
    simp only [List.length_append, List.length_take] at short ⊢
    omega

theorem shaCopy_total (context : Sha256Context) (input : Bytes) (total : UInt64) :
    shaCopy { context with totalBytes := total } input =
      { shaCopy context input with totalBytes := total } := by
  unfold shaCopy
  simp only
  split <;> rfl

/-- The number of bytes may be added before the bytes are copied. -/
theorem shaCopies_eq (room : context.block.length < 64) :
    shaCopies { context with
        totalBytes := context.totalBytes + input.length.toUInt64 } input =
      shaUpdate context input := by
  induction size : input.length using Nat.strong_induction_on
    generalizing context input with
  | h count induction =>
    rw [shaCopies]
    split
    · rename_i more
      have present : input ≠ [] := by
        rintro rfl
        exact more.1 rfl
      have parts : input.take (min input.length (64 - context.block.length)) ++
          input.drop (min input.length (64 - context.block.length)) =
            input := List.take_append_drop _ _
      have shorter : (input.drop (min input.length
          (64 - context.block.length))).length < count := by
        rw [List.length_drop]
        omega
      conv => rhs; rw [← parts]
      rw [shaUpdate_append, shaCopy_eq room]
      have sum : context.totalBytes + count.toUInt64 =
          context.totalBytes + (min input.length
            (64 - context.block.length)).toUInt64 +
            (input.drop (min input.length
              (64 - context.block.length))).length.toUInt64 := by
        rw [UInt64.add_assoc, List.length_drop]
        congr 1
        have whole : count = min input.length
            (64 - context.block.length) + (input.length -
              min input.length (64 - context.block.length)) := by
          omega
        conv => lhs; rw [whole]
        exact UInt64.ofNat_add _ _
      rw [shaCopy_total, sum]
      exact @induction _ shorter
        { shaCopy context input with
          totalBytes := context.totalBytes + (min input.length
            (64 - context.block.length)).toUInt64 } _
        (shaCopy_room room) rfl
    · rename_i finished
      have empty : input = [] := by
        by_contra present
        have visible := List.length_pos_iff.mpr present
        exact finished ⟨by omega, room⟩
      subst empty size
      simp [shaUpdate]

end Copies

/-! ## One block -/

section Blocks

variable {block rest : Bytes}

/-- A value of the standard in the fields of a context. -/
def stored (words : Lib.SecureHash.Words) : Words :=
  ⟨words.a, words.b, words.c, words.d, words.e, words.f, words.g, words.h⟩

/-- Four bytes put together with shifts. -/
theorem joined (a b c d : UInt8) :
    (a.toUInt32 <<< 24) ||| (b.toUInt32 <<< 16) ||| (c.toUInt32 <<< 8) |||
        d.toUInt32 =
      (a.toNat * 2 ^ 24 + b.toNat * 2 ^ 16 + c.toNat * 2 ^ 8 +
        d.toNat).toUInt32 := by
  have boundB := b.toNat_lt
  have boundC := c.toNat_lt
  have boundD := d.toNat_lt
  apply UInt32.toNat_inj.mp
  have high : a.toNat * 2 ^ 24 ||| b.toNat * 2 ^ 16 =
      (a.toNat * 2 ^ 8 + b.toNat) * 2 ^ 16 := by
    have small : b.toNat * 2 ^ 16 < 2 ^ 24 := by omega
    have sum := Nat.two_pow_add_eq_or_of_lt small a.toNat
    rw [Nat.mul_comm a.toNat, ← sum]
    omega
  have middle : (a.toNat * 2 ^ 8 + b.toNat) * 2 ^ 16 ||| c.toNat * 2 ^ 8 =
      (a.toNat * 2 ^ 16 + b.toNat * 2 ^ 8 + c.toNat) * 2 ^ 8 := by
    have small : c.toNat * 2 ^ 8 < 2 ^ 16 := by omega
    have sum := Nat.two_pow_add_eq_or_of_lt small
      (a.toNat * 2 ^ 8 + b.toNat)
    rw [Nat.mul_comm (_ + _), ← sum]
    omega
  have low : (a.toNat * 2 ^ 16 + b.toNat * 2 ^ 8 + c.toNat) * 2 ^ 8 |||
      d.toNat =
      a.toNat * 2 ^ 24 + b.toNat * 2 ^ 16 + c.toNat * 2 ^ 8 + d.toNat := by
    have small : d.toNat < 2 ^ 8 := boundD
    have sum := Nat.two_pow_add_eq_or_of_lt small
      (a.toNat * 2 ^ 16 + b.toNat * 2 ^ 8 + c.toNat)
    rw [Nat.mul_comm (_ + _), ← sum]
    omega
  have shifted (value : UInt8) (bits : Nat) (few : bits ≤ 24) :
      value.toNat <<< bits % 2 ^ 32 = value.toNat * 2 ^ bits := by
    have bound := value.toNat_lt
    have power : 2 ^ bits ≤ 2 ^ 24 := Nat.pow_le_pow_right (by decide) few
    have small : value.toNat ≤ 255 := by omega
    have product := Nat.mul_le_mul small power
    omega
  have shiftA := shifted a 24 (by decide)
  have shiftB := shifted b 16 (by decide)
  have shiftC := shifted c 8 (by decide)
  simp only [UInt32.toNat_or, UInt32.toNat_shiftLeft, UInt8.toNat_toUInt32,
    UInt32.reduceToNat, Nat.reduceMod]
  rw [shiftA, shiftB, shiftC, high, middle, low, Nat.toUInt32,
    UInt32.toNat_ofNat', Nat.mod_eq_of_lt (by omega)]

theorem messageWord_succ (a b c d : UInt8) (t : Nat) :
    messageWord (a :: b :: c :: d :: rest) (t + 1) = messageWord rest t := by
  rfl

theorem blockWords_eq {count : Nat} (whole : block.length = 4 * count) :
    blockWords block = (List.range count).map (messageWord block) := by
  induction count generalizing block with
  | zero =>
    rw [List.length_eq_zero_iff.mp whole]
    rfl
  | succ count induction =>
    rcases block with _ | ⟨a, _ | ⟨b, _ | ⟨c, _ | ⟨d, rest⟩⟩⟩⟩
    · simp at whole
    · simp at whole
      omega
    · simp at whole
      omega
    · simp at whole
      omega
    · simp only [List.length_cons] at whole
      have behind : messageWord (a :: b :: c :: d :: rest) ∘ Nat.succ =
          messageWord rest := by
        funext t
        exact messageWord_succ a b c d t
      rw [blockWords, induction (by omega), List.range_succ_eq_map,
        List.map_cons, List.map_map, joined, behind]
      rfl

theorem getD_range_map (word : Nat → UInt32) {count index : Nat}
    (inside : index < count) :
    ((List.range count).map word).getD index 0 = word index := by
  rw [List.getD_eq_getElem?_getD, List.getElem?_map, List.getElem?_range inside]
  rfl

/-- The next word by the recurrence of the standard. -/
theorem scheduleWord_eq {count : Nat} (later : 16 ≤ count) :
    scheduleWord ((List.range count).map (schedule block)) =
      schedule block count := by
  have recurrence : schedule block count =
      smallSigma1 (schedule block (count - 2)) + schedule block (count - 7) +
        smallSigma0 (schedule block (count - 15)) +
          schedule block (count - 16) := by
    rw [schedule, if_neg (by omega)]
  rw [recurrence]
  unfold scheduleWord
  simp only [List.length_map, List.length_range]
  rw [getD_range_map _ (by omega), getD_range_map _ (by omega),
    getD_range_map _ (by omega), getD_range_map _ (by omega)]
  change _ + smallSigma0 _ + _ + smallSigma1 _ = _
  ac_rfl

theorem extendSchedule_eq (remaining : Nat) {count : Nat} (later : 16 ≤ count) :
    extendSchedule remaining ((List.range count).map (schedule block)) =
      (List.range (count + remaining)).map (schedule block) := by
  induction remaining generalizing count with
  | zero => rfl
  | succ remaining induction =>
    rw [extendSchedule, scheduleWord_eq later]
    have next : (List.range count).map (schedule block) ++
        [schedule block count] =
          (List.range (count + 1)).map (schedule block) := by
      rw [List.range_succ, List.map_append]
      rfl
    rw [next, induction (by omega), Nat.add_right_comm]
    rfl

theorem schedule_first (block : Bytes) :
    (List.range 16).map (messageWord block) =
      (List.range 16).map (schedule block) := by
  apply List.map_congr_left
  intro t member
  rw [schedule, if_pos (List.mem_range.mp member)]

/-- The rounds over one more constant and word. -/
theorem rounds_concat {constants words : List UInt32} (state : Words)
    (constant word : UInt32) (same : constants.length = words.length) :
    rounds state (constants ++ [constant]) (words ++ [word]) =
      round (rounds state constants words) constant word := by
  induction constants generalizing state words with
  | nil =>
    cases words with
    | nil => rfl
    | cons => simp at same
  | cons first constants induction =>
    cases words with
    | nil => simp at same
    | cons second words =>
      simp only [List.length_cons, Nat.add_right_cancel_iff] at same
      exact induction (round state first second) same

theorem round_eq (words : Lib.SecureHash.Words) (constant word : UInt32) :
    round (stored words) constant word =
      stored (words.step constant word) :=
  rfl

theorem rounds_eq (start : Lib.SecureHash.Words) (count : Nat) :
    rounds (stored start) ((List.range count).map roundConstant)
        ((List.range count).map (schedule block)) =
      stored (working start block count) := by
  induction count with
  | zero => rfl
  | succ count induction =>
    rw [List.range_succ, List.map_append, List.map_append]
    rw [List.map_singleton, List.map_singleton,
      rounds_concat _ _ _ (by simp), induction, round_eq]
    rfl

theorem constants_eq : constants = (List.range 64).map roundConstant :=
  rfl

/-- A block that is full goes through the compression of the standard. -/
theorem shaTransform_eq (start : Lib.SecureHash.Words) (full : block.length = 64) :
    shaTransform (stored start) block =
      stored (Lib.SecureHash.compress start block) := by
  have words := @blockWords_eq block 16 full
  unfold shaTransform
  rw [words, schedule_first, extendSchedule_eq 48 (Nat.le_refl 16),
    constants_eq, rounds_eq]
  rfl

theorem wordBytes_eq (word : UInt32) :
    wordBytes word = bigEndian 4 word.toNat := by
  simp only [wordBytes, bigEndian, littleEndian, List.reverse_cons,
    List.reverse_nil, List.nil_append, List.cons_append, List.cons.injEq,
    and_true, ← UInt8.toNat_inj, UInt32.toNat_toUInt8,
    UInt32.toNat_shiftRight, UInt32.reduceToNat, Nat.reduceMod,
    Nat.shiftRight_eq_div_pow, Nat.toUInt8, UInt8.toNat_ofNat']
  omega

theorem digest_eq (words : Lib.SecureHash.Words) :
    (stored words).digest.bytes =
      words.toList.flatMap fun word => bigEndian 4 word.toNat := by
  simp only [Words.digest, Lib.SecureHash.Words.toList, List.flatMap_cons,
    List.flatMap_nil, List.append_nil, wordBytes_eq, List.append_assoc]
  rfl

end Blocks

/-! ## Messages -/

section Messages

variable {message rest : Bytes}

/-- What a context is after a message. -/
structure Absorbed (message : Bytes) (context : Sha256Context) : Prop where
  state : context.state = stored (chain message (message.length / 64))
  block : context.block = message.drop (64 * (message.length / 64))
  total : context.totalBytes = message.length.toUInt64

theorem Absorbed.room {context : Sha256Context}
    (absorbed : Absorbed message context) :
    context.block.length = message.length % 64 := by
  rw [absorbed.block, List.length_drop]
  omega

theorem absorbed_start : Absorbed [] shaStart :=
  ⟨rfl, rfl, rfl⟩

theorem absorbed_byte {context : Sha256Context}
    (absorbed : Absorbed message context) (code : UInt8) :
    Absorbed (message ++ [code]) (shaByte context code) := by
  have count : (message ++ [code]).length = message.length + 1 := by simp
  have total : (message.length + 1).toUInt64 =
      message.length.toUInt64 + 1 := UInt64.ofNat_add message.length 1
  have open_ : context.block ++ [code] =
      (message ++ [code]).drop (64 * (message.length / 64)) := by
    rw [absorbed.block, List.drop_append_of_le_length (by omega)]
  have room := absorbed.room
  unfold shaByte
  simp only
  split
  · rename_i full
    have blocks : (message.length + 1) / 64 = message.length / 64 + 1 := by
      simp only [List.length_append, List.length_cons,
        List.length_nil] at full
      omega
    have inside : 64 * (message.length / 64) ≤ message.length := by omega
    constructor
    · change shaTransform context.state (context.block ++ [code]) = _
      rw [absorbed.state, shaTransform_eq _ full, count, blocks, chain,
        Lib.SecureHash.chain_append inside]
      congr 2
      rw [open_]
      unfold blockAt
      rw [List.take_of_length_le]
      rw [← open_]
      exact Nat.le_of_eq full
    · change [] = _
      rw [count, blocks, List.drop_eq_nil_of_le]
      omega
    · change context.totalBytes + 1 = _
      rw [absorbed.total, count, total]
  · rename_i short
    have blocks : (message.length + 1) / 64 = message.length / 64 := by
      simp only [List.length_append, List.length_cons,
        List.length_nil] at short
      omega
    have inside : 64 * (message.length / 64) ≤ message.length := by omega
    constructor
    · change context.state = _
      rw [absorbed.state, count, blocks, Lib.SecureHash.chain_append inside]
    · change context.block ++ [code] = _
      rw [count, blocks, open_]
    · change context.totalBytes + 1 = _
      rw [absorbed.total, count, total]

/-- A context knows a message by its blocks, whatever its pieces were. -/
theorem absorbed_update {context : Sha256Context}
    (absorbed : Absorbed message context) (piece : Bytes) :
    Absorbed (message ++ piece) (shaUpdate context piece) := by
  induction piece generalizing message context with
  | nil =>
    rw [List.append_nil]
    exact absorbed
  | cons code piece induction =>
    have next := induction (absorbed_byte absorbed code)
    rw [List.append_assoc] at next
    exact next

/-- The length is written in bits. -/
theorem totalBits {context : Sha256Context} (absorbed : Absorbed message context)
    (small : message.length < 2 ^ 61) :
    (context.totalBytes * 8).toNat = 8 * message.length := by
  rw [absorbed.total, UInt64.toNat_mul]
  change message.length.toUInt64.toNat * 8 % 2 ^ 64 = _
  have whole : message.length < 2 ^ 64 := by omega
  rw [Nat.toUInt64, UInt64.toNat_ofNat', Nat.mod_eq_of_lt whole,
    Nat.mod_eq_of_lt (by omega), Nat.mul_comm]

/-- The padded message from the open block on. -/
theorem drop_pad {context : Sha256Context} (absorbed : Absorbed message context) :
    (pad message).drop (64 * (message.length / 64)) =
      context.block ++ 0x80 ::
        (List.replicate (paddingZeros message.length) 0 ++
          bigEndian 8 (8 * message.length)) := by
  rw [pad, List.drop_append_of_le_length (by omega), ← absorbed.block]

theorem chain_pad (message : Bytes) :
    chain (pad message) (message.length / 64) =
      chain message (message.length / 64) :=
  Lib.SecureHash.chain_append (by omega) _

/-- The length fits behind the open block. -/
theorem digest_oneBlock {context : Sha256Context}
    (absorbed : Absorbed message context) (fits : message.length % 64 < 56) :
    stored (chain (pad message) ((pad message).length / 64)) =
      shaTransform context.state (padded (context.block ++ [0x80]) 56 ++
        bigEndian 8 (8 * message.length)) := by
  have room := absorbed.room
  have zeros : paddingZeros message.length = 55 - message.length % 64 := by
    unfold paddingZeros
    omega
  have blocks : (pad message).length / 64 = message.length / 64 + 1 := by
    rw [Lib.SecureHash.length_pad, zeros]
    omega
  have last : blockAt (pad message) (message.length / 64) =
      padded (context.block ++ [0x80]) 56 ++
        bigEndian 8 (8 * message.length) := by
    have size : 56 - (context.block.length + 1) =
        55 - message.length % 64 := by omega
    unfold blockAt padded
    rw [drop_pad absorbed, zeros, List.take_of_length_le]
    · simp [size]
    · simp only [List.length_append, List.length_cons,
        List.length_replicate, Lib.SecureHash.length_bigEndian, room]
      omega
  rw [blocks, chain, chain_pad, last, absorbed.state, shaTransform_eq]
  simp only [padded, List.length_append, List.length_cons, List.length_nil,
    List.length_replicate, Lib.SecureHash.length_bigEndian, room]
  omega

/-- The length takes a block of its own. -/
theorem digest_twoBlocks {context : Sha256Context}
    (absorbed : Absorbed message context) (full : 56 ≤ message.length % 64) :
    stored (chain (pad message) ((pad message).length / 64)) =
      shaTransform
        (shaTransform context.state (padded (context.block ++ [0x80]) 64))
        (padded [] 56 ++ bigEndian 8 (8 * message.length)) := by
  have room := absorbed.room
  have zeros : paddingZeros message.length =
      63 - message.length % 64 + 56 := by
    unfold paddingZeros
    omega
  have blocks : (pad message).length / 64 = message.length / 64 + 2 := by
    rw [Lib.SecureHash.length_pad, zeros]
    omega
  have parts : (pad message).drop (64 * (message.length / 64)) =
      padded (context.block ++ [0x80]) 64 ++
        (padded [] 56 ++ bigEndian 8 (8 * message.length)) := by
    have size : 64 - (context.block.length + 1) =
        63 - message.length % 64 := by omega
    rw [drop_pad absorbed, zeros, List.replicate_add]
    simp [padded, size]
  have first : (padded (context.block ++ [0x80]) 64).length = 64 := by
    simp only [padded, List.length_append, List.length_cons,
      List.length_nil, List.length_replicate, room]
    omega
  have second : (padded [] 56 ++
      bigEndian 8 (8 * message.length)).length = 64 := by
    rfl
  have firstBlock : blockAt (pad message) (message.length / 64) =
      padded (context.block ++ [0x80]) 64 := by
    rw [blockAt, parts, List.take_left' first]
  have secondBlock : blockAt (pad message) (message.length / 64 + 1) =
      padded [] 56 ++ bigEndian 8 (8 * message.length) := by
    rw [blockAt, Nat.mul_add, ← List.drop_drop, parts, List.drop_left' first,
      List.take_of_length_le (Nat.le_of_eq second)]
  rw [blocks, chain, chain, chain_pad, firstBlock, secondBlock,
    absorbed.state, shaTransform_eq _ first, shaTransform_eq _ second]

/-- A finished hash is the digest of the standard. -/
theorem shaFinish_eq {context : Sha256Context}
    (absorbed : Absorbed message context) (small : message.length < 2 ^ 61) :
    (shaFinish context).bytes = digest message := by
  have bits := totalBits absorbed small
  have room := absorbed.room
  have count : (context.block ++ [0x80]).length =
      message.length % 64 + 1 := by
    rw [List.length_append, room]
    rfl
  rw [digest, ← digest_eq]
  by_cases full : 56 ≤ message.length % 64
  · rw [digest_twoBlocks absorbed full]
    unfold shaFinish
    simp only [bits, count]
    rw [if_pos (by omega)]
  · rw [digest_oneBlock absorbed (by omega)]
    unfold shaFinish
    simp only [bits, count]
    rw [if_neg (by omega)]

/-- The pieces of a message, in whichever way it was split. -/
theorem absorbed_pieces (pieces : List Bytes) {context : Sha256Context}
    (absorbed : Absorbed message context) :
    Absorbed (message ++ pieces.flatten)
      (pieces.foldl shaUpdateBlocks context) := by
  induction pieces generalizing message context with
  | nil =>
    rw [List.flatten_nil, List.append_nil]
    exact absorbed
  | cons piece pieces induction =>
    have room : context.block.length < 64 := by
      rw [absorbed.room]
      exact Nat.mod_lt _ (by decide)
    have step : shaUpdateBlocks context piece = shaUpdate context piece :=
      shaCopies_eq room
    rw [List.foldl_cons, step, List.flatten_cons, ← List.append_assoc]
    exact induction (absorbed_update absorbed piece)

end Messages

end Kitsu.Sha256Standard
