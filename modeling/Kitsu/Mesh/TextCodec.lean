import Kitsu.Companion.Base64Url
import Kitsu.Companion.Json
import Kitsu.Lib.Utf8

/-!
# Text payloads of the mesh

A direct message is a timestamp, a byte of flags and the text; attempts above
three do not fit the flags and follow the text behind a zero.  A channel message
names its sender in front of the text.  The cipher pads both with zeros, so the
decoder takes the text up to the first zero.
-/

namespace Kitsu.Mesh.TextCodec

open Kitsu.Lib.ByteString
open Kitsu.Lib.Utf8
open Kitsu.Companion.Base64Url (byte)
open Kitsu.Companion.Json (isContinuation)

def kMeshTextBytes : Nat := 160
def kMeshTextCapacity : Nat := kMeshTextBytes + 1

/-- What a payload or a text is refused for. -/
inductive TextCodecStatus where
  | emptyText
  | textTooLong
  | outputTooSmall
  | payloadTooShort
  | unsupportedTextType
  | invalidUtf8
deriving DecidableEq, Repr

/-- A text message as it was received. -/
structure DecodedTextPayload where
  timestamp : UInt32
  attempt : UInt8
  text : Bytes
deriving DecidableEq, Repr

/-! ## UTF-8 -/

/-- The length that the first byte of a character announces. -/
def sequenceLength (first : UInt8) : Option Nat :=
  if first < 0x80 then
    if first < 0x20 || first = 0x7f then none else some 1
  else if 0xc2 ≤ first ∧ first ≤ 0xdf then some 2
  else if 0xe0 ≤ first ∧ first ≤ 0xef then some 3
  else if 0xf0 ≤ first ∧ first ≤ 0xf4 then some 4
  else none

/-- The code point of a sequence, if it is the shortest form of a scalar. -/
def sequenceCodePoint (sequenceBytes : Nat) (first : UInt8)
    (rest : Bytes) : Option Nat :=
  let low := fun index => (rest.getD index 0).toNat % 64
  if sequenceBytes = 2 then some (first.toNat % 32 * 64 + low 0)
  else if sequenceBytes = 3 then
    let codePoint := first.toNat % 16 * 4096 + low 0 * 64 + low 1
    if codePoint < 0x800 || (0xd800 ≤ codePoint && codePoint ≤ 0xdfff) then
      none
    else some codePoint
  else if sequenceBytes = 4 then
    let codePoint :=
      first.toNat % 8 * 262144 + low 0 * 4096 + low 1 * 64 + low 2
    if codePoint < 0x10000 || codePoint > 0x10ffff then none
    else some codePoint
  else some first.toNat

/-- `text` is what lies at the offset of the loop and behind it. -/
def validMeshTextUtf8 : Bytes → Bool
  | [] => true
  | first :: rest =>
    match sequenceLength first with
    | none => false
    | some sequenceBytes =>
      if sequenceBytes > (first :: rest).length then false
      else if !((rest.take (sequenceBytes - 1)).all isContinuation) then
        false
      else
        match sequenceCodePoint sequenceBytes first rest with
        | none => false
        | some codePoint =>
          if 0x80 ≤ codePoint && codePoint ≤ 0x9f then false
          else validMeshTextUtf8 (rest.drop (sequenceBytes - 1))
termination_by text => text.length
decreasing_by
  rw [List.length_drop, List.length_cons]
  omega

/-! ## Encoding -/

/-- A string in memory, up to its terminator. -/
def cString (text : Bytes) : Bytes :=
  text.takeWhile (· != 0)

def strnlen (text : Bytes) (limit : Nat) : Nat :=
  min (cString text).length limit

/--
The payload of a direct message; a late attempt is marked behind the text.
-/
def encodeDirectTextPayload (timestamp : UInt32) (attempt : UInt8)
    (text : Bytes) (outputCapacity : Nat) : Except TextCodecStatus Bytes :=
  let textBytes := strnlen text kMeshTextCapacity
  let extended := attempt > 3
  if textBytes = 0 then .error .emptyText
  else if textBytes > kMeshTextBytes ||
      (extended && textBytes > kMeshTextBytes - 2) then .error .textTooLong
  else if !validMeshTextUtf8 (text.take textBytes) then .error .invalidUtf8
  else if outputCapacity < 5 + textBytes + (if extended then 2 else 0) then
    .error .outputTooSmall
  else .ok (littleEndian 4 timestamp.toNat ++ [attempt &&& 3] ++
    text.take textBytes ++ (if extended then [0, attempt] else []))

/-- The payload of a channel message, which names its sender. -/
def encodeChannelTextPayload (timestamp : UInt32) (senderName text : Bytes)
    (outputCapacity : Nat) : Except TextCodecStatus Bytes :=
  let senderBytes := strnlen senderName 33
  let combinedBytes := senderBytes + 2 + text.length
  if text = [] then .error .emptyText
  else if senderBytes = 0 || senderBytes ≥ 33 ||
      !validMeshTextUtf8 (senderName.take senderBytes) ||
      !validMeshTextUtf8 text then .error .invalidUtf8
  else if combinedBytes > kMeshTextBytes then .error .textTooLong
  else if outputCapacity < 5 + combinedBytes then .error .outputTooSmall
  else .ok (littleEndian 4 timestamp.toNat ++ [0] ++
    senderName.take senderBytes ++ [byte ':', byte ' '] ++ text)

/-! ## Decoding -/

/-- Four bytes, the least significant first. -/
def readLe32 (input : Bytes) : UInt32 :=
  (ofLittleEndian (input.take 4)).toUInt32

/-- The text of a payload, up to its first zero byte. -/
def decodePlain (input : Bytes) :
    Except TextCodecStatus DecodedTextPayload :=
  let flags := input.getD 4 0
  let text := (input.drop 5).takeWhile (· != 0)
  let terminator := 5 + text.length
  let extended := input.getD (terminator + 1) 0
  if input.length ≤ 5 then .error .payloadTooShort
  else if flags >>> 2 ≠ 0 then .error .unsupportedTextType
  else if text.length = 0 then .error .emptyText
  else if text.length > kMeshTextBytes then .error .textTooLong
  else if !validMeshTextUtf8 text then .error .invalidUtf8
  else .ok
    { timestamp := readLe32 input
      attempt :=
        if terminator + 1 < input.length && input.getD terminator 0 = 0 &&
            extended > 3 then extended
        else flags &&& 3
      text }

def decodeDirectTextPayload (input : Bytes) :
    Except TextCodecStatus DecodedTextPayload :=
  decodePlain input

/-- What follows the first separator. -/
def strstrSeparator : Bytes → Option Bytes
  | first :: second :: rest =>
    if first = byte ':' && second = byte ' ' then some rest
    else strstrSeparator (second :: rest)
  | _ => none

/-- A channel message must not end with the sender's name. -/
def decodeChannelTextPayload (input : Bytes) :
    Except TextCodecStatus DecodedTextPayload :=
  match decodePlain input with
  | .error status => .error status
  | .ok decoded =>
    if strstrSeparator decoded.text = some [] then .error .emptyText
    else .ok decoded

/-! ## Accepted text -/

/-- C0, DEL and C1. -/
def controlCharacter (codePoint : Nat) : Bool :=
  codePoint < 0x20 || codePoint = 0x7f ||
    (0x80 ≤ codePoint && codePoint ≤ 0x9f)

theorem isContinuation_iff {code : UInt8} :
    isContinuation code = true ↔ Trailing code := by
  rw [isContinuation, beq_iff_eq, Trailing]
  omega

section Validator

variable {first second third fourth : UInt8} {rest : Bytes}
  {character : Char}

theorem controlCharacter_low {codePoint : Nat} (low : codePoint ≤ 0x7f) :
    controlCharacter codePoint =
      (decide (codePoint < 0x20) || decide (codePoint = 0x7f)) := by
  have notC1 : decide (0x80 ≤ codePoint) = false := by simp; omega
  rw [controlCharacter, notC1, Bool.false_and, Bool.or_false]

theorem sequenceLength_one (low : first.toNat ≤ 0x7f) :
    sequenceLength first =
      if controlCharacter first.toNat then none else some 1 := by
  rw [controlCharacter_low low]
  simp only [sequenceLength, UInt8.lt_iff_toNat_lt, ← UInt8.toNat_inj,
    UInt8.reduceToNat]
  rw [if_pos (by omega)]

theorem sequenceLength_two (least : 0xc2 ≤ first.toNat)
    (most : first.toNat ≤ 0xdf) : sequenceLength first = some 2 := by
  simp only [sequenceLength, UInt8.lt_iff_toNat_lt, UInt8.le_iff_toNat_le,
    UInt8.reduceToNat]
  rw [if_neg (by omega), if_pos (by omega)]

theorem sequenceLength_three (least : 0xe0 ≤ first.toNat)
    (most : first.toNat ≤ 0xef) : sequenceLength first = some 3 := by
  simp only [sequenceLength, UInt8.lt_iff_toNat_lt, UInt8.le_iff_toNat_le,
    UInt8.reduceToNat]
  rw [if_neg (by omega), if_neg (by omega), if_pos (by omega)]

theorem sequenceLength_four (least : 0xf0 ≤ first.toNat)
    (most : first.toNat ≤ 0xf4) : sequenceLength first = some 4 := by
  simp only [sequenceLength, UInt8.lt_iff_toNat_lt, UInt8.le_iff_toNat_le,
    UInt8.reduceToNat]
  rw [if_neg (by omega), if_neg (by omega), if_neg (by omega),
    if_pos (by omega)]

theorem sequenceCodePoint_two (character : Char)
    (code : character.toNat = first.toNat % 32 * 64 + second.toNat % 64) :
    sequenceCodePoint 2 first (second :: rest) = some character.toNat := by
  rw [code]
  rfl

theorem sequenceCodePoint_three (minimum : 0x800 ≤ character.toNat)
    (code : character.toNat = (first.toNat % 16 * 64 + second.toNat % 64) * 64 +
        third.toNat % 64) :
    sequenceCodePoint 3 first (second :: third :: rest) =
      some character.toNat := by
  have inside := scalar character
  have split : first.toNat % 16 * 4096 + second.toNat % 64 * 64 +
      third.toNat % 64 = character.toNat := by omega
  simp only [sequenceCodePoint, Nat.reduceEqDiff, if_false, if_true,
    List.getD_cons_zero, List.getD_cons_succ, split]
  simp
  omega

theorem sequenceCodePoint_four (minimum : 0x10000 ≤ character.toNat)
    (code : character.toNat = ((first.toNat % 8 * 64 + second.toNat % 64) * 64 +
        third.toNat % 64) * 64 + fourth.toNat % 64) :
    sequenceCodePoint 4 first (second :: third :: fourth :: rest) =
      some character.toNat := by
  have inside := scalar character
  have split : first.toNat % 8 * 262144 + second.toNat % 64 * 4096 +
      third.toNat % 64 * 64 + fourth.toNat % 64 = character.toNat := by
    omega
  simp only [sequenceCodePoint, Nat.reduceEqDiff, if_false, if_true,
    List.getD_cons_zero, List.getD_cons_succ, split]
  simp
  omega

/-- The number of bytes of the character in front, if it is an allowed one. -/
def characterBytes : Bytes → Option Nat
  | [] => none
  | first :: rest =>
    match sequenceLength first with
    | none => none
    | some sequenceBytes =>
      if sequenceBytes > (first :: rest).length then none
      else if !((rest.take (sequenceBytes - 1)).all isContinuation) then
        none
      else
        match sequenceCodePoint sequenceBytes first rest with
        | none => none
        | some codePoint =>
          if 0x80 ≤ codePoint && codePoint ≤ 0x9f then none
          else some sequenceBytes

theorem sequenceLength_pos {sequenceBytes : Nat}
    (known : sequenceLength first = some sequenceBytes) : 0 < sequenceBytes := by
  unfold sequenceLength at known
  split_ifs at known <;> cases known <;> decide

/-- The validator takes one character after the other. -/
theorem validMeshTextUtf8_cons (first : UInt8) (rest : Bytes) :
    validMeshTextUtf8 (first :: rest) =
      match characterBytes (first :: rest) with
      | none => false
      | some count => validMeshTextUtf8 ((first :: rest).drop count) := by
  rw [validMeshTextUtf8, characterBytes]
  cases known : sequenceLength first with
  | none => rfl
  | some sequenceBytes =>
    have behind : (first :: rest).drop sequenceBytes =
        rest.drop (sequenceBytes - 1) := by
      cases sequenceBytes with
      | zero => exact absurd (sequenceLength_pos known) (Nat.lt_irrefl 0)
      | succ count => rfl
    dsimp only
    split
    · rfl
    split
    · rfl
    cases sequenceCodePoint sequenceBytes first rest with
    | none => rfl
    | some codePoint =>
      dsimp only
      split
      · rfl
      · exact congrArg validMeshTextUtf8 behind.symm

/-- The last check on a code point of several bytes. -/
theorem checked {count : Nat} (high : 0x80 ≤ character.toNat) :
    (if 0x80 ≤ character.toNat && character.toNat ≤ 0x9f then none
      else some count) =
      if controlCharacter character.toNat then none else some count := by
  have low : decide (character.toNat < 0x20) = false := by simp; omega
  have del : decide (character.toNat = 0x7f) = false := by simp; omega
  rw [controlCharacter, low, del, Bool.false_or, Bool.false_or]

/-- One character is taken, whatever its encoding is. -/
theorem characterBytes_encoded (character : Char) (rest : Bytes) :
    characterBytes (String.utf8EncodeChar character ++ rest) =
      if controlCharacter character.toNat then none
      else some (String.utf8EncodeChar character).length := by
  have shaped := shape character
  generalize String.utf8EncodeChar character = text at shaped
  cases shaped with
  | one low code =>
    rename_i first
    rw [List.singleton_append, characterBytes, sequenceLength_one low, ← code]
    cases control : controlCharacter character.toNat with
    | true => rfl
    | false =>
      have short : ¬ 1 > rest.length + 1 := by omega
      have known : sequenceCodePoint 1 first rest =
          some character.toNat := by
        rw [code]
        rfl
      have notC1 : decide (0x80 ≤ character.toNat) = false := by
        simp
        omega
      simp only [Bool.false_eq_true, if_false, List.length_cons, short,
        known, notC1, Bool.false_and]
      rfl
  | two least most second code =>
    rw [List.cons_append, List.singleton_append, characterBytes,
      sequenceLength_two least most]
    have long : ¬ 2 > rest.length + 1 + 1 := by omega
    simp only [List.length_cons, long, if_false, Nat.reduceSub,
      List.take_succ_cons, List.take_zero, List.all_cons, List.all_nil,
      isContinuation_iff.mpr second, Bool.and_self, Bool.not_true,
      Bool.false_eq_true, sequenceCodePoint_two character code]
    exact checked (by unfold Trailing at second; omega)
  | three least most second third minimum code =>
    rw [List.cons_append, List.cons_append, List.singleton_append,
      characterBytes, sequenceLength_three least most]
    have long : ¬ 3 > rest.length + 1 + 1 + 1 := by omega
    simp only [List.length_cons, long, if_false, Nat.reduceSub,
      List.take_succ_cons, List.take_zero, List.all_cons, List.all_nil,
      isContinuation_iff.mpr second, isContinuation_iff.mpr third,
      Bool.and_self, Bool.not_true, Bool.false_eq_true,
      sequenceCodePoint_three minimum code]
    exact checked (by omega)
  | four least most second third fourth minimum code =>
    rw [List.cons_append, List.cons_append, List.cons_append,
      List.singleton_append, characterBytes, sequenceLength_four least most]
    have long : ¬ 4 > rest.length + 1 + 1 + 1 + 1 := by omega
    simp only [List.length_cons, long, if_false, Nat.reduceSub,
      List.take_succ_cons, List.take_zero, List.all_cons, List.all_nil,
      isContinuation_iff.mpr second, isContinuation_iff.mpr third,
      isContinuation_iff.mpr fourth, Bool.and_self, Bool.not_true,
      Bool.false_eq_true, sequenceCodePoint_four minimum code]
    exact checked (by omega)

theorem validMeshTextUtf8_takes (character : Char) (rest : Bytes) :
    validMeshTextUtf8 (String.utf8EncodeChar character ++ rest) =
      (!controlCharacter character.toNat && validMeshTextUtf8 rest) := by
  have taken := characterBytes_encoded character rest
  have behind : (String.utf8EncodeChar character ++ rest).drop
      (String.utf8EncodeChar character).length = rest := List.drop_left
  cases input : String.utf8EncodeChar character ++ rest with
  | nil =>
    exact absurd (List.append_eq_nil_iff.mp input).1
      (encode_ne_nil character)
  | cons first others =>
    rw [input] at taken behind
    rw [validMeshTextUtf8_cons, taken]
    cases controlCharacter character.toNat with
    | true => rfl
    | false => exact congrArg validMeshTextUtf8 behind

/-- What is taken is a character. -/
theorem characterBytes_begins {first : UInt8} {rest : Bytes} {count : Nat}
    (taken : characterBytes (first :: rest) = some count) :
    Begins (first :: rest) := by
  rw [characterBytes] at taken
  split at taken
  · cases taken
  rename_i sequenceBytes known
  split at taken
  · cases taken
  rename_i enough
  split at taken
  · cases taken
  rename_i continued
  rw [Bool.not_eq_true', Bool.not_eq_false] at continued
  split at taken
  · cases taken
  rename_i codePoint formed
  simp only [sequenceLength, UInt8.lt_iff_toNat_lt, UInt8.le_iff_toNat_le,
    UInt8.reduceToNat] at known
  split at known
  · rename_i low
    obtain ⟨character, code⟩ :=
      exists_character first.toNat (by omega)
    exact (Shape.one (by omega) code).begins rest
  split at known
  · rename_i lead
    cases known
    rcases rest with _ | ⟨second, rest⟩
    · exact absurd (by simp) enough
    · simp only [Nat.reduceSub, List.take_succ_cons, List.take_zero,
        List.all_cons, List.all_nil, Bool.and_true,
        isContinuation_iff] at continued
      obtain ⟨character, code⟩ := exists_character
        (first.toNat % 32 * 64 + second.toNat % 64) (by omega)
      exact (Shape.two lead.1 lead.2 continued code).begins rest
  split at known
  · rename_i lead
    cases known
    rcases rest with _ | ⟨second, _ | ⟨third, rest⟩⟩
    · exact absurd (by simp) enough
    · exact absurd (by simp) enough
    · simp only [Nat.reduceSub, List.take_succ_cons, List.take_zero,
        List.all_cons, List.all_nil, Bool.and_true, Bool.and_eq_true,
        isContinuation_iff] at continued
      simp [sequenceCodePoint] at formed
      obtain ⟨character, code⟩ := exists_character
        ((first.toNat % 16 * 64 + second.toNat % 64) * 64 +
          third.toNat % 64) (by omega)
      exact (Shape.three lead.1 lead.2 continued.1 continued.2
        (by omega) code).begins rest
  split at known
  · rename_i lead
    cases known
    rcases rest with _ | ⟨second, _ | ⟨third, _ | ⟨fourth, rest⟩⟩⟩
    · exact absurd (by simp) enough
    · exact absurd (by simp) enough
    · exact absurd (by simp) enough
    · simp only [Nat.reduceSub, List.take_succ_cons, List.take_zero,
        List.all_cons, List.all_nil, Bool.and_true, Bool.and_eq_true,
        isContinuation_iff] at continued
      simp [sequenceCodePoint] at formed
      obtain ⟨character, code⟩ := exists_character
        (((first.toNat % 8 * 64 + second.toNat % 64) * 64 +
          third.toNat % 64) * 64 + fourth.toNat % 64) (by omega)
      exact (Shape.four lead.1 lead.2 continued.1 continued.2.1
        continued.2.2 (by omega) code).begins rest
  · cases known

theorem validMeshTextUtf8_begins (first : UInt8) (rest : Bytes)
    (valid : validMeshTextUtf8 (first :: rest) = true) :
    Begins (first :: rest) := by
  rw [validMeshTextUtf8_cons] at valid
  cases taken : characterBytes (first :: rest) with
  | none => rw [taken] at valid; cases valid
  | some count => exact characterBytes_begins taken

end Validator

/-- Well-formed text without control characters. -/
theorem validMeshTextUtf8_iff (text : Bytes) :
    validMeshTextUtf8 text = true ↔
      Encodes (fun character =>
        (!controlCharacter character.toNat) = true) text :=
  valid_iff_encodes (by rw [validMeshTextUtf8]) validMeshTextUtf8_takes
    validMeshTextUtf8_begins text

/-! ## Round trip -/

section RoundTrip

variable {timestamp : UInt32} {attempt flags : UInt8}
  {text body behind payload senderName : Bytes} {outputCapacity : Nat}

/-- Accepted text holds no terminator. -/
theorem nonzero_of_valid (valid : validMeshTextUtf8 text = true) :
    ∀ code ∈ text, code ≠ 0 := by
  refine (((validMeshTextUtf8_iff text).mp valid).mono ?_).nonzero
  intro character visible zero
  rw [zero] at visible
  cases visible

theorem take_strnlen (text : Bytes) {limit : Nat}
    (inside : strnlen text limit < limit) :
    text.take (strnlen text limit) = cString text := by
  have whole : strnlen text limit = (cString text).length := by
    unfold strnlen at *
    omega
  rw [whole]
  exact (List.prefix_iff_eq_take.mp (List.takeWhile_prefix _)).symm

/-- Cipher padding, or a terminator with an attempt behind it. -/
def Terminated (behind : Bytes) : Prop :=
  behind.getD 0 0 = 0

theorem takeWhile_terminated (visible : ∀ code ∈ body, code ≠ 0)
    (terminated : Terminated behind) :
    (body ++ behind).takeWhile (· != 0) = body := by
  have inside : ∀ code ∈ body, (code != 0) = true := by
    intro code member
    exact bne_iff_ne.mpr (visible code member)
  rw [List.takeWhile_append_of_pos inside]
  cases behind with
  | nil => simp
  | cons first rest =>
    have zero : first = 0 := terminated
    rw [List.takeWhile_cons_of_neg (by simp [zero]), List.append_nil]

/-- What the decoder makes of a payload with something behind its text. -/
theorem decodePlain_laidOut (plain : flags >>> 2 = 0)
    (present : body ≠ []) (short : body.length ≤ kMeshTextBytes)
    (valid : validMeshTextUtf8 body = true) (terminated : Terminated behind) :
    decodePlain (littleEndian 4 timestamp.toNat ++ flags :: (body ++ behind)) =
      .ok
        { timestamp
          attempt :=
            if 1 < behind.length && behind.getD 1 0 > 3 then
              behind.getD 1 0
            else flags &&& 3
          text := body } := by
  have four := length_littleEndian 4 timestamp.toNat
  generalize front : littleEndian 4 timestamp.toNat = header at four
  have drop : (header ++ flags :: (body ++ behind)).drop 5 =
      body ++ behind := by
    rw [← List.singleton_append, ← List.append_assoc]
    exact List.drop_left' (by simp [four])
  have later (index : Nat) :
      (header ++ flags :: (body ++ behind)).getD
        (5 + body.length + index) 0 = behind.getD index 0 := by
    have behind_eq : behind =
        (header ++ flags :: (body ++ behind)).drop (5 + body.length) := by
      rw [← List.drop_drop, drop, List.drop_left]
    conv => rhs; rw [behind_eq]
    simp only [List.getD_eq_getElem?_getD, List.getElem?_drop]
  have first := getD_append_cons header (body ++ behind) flags four
  have text := takeWhile_terminated (nonzero_of_valid valid) terminated
  have stamp : readLe32 (header ++ flags :: (body ++ behind)) =
      timestamp := by
    have small : timestamp.toNat < 256 ^ 4 := timestamp.toNat_lt
    rw [readLe32, List.take_left' four, ← front,
      ofLittleEndian_littleEndian, Nat.mod_eq_of_lt small]
    exact UInt32.ofNat_toNat
  have count : (header ++ flags :: (body ++ behind)).length =
      5 + body.length + behind.length := by
    simp [four]
    omega
  have visible := List.length_pos_iff.mpr present
  have zero : behind.getD 0 0 = 0 := terminated
  unfold decodePlain
  simp only [drop, text, first, count, stamp, later 1]
  have ends := later 0
  rw [Nat.add_zero] at ends
  rw [if_neg (by omega), if_neg (not_not.mpr plain), if_neg (by omega),
    if_neg (by omega), valid, ends, zero]
  simp

theorem flags_plain (attempt : UInt8) : (attempt &&& 3) >>> 2 = 0 := by
  apply UInt8.toNat_inj.mp
  have low : attempt.toNat &&& 3 = attempt.toNat % 4 :=
    Nat.and_two_pow_sub_one_eq_mod attempt.toNat 2
  simp only [UInt8.toNat_shiftRight, UInt8.toNat_and, UInt8.reduceToNat,
    low, Nat.shiftRight_eq_div_pow, Nat.reduceMod, Nat.reducePow]
  omega

theorem flags_attempt (few : attempt ≤ 3) : attempt &&& 3 &&& 3 = attempt := by
  apply UInt8.toNat_inj.mp
  have bound := UInt8.le_iff_toNat_le.mp few
  simp only [UInt8.reduceToNat] at bound
  have low (value : Nat) : value &&& 3 = value % 4 :=
    Nat.and_two_pow_sub_one_eq_mod value 2
  simp only [UInt8.toNat_and, UInt8.reduceToNat, low]
  omega

/-- What an accepted direct message consists of. -/
theorem encodeDirectTextPayload_ok
    (encoded : encodeDirectTextPayload timestamp attempt text
      outputCapacity = .ok payload) :
    cString text ≠ [] ∧ (cString text).length ≤ kMeshTextBytes ∧
      validMeshTextUtf8 (cString text) = true ∧
      payload = littleEndian 4 timestamp.toNat ++ (attempt &&& 3) ::
        (cString text ++ if attempt > 3 then [0, attempt] else []) := by
  unfold encodeDirectTextPayload at encoded
  simp only at encoded
  split at encoded
  · cases encoded
  rename_i present
  split at encoded
  · cases encoded
  rename_i fits
  simp only [Bool.or_eq_true, decide_eq_true_eq, not_or] at fits
  have inside : strnlen text kMeshTextCapacity < kMeshTextCapacity := by
    have capacity : kMeshTextCapacity = kMeshTextBytes + 1 := rfl
    omega
  rw [take_strnlen text inside] at encoded
  have count : strnlen text kMeshTextCapacity = (cString text).length := by
    unfold strnlen at *
    omega
  rw [count] at present fits
  split at encoded
  · cases encoded
  rename_i valid
  generalize (if attempt > 3 then 2 else 0) = extra at encoded
  split at encoded
  · cases encoded
  cases encoded
  refine ⟨?_, by omega, by simpa using valid, ?_⟩
  · rintro empty
    exact present (by rw [empty]; rfl)
  · simp [List.append_assoc]

/-- What an accepted channel message consists of. -/
theorem encodeChannelTextPayload_ok
    (encoded : encodeChannelTextPayload timestamp senderName text
      outputCapacity = .ok payload) :
    text ≠ [] ∧
      (cString senderName ++ byte ':' :: byte ' ' :: text).length ≤
        kMeshTextBytes ∧
      validMeshTextUtf8 (cString senderName) = true ∧
      validMeshTextUtf8 text = true ∧
      payload = littleEndian 4 timestamp.toNat ++ 0 ::
        (cString senderName ++ byte ':' :: byte ' ' :: text) := by
  unfold encodeChannelTextPayload at encoded
  simp only at encoded
  split at encoded
  · cases encoded
  rename_i present
  split at encoded
  · cases encoded
  rename_i accepted
  simp only [Bool.or_eq_true, decide_eq_true_eq, not_or, not_le,
    Bool.not_eq_true', Bool.not_eq_false] at accepted
  obtain ⟨⟨⟨_, inside⟩, sender⟩, valid⟩ := accepted
  have count : strnlen senderName 33 = (cString senderName).length := by
    unfold strnlen at *
    omega
  rw [take_strnlen senderName inside] at encoded sender
  split at encoded
  · cases encoded
  split at encoded
  · cases encoded
  cases encoded
  refine ⟨present, ?_, sender, valid, ?_⟩
  · simp only [List.length_append, List.length_cons]
    omega
  · simp [List.append_assoc]

/-- The first separator lies no later than the one that was written. -/
theorem strstrSeparator_front (front : Bytes) (present : text ≠ []) :
    strstrSeparator (front ++ byte ':' :: byte ' ' :: text) ≠ some [] := by
  induction front with
  | nil =>
    intro found
    exact present (Option.some.inj found)
  | cons first rest induction =>
    have long : 3 ≤ (rest ++ byte ':' :: byte ' ' :: text).length := by
      have visible := List.length_pos_iff.mpr present
      simp only [List.length_append, List.length_cons]
      omega
    rw [List.cons_append]
    generalize rest ++ byte ':' :: byte ' ' :: text = later
      at induction long
    cases later with
    | nil => simp at long
    | cons second later =>
      rw [strstrSeparator]
      split
      · intro found
        cases found
        simp at long
      · exact induction

theorem getD_replicate_zero (count index : Nat) :
    (List.replicate count (0 : UInt8)).getD index 0 = 0 := by
  rw [List.getD_eq_getElem?_getD, List.getElem?_replicate]
  split <;> rfl

theorem separator_valid (valid : validMeshTextUtf8 text = true) :
    validMeshTextUtf8 (byte ':' :: byte ' ' :: text) = true := by
  have colon := validMeshTextUtf8_takes ':' (byte ' ' :: text)
  have space := validMeshTextUtf8_takes ' ' text
  have first : String.utf8EncodeChar ':' = [byte ':'] := by decide
  have second : String.utf8EncodeChar ' ' = [byte ' '] := by decide
  rw [first, List.singleton_append] at colon
  rw [second, List.singleton_append] at space
  rw [colon, space, valid]
  decide

/--
A decoder that sees a payload with any number of zeros behind it returns what
was encoded.
-/
theorem text_roundTrip :
    (∀ (timestamp : UInt32) (attempt : UInt8) (text payload : Bytes)
        (outputCapacity : Nat),
      encodeDirectTextPayload timestamp attempt text outputCapacity = .ok payload →
      ∀ padding, decodeDirectTextPayload (payload ++ List.replicate padding 0) =
          .ok { timestamp, attempt, text := cString text }) ∧
    ∀ (timestamp : UInt32) (senderName text payload : Bytes)
        (outputCapacity : Nat),
      encodeChannelTextPayload timestamp senderName text outputCapacity =
        .ok payload →
      ∀ padding, decodeChannelTextPayload
        (payload ++ List.replicate padding 0) =
          .ok
            { timestamp
              attempt := 0
              text := cString senderName ++ ascii ": " ++ text } := by
  constructor
  · intro timestamp attempt text payload outputCapacity encoded padding
    obtain ⟨present, short, valid, rfl⟩ :=
      encodeDirectTextPayload_ok encoded
    rw [List.append_assoc, List.cons_append, List.append_assoc]
    unfold decodeDirectTextPayload
    by_cases many : attempt > 3
    · rw [if_pos many]
      have terminated : Terminated
          ([0, attempt] ++ List.replicate padding 0) := rfl
      rw [decodePlain_laidOut (flags_plain attempt) present short valid terminated]
      have more : 1 < padding + 1 + 1 := by omega
      simp [many, more]
    · have few : attempt ≤ 3 := UInt8.not_lt.mp many
      rw [if_neg many, List.nil_append]
      rw [decodePlain_laidOut (flags_plain attempt) present short valid
        (getD_replicate_zero padding 0)]
      rw [getD_replicate_zero, flags_attempt few]
      rw [if_neg (by simp)]
  · intro timestamp senderName text payload outputCapacity encoded padding
    obtain ⟨present, short, sender, valid, rfl⟩ :=
      encodeChannelTextPayload_ok encoded
    have whole : validMeshTextUtf8
        (cString senderName ++ byte ':' :: byte ' ' :: text) = true := by
      rw [validMeshTextUtf8_iff] at sender ⊢
      exact sender.append ((validMeshTextUtf8_iff _).mp (separator_valid valid))
    rw [List.append_assoc, List.cons_append]
    unfold decodeChannelTextPayload
    rw [decodePlain_laidOut (by decide) (by simp) short whole
      (getD_replicate_zero padding 0)]
    simp only [strstrSeparator_front (cString senderName) present, if_false,
      getD_replicate_zero]
    rw [if_neg (by simp)]
    have separator : ascii ": " = [byte ':', byte ' '] := by decide
    rw [separator, List.append_assoc]
    rfl

end RoundTrip

end Kitsu.Mesh.TextCodec
