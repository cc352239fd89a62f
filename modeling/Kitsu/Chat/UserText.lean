import Kitsu.Companion.Json
import Kitsu.Lib.Utf8

/-!
# Text typed by the owner

`validUserUtf8` decides what the serial console and the phone may send: one loop
reads the continuation bytes of whatever length the first byte announces, and
the shortest form is checked on the code point.
-/

namespace Kitsu.Chat.UserText

open Kitsu.Lib.ByteString
open Kitsu.Lib.Utf8
open Kitsu.Companion.Json (isContinuation)

/-- The bits of the first byte and the number of bytes behind it. -/
def leadingByte (first : UInt8) : Option (Nat × Nat) :=
  if first ≤ 0x7f then some (first.toNat, 0)
  else if 0xc2 ≤ first ∧ first ≤ 0xdf then some (first.toNat % 32, 1)
  else if 0xe0 ≤ first ∧ first ≤ 0xef then some (first.toNat % 16, 2)
  else if 0xf0 ≤ first ∧ first ≤ 0xf4 then some (first.toNat % 8, 3)
  else none

/-- The code point that the continuation bytes complete. -/
def readContinuation (codePoint : Nat) (following : Bytes) : Option Nat :=
  following.foldlM (fun codePoint next =>
    if !isContinuation next then none
    else some (codePoint * 64 + next.toNat % 64)) codePoint

/-- Too long a form, a surrogate or no Unicode at all. -/
def malformed (continuationCount codePoint : Nat) : Bool :=
  (continuationCount = 1 && codePoint < 0x80) ||
    (continuationCount = 2 && codePoint < 0x800) ||
    (continuationCount = 3 && codePoint < 0x10000) ||
    codePoint > 0x10ffff || (0xd800 ≤ codePoint && codePoint ≤ 0xdfff)

/-- C0, DEL and C1. -/
def control (codePoint : Nat) : Bool :=
  codePoint ≤ 0x1f || codePoint = 0x7f ||
    (0x80 ≤ codePoint && codePoint ≤ 0x9f)

/-- `input` is what lies at the index of the loop and behind it. -/
def validUserUtf8 : Bytes → Bool
  | [] => true
  | first :: rest =>
    match leadingByte first with
    | none => false
    | some (lead, continuationCount) =>
      if continuationCount ≥ (first :: rest).length then false
      else
        match readContinuation lead (rest.take continuationCount) with
        | none => false
        | some codePoint =>
          if malformed continuationCount codePoint then false
          else if control codePoint then false
          else validUserUtf8 (rest.drop continuationCount)
termination_by input => input.length
decreasing_by
  rw [List.length_drop, List.length_cons]
  omega

theorem isContinuation_iff {code : UInt8} :
    isContinuation code = true ↔ Trailing code := by
  rw [isContinuation, beq_iff_eq, Trailing]
  omega

variable {codePoint continuationCount : Nat} {following : Bytes}

section Step

variable {first second third fourth : UInt8} {rest : Bytes}

theorem leadingByte_one (low : first.toNat ≤ 0x7f) :
    leadingByte first = some (first.toNat, 0) :=
  if_pos (UInt8.le_iff_toNat_le.mpr low)

theorem leadingByte_two (least : 0xc2 ≤ first.toNat) (most : first.toNat ≤ 0xdf) :
    leadingByte first = some (first.toNat % 32, 1) := by
  simp only [leadingByte, UInt8.le_iff_toNat_le, UInt8.reduceToNat]
  rw [if_neg (by omega), if_pos (by omega)]

theorem leadingByte_three (least : 0xe0 ≤ first.toNat)
    (most : first.toNat ≤ 0xef) :
    leadingByte first = some (first.toNat % 16, 2) := by
  simp only [leadingByte, UInt8.le_iff_toNat_le, UInt8.reduceToNat]
  rw [if_neg (by omega), if_neg (by omega), if_pos (by omega)]

theorem leadingByte_four (least : 0xf0 ≤ first.toNat) (most : first.toNat ≤ 0xf4) :
    leadingByte first = some (first.toNat % 8, 3) := by
  simp only [leadingByte, UInt8.le_iff_toNat_le, UInt8.reduceToNat]
  rw [if_neg (by omega), if_neg (by omega), if_neg (by omega),
    if_pos (by omega)]

/-- The loop over the bytes behind the first one. -/
theorem readContinuation_cons {next : UInt8} (trailing : Trailing next) :
    readContinuation codePoint (next :: following) =
      readContinuation (codePoint * 64 + next.toNat % 64) following := by
  rw [readContinuation, List.foldlM_cons, isContinuation_iff.mpr trailing]
  rfl

theorem readContinuation_trailing {result : Nat} {next : UInt8}
    (read : readContinuation codePoint (next :: following) = some result) :
    Trailing next ∧
      readContinuation (codePoint * 64 + next.toNat % 64) following =
        some result := by
  by_cases trailing : Trailing next
  · rw [readContinuation_cons trailing] at read
    exact ⟨trailing, read⟩
  · have stopped : isContinuation next = false := by
      rw [← Bool.not_eq_true, isContinuation_iff]
      exact trailing
    rw [readContinuation, List.foldlM_cons, stopped] at read
    cases read

/-- What the checks on a code point leave of a character. -/
theorem checked {character : Char}
    (formed : malformed continuationCount character.toNat = false) :
    (if malformed continuationCount character.toNat then false
      else if control character.toNat then false
      else validUserUtf8 rest) =
      (!control character.toNat && validUserUtf8 rest) := by
  rw [formed]
  cases control character.toNat <;> rfl

/-- One character is taken, whatever its encoding is. -/
theorem validUserUtf8_takes (character : Char) (rest : Bytes) :
    validUserUtf8 (String.utf8EncodeChar character ++ rest) =
      (!control character.toNat && validUserUtf8 rest) := by
  have inside := scalar character
  have shaped := shape character
  generalize String.utf8EncodeChar character = text at shaped
  cases shaped with
  | one low code =>
    have formed : malformed 0 character.toNat = false := by
      simp [malformed]
      omega
    rw [List.singleton_append, validUserUtf8, leadingByte_one low]
    have long : ¬ 0 ≥ rest.length + 1 := by omega
    simp only [List.length_cons, long, if_false, List.take_zero,
      List.drop_zero, readContinuation, List.foldlM_nil, ← code]
    exact checked formed
  | two least most second code =>
    have formed : malformed 1 character.toNat = false := by
      simp [malformed]
      omega
    rw [List.cons_append, List.singleton_append, validUserUtf8,
      leadingByte_two least most]
    have long : ¬ 1 ≥ rest.length + 1 + 1 := by omega
    simp only [List.length_cons, long, if_false, List.take_succ_cons,
      List.take_zero, List.drop_succ_cons, List.drop_zero,
      readContinuation_cons second]
    simp only [readContinuation, List.foldlM_nil, ← code]
    exact checked formed
  | three least most second third minimum code =>
    have formed : malformed 2 character.toNat = false := by
      simp [malformed]
      omega
    rw [List.cons_append, List.cons_append, List.singleton_append,
      validUserUtf8, leadingByte_three least most]
    have long : ¬ 2 ≥ rest.length + 1 + 1 + 1 := by omega
    simp only [List.length_cons, long, if_false, List.take_succ_cons,
      List.take_zero, List.drop_succ_cons, List.drop_zero,
      readContinuation_cons second, readContinuation_cons third]
    simp only [readContinuation, List.foldlM_nil, ← code]
    exact checked formed
  | four least most second third fourth minimum code =>
    have formed : malformed 3 character.toNat = false := by
      simp [malformed]
      omega
    rw [List.cons_append, List.cons_append, List.cons_append,
      List.singleton_append, validUserUtf8, leadingByte_four least most]
    have long : ¬ 3 ≥ rest.length + 1 + 1 + 1 + 1 := by omega
    simp only [List.length_cons, long, if_false, List.take_succ_cons,
      List.take_zero, List.drop_succ_cons, List.drop_zero,
      readContinuation_cons second, readContinuation_cons third,
      readContinuation_cons fourth]
    simp only [readContinuation, List.foldlM_nil, ← code]
    exact checked formed

theorem formed_character (formed : malformed continuationCount codePoint = false) :
    ∃ character : Char, character.toNat = codePoint := by
  apply exists_character codePoint
  simp [malformed] at formed
  omega

theorem validUserUtf8_begins (first : UInt8) (rest : Bytes)
    (valid : validUserUtf8 (first :: rest) = true) : Begins (first :: rest) := by
  rw [validUserUtf8] at valid
  split at valid
  · cases valid
  rename_i lead continuationCount known
  split at valid
  · cases valid
  rename_i enough
  split at valid
  · cases valid
  rename_i codePoint read
  split at valid
  · cases valid
  rename_i formed
  rw [Bool.not_eq_true] at formed
  obtain ⟨character, code⟩ := formed_character formed
  simp only [leadingByte, UInt8.le_iff_toNat_le, UInt8.reduceToNat] at known
  split at known
  · rename_i low
    cases known
    cases read
    exact (Shape.one low code).begins rest
  split at known
  · rename_i lead
    cases known
    match rest with
    | [] => exact absurd (Nat.le_refl _) enough
    | second :: rest =>
      obtain ⟨trailing, read⟩ := readContinuation_trailing read
      cases read
      exact (Shape.two lead.1 lead.2 trailing code).begins rest
  split at known
  · rename_i lead
    cases known
    match rest with
    | [] => exact absurd (by simp) enough
    | [_] => exact absurd (by simp) enough
    | second :: third :: rest =>
      obtain ⟨two, read⟩ := readContinuation_trailing read
      obtain ⟨three, read⟩ := readContinuation_trailing read
      cases read
      have minimum : 0x800 ≤ character.toNat := by
        simp [malformed] at formed
        omega
      exact (Shape.three lead.1 lead.2 two three minimum code).begins rest
  split at known
  · rename_i lead
    cases known
    match rest with
    | [] => exact absurd (by simp) enough
    | [_] => exact absurd (by simp) enough
    | [_, _] => exact absurd (by simp) enough
    | second :: third :: fourth :: rest =>
      obtain ⟨two, read⟩ := readContinuation_trailing read
      obtain ⟨three, read⟩ := readContinuation_trailing read
      obtain ⟨four, read⟩ := readContinuation_trailing read
      cases read
      have minimum : 0x10000 ≤ character.toNat := by
        simp [malformed] at formed
        omega
      exact (Shape.four lead.1 lead.2 two three four minimum code).begins rest
  · cases known

end Step

/-- Well-formed text without control characters. -/
theorem validUserUtf8_iff (input : Bytes) :
    validUserUtf8 input = true ↔
      Encodes (fun character => (!control character.toNat) = true) input :=
  valid_iff_encodes (by rw [validUserUtf8]) validUserUtf8_takes
    validUserUtf8_begins input

end Kitsu.Chat.UserText
