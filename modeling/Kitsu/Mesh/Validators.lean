import Kitsu.Chat.UserText
import Kitsu.Mesh.TextCodec

/-!
# The three UTF-8 validators

Text goes from the owner over the radio into a record for the phone, and each of
the three has a decoder of its own.  The first two allow the same characters;
the third, which is there for JSON, only refuses the terminator of a string.
-/

namespace Kitsu.Mesh.Validators

open Kitsu.Lib.ByteString
open Kitsu.Lib.Utf8
open Kitsu.Chat.UserText (validUserUtf8 validUserUtf8_iff isContinuation_iff)
open Kitsu.Mesh.TextCodec (validMeshTextUtf8 validMeshTextUtf8_iff)
open Kitsu.Companion.Json

/-- The control characters C0, DEL and C1. -/
def Control (character : Char) : Prop :=
  character.toNat ≤ 0x1f ∨ character.toNat = 0x7f ∨
    0x80 ≤ character.toNat ∧ character.toNat ≤ 0x9f

theorem userText_iff (input : Bytes) :
    validUserUtf8 input = true ↔
      Encodes (fun character => ¬ Control character) input := by
  rw [validUserUtf8_iff]
  apply Encodes.congr
  simp [Chat.UserText.control, Control]
  omega

theorem meshText_iff (input : Bytes) :
    validMeshTextUtf8 input = true ↔
      Encodes (fun character => ¬ Control character) input := by
  rw [validMeshTextUtf8_iff]
  apply Encodes.congr
  simp [TextCodec.controlCharacter, Control]
  omega

/-! ## The validator of JSON texts -/

section Json

variable {first second third fourth : UInt8} {rest : Bytes}

theorem validScalar_iff {minimum codepoint : Nat} :
    validScalar minimum codepoint = true ↔
      minimum ≤ codepoint ∧ (codepoint < 0xd800 ∨
        0xdfff < codepoint ∧ codepoint < 0x110000) := by
  simp [validScalar]
  omega

/-- One character is taken, whatever its encoding is. -/
theorem validUtf8_takes (character : Char) (rest : Bytes) :
    validUtf8 (String.utf8EncodeChar character ++ rest) =
      (character.toNat != 0 && validUtf8 rest) := by
  have inside := scalar character
  have shaped := shape character
  generalize String.utf8EncodeChar character = text at shaped
  cases shaped with
  | one low code =>
    rename_i first
    have visible : (first != 0) = (character.toNat != 0) := by
      rw [code, Bool.eq_iff_iff, bne_iff_ne, bne_iff_ne, Ne, ← UInt8.toNat_inj]
      rfl
    rw [List.singleton_append, validUtf8.eq_def]
    simp only [UInt8.le_iff_toNat_le, UInt8.reduceToNat, low, if_true, visible]
  | two least most second code =>
    have visible : (character.toNat != 0) = true := by
      rw [bne_iff_ne]
      omega
    have valid := validScalar_iff.mpr
      ⟨(by unfold Trailing at second; omega : 0x80 ≤ character.toNat),
        inside⟩
    rw [List.cons_append, List.singleton_append, validUtf8.eq_def]
    simp only [UInt8.le_iff_toNat_le, UInt8.reduceToNat]
    rw [if_neg (by omega), if_pos (by omega), ← code, valid, visible,
      isContinuation_iff.mpr second]
    rfl
  | three least most second third minimum code =>
    have visible : (character.toNat != 0) = true := by
      rw [bne_iff_ne]
      omega
    have valid := validScalar_iff.mpr ⟨minimum, inside⟩
    rw [List.cons_append, List.cons_append, List.singleton_append,
      validUtf8.eq_def]
    simp only [UInt8.le_iff_toNat_le, UInt8.reduceToNat]
    rw [if_neg (by omega), if_neg (by omega), if_pos (by omega), ← code,
      valid, visible, isContinuation_iff.mpr second,
      isContinuation_iff.mpr third]
    rfl
  | four least most second third fourth minimum code =>
    have visible : (character.toNat != 0) = true := by
      rw [bne_iff_ne]
      omega
    have valid := validScalar_iff.mpr ⟨minimum, inside⟩
    rw [List.cons_append, List.cons_append, List.cons_append,
      List.singleton_append, validUtf8.eq_def]
    simp only [UInt8.le_iff_toNat_le, UInt8.reduceToNat]
    rw [if_neg (by omega), if_neg (by omega), if_neg (by omega),
      if_pos (by omega), ← code, valid, visible,
      isContinuation_iff.mpr second, isContinuation_iff.mpr third,
      isContinuation_iff.mpr fourth]
    rfl

theorem validUtf8_begins (first : UInt8) (rest : Bytes)
    (valid : validUtf8 (first :: rest) = true) : Begins (first :: rest) := by
  rw [validUtf8.eq_def] at valid
  simp only [UInt8.le_iff_toNat_le, UInt8.reduceToNat] at valid
  split at valid
  · rename_i low
    obtain ⟨character, code⟩ := exists_character first.toNat (by omega)
    exact (Shape.one low code).begins rest
  split at valid
  · rename_i lead
    split at valid
    · rename_i second later
      simp only [Bool.and_eq_true, isContinuation_iff,
        validScalar_iff] at valid
      obtain ⟨⟨two, _, scalar⟩, _⟩ := valid
      obtain ⟨character, code⟩ := exists_character _ scalar
      exact (Shape.two lead.1 lead.2 two code).begins later
    · cases valid
  split at valid
  · rename_i lead
    split at valid
    · rename_i second third later
      simp only [Bool.and_eq_true, isContinuation_iff,
        validScalar_iff] at valid
      obtain ⟨⟨⟨two, three⟩, minimum, scalar⟩, _⟩ := valid
      obtain ⟨character, code⟩ := exists_character _ scalar
      rw [← code] at minimum
      exact (Shape.three lead.1 lead.2 two three minimum code).begins later
    · cases valid
  split at valid
  · rename_i lead
    split at valid
    · rename_i second third fourth later
      simp only [Bool.and_eq_true, isContinuation_iff,
        validScalar_iff] at valid
      obtain ⟨⟨⟨⟨two, three⟩, four⟩, minimum, scalar⟩, _⟩ := valid
      obtain ⟨character, code⟩ := exists_character _ scalar
      rw [← code] at minimum
      exact (Shape.four lead.1 lead.2 two three four minimum code).begins
        later
    · cases valid
  · cases valid

theorem validUtf8_iff (input : Bytes) :
    validUtf8 input = true ↔
      Encodes (fun character => (character.toNat != 0) = true) input :=
  valid_iff_encodes rfl validUtf8_takes validUtf8_begins input

end Json

/--
The owner's text, the radio's text and the text in JSON are well-formed UTF-8;
the first two without control characters, the third without a terminator.
-/
theorem validators_agree (input : Bytes) :
    validUserUtf8 input = validMeshTextUtf8 input ∧
      (validMeshTextUtf8 input = true ↔
        Encodes (fun character => ¬ Control character) input) ∧
      (validUtf8 input = true ↔
        Encodes (fun character => character.toNat ≠ 0) input) := by
  refine ⟨?_, meshText_iff input, ?_⟩
  · rw [Bool.eq_iff_iff, userText_iff, meshText_iff]
  · rw [validUtf8_iff]
    apply Encodes.congr
    intro character
    exact bne_iff_ne

end Kitsu.Mesh.Validators
