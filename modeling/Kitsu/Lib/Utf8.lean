import Kitsu.Lib.ByteString

/-!
# Well-formed UTF-8

A byte string is well formed if it is the encoding of a list of scalar values;
a scalar value has exactly one encoding, of one of four shapes.  A validator that
reads one character after the other accepts the encodings of the characters that
it allows.
-/

namespace Kitsu.Lib.Utf8

open Kitsu.Lib.ByteString

/-- The encoding of characters that are all allowed. -/
def Encodes (Allowed : Char → Prop) (input : Bytes) : Prop :=
  ∃ text : List Char, (∀ character ∈ text, Allowed character) ∧
    input = text.flatMap String.utf8EncodeChar

/-- A byte behind the first of a character. -/
def Trailing (code : UInt8) : Prop :=
  0x80 ≤ code.toNat ∧ code.toNat < 0xc0

/-- The four shapes in which a character is encoded. -/
inductive Shape (character : Char) : Bytes → Prop
  | one {first : UInt8} :
      first.toNat ≤ 0x7f → character.toNat = first.toNat →
      Shape character [first]
  | two {first second : UInt8} :
      0xc2 ≤ first.toNat → first.toNat ≤ 0xdf → Trailing second →
      character.toNat = first.toNat % 32 * 64 + second.toNat % 64 →
      Shape character [first, second]
  | three {first second third : UInt8} :
      0xe0 ≤ first.toNat → first.toNat ≤ 0xef → Trailing second →
      Trailing third → 0x800 ≤ character.toNat →
      character.toNat = (first.toNat % 16 * 64 + second.toNat % 64) * 64 +
        third.toNat % 64 →
      Shape character [first, second, third]
  | four {first second third fourth : UInt8} :
      0xf0 ≤ first.toNat → first.toNat ≤ 0xf4 → Trailing second →
      Trailing third → Trailing fourth → 0x10000 ≤ character.toNat →
      character.toNat =
        ((first.toNat % 8 * 64 + second.toNat % 64) * 64 +
          third.toNat % 64) * 64 + fourth.toNat % 64 →
      Shape character [first, second, third, fourth]

section Characters

variable {character : Char}

/-- Characters are scalar values. -/
theorem scalar (character : Char) :
    character.toNat < 0xd800 ∨
      0xdfff < character.toNat ∧ character.toNat < 0x110000 :=
  character.valid

theorem exists_character (code : Nat)
    (inside : code < 0xd800 ∨ 0xdfff < code ∧ code < 0x110000) :
    ∃ character : Char, character.toNat = code :=
  ⟨Char.ofNatAux code inside, rfl⟩

/-- Each shape is the encoding of its character. -/
theorem Shape.encoded {text : Bytes} (shape : Shape character text) :
    String.utf8EncodeChar character = text := by
  have number : character.toNat = character.val.toNat := rfl
  cases shape with
  | one low code =>
    rw [number] at code
    rw [String.utf8EncodeChar, if_pos (by omega), code]
    simp
  | two least most second code =>
    rw [number] at code
    unfold Trailing at second
    rw [String.utf8EncodeChar, code, if_neg (by omega), if_pos (by omega)]
    simp only [List.cons.injEq, and_true, ← UInt8.toNat_inj,
      UInt8.toNat_ofNat']
    omega
  | three least most second third minimum code =>
    rw [number] at code minimum
    unfold Trailing at second third
    rw [String.utf8EncodeChar, if_neg (by omega), if_neg (by omega),
      if_pos (by omega), code]
    simp only [List.cons.injEq, and_true, ← UInt8.toNat_inj,
      UInt8.toNat_ofNat']
    omega
  | four least most second third fourth minimum code =>
    rw [number] at code minimum
    unfold Trailing at second third fourth
    rw [String.utf8EncodeChar, if_neg (by omega), if_neg (by omega),
      if_neg (by omega), code]
    simp only [List.cons.injEq, and_true, ← UInt8.toNat_inj,
      UInt8.toNat_ofNat']
    omega

/-- Every character has one of the shapes. -/
theorem shape (character : Char) :
    Shape character (String.utf8EncodeChar character) := by
  have inside := scalar character
  have number : character.toNat = character.val.toNat := rfl
  rw [String.utf8EncodeChar]
  split
  · rename_i low
    refine .one ?_ ?_
    all_goals simp only [UInt8.toNat_ofNat']; omega
  split
  · rename_i notOne two
    refine .two ?_ ?_ ?_ ?_
    all_goals simp only [number, Trailing, UInt8.toNat_ofNat']; omega
  split
  · rename_i notOne notTwo three
    refine .three ?_ ?_ ?_ ?_ ?_ ?_
    all_goals simp only [number, Trailing, UInt8.toNat_ofNat']; omega
  · rename_i notOne notTwo notThree
    refine .four ?_ ?_ ?_ ?_ ?_ ?_ ?_
    all_goals simp only [number, Trailing, UInt8.toNat_ofNat']; omega

end Characters

/-- A character stands in front of the rest. -/
def Begins (input : Bytes) : Prop :=
  ∃ character rest, input = String.utf8EncodeChar character ++ rest

theorem Shape.begins {character : Char} {text : Bytes}
    (shape : Shape character text) (rest : Bytes) : Begins (text ++ rest) :=
  ⟨character, rest, by rw [shape.encoded]⟩

theorem encode_ne_nil (character : Char) :
    String.utf8EncodeChar character ≠ [] := by
  intro empty
  have shaped := shape character
  rw [empty] at shaped
  cases shaped

/--
A validator that takes one character at a time accepts exactly the encodings of
the characters that it allows.
-/
theorem valid_iff_encodes {valid : Bytes → Bool} {allowed : Char → Bool}
    (empty : valid [] = true) (takes : ∀ character rest,
      valid (String.utf8EncodeChar character ++ rest) =
        (allowed character && valid rest))
    (begins : ∀ first rest, valid (first :: rest) = true → Begins (first :: rest))
    (input : Bytes) : valid input = true ↔ Encodes (allowed · = true) input := by
  constructor
  · intro accepted
    induction size : input.length using Nat.strong_induction_on
      generalizing input with
    | h count induction =>
      cases input with
      | nil => exact ⟨[], nofun, rfl⟩
      | cons first rest =>
        obtain ⟨character, later, split⟩ := begins first rest accepted
        rw [split, takes, Bool.and_eq_true] at accepted
        obtain ⟨inside, accepted⟩ := accepted
        have shorter : later.length < count := by
          have present := List.length_pos_iff.mpr
            (encode_ne_nil character)
          have length := congrArg List.length split
          rw [List.length_append] at length
          omega
        obtain ⟨text, all, rfl⟩ :=
          induction later.length shorter later accepted rfl
        refine ⟨character :: text, ?_, split⟩
        intro other member
        rcases List.mem_cons.mp member with rfl | behind
        · exact inside
        · exact all other behind
  · rintro ⟨text, all, rfl⟩
    induction text with
    | nil => exact empty
    | cons character text induction =>
      rw [List.flatMap_cons, takes, Bool.and_eq_true]
      refine ⟨all character List.mem_cons_self, induction ?_⟩
      intro other member
      exact all other (List.mem_cons_of_mem character member)

section Encodings

variable {Allowed : Char → Prop} {first second : Bytes}

theorem Encodes.append (left : Encodes Allowed first)
    (right : Encodes Allowed second) : Encodes Allowed (first ++ second) := by
  obtain ⟨front, frontAllowed, rfl⟩ := left
  obtain ⟨back, backAllowed, rfl⟩ := right
  refine ⟨front ++ back, ?_, List.flatMap_append.symm⟩
  intro character member
  rcases List.mem_append.mp member with inFront | inBack
  · exact frontAllowed character inFront
  · exact backAllowed character inBack

theorem Encodes.mono {Other : Char → Prop}
    (weaker : ∀ character, Allowed character → Other character)
    (encodes : Encodes Allowed first) : Encodes Other first := by
  obtain ⟨text, allowed, rfl⟩ := encodes
  exact ⟨text, fun character member =>
    weaker character (allowed character member), rfl⟩

theorem Encodes.congr {Other : Char → Prop}
    (same : ∀ character, Allowed character ↔ Other character) :
    Encodes Allowed first ↔ Encodes Other first :=
  ⟨.mono fun character => (same character).mp,
    .mono fun character => (same character).mpr⟩

/-- Only the character zero has a zero byte. -/
theorem Shape.nonzero {character : Char} {text : Bytes}
    (shape : Shape character text) (nonzero : character.toNat ≠ 0) :
    ∀ code ∈ text, code ≠ 0 := by
  intro code member zero
  have value : code.toNat = 0 := by rw [zero]; rfl
  cases shape with
  | one low code =>
    simp only [List.mem_singleton] at member
    rw [member] at value
    omega
  | two least most second code =>
    unfold Trailing at second
    simp only [List.mem_cons, List.not_mem_nil, or_false] at member
    rcases member with rfl | rfl <;> omega
  | three least most second third minimum code =>
    unfold Trailing at second third
    simp only [List.mem_cons, List.not_mem_nil, or_false] at member
    rcases member with rfl | rfl | rfl <;> omega
  | four least most second third fourth minimum code =>
    unfold Trailing at second third fourth
    simp only [List.mem_cons, List.not_mem_nil, or_false] at member
    rcases member with rfl | rfl | rfl | rfl <;> omega

theorem Encodes.nonzero
    (encodes : Encodes (fun character => character.toNat ≠ 0) first) :
    ∀ code ∈ first, code ≠ 0 := by
  obtain ⟨text, nonzero, rfl⟩ := encodes
  intro code member
  obtain ⟨character, inside, member⟩ := List.mem_flatMap.mp member
  exact (shape character).nonzero (nonzero character inside) code member

end Encodings

end Kitsu.Lib.Utf8
