import Kitsu.Mesh.TextCodec

/-!
# Names in adverts

A name that came in over the air is copied character by character.  A byte that
begins no displayable character is replaced by a question mark, and a character
that does not fit the destination ends the name.
-/

namespace Kitsu.Mesh.AdvertName

open Kitsu.Lib.ByteString
open Kitsu.Lib.Utf8
open Kitsu.Companion.Base64Url (byte)
open Kitsu.Mesh.TextCodec

/-- The loop: `destination` is written already, the source is at its input. -/
def sanitizeFrom (capacity : Nat) (destination : Bytes) : Bytes → Bytes
  | [] => destination
  | first :: rest =>
    if first = 0 then destination
    else
      match characterBytes (first :: rest) with
      | none =>
        if destination.length + 1 ≥ capacity then destination
        else sanitizeFrom capacity (destination ++ [byte '?']) rest
      | some sequenceBytes =>
        if destination.length + sequenceBytes ≥ capacity then destination
        else sanitizeFrom capacity
          (destination ++ (first :: rest).take sequenceBytes)
          (rest.drop (sequenceBytes - 1))
termination_by source => source.length
decreasing_by
  · exact Nat.lt_succ_self _
  · rw [List.length_drop, List.length_cons]
    omega

/-- What is written to the destination, and the length that is returned. -/
def sanitizeUtf8Name (capacity : Nat) (source : Bytes) : Bytes × Nat :=
  if capacity = 0 then ([], 0)
  else
    let output := sanitizeFrom capacity [] source
    (output ++ [0], output.length)

/-! ## Whole characters -/

/-- A character that may stand in a name. -/
def Displayable (character : Char) : Prop :=
  controlCharacter character.toNat = false

/--
A name holds the displayable characters of its source, each as a whole, and a
question mark for every other byte.
-/
inductive Copied : Bytes → Bytes → Prop
  | ended (source : Bytes) : Copied source []
  | kept {character : Char} {source name : Bytes} :
      Displayable character → Copied source name →
      Copied (String.utf8EncodeChar character ++ source)
        (String.utf8EncodeChar character ++ name)
  | replaced {first : UInt8} {source name : Bytes} :
      (∀ character rest, Displayable character →
        first :: source ≠ String.utf8EncodeChar character ++ rest) →
      Copied source name →
      Copied (first :: source) (byte '?' :: name)

theorem Displayable.taken {character : Char}
    (displayable : Displayable character) (rest : Bytes) :
    characterBytes (String.utf8EncodeChar character ++ rest) =
      some (String.utf8EncodeChar character).length := by
  rw [characterBytes_encoded, displayable]
  rfl

/-- What is copied at once is one displayable character. -/
theorem exists_displayable {first : UInt8} {rest : Bytes} {count : Nat}
    (taken : characterBytes (first :: rest) = some count) :
    ∃ character behind, Displayable character ∧
      first :: rest = String.utf8EncodeChar character ++ behind ∧
      count = (String.utf8EncodeChar character).length := by
  obtain ⟨character, behind, input⟩ := characterBytes_begins taken
  rw [input, characterBytes_encoded] at taken
  cases control : controlCharacter character.toNat with
  | true => rw [control] at taken; cases taken
  | false =>
    rw [control] at taken
    exact ⟨character, behind, control, input, (Option.some.inj taken).symm⟩

theorem question_mark : String.utf8EncodeChar '?' = [byte '?'] := by
  decide

/-- A copied name is valid text. -/
theorem Copied.valid {source name : Bytes} (copied : Copied source name) :
    validMeshTextUtf8 name = true := by
  induction copied with
  | ended source => rw [validMeshTextUtf8]
  | kept displayable copied valid =>
    rw [validMeshTextUtf8_takes, displayable, valid]
    rfl
  | @replaced first source name unfit copied valid =>
    have taken := validMeshTextUtf8_takes '?' name
    rw [question_mark, valid] at taken
    exact taken

/-! ## The loop -/

section Loop

variable {capacity : Nat}

/-- One displayable character that fits is copied. -/
theorem sanitizeFrom_character {character : Char} {destination : Bytes}
    (displayable : Displayable character) (rest : Bytes)
    (fits : destination.length + (String.utf8EncodeChar character).length <
      capacity) :
    sanitizeFrom capacity destination
        (String.utf8EncodeChar character ++ rest) =
      sanitizeFrom capacity
        (destination ++ String.utf8EncodeChar character) rest := by
  have taken := displayable.taken rest
  have nonzero : ∀ code ∈ String.utf8EncodeChar character, code ≠ 0 := by
    refine (shape character).nonzero ?_
    intro zero
    rw [Displayable, zero] at displayable
    cases displayable
  cases input : String.utf8EncodeChar character with
  | nil => exact absurd input (encode_ne_nil character)
  | cons first others =>
    rw [input] at taken fits nonzero
    rw [List.cons_append, sanitizeFrom, ← List.cons_append, taken]
    have visible : first ≠ 0 := nonzero first List.mem_cons_self
    have room : ¬ destination.length + (first :: others).length ≥ capacity :=
      Nat.not_le.mpr fits
    simp only [visible, if_false, List.length_cons, Nat.add_sub_cancel,
      List.drop_left]
    rw [← List.length_cons, List.take_left, if_neg room]

/-- What the loop adds is copied, and the last byte of the capacity stays free. -/
theorem sanitizeFrom_copied (destination source : Bytes)
    (room : destination.length < capacity) :
    ∃ name, sanitizeFrom capacity destination source = destination ++ name ∧
      Copied source name ∧ (destination ++ name).length < capacity := by
  induction size : source.length using Nat.strong_induction_on
    generalizing destination source with
  | _ size step =>
  subst size
  have stopped : ∃ name, destination = destination ++ name ∧
      Copied source name ∧ (destination ++ name).length < capacity :=
    ⟨[], (List.append_nil _).symm, .ended source, by simpa using room⟩
  rcases source with _ | ⟨first, rest⟩
  · rw [sanitizeFrom]
    exact stopped
  by_cases terminator : first = 0
  · rw [sanitizeFrom, if_pos terminator]
    exact stopped
  cases taken : characterBytes (first :: rest) with
  | none =>
    rw [sanitizeFrom, if_neg terminator, taken]
    split_ifs with full
    · exact stopped
    have more : (destination ++ [byte '?']).length < capacity := by
      simpa using full
    obtain ⟨name, written, copied, short⟩ :=
      step rest.length (Nat.lt_succ_self _) _ rest more rfl
    rw [List.append_assoc, List.singleton_append] at written short
    refine ⟨byte '?' :: name, written, .replaced ?_ copied, short⟩
    intro character behind displayable input
    rw [input, displayable.taken] at taken
    cases taken
  | some count =>
    obtain ⟨character, behind, displayable, input, rfl⟩ :=
      exists_displayable taken
    by_cases full : destination.length +
        (String.utf8EncodeChar character).length ≥ capacity
    · rw [sanitizeFrom, if_neg terminator, taken]
      dsimp only
      rw [if_pos full]
      exact stopped
    · have fits := Nat.not_le.mp full
      have shorter : behind.length < (first :: rest).length := by
        have length := List.length_pos_of_ne_nil (encode_ne_nil character)
        rw [input, List.length_append]
        omega
      obtain ⟨name, written, copied, short⟩ := step behind.length shorter
        (destination ++ String.utf8EncodeChar character) behind
        (by rwa [List.length_append]) rfl
      rw [List.append_assoc] at written short
      rw [input, sanitizeFrom_character displayable behind fits]
      exact ⟨_, written, .kept displayable copied, short⟩

/-- Displayable text that fits is copied as it is, up to its terminator. -/
theorem sanitizeFrom_text {text : List Char} {destination tail : Bytes}
    (displayable : ∀ character ∈ text, Displayable character)
    (ended : tail = [] ∨ ∃ behind, tail = 0 :: behind)
    (fits : (destination ++ text.flatMap String.utf8EncodeChar).length <
      capacity) :
    sanitizeFrom capacity destination
        (text.flatMap String.utf8EncodeChar ++ tail) =
      destination ++ text.flatMap String.utf8EncodeChar := by
  induction text generalizing destination with
  | nil =>
    rw [List.flatMap_nil, List.nil_append, List.append_nil]
    rcases ended with rfl | ⟨behind, rfl⟩
    · rw [sanitizeFrom]
    · rw [sanitizeFrom, if_pos rfl]
  | cons character text step =>
    rw [List.flatMap_cons, ← List.append_assoc] at fits ⊢
    have first : (destination ++
        String.utf8EncodeChar character).length < capacity := by
      rw [List.length_append] at fits
      omega
    rw [List.append_assoc (String.utf8EncodeChar character),
      sanitizeFrom_character (displayable character List.mem_cons_self) _
        (by rwa [List.length_append] at first),
      step (fun other member =>
        displayable other (List.mem_cons_of_mem _ member)) fits]

end Loop

section Names

variable {room : Nat}

/-- Valid text that fits is its own name. -/
theorem sanitizeUtf8Name_valid {text tail : Bytes}
    (valid : validMeshTextUtf8 text = true) (short : text.length ≤ room)
    (ended : tail = [] ∨ ∃ behind, tail = 0 :: behind) :
    sanitizeUtf8Name (room + 1) (text ++ tail) =
      (text ++ [0], text.length) := by
  obtain ⟨characters, allowed, rfl⟩ := (validMeshTextUtf8_iff text).mp valid
  have displayable : ∀ character ∈ characters, Displayable character :=
    fun character member =>
      (Bool.not_eq_true' _).mp (allowed character member)
  have fits : (([] : Bytes) ++
      characters.flatMap String.utf8EncodeChar).length < room + 1 :=
    Nat.lt_succ_of_le short
  have whole := sanitizeFrom_text displayable ended fits
  rw [sanitizeUtf8Name, if_neg (Nat.succ_ne_zero room), whole]
  rfl

theorem cString_ended (source : Bytes) :
    ∃ tail, source = cString source ++ tail ∧
      (tail = [] ∨ ∃ behind, tail = 0 :: behind) := by
  refine ⟨source.dropWhile (· != 0), List.takeWhile_append_dropWhile.symm, ?_⟩
  cases behind : source.dropWhile (· != 0) with
  | nil => exact .inl rfl
  | cons first rest =>
    have stop := List.head?_dropWhile_not (· != 0) source
    rw [behind] at stop
    exact .inr ⟨rest, by simpa using stop⟩

/--
Whatever came in, the destination holds a name of whole displayable characters
with its terminator.  The name is its own name, and a source that holds valid
text which fits keeps it.
-/
theorem advert_name_displayable (room : Nat) (source : Bytes) :
    ∃ name, sanitizeUtf8Name (room + 1) source = (name ++ [0], name.length) ∧
      name.length ≤ room ∧
      (name = [] ∨ validMeshTextUtf8 name = true) ∧
      Copied source name ∧
      sanitizeUtf8Name (room + 1) name = (name ++ [0], name.length) ∧
      sanitizeUtf8Name (room + 1) (name ++ [0]) = (name ++ [0], name.length) ∧
      (cString source ≠ [] → (cString source).length < room + 1 →
        validMeshTextUtf8 (cString source) = true → name = cString source) := by
  obtain ⟨name, written, copied, short⟩ :=
    sanitizeFrom_copied [] source (Nat.succ_pos room : 0 < room + 1)
  have output : sanitizeUtf8Name (room + 1) source =
      (name ++ [0], name.length) := by
    rw [sanitizeUtf8Name, if_neg (Nat.succ_ne_zero room), written]
    rfl
  have inside : name.length ≤ room := Nat.le_of_lt_succ short
  have again : sanitizeUtf8Name (room + 1) (name ++ []) = _ :=
    sanitizeUtf8Name_valid copied.valid inside
      (.inl rfl)
  rw [List.append_nil] at again
  refine ⟨name, output, inside, .inr copied.valid, copied, again,
    sanitizeUtf8Name_valid copied.valid inside (.inr ⟨[], rfl⟩), ?_⟩
  intro nonempty fits valid
  obtain ⟨tail, split, ended⟩ := cString_ended source
  have kept := sanitizeUtf8Name_valid valid (Nat.le_of_lt_succ fits) ended
  rw [← split, output] at kept
  exact List.append_cancel_right (Prod.mk.inj kept).1

end Names

end Kitsu.Mesh.AdvertName
