import Mathlib.Data.List.TakeWhile
import Mathlib.Data.Nat.Digits.Lemmas
import Kitsu.Lib.ByteString
import Kitsu.Lib.FixedRecords

/-!
# Tokens with blanks between them

An input whose tokens may each stand behind any number of blanks.  `Leads` relates
an input to what is left of it behind one token, `Reads` to what is left behind a
sequence of tokens.  A scanner that drops blanks leaves a token of which the first
character is not a blank at the front.
-/

namespace Kitsu.Lib.Spaced

variable {α : Type} (blank : α → Bool)

/-- Nothing but blanks. -/
def Blanks (gap : List α) : Prop :=
  ∀ character ∈ gap, blank character = true

/-- The input holds the token behind blanks, and the rest behind it. -/
def Leads (token input rest : List α) : Prop :=
  ∃ gap, Blanks blank gap ∧ input = gap ++ (token ++ rest)

/-- The input holds the tokens one behind the other. -/
def Reads : List (List α) → List α → List α → Prop
  | [], input, rest => input = rest
  | token :: later, input, rest =>
    ∃ middle, Leads blank token input middle ∧ Reads later middle rest

variable {blank} {token input rest : List α} {first second : List (List α)}

theorem reads_cons :
    Reads blank (token :: first) input rest ↔
      ∃ middle, Leads blank token input middle ∧ Reads blank first middle rest :=
  Iff.rfl

theorem reads_append :
    Reads blank (first ++ second) input rest ↔
      ∃ middle, Reads blank first input middle ∧ Reads blank second middle rest := by
  induction first generalizing input with
  | nil =>
    constructor
    · intro reads
      exact ⟨input, rfl, reads⟩
    · rintro ⟨middle, rfl, reads⟩
      exact reads
  | cons token later induction =>
    constructor
    · rintro ⟨behind, leads, reads⟩
      rcases induction.mp reads with ⟨middle, before, after⟩
      exact ⟨middle, ⟨behind, leads, before⟩, after⟩
    · rintro ⟨middle, ⟨behind, leads, before⟩, after⟩
      exact ⟨behind, leads, induction.mpr ⟨middle, before, after⟩⟩

theorem reads_singleton :
    Reads blank [token] input rest ↔ Leads blank token input rest := by
  constructor
  · rintro ⟨middle, leads, rfl⟩
    exact leads
  · intro leads
    exact ⟨rest, leads, rfl⟩

/-! ## Dropping blanks -/

theorem dropWhile_blanks {gap : List α} (blanks : Blanks blank gap) :
    (gap ++ rest).dropWhile blank = rest.dropWhile blank := by
  induction gap with
  | nil => rfl
  | cons character later induction =>
    rw [List.cons_append, List.dropWhile_cons_of_pos
      (blanks character List.mem_cons_self)]
    apply induction
    intro other member
    exact blanks other (List.mem_cons_of_mem character member)

/-- A token that begins with a visible character is what is left. -/
theorem dropWhile_eq_cons {character : α} (visible : blank character = false) :
    input.dropWhile blank = character :: rest ↔
      Leads blank [character] input rest := by
  constructor
  · intro left
    refine ⟨input.takeWhile blank, ?_, ?_⟩
    · intro other member
      exact List.mem_takeWhile_imp member
    · rw [List.singleton_append, ← left, List.takeWhile_append_dropWhile]
  · rintro ⟨gap, blanks, rfl⟩
    rw [dropWhile_blanks blanks, List.singleton_append,
      List.dropWhile_cons_of_neg (by rw [visible]; exact Bool.false_ne_true)]

theorem dropWhile_eq_nil : input.dropWhile blank = [] ↔ Blanks blank input := by
  rw [List.dropWhile_eq_nil_iff]
  exact Iff.rfl

/-- Dropping blanks first makes no difference to what is read. -/
theorem leads_dropWhile {character : α} (visible : blank character = false) :
    Leads blank (character :: token) (input.dropWhile blank) rest ↔
      Leads blank (character :: token) input rest := by
  constructor
  · rintro ⟨gap, blanks, left⟩
    refine ⟨input.takeWhile blank ++ gap, ?_, ?_⟩
    · intro other member
      rcases List.mem_append.mp member with front | behind
      · exact List.mem_takeWhile_imp front
      · exact blanks other behind
    · rw [List.append_assoc, ← left, List.takeWhile_append_dropWhile]
  · rintro ⟨gap, blanks, rfl⟩
    refine ⟨[], nofun, ?_⟩
    rw [dropWhile_blanks blanks, List.cons_append,
      List.dropWhile_cons_of_neg (by rw [visible]; exact Bool.false_ne_true)]
    rfl

/-- A token is its first character and what follows it at once. -/
theorem leads_cons {character : α} :
    Leads blank (character :: token) input rest ↔
      Leads blank [character] input (token ++ rest) :=
  Iff.rfl

end Kitsu.Lib.Spaced

/-!
# Decimal numerals

The canonical decimal text of a positive number, and the value of a text of digits.
A text of digits that does not begin with zero is the numeral of its value, so that
a reader which takes digits from left to right accepts nothing but numerals.
-/

namespace Kitsu.Lib.Decimal

open Kitsu.Lib.ByteString

/-- The character of a digit. -/
def character (digit : Nat) : UInt8 :=
  UInt8.ofNat (48 + digit)

/-- The numeral of a number; zero has none. -/
def decimal (value : Nat) : Bytes :=
  (Nat.digits 10 value).reverse.map character

def IsDigit (next : UInt8) : Prop :=
  48 ≤ next.toNat ∧ next.toNat ≤ 57

/-- The value that a text of digits continues another value to. -/
def valueFrom (value : Nat) (text : Bytes) : Nat :=
  text.foldl (fun value next => value * 10 + (next.toNat - 48)) value

theorem toNat_character {digit : Nat} (small : digit < 10) :
    (character digit).toNat = 48 + digit := by
  rw [character, UInt8.toNat_ofNat', Nat.mod_eq_of_lt (by omega)]

theorem isDigit_character {digit : Nat} (small : digit < 10) :
    IsDigit (character digit) := by
  constructor
  · rw [toNat_character small]
    exact Nat.le_add_right _ _
  · rw [toNat_character small]
    omega

theorem character_toNat {next : UInt8} (digit : IsDigit next) :
    character (next.toNat - 48) = next := by
  apply UInt8.toNat_inj.mp
  rcases digit with ⟨low, high⟩
  rw [toNat_character (by omega)]
  omega

theorem le_valueFrom (value : Nat) (text : Bytes) :
    value ≤ valueFrom value text := by
  induction text generalizing value with
  | nil => exact Nat.le_refl value
  | cons next later induction =>
    have step := induction (value * 10 + (next.toNat - 48))
    change value ≤ valueFrom (value * 10 + (next.toNat - 48)) later
    omega

/-- The digits of a text, the last one first, are those of its value. -/
theorem valueFrom_eq (value : Nat) (text : Bytes) :
    valueFrom value text =
      value * 10 ^ text.length +
        Nat.ofDigits 10 (text.map fun next => next.toNat - 48).reverse := by
  induction text generalizing value with
  | nil => simp [valueFrom]
  | cons next later induction =>
    change valueFrom (value * 10 + (next.toNat - 48)) later = _
    rw [induction, List.map_cons, List.reverse_cons, Nat.ofDigits_append,
      Nat.ofDigits_singleton, List.length_reverse, List.length_map,
      List.length_cons, Nat.pow_succ]
    ring

section Numeral

variable {value : Nat} {text : Bytes}

theorem decimal_digits : ∀ next ∈ decimal value, IsDigit next := by
  intro next member
  rcases List.mem_map.mp member with ⟨digit, within, rfl⟩
  exact isDigit_character
    (Nat.digits_lt_base (by decide) (List.mem_reverse.mp within))

theorem decimal_ne_nil (positive : value ≠ 0) : decimal value ≠ [] := by
  intro empty
  rw [decimal, List.map_eq_nil_iff, List.reverse_eq_nil_iff] at empty
  exact Nat.digits_ne_nil_iff_ne_zero.mpr positive empty

/-- The digits behind the characters of a numeral. -/
theorem digits_decimal :
    (decimal value).map (fun next => next.toNat - 48) =
      (Nat.digits 10 value).reverse := by
  rw [decimal, List.map_map]
  conv_rhs => rw [← List.map_id (Nat.digits 10 value).reverse]
  apply List.map_congr_left
  intro digit member
  have small := Nat.digits_lt_base (by decide) (List.mem_reverse.mp member)
  rw [Function.comp_apply, toNat_character small]
  exact Nat.add_sub_cancel_left 48 digit

/-- A numeral has the value it is the numeral of. -/
theorem valueFrom_decimal : valueFrom 0 (decimal value) = value := by
  rw [valueFrom_eq, digits_decimal, List.reverse_reverse, Nat.ofDigits_digits,
    Nat.zero_mul, Nat.zero_add]

theorem head_decimal (positive : value ≠ 0) : (decimal value).head? ≠ some 48 := by
  intro zero
  have first : ((Nat.digits 10 value).reverse.map character).head? = some 48 :=
    zero
  rw [List.head?_map, List.head?_reverse, List.getLast?_eq_getLast_of_ne_nil
      (Nat.digits_ne_nil_iff_ne_zero.mpr positive), Option.map_some,
    Option.some.injEq] at first
  have small : (Nat.digits 10 value).getLast _ < 10 :=
    Nat.digits_lt_base (by decide)
      (List.getLast_mem (Nat.digits_ne_nil_iff_ne_zero.mpr positive))
  have digit := congrArg UInt8.toNat first
  rw [toNat_character small] at digit
  apply Nat.getLast_digit_ne_zero 10 positive
  change 48 + _ = 48 at digit
  omega

/-- A text of digits that does not begin with zero is the numeral of its value. -/
theorem decimal_valueFrom (digits : ∀ next ∈ text, IsDigit next)
    (head : text.head? ≠ some 48) : decimal (valueFrom 0 text) = text := by
  rw [valueFrom_eq, Nat.zero_mul, Nat.zero_add, decimal,
    Nat.digits_ofDigits 10 (by decide), List.reverse_reverse, List.map_map]
  · conv_rhs => rw [← List.map_id text]
    apply List.map_congr_left
    intro next member
    exact character_toNat (digits next member)
  · intro digit member
    rcases List.mem_map.mp (List.mem_reverse.mp member) with ⟨next, within, rfl⟩
    have high := (digits next within).2
    omega
  · intro nonempty
    cases text with
    | nil => exact absurd rfl nonempty
    | cons next later =>
      have low := (digits next List.mem_cons_self).1
      have notZero : next ≠ 48 := fun zero => head (by rw [zero]; rfl)
      have apart : next.toNat ≠ 48 := fun same =>
        notZero (UInt8.toNat_inj.mp same)
      simp only [List.map_cons, List.reverse_cons, List.getLast_append_singleton]
      omega

/-- A numeral is no longer than the first power that its number stays under. -/
theorem length_decimal {count : Nat} (bounded : value < 10 ^ count) :
    (decimal value).length ≤ count := by
  rw [decimal, List.length_map, List.length_reverse]
  exact (Nat.digits_length_le_iff (by decide) value).mpr bounded

end Numeral

end Kitsu.Lib.Decimal

/-!
# Packed layouts

A layout lays a value out in a fixed number of bytes and takes any such bytes for a
value.  Layouts are put together field by field, so that a packed structure is laid
out by naming the layouts of its fields in their order.
-/

namespace Kitsu.Lib

open ByteString
open FixedRecords

variable {α β : Type}

/--
A fixed-size layout of a type, with the proof that it reads what it writes.
-/
structure Layout (α : Type) where
  size : Nat
  write : α → Bytes
  read : Bytes → α
  codec : Codec size write read

namespace Layout

theorem length_write (layout : Layout α) (value : α) :
    (layout.write value).length = layout.size :=
  layout.codec.length value

theorem read_write (layout : Layout α) (value : α) :
    layout.read (layout.write value) = value := by
  have read := layout.codec.read_write value []
  rwa [List.append_nil] at read

/-- Bytes of the right number are those of the value read from them. -/
theorem write_read (layout : Layout α) {bytes : Bytes}
    (length : bytes.length = layout.size) :
    layout.write (layout.read bytes) = bytes := by
  rw [layout.codec.write_read bytes (Nat.le_of_eq length.symm), ← length,
    List.take_length]

/-! ## Integers -/

/-- One byte. -/
def byte : Layout UInt8 where
  size := 1
  write value := [value]
  read bytes := bytes.headD 0
  codec := by
    refine ⟨⟨fun _ => rfl, fun _ _ => rfl⟩, ?_⟩
    intro buffer inside
    cases buffer with
    | nil => exact absurd inside (by decide)
    | cons value rest => rfl

/-- Two bytes, the least significant first. -/
def word16 : Layout UInt16 where
  size := 2
  write value := littleEndian 2 value.toNat
  read bytes := UInt16.ofNat (ofLittleEndian (bytes.take 2))
  codec := by
    refine ⟨⟨fun _ => length_littleEndian 2 _, ?_⟩, ?_⟩
    · intro value rest
      have small : value.toNat < 256 ^ 2 := value.toNat_lt
      rw [List.take_left' (length_littleEndian 2 _),
        ofLittleEndian_littleEndian, Nat.mod_eq_of_lt small, UInt16.ofNat_toNat]
      rfl
    · intro buffer inside
      have length : (buffer.take 2).length = 2 := by
        rw [List.length_take]
        omega
      have bound := ofLittleEndian_lt (buffer.take 2)
      rw [length] at bound
      have small : ofLittleEndian (buffer.take 2) < 2 ^ 16 := bound
      have written := littleEndian_ofLittleEndian (buffer.take 2)
      rw [length] at written
      rw [UInt16.toNat_ofNat', Nat.mod_eq_of_lt small, written]

/-- Four bytes, the least significant first. -/
def word32 : Layout UInt32 where
  size := 4
  write value := littleEndian 4 value.toNat
  read bytes := UInt32.ofNat (ofLittleEndian (bytes.take 4))
  codec := by
    refine ⟨⟨fun _ => length_littleEndian 4 _, ?_⟩, ?_⟩
    · intro value rest
      have small : value.toNat < 256 ^ 4 := value.toNat_lt
      rw [List.take_left' (length_littleEndian 4 _),
        ofLittleEndian_littleEndian, Nat.mod_eq_of_lt small, UInt32.ofNat_toNat]
      rfl
    · intro buffer inside
      have length : (buffer.take 4).length = 4 := by
        rw [List.length_take]
        omega
      have bound := ofLittleEndian_lt (buffer.take 4)
      rw [length] at bound
      have small : ofLittleEndian (buffer.take 4) < 2 ^ 32 := bound
      have written := littleEndian_ofLittleEndian (buffer.take 4)
      rw [length] at written
      rw [UInt32.toNat_ofNat', Nat.mod_eq_of_lt small, written]

/-! ## Structures and arrays -/

/-- One value behind the other. -/
def pair (first : Layout α) (second : Layout β) : Layout (α × β) where
  size := first.size + second.size
  write value := first.write value.1 ++ second.write value.2
  read bytes := (first.read bytes, second.read (bytes.drop first.size))
  codec := by
    refine ⟨⟨?_, ?_⟩, ?_⟩
    · intro value
      rw [List.length_append, first.length_write, second.length_write]
    · rintro ⟨left, right⟩ rest
      rw [List.append_assoc, first.codec.read_write,
        List.drop_left' (first.length_write left), second.codec.read_write]
      rfl
    · intro buffer inside
      have behind : second.size ≤ (buffer.drop first.size).length := by
        rw [List.length_drop]
        omega
      rw [first.codec.write_read buffer (by omega),
        second.codec.write_read _ behind, List.take_add]

/-- The same bytes, taken for a value of another form. -/
def as (layout : Layout α) (into : α → β) (back : β → α)
    (into_back : ∀ value, into (back value) = value)
    (back_into : ∀ value, back (into value) = value) : Layout β where
  size := layout.size
  write value := layout.write (back value)
  read bytes := into (layout.read bytes)
  codec := by
    refine ⟨⟨?_, ?_⟩, ?_⟩
    · intro value
      exact layout.length_write (back value)
    · intro value rest
      rw [layout.codec.read_write]
      exact into_back value
    · intro buffer inside
      rw [back_into, layout.codec.write_read buffer inside]

/-- An array of a fixed number of values. -/
def vector (count : Nat) (layout : Layout α) : Layout (Vector α count) where
  size := count * layout.size
  write values := (values.toList.map layout.write).flatten
  read bytes :=
    ⟨(table layout.size layout.read count bytes).toArray, by simp [table]⟩
  codec := by
    have format := layout.codec.toFormat
    refine ⟨⟨?_, ?_⟩, ?_⟩
    · intro values
      rw [length_flatten format, Vector.length_toList]
    · intro values rest
      apply Vector.toList_inj.mp
      have read := table_flatten format values.toList rest
      rw [Vector.length_toList, List.map_id_fun, id_eq] at read
      exact read
    · intro buffer inside
      exact flatten_table layout.codec inside

end Layout

end Kitsu.Lib
