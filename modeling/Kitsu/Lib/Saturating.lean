import Mathlib.Tactic.Common
import Mathlib.Data.List.Basic

/-!
# Flag bytes

A byte of flags is asked for by masks.  What setting and clearing some of the flags does
to the answer of another mask is read off the bits that the masks share.
-/

namespace Kitsu.Lib.Flags

/-- Whether a flag byte has a bit of the mask. -/
def flagged (flags mask : UInt8) : Bool :=
  flags &&& mask != 0

theorem flagged_and (flags kept mask : UInt8) :
    flagged (flags &&& kept) mask = flagged flags (kept &&& mask) := by
  simp [flagged, UInt8.and_assoc]

/-- Masking with what contains the asked bits changes none of them. -/
theorem flagged_kept {kept mask : UInt8} (inside : kept &&& mask = mask)
    (flags : UInt8) : flagged (flags &&& kept) mask = flagged flags mask := by
  rw [flagged_and, inside]

theorem flagged_cleared {kept mask : UInt8} (outside : kept &&& mask = 0)
    (flags : UInt8) : flagged (flags &&& kept) mask = false := by
  rw [flagged_and, outside]
  simp [flagged]

theorem flagged_or (flags added mask : UInt8) :
    flagged (flags ||| added) mask = (flagged flags mask || flagged added mask) := by
  have distributed : (flags ||| added) &&& mask =
      (flags &&& mask) ||| (added &&& mask) := by
    apply UInt8.toNat_inj.mp
    simp [Nat.and_or_distrib_right]
  rw [Bool.eq_iff_iff]
  simp only [flagged, distributed, bne_iff_ne, Bool.or_eq_true, ne_eq,
    UInt8.or_eq_zero_iff]
  tauto

/-- Setting bits that are not asked for changes nothing. -/
theorem flagged_added {added mask : UInt8} (outside : added &&& mask = 0)
    (flags : UInt8) : flagged (flags ||| added) mask = flagged flags mask := by
  have absent : flagged added mask = false := by
    simp [flagged, outside]
  rw [flagged_or, absent, Bool.or_false]

theorem flagged_ite_or (condition : Bool) (flags added mask : UInt8) :
    flagged (if condition then flags ||| added else flags) mask =
      (flagged flags mask || condition && flagged added mask) := by
  cases condition
  · simp
  · simp [flagged_or]

end Kitsu.Lib.Flags

/-!
# Saturating counters

Sums of fixed-width counters that stay at the largest value once they reach it.
-/

namespace Kitsu.Lib

/-- The sum, or the largest value when the sum does not fit. -/
def saturatingAdd16 (left right : UInt16) : UInt16 :=
  UInt16.ofNat (min (left.toNat + right.toNat) 65535)

/-- The sum, at most the largest number of four bytes. -/
def saturatingAdd32 (left right : UInt32) : UInt32 :=
  UInt32.ofNat (min (left.toNat + right.toNat) 4294967295)

theorem toNat_saturatingAdd16 (left right : UInt16) :
    (saturatingAdd16 left right).toNat =
      min (left.toNat + right.toNat) 65535 := by
  rw [saturatingAdd16, UInt16.toNat_ofNat_of_lt']
  exact Nat.lt_of_le_of_lt (Nat.min_le_right _ _) (by decide)

theorem toNat_saturatingAdd32 (left right : UInt32) :
    (saturatingAdd32 left right).toNat =
      min (left.toNat + right.toNat) 4294967295 := by
  rw [saturatingAdd32, UInt32.toNat_ofNat_of_lt']
  exact Nat.lt_of_le_of_lt (Nat.min_le_right _ _) (by decide)

theorem saturatingAdd16_ne_zero (left : UInt16) {right : UInt16}
    (positive : 0 < right.toNat) : saturatingAdd16 left right ≠ 0 := by
  intro zero
  have sum := toNat_saturatingAdd16 left right
  rw [zero] at sum
  simp only [UInt16.toNat_zero] at sum
  omega

theorem saturatingAdd32_ne_zero (left : UInt32) {right : UInt32}
    (positive : 0 < right.toNat) : saturatingAdd32 left right ≠ 0 := by
  intro zero
  have sum := toNat_saturatingAdd32 left right
  rw [zero] at sum
  simp only [UInt32.toNat_zero] at sum
  omega

theorem saturatingAdd32_mono {left other : UInt32} (below : left ≤ other)
    (right : UInt32) :
    saturatingAdd32 left right ≤ saturatingAdd32 other right := by
  rw [UInt32.le_iff_toNat_le] at below ⊢
  rw [toNat_saturatingAdd32, toNat_saturatingAdd32]
  omega

theorem le_saturatingAdd16 (left right : UInt16) :
    left ≤ saturatingAdd16 left right := by
  have bound := left.toNat_lt
  rw [UInt16.le_iff_toNat_le, toNat_saturatingAdd16]
  omega

theorem le_saturatingAdd32 (left right : UInt32) :
    left ≤ saturatingAdd32 left right := by
  have bound := left.toNat_lt
  rw [UInt32.le_iff_toNat_le, toNat_saturatingAdd32]
  omega

end Kitsu.Lib

/-!
# Deadlines on a wrapping clock

A 32-bit millisecond counter wraps, so a deadline is compared by the sign of its
signed distance: it is reached during the half period that begins with it.
-/

namespace Kitsu.Lib.WrapClock

/-- The signed distance from the deadline to now is not negative. -/
def deadlineReached (now deadline : UInt32) : Bool :=
  (now - deadline).toNat < 2147483648

/-- The times of a period of this length that begins at `start`. -/
def Within (start : UInt32) (length : Nat) (now : UInt32) : Prop :=
  (now - start).toNat < length

/-- A deadline that lies ahead by less than half a period is not reached. -/
theorem deadlineReached_ahead {now delay : UInt32} (positive : delay ≠ 0)
    (near : delay.toNat ≤ 2147483648) :
    deadlineReached now (now + delay) = false := by
  have ahead : delay.toNat ≠ 0 := by
    intro zero
    exact positive (UInt32.toNat_inj.mp zero)
  simp only [deadlineReached, UInt32.toNat_sub, UInt32.toNat_add,
    decide_eq_false_iff_not]
  omega

/--
During a period, a deadline that is its length ahead of one of its times is not
reached.
-/
theorem deadlineReached_within {start earlier now length : UInt32}
    (short : length.toNat ≤ 1073741824)
    (before : Within start length.toNat earlier)
    (during : Within start length.toNat now) :
    deadlineReached now (earlier + length) = false := by
  unfold Within at before during
  simp only [deadlineReached, UInt32.toNat_sub, UInt32.toNat_add,
    decide_eq_false_iff_not] at before during ⊢
  omega

/-- The counter shows every distance that is shorter than its period. -/
theorem toNat_sub_ofNat {earlier later : Nat} (forward : earlier ≤ later)
    (near : later < earlier + 4294967296) :
    (UInt32.ofNat later - UInt32.ofNat earlier).toNat = later - earlier := by
  rw [UInt32.toNat_sub, UInt32.toNat_ofNat', UInt32.toNat_ofNat']
  omega

end Kitsu.Lib.WrapClock

/-!
# Mixers that lose nothing

A word that is combined with itself shifted to the right determines the word,
and so does its product with a constant that has an inverse.  A mixer that is
built of these steps is injective.
-/

namespace Kitsu.Lib.XorShift

/-- A shift by half of the word undoes itself. -/
theorem undo_16 (word : UInt32) :
    (word ^^^ word >>> 16) ^^^ ((word ^^^ word >>> 16) >>> 16) = word := by
  apply UInt32.toBitVec_inj.mp
  ext bit inside
  have outside : word.toBitVec.getLsbD (16 + (16 + bit)) = false :=
    BitVec.getLsbD_of_ge _ _ (by omega)
  simp [outside]

/-- A shorter shift is undone by itself and its double. -/
theorem undo_15 (word : UInt32) :
    (word ^^^ word >>> 15) ^^^ ((word ^^^ word >>> 15) >>> 15) ^^^
      ((word ^^^ word >>> 15) >>> 30) = word := by
  apply UInt32.toBitVec_inj.mp
  ext bit inside
  have outside : word.toBitVec.getLsbD (15 + (30 + bit)) = false :=
    BitVec.getLsbD_of_ge _ _ (by omega)
  have double : 15 + (15 + bit) = 30 + bit := by omega
  simp [outside, double]

theorem injective_16 : Function.Injective fun word : UInt32 =>
    word ^^^ word >>> 16 := by
  intro first second same
  have undone := undo_16 first
  simp only at same
  rw [same, undo_16] at undone
  exact undone.symm

theorem injective_15 : Function.Injective fun word : UInt32 =>
    word ^^^ word >>> 15 := by
  intro first second same
  have undone := undo_15 first
  simp only at same
  rw [same, undo_15] at undone
  exact undone.symm

theorem injective_mul {factor inverse : UInt32}
    (unit : factor * inverse = 1) : Function.Injective fun word : UInt32 =>
      word * factor := by
  intro first second same
  have product := congrArg (· * inverse) same
  simpa only [UInt32.mul_assoc, unit, UInt32.mul_one] using product

end Kitsu.Lib.XorShift

/-!
# Computations that may fault

A division by zero and an access outside a table have no result.  A computation
written with the checked operations has one exactly when no step of it faults, and
is then the computation with the ordinary ones.
-/

namespace Kitsu.Lib.Checked

variable {α β : Type}

/-- Division that fails on zero. -/
def quotient (value divisor : Nat) : Option Nat :=
  if divisor = 0 then none else some (value / divisor)

/-- The remainder of a division that fails on zero. -/
def remainder (value divisor : Nat) : Option Nat :=
  if divisor = 0 then none else some (value % divisor)

/-- The signed division, which rounds towards zero. -/
def quotientInt (value : Int) (divisor : Nat) : Option Int :=
  if divisor = 0 then none else some (value.tdiv divisor)

/-- Change one entry of a table. -/
def update (table : List α) (index : Nat) (change : α → α) :
    Option (List α) :=
  if index < table.length then some (table.modify index change) else none

theorem quotient_some {value divisor : Nat} (positive : divisor ≠ 0) :
    quotient value divisor = some (value / divisor) :=
  if_neg positive

theorem remainder_some {value divisor : Nat} (positive : divisor ≠ 0) :
    remainder value divisor = some (value % divisor) :=
  if_neg positive

theorem quotientInt_some {value : Int} {divisor : Nat} (positive : divisor ≠ 0) :
    quotientInt value divisor = some (value.tdiv divisor) :=
  if_neg positive

theorem update_some {table : List α} {index : Nat} {change : α → α}
    (inside : index < table.length) :
    update table index change = some (table.modify index change) :=
  if_pos inside

theorem update_none {table : List α} {index : Nat} {change : α → α}
    (outside : table.length ≤ index) : update table index change = none :=
  if_neg (Nat.not_lt.mpr outside)

theorem getElem?_some {table : List α} {index : Nat} (blank : α)
    (inside : index < table.length) :
    table[index]? = some (table.getD index blank) := by
  rw [List.getD_eq_getElem?_getD, List.getElem?_eq_getElem inside,
    Option.getD_some]

/-- A loop of which no step faults. -/
theorem mapM_some {items : List α} {step : α → Option β} {value : α → β}
    (each : ∀ item ∈ items, step item = some (value item)) :
    items.mapM step = some (items.map value) := by
  induction items with
  | nil => rfl
  | cons first later induction =>
    rw [List.mapM_cons, each first List.mem_cons_self,
      induction fun item member => each item (List.mem_cons_of_mem _ member)]
    rfl

theorem foldlM_some {items : List α} {step : β → α → Option β}
    {next : β → α → β} (each : ∀ state, ∀ item ∈ items,
      step state item = some (next state item)) (start : β) :
    items.foldlM step start = some (items.foldl next start) := by
  induction items generalizing start with
  | nil => rfl
  | cons first later induction =>
    rw [List.foldlM_cons, each start first List.mem_cons_self, List.foldl_cons]
    exact induction
      (fun state item member => each state item (List.mem_cons_of_mem _ member))
      (next start first)

end Kitsu.Lib.Checked
