import Mathlib.Data.List.Basic
import Mathlib.Tactic.Common
import Mathlib.Data.List.Nodup

/-!
# Rings read from their oldest entry

A queue in an array: `head` is the slot of the oldest entry, and the `count` entries
stand behind one another around the ring.  An entry is put into the slot behind the
newest one; taking the oldest moves `head` on.
-/

namespace Kitsu.Lib.FifoRing

variable {α : Type} [Inhabited α] {capacity : Nat}

/-- The entry `offset` places behind the oldest one. -/
def entry (slots : Vector α capacity) (head offset : Nat) : α :=
  slots[(head + offset) % capacity]?.getD default

/-- The entries, the oldest first. -/
def items (slots : Vector α capacity) (head count : Nat) : List α :=
  (List.range count).map (entry slots head)

variable {slots : Vector α capacity} {head count : Nat}

/-- Slots less than one turn apart differ. -/
theorem slot_ne {first second : Nat} (order : first < second)
    (within : second < capacity) :
    (head + first) % capacity ≠ (head + second) % capacity := by
  intro same
  have multiple := Nat.sub_mod_eq_zero_of_mod_eq same.symm
  have apart : head + second - (head + first) = second - first := by
    omega
  rw [apart, Nat.mod_eq_of_lt (by omega)] at multiple
  omega

theorem entry_set_same {value : α} {offset : Nat} (positive : 0 < capacity) :
    entry (slots.setIfInBounds ((head + offset) % capacity) value) head offset =
      value := by
  have inside : (head + offset) % capacity < capacity :=
    Nat.mod_lt _ positive
  simp [entry, inside]

theorem entry_set_other {value : α} {offset place : Nat} (order : offset < place)
    (within : place < capacity) :
    entry (slots.setIfInBounds ((head + place) % capacity) value) head offset =
      entry slots head offset := by
  have differ : (head + place) % capacity ≠ (head + offset) % capacity :=
    fun same => slot_ne order within same.symm
  simp [entry, differ]

/-- An entry put behind the newest one is the new last entry. -/
theorem items_push (value : α) (room : count < capacity) :
    items (slots.setIfInBounds ((head + count) % capacity) value) head (count + 1) =
      items slots head count ++ [value] := by
  rw [items, List.range_succ, List.map_append, List.map_singleton,
    entry_set_same (Nat.zero_lt_of_lt room)]
  congr 1
  apply List.map_congr_left
  intro offset member
  exact entry_set_other (List.mem_range.mp member) room

/-- The oldest entry stands in front of those left when it is taken. -/
theorem items_pop :
    items slots head (count + 1) =
      entry slots head 0 :: items slots ((head + 1) % capacity) count := by
  rw [items, List.range_succ_eq_map, List.map_cons, List.map_map]
  congr 1
  apply List.map_congr_left
  intro offset _
  rw [Function.comp_apply, entry, entry, Nat.mod_add_mod,
    Nat.add_right_comm, Nat.add_assoc]

end Kitsu.Lib.FifoRing

/-!
# Rings that overwrite their oldest entry

A ring keeps the last `capacity` entries pushed into it: `next` is the slot the
next entry goes to and `count` how many slots are in use.  `newestFirst` is the
list a reader gets by walking backwards from `next`; a push puts the new entry
in front of it and drops what falls off the end.
-/

namespace Kitsu.Lib

variable {α : Type} {capacity : Nat}

/--
A ring of slots, how many of them are used, and the one to be written next.
-/
@[ext]
structure RingBuffer (α : Type) (capacity : Nat) where
  slots : Vector α capacity
  count : Nat
  next : Nat
deriving DecidableEq

/-- Put an entry into the next slot. -/
def RingBuffer.push (ring : RingBuffer α capacity) (entry : α) : RingBuffer α capacity where
  slots := ring.slots.setIfInBounds ring.next entry
  count := if ring.count < capacity then ring.count + 1 else ring.count
  next := (ring.next + 1) % capacity

/--
The slots in use hold good entries and the others are blank; until the ring is
full it is filled from its first slot on.
-/
structure RingBuffer.Filled (Blank Good : α → Prop) (ring : RingBuffer α capacity) :
    Prop where
  count_le : ring.count ≤ capacity
  next_lt : ring.next < capacity
  next_eq : ring.count < capacity → ring.next = ring.count
  blank : ∀ slot : Fin capacity, ring.count ≤ slot → Blank ring.slots[slot]
  good : ∀ slot : Fin capacity, slot < ring.count → Good ring.slots[slot]

/-- The slots in use, from the first slot on. -/
def RingBuffer.used (ring : RingBuffer α capacity) : List α :=
  ring.slots.toList.take ring.count

/-- No entry is in use twice. -/
def RingBuffer.Distinct (ring : RingBuffer α capacity) : Prop :=
  ∀ first second : Fin capacity, first < ring.count → second < ring.count →
    ring.slots[first] = ring.slots[second] → first = second

/-- The slot of the entry pushed `age` pushes before the last one. -/
def RingBuffer.slotOf (ring : RingBuffer α capacity) (age : Nat) : Nat :=
  (ring.next + capacity - 1 - age) % capacity

/-- The entry pushed `age` pushes before the last one. -/
def RingBuffer.newest [Inhabited α] (ring : RingBuffer α capacity)
    (age : Nat) : α :=
  ring.slots[ring.slotOf age]?.getD default

/-- The entries in use, the last one pushed first. -/
def RingBuffer.newestFirst [Inhabited α] (ring : RingBuffer α capacity) :
    List α :=
  (List.range ring.count).map ring.newest

section Used

variable (ring : RingBuffer α capacity)

theorem RingBuffer.mem_used {entry : α} :
    entry ∈ ring.used ↔
      ∃ slot : Fin capacity, slot < ring.count ∧ ring.slots[slot] = entry := by
  rw [RingBuffer.used, List.mem_take_iff_getElem]
  constructor
  · rintro ⟨slot, below, rfl⟩
    rw [Vector.length_toList, Nat.lt_min] at below
    exact ⟨⟨slot, below.2⟩, below.1, by simp⟩
  · rintro ⟨slot, below, rfl⟩
    exact ⟨slot, by simp; omega, by simp⟩

theorem RingBuffer.distinct_iff (inside : ring.count ≤ capacity) :
    ring.Distinct ↔ ring.used.Nodup := by
  have length : ring.used.length = ring.count := by
    simp [RingBuffer.used, inside]
  rw [List.nodup_iff_injective_getElem]
  constructor
  · intro distinct first second same
    have firstUsed : first.val < ring.count := length ▸ first.isLt
    have secondUsed : second.val < ring.count := length ▸ second.isLt
    have equal := distinct ⟨first, by omega⟩ ⟨second, by omega⟩ firstUsed
      secondUsed (by simpa [RingBuffer.used] using same)
    exact Fin.ext (Fin.mk.inj equal)
  · intro injective first second firstUsed secondUsed same
    have equal := @injective ⟨first, length.symm ▸ firstUsed⟩
      ⟨second, length.symm ▸ secondUsed⟩
      (by simpa [RingBuffer.used] using same)
    exact Fin.ext (Fin.mk.inj equal)

theorem RingBuffer.filled_iff {Blank Good : α → Prop} :
    ring.Filled Blank Good ↔
      ring.count ≤ capacity ∧ ring.next < capacity ∧
        (ring.count < capacity → ring.next = ring.count) ∧
        (∀ entry ∈ ring.used, Good entry) ∧
        ∀ entry ∈ ring.slots.toList.drop ring.count, Blank entry := by
  have drop (entry : α) : entry ∈ ring.slots.toList.drop ring.count ↔
      ∃ slot : Fin capacity, ring.count ≤ slot ∧
        ring.slots[slot] = entry := by
    rw [List.mem_drop_iff_getElem]
    constructor
    · rintro ⟨offset, below, rfl⟩
      rw [Vector.length_toList] at below
      exact ⟨⟨ring.count + offset, by omega⟩, by simp, by simp⟩
    · rintro ⟨slot, unused, rfl⟩
      exact ⟨slot - ring.count, by simp; omega, by simp; congr 1; omega⟩
  constructor
  · intro filled
    refine ⟨filled.count_le, filled.next_lt, filled.next_eq, ?_, ?_⟩
    · intro entry member
      rcases ring.mem_used.mp member with ⟨slot, used, rfl⟩
      exact filled.good slot used
    · intro entry member
      rcases (drop entry).mp member with ⟨slot, unused, rfl⟩
      exact filled.blank slot unused
  · rintro ⟨bounded, inside, position, good, blank⟩
    exact ⟨bounded, inside, position,
      fun slot unused => blank _ ((drop _).mpr ⟨slot, unused, rfl⟩),
      fun slot used => good _ (ring.mem_used.mpr ⟨slot, used, rfl⟩)⟩

/-- How a reader of the slots tests a ring that keeps no entry twice. -/
theorem RingBuffer.filled_and_distinct_iff {Blank Good : α → Prop}
    (bounded : ring.count ≤ capacity) (inside : ring.next < capacity) :
    ring.Filled Blank Good ∧ ring.Distinct ↔
      (ring.count < capacity → ring.next = ring.count) ∧
        (∀ entry ∈ ring.used, Good entry) ∧ ring.used.Nodup ∧
        ∀ entry ∈ ring.slots.toList.drop ring.count, Blank entry := by
  rw [RingBuffer.filled_iff, RingBuffer.distinct_iff _ bounded]
  constructor
  · rintro ⟨⟨-, -, position, good, blank⟩, distinct⟩
    exact ⟨position, good, distinct, blank⟩
  · rintro ⟨position, good, distinct, blank⟩
    exact ⟨⟨bounded, inside, position, good, blank⟩, distinct⟩

end Used

/-- A window on a history does not depend on what fell off it before. -/
theorem take_append_take (count : Nat) (front back : List α) :
    (front ++ back.take count).take count = (front ++ back).take count := by
  rw [List.take_append, List.take_append, List.take_take,
    Nat.min_eq_left (Nat.sub_le _ _)]

variable {age : Nat}

section Push

variable {Blank Good : α → Prop} {ring : RingBuffer α capacity}

theorem RingBuffer.Filled.count_push (filled : ring.Filled Blank Good)
    (entry : α) : (ring.push entry).count = min (ring.count + 1) capacity := by
  have bounded := filled.count_le
  simp only [RingBuffer.push]
  split <;> omega

theorem RingBuffer.push_slots (entry : α) (slot : Fin capacity) :
    (ring.push entry).slots[slot] =
      if ring.next = slot then entry else ring.slots[slot] := by
  exact Vector.getElem_setIfInBounds slot.isLt

/-- The slot written by a push is in use afterwards. -/
theorem RingBuffer.Filled.next_lt_count_push (filled : ring.Filled Blank Good)
    (entry : α) : ring.next < (ring.push entry).count := by
  have inside := filled.next_lt
  rw [filled.count_push]
  rcases Nat.lt_or_ge ring.count capacity with room | full
  · have position := filled.next_eq room
    omega
  · omega

/-- A push keeps the ring filled exactly when the entry is a good one. -/
theorem RingBuffer.Filled.push_iff (filled : ring.Filled Blank Good) (entry : α) :
    (ring.push entry).Filled Blank Good ↔ Good entry := by
  have inside := filled.next_lt
  have written := filled.next_lt_count_push entry
  constructor
  · intro after
    have stored := after.good ⟨ring.next, inside⟩ written
    rwa [RingBuffer.push_slots, if_pos rfl] at stored
  · intro good
    have counted := filled.count_push entry
    constructor
    · omega
    · exact Nat.mod_lt _ (by omega)
    · intro room
      have position := filled.next_eq (by omega)
      show (ring.next + 1) % capacity = _
      rw [counted, Nat.mod_eq_of_lt (by omega)]
      omega
    · intro slot unused
      rw [RingBuffer.push_slots, if_neg (by omega)]
      exact filled.blank slot (by omega)
    · intro slot used
      rw [RingBuffer.push_slots]
      split
      · exact good
      · rename_i other
        apply filled.good slot
        rcases Nat.lt_or_ge ring.count capacity with room | full
        · have position := filled.next_eq room
          omega
        · have := slot.isLt
          omega

theorem RingBuffer.slotOf_push_zero (inside : ring.next < capacity) (entry : α) :
    (ring.push entry).slotOf 0 = ring.next := by
  simp only [RingBuffer.slotOf, RingBuffer.push]
  rcases Nat.lt_or_ge (ring.next + 1) capacity with room | full
  · rw [Nat.mod_eq_of_lt room, Nat.sub_zero, Nat.add_right_comm,
      Nat.add_sub_cancel, Nat.add_mod_right, Nat.mod_eq_of_lt inside]
  · have last : ring.next + 1 = capacity := by omega
    rw [last, Nat.mod_self, Nat.mod_eq_of_lt (by omega)]
    omega

/-- A push takes no other slot into use than the one it writes. -/
theorem RingBuffer.Filled.used_of_push (filled : ring.Filled Blank Good)
    {entry : α} {slot : Fin capacity} (used : slot < (ring.push entry).count)
    (other : ring.next ≠ slot) : slot < ring.count := by
  rw [filled.count_push] at used
  rcases Nat.lt_or_ge ring.count capacity with room | full
  · have position := filled.next_eq room
    omega
  · omega

/-- A new entry keeps the entries in use distinct. -/
theorem RingBuffer.Filled.distinct_push (filled : ring.Filled Blank Good)
    (distinct : ring.Distinct) {entry : α}
    (fresh : ∀ slot : Fin capacity, slot < ring.count →
      ring.slots[slot] ≠ entry) : (ring.push entry).Distinct := by
  intro first second firstUsed secondUsed same
  rw [RingBuffer.push_slots, RingBuffer.push_slots] at same
  split at same
  · rename_i firstWritten
    split at same
    · rename_i secondWritten
      exact Fin.ext (firstWritten.symm.trans secondWritten)
    · rename_i other
      exact absurd same.symm
        (fresh second (filled.used_of_push secondUsed other))
  · rename_i firstOther
    split at same
    · exact absurd same
        (fresh first (filled.used_of_push firstUsed firstOther))
    · rename_i secondOther
      exact distinct first second (filled.used_of_push firstUsed firstOther)
        (filled.used_of_push secondUsed secondOther) same

/-- Every earlier entry is one push older. -/
theorem RingBuffer.slotOf_push_succ (inside : ring.next < capacity) (entry : α)
    (recent : age + 1 < capacity) :
    (ring.push entry).slotOf (age + 1) = ring.slotOf age := by
  simp only [RingBuffer.slotOf, RingBuffer.push]
  rcases Nat.lt_or_ge (ring.next + 1) capacity with room | full
  · rw [Nat.mod_eq_of_lt room]
    congr 1
    omega
  · have last : ring.next + 1 = capacity := by omega
    rw [last, Nat.mod_self, Nat.mod_eq_of_lt (by omega),
      show ring.next + capacity - 1 - age
        = (0 + capacity - 1 - (age + 1)) + capacity by omega,
      Nat.add_mod_right, Nat.mod_eq_of_lt (by omega)]

theorem RingBuffer.slotOf_ne_next (inside : ring.next < capacity)
    (recent : age + 1 < capacity) : ring.slotOf age ≠ ring.next := by
  simp only [RingBuffer.slotOf]
  rcases Nat.lt_or_ge (ring.next + capacity - 1 - age) capacity with
    early | late
  · rw [Nat.mod_eq_of_lt early]
    omega
  · rw [Nat.mod_eq_sub_mod late, Nat.mod_eq_of_lt (by omega)]
    omega

/-- An involution: the age of the entry in a slot is found the same way. -/
theorem RingBuffer.slotOf_slotOf (inside : ring.next < capacity)
    (recent : age < capacity) : ring.slotOf (ring.slotOf age) = age := by
  simp only [RingBuffer.slotOf]
  rcases Nat.lt_or_ge (ring.next + capacity - 1 - age) capacity with
    early | late
  · rw [Nat.mod_eq_of_lt early]
    rw [show ring.next + capacity - 1 - (ring.next + capacity - 1 - age)
      = age by omega, Nat.mod_eq_of_lt recent]
  · have wrapped : (ring.next + capacity - 1 - age) % capacity =
        ring.next + capacity - 1 - age - capacity := by
      rw [Nat.mod_eq_sub_mod late, Nat.mod_eq_of_lt (by omega)]
    rw [wrapped, show ring.next + capacity - 1
        - (ring.next + capacity - 1 - age - capacity) = age + capacity by omega,
      Nat.add_mod_right, Nat.mod_eq_of_lt recent]

/-- Slots in use hold the entries younger than the count. -/
theorem RingBuffer.Filled.slotOf_lt_count (filled : ring.Filled Blank Good)
    (recent : age < ring.count) : ring.slotOf age < ring.count := by
  have bounded := filled.count_le
  simp only [RingBuffer.slotOf]
  rcases Nat.lt_or_ge ring.count capacity with room | full
  · have position := filled.next_eq room
    rw [show ring.next + capacity - 1 - age
      = (ring.count - 1 - age) + capacity by omega, Nat.add_mod_right,
      Nat.mod_eq_of_lt (by omega)]
    omega
  · have everything : ring.count = capacity := by omega
    rw [everything]
    exact Nat.mod_lt _ (by omega)

variable [Inhabited α]

theorem RingBuffer.newest_push_zero (inside : ring.next < capacity) (entry : α) :
    (ring.push entry).newest 0 = entry := by
  rw [RingBuffer.newest, RingBuffer.slotOf_push_zero inside]
  simp [RingBuffer.push, inside]

theorem RingBuffer.newest_push_succ (inside : ring.next < capacity) (entry : α)
    (recent : age + 1 < capacity) :
    (ring.push entry).newest (age + 1) = ring.newest age := by
  have other := ring.slotOf_ne_next inside recent
  rw [RingBuffer.newest, RingBuffer.slotOf_push_succ inside entry recent]
  simp [RingBuffer.push, RingBuffer.newest, other.symm]

/-- Pushing conses the entry and forgets what is older than the capacity. -/
theorem RingBuffer.Filled.newestFirst_push (filled : ring.Filled Blank Good)
    (entry : α) :
    (ring.push entry).newestFirst =
      (entry :: ring.newestFirst).take capacity := by
  have inside := filled.next_lt
  have kept : min (ring.count + 1) capacity =
      min (capacity - 1) ring.count + 1 := by omega
  have shortened : (entry :: ring.newestFirst).take capacity =
      entry :: ((List.range ring.count).map ring.newest).take
        (capacity - 1) := by
    cases capacity with
    | zero => exact absurd inside (Nat.not_lt_zero _)
    | succ _ => rfl
  rw [shortened, ← List.map_take, List.take_range, RingBuffer.newestFirst,
    filled.count_push, kept, List.range_succ_eq_map, List.map_cons,
    RingBuffer.newest_push_zero inside, List.map_map]
  congr 1
  apply List.map_congr_left
  intro age member
  rw [List.mem_range] at member
  exact RingBuffer.newest_push_succ inside entry (by omega)

theorem RingBuffer.Filled.length_newestFirst (filled : ring.Filled Blank Good) :
    ring.newestFirst.length ≤ capacity := by
  simpa [RingBuffer.newestFirst] using filled.count_le

/-- What holds of every entry a reader sees holds of every slot in use. -/
theorem RingBuffer.Filled.forall_newestFirst
    (filled : ring.Filled Blank Good) (Holds : α → Prop) :
    (∀ entry ∈ ring.newestFirst, Holds entry) ↔
      ∀ slot : Fin capacity, slot < ring.count → Holds ring.slots[slot] := by
  have bounded := filled.count_le
  have inside := filled.next_lt
  constructor
  · intro every slot used
    have seen := every (ring.newest (ring.slotOf slot)) (by
      apply List.mem_map_of_mem
      rw [List.mem_range]
      exact filled.slotOf_lt_count used)
    rw [RingBuffer.newest, RingBuffer.slotOf_slotOf inside slot.isLt] at seen
    simpa using seen
  · intro every entry member
    rcases List.mem_map.mp member with ⟨age, young, rfl⟩
    rw [List.mem_range] at young
    have used := filled.slotOf_lt_count young
    have stored := every ⟨ring.slotOf age, by omega⟩ used
    have slot : ring.slotOf age < capacity := by omega
    simpa [RingBuffer.newest, slot] using stored

theorem RingBuffer.Filled.mem_newestFirst (filled : ring.Filled Blank Good)
    {entry : α} (recent : entry ∈ ring.newestFirst) : entry ∈ ring.used := by
  apply (filled.forall_newestFirst (· ∈ ring.used)).mpr _ entry recent
  intro slot used
  exact ring.mem_used.mpr ⟨slot, used, rfl⟩

end Push

end Kitsu.Lib
