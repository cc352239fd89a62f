import Mathlib.Logic.Function.Basic
import Mathlib.Tactic.Common
import Mathlib.Data.List.Nodup

/-!
# Two alternating slots

A record store that keeps its state in two slots and always overwrites the one
that is not in use.  Records carry a 32-bit generation that wraps; the slot in
use is the readable one with the newer generation.  The lemmas say what the
choice is after a write of the next generation, whatever the write left behind.
-/

namespace Kitsu.Lib.TwoSlot

/-- The two slots. -/
inductive Slot where
  | first
  | second
deriving DecidableEq, Repr

/-- The other slot. -/
def Slot.other : Slot → Slot
  | .first => .second
  | .second => .first

@[simp]
theorem ne_other (slot : Slot) : slot ≠ slot.other := by
  cases slot <;> decide

theorem eq_or_eq_other (slot other : Slot) :
    other = slot ∨ other = slot.other := by
  cases slot <;> cases other <;> decide

/-- The signed distance from `reference` to `candidate` is positive. -/
def generationAfter (candidate reference : UInt32) : Bool :=
  let distance := (candidate - reference).toNat
  decide (0 < distance ∧ distance < 2147483648)

/--
The slot in use, from the generations of the readable slots.  Ties and
incomparable generations go to the first slot.
-/
def newest (generation : Slot → Option UInt32) : Option Slot :=
  match generation .first, generation .second with
  | none, none => none
  | some _, none => some .first
  | none, some _ => some .second
  | some first, some second =>
    if generationAfter second first then some .second else some .first

theorem generationAfter_succ (generation : UInt32) :
    generationAfter (generation + 1) generation = true := by
  have distance : generation + 1 - generation = 1 := by
    rw [UInt32.add_comm, UInt32.add_sub_cancel]
  simp [generationAfter, distance]

theorem not_generationAfter_succ (generation : UInt32) :
    generationAfter generation (generation + 1) = false := by
  have distance : generation - (generation + 1) = 4294967295 := by
    rw [UInt32.sub_eq_iff_eq_add, UInt32.add_comm generation, ← UInt32.add_assoc]
    exact (UInt32.zero_add generation).symm
  simp [generationAfter, distance]

section Choice

variable {generation : Slot → Option UInt32} {slot : Slot}
  {current : UInt32}

/-- A readable slot beside an unreadable one is in use. -/
theorem newest_of_other_none (readable : generation slot = some current)
    (lost : generation slot.other = none) : newest generation = some slot := by
  cases slot <;> simp_all [newest, Slot.other]

/-- The next generation, once written, is in use. -/
theorem newest_of_other_succ (readable : generation slot = some current)
    (written : generation slot.other = some (current + 1)) :
    newest generation = some slot.other := by
  cases slot <;>
    simp_all [newest, Slot.other, generationAfter_succ, not_generationAfter_succ]

/-- The slot in use is readable. -/
theorem newest_readable (chosen : newest generation = some slot) :
    ∃ current, generation slot = some current := by
  unfold newest at chosen
  split at chosen <;> try split at chosen
  all_goals simp_all

end Choice

end Kitsu.Lib.TwoSlot

/-!
# Tables filled from the front

A table of a fixed number of slots whose first `count` slots are in use.  Its
`entries` are the slots in use, in order; the operations are described by what
they do to the entries, so that a proof about a table is one about a list.
-/

namespace Kitsu.Lib

variable {α : Type} {capacity : Nat}

/-- A table that uses its first slots. -/
@[ext]
structure SlotTable (α : Type) (capacity : Nat) where
  slots : Vector α capacity
  count : Nat
deriving DecidableEq

variable {index : Nat} {entry : α}

namespace SlotTable

/-- The table with no slot in use. -/
def blank (value : α) : SlotTable α capacity where
  slots := Vector.replicate capacity value
  count := 0

def entries (table : SlotTable α capacity) : List α :=
  table.slots.toList.take table.count

/-- The slots behind them. -/
def unused (table : SlotTable α capacity) : List α :=
  table.slots.toList.drop table.count

/-- Overwrite a slot. -/
def write (table : SlotTable α capacity) (index : Nat) (entry : α) :
    SlotTable α capacity :=
  { table with slots := table.slots.setIfInBounds index entry }

/-- Take the next slot into use. -/
def push (table : SlotTable α capacity) (entry : α) :
    SlotTable α capacity where
  slots := table.slots.setIfInBounds table.count entry
  count := table.count + 1

/-- The first entry that satisfies a test. -/
def find (table : SlotTable α capacity) (test : α → Bool) : Option Nat :=
  table.entries.findIdx? test

variable (table : SlotTable α capacity)

@[simp]
theorem entries_blank (value : α) :
    (blank value : SlotTable α capacity).entries = [] := by
  simp [blank, entries]

@[simp]
theorem count_write (index : Nat) (entry : α) :
    (table.write index entry).count = table.count :=
  rfl

@[simp]
theorem count_push (entry : α) : (table.push entry).count = table.count + 1 :=
  rfl

theorem entries_write (index : Nat) (entry : α) :
    (table.write index entry).entries = table.entries.set index entry := by
  simp [entries, write, List.take_set]

theorem unused_write (entry : α) (used : index < table.count) :
    (table.write index entry).unused = table.unused := by
  simp only [unused, write, Vector.toList_setIfInBounds]
  exact List.drop_set_of_lt used

theorem entries_push (entry : α) (room : table.count < capacity) :
    (table.push entry).entries = table.entries ++ [entry] := by
  simp only [entries, push, Vector.toList_setIfInBounds]
  rw [List.take_succ_eq_append_getElem (by simpa using room),
    List.take_set_of_le (Nat.le_refl _)]
  simp

theorem unused_push (entry : α) :
    (table.push entry).unused = table.unused.tail := by
  simp only [unused, push, Vector.toList_setIfInBounds, List.tail_drop]
  exact List.drop_set_of_lt (Nat.lt_succ_self _)

/-- Writing a slot twice keeps the second entry. -/
theorem write_write (index : Nat) (first second : α) :
    (table.write index first).write index second =
      table.write index second := by
  simp [write, Vector.setIfInBounds_setIfInBounds]

theorem write_push (first second : α) :
    (table.push first).write table.count second = table.push second := by
  simp [write, push, Vector.setIfInBounds_setIfInBounds]

theorem slots_of_entries (stored : table.entries[index]? = some entry) :
    table.slots[index]? = some entry := by
  rw [entries, List.getElem?_take] at stored
  split at stored
  · simpa using stored
  · cases stored

theorem index_lt_count (stored : table.entries[index]? = some entry) :
    index < table.count := by
  have inside := (List.getElem?_eq_some_iff.mp stored).1
  rw [entries, List.length_take] at inside
  exact Nat.lt_of_lt_of_le inside (Nat.min_le_left _ _)

section Keys

variable {β : Type} (key : α → β)

/-- An entry overwritten by one with its key leaves the keys as they are. -/
theorem keys_write {old : α} (stored : table.entries[index]? = some old)
    (same : key entry = key old) :
    (table.write index entry).entries.map key = table.entries.map key := by
  rcases List.getElem?_eq_some_iff.mp stored with ⟨inside, rfl⟩
  have mapped : index < (table.entries.map key).length := by
    simpa using inside
  have kept : key entry = (table.entries.map key)[index] := by
    rw [same, List.getElem_map]
  rw [entries_write, List.map_set, kept, List.set_getElem_self]

theorem nodup_keys_push (room : table.count < capacity)
    (distinct : (table.entries.map key).Nodup)
    (fresh : ∀ other ∈ table.entries, key other ≠ key entry) :
    ((table.push entry).entries.map key).Nodup := by
  rw [entries_push _ _ room, List.map_append]
  refine List.nodup_append.mpr ⟨distinct, List.nodup_singleton _, ?_⟩
  intro known member last single same
  rw [List.map_singleton, List.mem_singleton] at single
  rcases List.mem_map.mp member with ⟨other, kept, rfl⟩
  exact fresh other kept (same.trans single)

/-- What is left after an entry was overwritten. -/
theorem mem_replaced {old other : α} (stored : table.entries[index]? = some old)
    (distinct : (table.entries.map key).Nodup) :
    other ∈ (table.write index entry).entries ↔
      other = entry ∨ (key other ≠ key old ∧ other ∈ table.entries) := by
  rcases List.getElem?_eq_some_iff.mp stored with ⟨inside, rfl⟩
  rw [entries_write]
  constructor
  · intro member
    rcases List.getElem_of_mem member with ⟨position, bound, rfl⟩
    rw [List.getElem_set]
    split
    · exact Or.inl rfl
    · rename_i elsewhere
      refine Or.inr ⟨?_, List.getElem_mem _⟩
      intro same
      rw [List.length_set] at bound
      have mapped : (table.entries.map key)[position]? =
          (table.entries.map key)[index]? := by
        rw [List.getElem?_map, List.getElem?_map,
          List.getElem?_eq_getElem bound, List.getElem?_eq_getElem inside]
        exact congrArg some same
      exact elsewhere
        ((List.getElem?_inj (by simpa using bound) distinct).mp mapped).symm
  · rintro (rfl | ⟨different, kept⟩)
    · exact List.mem_set inside _
    · rcases List.getElem_of_mem kept with ⟨position, bound, rfl⟩
      have elsewhere : index ≠ position := by
        rintro rfl
        exact different rfl
      apply List.mem_of_getElem? (i := position)
      rw [List.getElem?_set_ne elsewhere, List.getElem?_eq_getElem bound]

/-- What is left after an entry was overwritten by one with its key. -/
theorem mem_write {old other : α} (stored : table.entries[index]? = some old)
    (same : key entry = key old) (distinct : (table.entries.map key).Nodup) :
    other ∈ (table.write index entry).entries ↔
      other = entry ∨ (key other ≠ key entry ∧ other ∈ table.entries) := by
  rw [mem_replaced table key stored distinct, same]

/-- Updating the one entry with a key is a map over the entries. -/
theorem entries_update [DecidableEq β] (update : α → α) {old : α}
    (stored : table.entries[index]? = some old)
    (distinct : (table.entries.map key).Nodup) :
    (table.write index (update old)).entries =
      table.entries.map fun entry =>
        if key entry = key old then update entry else entry := by
  rcases List.getElem?_eq_some_iff.mp stored with ⟨inside, rfl⟩
  rw [entries_write]
  apply List.ext_getElem
  · simp
  · intro position before after
    rw [List.getElem_set, List.getElem_map]
    split
    · rename_i here
      subst here
      rw [if_pos rfl]
    · rename_i elsewhere
      rw [if_neg]
      intro same
      have mapped : (table.entries.map key)[position]? =
          (table.entries.map key)[index]? := by
        rw [List.getElem?_map, List.getElem?_map,
          List.getElem?_eq_getElem (by simpa using after),
          List.getElem?_eq_getElem inside]
        exact congrArg some same
      exact elsewhere
        ((List.getElem?_inj (by simpa using after) distinct).mp mapped).symm

end Keys

/-- A found entry is one of the entries and satisfies the test. -/
theorem find_some {test : α → Bool} (found : table.find test = some index) :
    ∃ entry, table.entries[index]? = some entry ∧ test entry = true := by
  rcases List.findIdx?_eq_some_iff_getElem.mp found with ⟨inside, tested, -⟩
  exact ⟨_, List.getElem?_eq_getElem inside, tested⟩

theorem find_none {test : α → Bool} :
    table.find test = none ↔ ∀ entry ∈ table.entries, test entry = false :=
  List.findIdx?_eq_none_iff

/-- A table whose unused slots hold the blank value. -/
structure Packed (value : α) : Prop where
  inside : table.count ≤ capacity
  unused : ∀ entry ∈ table.unused, entry = value

theorem Packed.initial (value : α) :
    (blank value : SlotTable α capacity).Packed value := by
  constructor
  · exact Nat.zero_le _
  · intro entry member
    simp only [SlotTable.unused, blank, Vector.toList_replicate,
      List.drop_zero, List.mem_replicate] at member
    exact member.2

variable {table} {value : α}

theorem Packed.write (packed : table.Packed value) {index : Nat}
    (entry : α) (used : index < table.count) :
    (table.write index entry).Packed value := by
  constructor
  · exact packed.inside
  · rw [unused_write table entry used]
    exact packed.unused

theorem Packed.push (packed : table.Packed value) (entry : α)
    (room : table.count < capacity) : (table.push entry).Packed value := by
  constructor
  · exact room
  · intro other member
    rw [unused_push] at member
    exact packed.unused other (List.mem_of_mem_tail member)

end SlotTable

end Kitsu.Lib
