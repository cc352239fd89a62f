import Kitsu.Ota.Updater

/-!
# What the reads return

Every read either completes, fails or is cut.  The programs that hash leave the
board as it was, but for the fates they used up; what they return is read off the
flash.
-/

namespace Kitsu.Ota

open Kitsu.Lib.ByteString
open Kitsu.Lib.Crash
open Kitsu.Lib.NorFlash
open Kitsu.Sha256

section Calls

variable {α : Type} {machine : Machine} {post : Bool → Machine → Prop}
  {crash : Machine → Prop}

/-- The three ends of a call. -/
theorem wp_call (completes : ∀ fates, post true { machine with fates })
    (fails : ∀ fates, post false { machine with fates })
    (cut : ∀ fates, crash { machine with fates }) :
    wp call post crash machine := by
  unfold wp call
  split
  · rename_i value after ended
    split at ended
    · rename_i none
      cases ended
      exact completes machine.fates
    · cases ended
      exact completes _
    · cases ended
      exact fails _
    · cases ended
  · rename_i after ended
    split at ended
    · cases ended
    · cases ended
    · cases ended
    · cases ended
      exact cut _

/-- Nothing but fates was used up. -/
def Same (machine after : Machine) : Prop :=
  ∃ fates, after = { machine with fates }

theorem Same.refl (machine : Machine) : Same machine machine :=
  ⟨machine.fates, rfl⟩

/-- A program that changes nothing and returns what is known of it. -/
def Reads (program : Prog Machine α) (returns : Machine → α → Prop) : Prop :=
  ∀ machine, wp program
    (fun value after => Same machine after ∧ returns machine value)
    (Same machine) machine

/-- A program that reads is followed by the rest of a program. -/
theorem Reads.bind {β : Type} {program : Prog Machine α}
    {returns : Machine → α → Prop} (reads : Reads program returns)
    {next : α → Prog Machine β} {goal : β → Machine → Prop}
    {stopped : Machine → Prop} (later : ∀ value fates, returns machine value →
      wp (next value) goal stopped { machine with fates })
    (cut : ∀ fates, stopped { machine with fates }) :
    wp (program >>= next) goal stopped machine := by
  rw [wp_bind]
  refine wp_mono (reads machine) ?_ ?_
  · rintro value _ ⟨⟨fates, rfl⟩, returned⟩
    exact later value fates returned
  · rintro _ ⟨fates, rfl⟩
    exact cut fates

theorem readPartition_reads (slot : Slot) (offset count : Nat) :
    Reads (readPartition slot offset count) fun machine value =>
      ∀ bytes ∈ value, bytes = read (machine.flash slot) offset count := by
  intro machine
  unfold readPartition
  rw [wp_bind]
  apply wp_call
  · intro fates
    exact ⟨⟨fates, rfl⟩, by rintro _ ⟨⟩; rfl⟩
  · intro fates
    exact ⟨⟨fates, rfl⟩, by rintro _ ⟨⟩⟩
  · intro fates
    exact ⟨fates, rfl⟩

set_option maxRecDepth 2000 in
theorem read_append (flash : Flash) (offset first second : Nat) :
    read flash offset (first + second) =
      read flash offset first ++ read flash (offset + first) second := by
  unfold Lib.NorFlash.read
  rw [List.range_add, List.map_append, List.map_map]
  congr 1
  apply List.map_congr_left
  intro index _
  rw [Function.comp_apply, Nat.add_assoc]

/-- The hash of the bytes behind an offset. -/
theorem hashFrom_reads (slot : Slot) (count offset : Nat)
    (context : Sha256Context) :
    Reads (hashFrom slot count offset context) fun machine value =>
      ∀ result ∈ value, result = shaUpdate context
        (read (machine.flash slot) offset (count - offset)) := by
  intro machine
  rw [hashFrom]
  split
  · rename_i more
    refine (readPartition_reads slot _ _).bind ?_ fun fates => ⟨fates, rfl⟩
    intro value fates stored
    cases value with
    | none => exact ⟨⟨fates, rfl⟩, nofun⟩
    | some piece =>
      have later := hashFrom_reads slot count
        (offset + min (count - offset) kBleOtaChunkBytes)
        (shaUpdate context piece) { machine with fates }
      refine wp_mono later ?_ ?_
      · rintro result _ ⟨⟨fates, rfl⟩, hashed⟩
        refine ⟨⟨fates, rfl⟩, ?_⟩
        intro found member
        rw [hashed found member, stored piece rfl, ← shaUpdate_append,
          ← read_append]
        congr 2
        omega
      · rintro _ ⟨fates, rfl⟩
        exact ⟨fates, rfl⟩
  · rename_i finished
    refine ⟨Same.refl machine, ?_⟩
    rintro _ ⟨⟩
    rw [Nat.sub_eq_zero_of_le (Nat.le_of_not_lt finished)]
    rfl
termination_by count - offset
decreasing_by
  have : 0 < kBleOtaChunkBytes := by decide
  omega

theorem hashPartition_reads (slot : Slot) (count : Nat) :
    Reads (hashPartition slot count) fun machine value =>
      ∀ digest ∈ value,
        digest = sha256 (read (machine.flash slot) 0 count) := by
  intro machine
  refine (hashFrom_reads slot count 0 shaStart).bind ?_
    fun fates => ⟨fates, rfl⟩
  intro value fates hashed
  refine ⟨⟨fates, rfl⟩, ?_⟩
  intro digest member
  rw [Option.mem_def, Option.map_eq_some_iff] at member
  obtain ⟨context, found, rfl⟩ := member
  rw [hashed context found]
  rfl

end Calls

end Kitsu.Ota
