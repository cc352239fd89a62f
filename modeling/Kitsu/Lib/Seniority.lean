import Mathlib.Data.List.TakeWhile
import Mathlib.Tactic.Common
import Mathlib.Data.List.Nodup

/-!
# The oldest entry of a list

A loop that scans a table for its oldest entry replaces its candidate by every
entry that is older.  Age is measured by a number, smaller for the older entry.
`rank` counts the entries below a measure: what is left of a list after its
oldest entries were taken out one by one are the entries of a high enough rank.
-/

namespace Kitsu.Lib.Seniority

variable {α : Type}

/-! ## The scan -/

/-- The candidate of a scan that moves to every entry the test prefers. -/
def scan (prefers : α → α → Bool) (first : α) (rest : List α) : α :=
  rest.foldl (fun best entry => if prefers entry best then entry else best)
    first

theorem scan_mem (prefers : α → α → Bool) (first : α) (rest : List α) :
    scan prefers first rest ∈ first :: rest := by
  induction rest generalizing first with
  | nil => exact List.mem_cons_self
  | cons entry rest induction =>
    have member := induction (if prefers entry first then entry else first)
    show scan prefers (if prefers entry first then entry else first) rest ∈ _
    rcases List.mem_cons.mp member with here | later
    · rw [here]
      split
      · exact List.mem_cons_of_mem _ List.mem_cons_self
      · exact List.mem_cons_self
    · exact List.mem_cons_of_mem _ (List.mem_cons_of_mem _ later)

/-- No entry measures less than the one the scan ends with. -/
theorem scan_le {prefers : α → α → Bool} {measure : α → Nat}
    (older : ∀ left right, prefers left right = true ↔
      measure left < measure right) (first : α) (rest : List α) :
    ∀ entry ∈ first :: rest,
      measure (scan prefers first rest) ≤ measure entry := by
  induction rest generalizing first with
  | nil =>
    intro entry member
    rw [List.mem_singleton] at member
    rw [member]
    exact Nat.le_refl _
  | cons next rest induction =>
    intro entry member
    have least := induction (if prefers next first then next else first)
    have candidate := least _ List.mem_cons_self
    have chosen : measure (if prefers next first then next else first) ≤
        measure first ∧
        measure (if prefers next first then next else first) ≤
          measure next := by
      split
      · rename_i preferred
        exact ⟨Nat.le_of_lt ((older _ _).mp preferred), Nat.le_refl _⟩
      · rename_i other
        refine ⟨Nat.le_refl _, Nat.le_of_not_lt fun less => ?_⟩
        exact other ((older _ _).mpr less)
    rcases List.mem_cons.mp member with rfl | member
    · exact Nat.le_trans candidate chosen.1
    · rcases List.mem_cons.mp member with rfl | later
      · exact Nat.le_trans candidate chosen.2
      · exact least _ (List.mem_cons_of_mem _ later)

/-! ## Ranks -/

/-- The number of entries that measure less. -/
def rank (measure : α → Nat) (entries : List α) (bound : Nat) : Nat :=
  entries.countP fun entry => decide (measure entry < bound)

variable {measure : α → Nat} {entries : List α}

theorem rank_mono {low high : Nat} (le : low ≤ high) :
    rank measure entries low ≤ rank measure entries high := by
  apply List.countP_mono_left
  intro entry _ less
  rw [decide_eq_true_eq] at less ⊢
  exact Nat.lt_of_lt_of_le less le

theorem rank_succ (bound : Nat) :
    rank measure entries (bound + 1) =
      rank measure entries bound +
        (entries.map measure).count bound := by
  induction entries with
  | nil => rfl
  | cons entry entries induction =>
    simp only [rank, List.countP_cons, List.map_cons, List.count_cons,
      decide_eq_true_eq, beq_iff_eq] at induction ⊢
    split
    · split
      · split
        · omega
        · omega
      · split
        · omega
        · omega
    · split
      · omega
      · split
        · omega
        · omega

/-- An entry is outranked by the entries that measure more. -/
theorem rank_lt {entry : α} (member : entry ∈ entries) {bound : Nat}
    (less : measure entry < bound) :
    rank measure entries (measure entry) < rank measure entries bound := by
  have counted : 0 < (entries.map measure).count (measure entry) :=
    List.count_pos_iff.mpr (List.mem_map_of_mem member)
  calc rank measure entries (measure entry)
      < rank measure entries (measure entry) +
          (entries.map measure).count (measure entry) :=
        Nat.lt_add_of_pos_right counted
    _ = rank measure entries (measure entry + 1) := (rank_succ _).symm
    _ ≤ rank measure entries bound := rank_mono less

/-- Every rank below that of a bound is the rank of an entry below it. -/
theorem exists_of_lt_rank (distinct : (entries.map measure).Nodup)
    {position bound : Nat} (below : position < rank measure entries bound) :
    ∃ entry ∈ entries, measure entry < bound ∧
      rank measure entries (measure entry) = position := by
  induction bound with
  | zero => simp [rank] at below
  | succ bound induction =>
    by_cases earlier : position < rank measure entries bound
    · rcases induction earlier with ⟨entry, member, less, ranked⟩
      exact ⟨entry, member, Nat.lt_succ_of_lt less, ranked⟩
    · have single : (entries.map measure).count bound ≤ 1 :=
        List.nodup_iff_count_le_one.mp distinct bound
      rw [rank_succ] at below
      have counted : 0 < (entries.map measure).count bound := by omega
      rcases List.mem_map.mp (List.count_pos_iff.mp counted) with
        ⟨entry, member, rfl⟩
      exact ⟨entry, member, Nat.lt_succ_self _, by omega⟩

end Kitsu.Lib.Seniority
