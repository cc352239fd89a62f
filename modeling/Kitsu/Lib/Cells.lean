import Mathlib.Data.List.Basic
import Mathlib.Data.List.Induction
import Mathlib.Data.List.Perm.Basic
import Mathlib.Tactic.Common

/-!
# Tables of cells

A table is a list of cells of which one is overwritten at a time.  What a table
shows is read off each cell on its own, so up to order a write exchanges what
one cell shows.  A loop over the cells that keeps the better of two candidates
ends with a best one.
-/

namespace Kitsu.Lib.Cells

variable {α β : Type} {cells : List α} {index : Nat} {old new : α}

/-- One cell in front of the others. -/
theorem perm_eraseIdx (stored : cells[index]? = some old) :
    cells.Perm (old :: cells.eraseIdx index) := by
  obtain ⟨inside, rfl⟩ := List.getElem?_eq_some_iff.mp stored
  exact (List.getElem_cons_eraseIdx_perm inside).symm

theorem perm_set (stored : cells[index]? = some old) (new : α) :
    (cells.set index new).Perm (new :: cells.eraseIdx index) := by
  have inside := (List.getElem?_eq_some_iff.mp stored).1
  have written : (cells.set index new)[index]? = some new := by
    rw [List.getElem?_set_self inside]
  have front := perm_eraseIdx written
  rwa [List.eraseIdx_set_eq] at front

section Shown

variable (shown : α → Option β)

theorem filterMap_eraseIdx (stored : cells[index]? = some old) :
    (cells.filterMap shown).Perm
      ((shown old).toList ++ (cells.eraseIdx index).filterMap shown) := by
  have front := (perm_eraseIdx stored).filterMap shown
  cases equal : shown old with
  | none => simpa [equal] using front
  | some value => simpa [equal] using front

theorem filterMap_set (stored : cells[index]? = some old) (new : α) :
    ((cells.set index new).filterMap shown).Perm
      ((shown new).toList ++ (cells.eraseIdx index).filterMap shown) := by
  have front := (perm_set stored new).filterMap shown
  cases equal : shown new with
  | none => simpa [equal] using front
  | some value => simpa [equal] using front

/-- A write that shows the same leaves everything that is shown. -/
theorem filterMap_set_same (stored : cells[index]? = some old)
    (same : shown new = shown old) :
    ((cells.set index new).filterMap shown).Perm
      (cells.filterMap shown) := by
  have before := filterMap_eraseIdx shown stored
  have after := filterMap_set shown stored new
  rw [same] at after
  exact after.trans before.symm

end Shown

/-! ## The best of the candidates -/

variable {candidates : List α}

section Pick

variable (wanted : α → Bool) (better : α → α → Bool)

/-- One round of a loop that looks for the best cell that is wanted. -/
def pick (selected : Option α) (candidate : α) : Option α :=
  if wanted candidate then
    match selected with
    | none => some candidate
    | some kept => if better candidate kept then some candidate else some kept
  else selected

variable {wanted better}

theorem foldl_pick_none
    (nothing : candidates.foldl (pick wanted better) none = none) :
    ∀ candidate ∈ candidates, wanted candidate = false := by
  induction candidates using List.reverseRecOn with
  | nil => simp
  | append_singleton earlier last induction =>
    rw [List.foldl_concat, pick.eq_def] at nothing
    split at nothing
    · split at nothing
      · cases nothing
      · split at nothing <;> cases nothing
    · rename_i unwanted
      intro candidate member
      rcases List.mem_append.mp member with before | here
      · exact induction nothing candidate before
      · rw [List.mem_singleton.mp here]
        exact Bool.eq_false_iff.mpr unwanted

theorem foldl_pick_mem {selected : α}
    (found : candidates.foldl (pick wanted better) none = some selected) :
    selected ∈ candidates ∧ wanted selected = true := by
  induction candidates using List.reverseRecOn with
  | nil => cases found
  | append_singleton earlier last induction =>
    rw [List.foldl_concat, pick.eq_def] at found
    have here : last ∈ earlier ++ [last] := by simp
    split at found
    · rename_i isWanted
      split at found
      · cases found
        exact ⟨here, isWanted⟩
      · rename_i kept equal
        split at found
        · cases found
          exact ⟨here, isWanted⟩
        · cases found
          obtain ⟨member, keptWanted⟩ := induction equal
          exact ⟨List.mem_append_left _ member, keptWanted⟩
    · obtain ⟨member, keptWanted⟩ := induction found
      exact ⟨List.mem_append_left _ member, keptWanted⟩

/-- Where the better one has the smaller weight, the selected one has the
smallest. -/
theorem foldl_pick_least (weight : α → Nat) (lighter : ∀ candidate kept,
      better candidate kept = true ↔ weight candidate < weight kept) {selected : α}
    (found : candidates.foldl (pick wanted better) none = some selected) :
    ∀ candidate ∈ candidates, wanted candidate = true →
      weight selected ≤ weight candidate := by
  induction candidates using List.reverseRecOn generalizing selected with
  | nil => cases found
  | append_singleton earlier last induction =>
    rw [List.foldl_concat, pick.eq_def] at found
    intro candidate member candidateWanted
    split at found
    · split at found
      · rename_i nothing
        cases found
        rcases List.mem_append.mp member with before | here
        · rw [foldl_pick_none nothing candidate before] at candidateWanted
          cases candidateWanted
        · exact Nat.le_of_eq (by rw [List.mem_singleton.mp here])
      · rename_i kept equal
        split at found
        · rename_i less
          cases found
          rcases List.mem_append.mp member with before | here
          · exact Nat.le_of_lt (Nat.lt_of_lt_of_le ((lighter _ _).mp less)
              (induction equal candidate before candidateWanted))
          · exact Nat.le_of_eq (by rw [List.mem_singleton.mp here])
        · rename_i notLess
          cases found
          rcases List.mem_append.mp member with before | here
          · exact induction equal candidate before candidateWanted
          · rw [List.mem_singleton.mp here]
            exact Nat.le_of_not_lt fun less =>
              notLess ((lighter _ _).mpr less)
    · rename_i unwanted
      rcases List.mem_append.mp member with before | here
      · exact induction found candidate before candidateWanted
      · rw [List.mem_singleton.mp here] at candidateWanted
        exact absurd candidateWanted unwanted

end Pick

end Kitsu.Lib.Cells
