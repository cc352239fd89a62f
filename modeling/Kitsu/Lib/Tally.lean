import Mathlib.Data.List.Sort
import Mathlib.Tactic.Common
import Mathlib.Algebra.Group.Action.Defs
import Mathlib.Algebra.Order.BigOperators.Group.List
import Mathlib.Tactic.Ring
import Mathlib.Algebra.BigOperators.Group.List.Basic

/-!
# Items in the order of their keys

An insertion sort takes up the items one by one and puts each behind the last one
that has no larger key.  Where a key names its item, the result is the same for every
order in which the items come.
-/

namespace Kitsu.Lib.KeyOrder

variable {α β : Type} {key : α → Nat} {items others : List α}

/-- Put an item behind the last one that has no larger key. -/
def insertBy (key : α → Nat) (item : α) (sorted : List α) : List α :=
  sorted.orderedInsert (fun new other => key new < key other) item

/-- The items by their keys, equal ones in their order. -/
def orderBy (key : α → Nat) (items : List α) : List α :=
  items.foldl (fun sorted item => insertBy key item sorted) []

theorem foldl_insertBy_perm (items sorted : List α) :
    (items.foldl (fun sorted item => insertBy key item sorted) sorted).Perm
      (items ++ sorted) := by
  induction items generalizing sorted with
  | nil => exact .refl _
  | cons item items induction =>
    exact (induction _).trans
      (((List.perm_orderedInsert _ item sorted).append_left items).trans
        List.perm_middle)

theorem perm_orderBy (items : List α) : (orderBy key items).Perm items := by
  have perm := @foldl_insertBy_perm _ key items []
  rwa [List.append_nil] at perm

theorem pairwise_insertBy {sorted : List α} (item : α)
    (ordered : sorted.Pairwise fun first second => key first ≤ key second) :
    (insertBy key item sorted).Pairwise fun first second =>
      key first ≤ key second := by
  induction sorted with
  | nil => exact List.pairwise_singleton _ _
  | cons first later induction =>
    rcases List.pairwise_cons.mp ordered with ⟨least, rest⟩
    rw [insertBy, List.orderedInsert_cons]
    split
    · rename_i before
      apply List.Pairwise.cons _ ordered
      intro other member
      rcases List.mem_cons.mp member with rfl | after
      · exact Nat.le_of_lt before
      · exact Nat.le_trans (Nat.le_of_lt before) (least other after)
    · rename_i behind
      apply List.Pairwise.cons _ (induction rest)
      intro other member
      rcases (List.mem_orderedInsert _).mp member with rfl | after
      · exact Nat.le_of_not_lt behind
      · exact least other after

theorem pairwise_orderBy (items : List α) :
    (orderBy key items).Pairwise fun first second => key first ≤ key second := by
  have kept : ∀ (items sorted : List α),
      sorted.Pairwise (fun first second => key first ≤ key second) →
        (items.foldl (fun sorted item => insertBy key item sorted)
          sorted).Pairwise fun first second => key first ≤ key second := by
    intro items
    induction items with
    | nil => exact fun _ ordered => ordered
    | cons item items induction =>
      exact fun sorted ordered => induction _ (pairwise_insertBy item ordered)
  exact kept items [] .nil

/-- The order in which items come does not matter when a key names its item. -/
theorem orderBy_eq_of_perm
    (named : ∀ first ∈ items, ∀ second ∈ items, key first = key second →
      first = second)
    (perm : items.Perm others) : orderBy key items = orderBy key others := by
  have same : (orderBy key items).Perm (orderBy key others) :=
    (perm_orderBy items).trans (perm.trans (perm_orderBy others).symm)
  apply same.eq_of_pairwise _ (pairwise_orderBy items) (pairwise_orderBy others)
  intro first second firstMember secondMember less greater
  have firstIn := (perm_orderBy items).mem_iff.mp firstMember
  have secondIn := perm.mem_iff.mpr
    ((perm_orderBy others).mem_iff.mp secondMember)
  exact named _ firstIn _ secondIn (Nat.le_antisymm less greater)

theorem orderBy_map {other : β → Nat} {change : α → β}
    (same : ∀ item, other (change item) = key item) (items : List α) :
    orderBy other (items.map change) = (orderBy key items).map change := by
  have kept : ∀ (items sorted : List α),
      (items.map change).foldl (fun sorted item => insertBy other item sorted)
          (sorted.map change) =
        (items.foldl (fun sorted item => insertBy key item sorted)
          sorted).map change := by
    intro items
    induction items with
    | nil => exact fun _ => rfl
    | cons item items induction =>
      intro sorted
      rw [List.map_cons, List.foldl_cons, List.foldl_cons, ← induction]
      congr 1
      symm
      apply List.map_orderedInsert
      · intro other _
        simp only [same]
      · intro other _
        simp only [same]
  exact kept items []

end Kitsu.Lib.KeyOrder

/-!
# Tallies with missing entries

A list of entries is summed, averaged or spanned although some of its entries
are missing and count with a fixed value.  These rules compare the outcome with
the one that the present entries have alone.
-/

namespace Kitsu.Lib.Tally

variable {α : Type} {members : List α}

/-! ## Sums and means -/

theorem sum_le_of_each {f : α → Nat} {most : Nat}
    (each : ∀ member ∈ members, f member ≤ most) :
    (members.map f).sum ≤ most * members.length := by
  have bounded := List.sum_le_card_nsmul (members.map f) most
    (by simpa using each)
  rwa [List.length_map, smul_eq_mul, Nat.mul_comm] at bounded

/-- The missing entries add their fixed value each. -/
theorem sum_filter_add (present : α → Bool) (f : α → Nat) {missing : Nat}
    (fixed : ∀ member ∈ members, present member = false → f member = missing) :
    (members.map f).sum = ((members.filter present).map f).sum +
      members.countP (!present ·) * missing := by
  induction members with
  | nil => simp
  | cons first later induction =>
    have rest := induction fun member inside =>
      fixed member (List.mem_cons_of_mem _ inside)
    rw [List.map_cons, List.sum_cons, rest]
    cases here : present first with
    | true =>
      rw [List.filter_cons_of_pos here, List.map_cons, List.sum_cons,
        List.countP_cons_of_neg (by simp [here])]
      ring
    | false =>
      rw [List.filter_cons_of_neg (by simp [here]),
        List.countP_cons_of_pos (by simp [here]),
        fixed first List.mem_cons_self here]
      ring

/-- The missing entries are counted together or not at all. -/
theorem countP_filter_add (present counted : α → Bool) (missing : Bool)
    (fixed : ∀ member ∈ members, present member = false →
      counted member = missing) :
    members.countP counted = (members.filter present).countP counted +
      if missing then members.countP (!present ·) else 0 := by
  induction members with
  | nil => simp
  | cons first later induction =>
    have rest := induction fun member inside =>
      fixed member (List.mem_cons_of_mem _ inside)
    rw [List.countP_cons, rest]
    cases here : present first with
    | true =>
      rw [List.filter_cons_of_pos here, List.countP_cons,
        List.countP_cons_of_neg (by simp [here])]
      omega
    | false =>
      rw [List.filter_cons_of_neg (by simp [here]),
        List.countP_cons_of_pos (by simp [here]),
        fixed first List.mem_cons_self here]
      cases missing
      · rfl
      · rw [if_pos rfl, if_pos rfl, if_pos rfl]
        omega

theorem length_filter_add (present : α → Bool) (members : List α) :
    members.length =
      (members.filter present).length + members.countP (!present ·) := by
  rw [← List.countP_eq_length_filter, List.length_eq_countP_add_countP present]
  simp

/--
The rounded mean of the present entries is the one of all of them: what the
missing ones add or lack is within the remainder.
-/
def SameMean (total count missing score : Nat) : Prop :=
  missing * (total / count) ≤ missing * score + total % count ∧
    missing * score + total % count < missing * (total / count + 1) + count

theorem div_add_eq_iff {total count missing score : Nat} (positive : 0 < missing) :
    (total + missing * score) / (count + missing) = total / count ↔
      SameMean total count missing score := by
  have parts := Nat.div_add_mod total count
  generalize meanIs : total / count = mean at parts
  generalize restIs : total % count = rest at parts
  have left : mean * (count + missing) = count * mean + missing * mean := by
    ring
  have right : missing * (mean + 1) = missing * mean + missing := by
    ring
  rw [Nat.div_eq_iff (by omega), SameMean, meanIs, restIs, left, right]
  omega

/-! ## Spreads -/

/-- The largest distance between two entries. -/
structure IsSpread (entries : List Nat) (spread : Nat) : Prop where
  bound : ∀ low ∈ entries, ∀ high ∈ entries, high ≤ low + spread
  attained : ∃ low ∈ entries, ∃ high ∈ entries, high = low + spread

theorem IsSpread.unique {entries others : List Nat} {spread other : Nat}
    (known : ∀ entry, entry ∈ entries ↔ entry ∈ others)
    (left : IsSpread entries spread) (right : IsSpread others other) :
    spread = other := by
  have bounded : ∀ {entries others : List Nat} {spread other : Nat},
      (∀ entry, entry ∈ entries ↔ entry ∈ others) →
        IsSpread entries spread → IsSpread others other → spread ≤ other := by
    intro entries others spread other known left right
    rcases left.attained with ⟨low, lowIn, high, highIn, rfl⟩
    have bound := right.bound low ((known _).mp lowIn) _ ((known _).mp highIn)
    omega
  apply Nat.le_antisymm
  · exact bounded known left right
  · exact bounded (fun entry => (known entry).symm) right left

/-- The least and the greatest distance from an entry span all entries. -/
theorem isSpread_of_distances {entries : List Nat} {first : Nat}
    {distances : List Int}
    (measured : ∀ distance : Int, distance ∈ 0 :: distances ↔
      ∃ entry ∈ entries, distance = (entry : Int) - first) :
    IsSpread entries
      (distances.foldl max 0 - distances.foldl min 0).toNat := by
  have least : (0 :: distances).min? = some (distances.foldl min 0) := rfl
  have most : (0 :: distances).max? = some (distances.foldl max 0) := rfl
  obtain ⟨leastIn, least⟩ := List.min?_eq_some_iff.mp least
  obtain ⟨mostIn, most⟩ := List.max?_eq_some_iff.mp most
  constructor
  · intro low lowIn high highIn
    have below := least _ ((measured _).mpr ⟨low, lowIn, rfl⟩)
    have above := most _ ((measured _).mpr ⟨high, highIn, rfl⟩)
    omega
  · rcases (measured _).mp leastIn with ⟨low, lowIn, lowIs⟩
    rcases (measured _).mp mostIn with ⟨high, highIn, highIs⟩
    have ordered := most _ leastIn
    refine ⟨low, lowIn, high, highIn, ?_⟩
    omega

/--
Missing entries that count as zero keep the largest distance only when zero is
among the entries.
-/
theorem IsSpread.with_zero {present all : List Nat} {spread wider : Nat}
    (known : ∀ entry, entry ∈ all ↔ entry ∈ present ∨ entry = 0)
    (inner : IsSpread present spread) (outer : IsSpread all wider) :
    ∃ low ∈ present, wider = low + spread ∧ wider ∈ present ∧
      ∀ entry ∈ present, low ≤ entry ∧ entry ≤ wider := by
  obtain ⟨low, lowIn, high, highIn, attained⟩ := inner.attained
  obtain ⟨base, baseIn, top, topIn, reached⟩ := outer.attained
  have least : ∀ entry ∈ present, low ≤ entry ∧ entry ≤ high := by
    intro entry inside
    have left := inner.bound entry inside high highIn
    have right := inner.bound low lowIn entry inside
    omega
  have above := outer.bound 0 ((known 0).mpr (.inr rfl)) high
    ((known high).mpr (.inl highIn))
  have same : wider = high := by
    rcases (known top).mp topIn with inside | rfl
    · have := (least top inside).2
      omega
    · omega
  subst same
  exact ⟨low, lowIn, attained, highIn, least⟩

end Kitsu.Lib.Tally

/-!
# Choosing by cumulative weights

A loop adds up weights and stops at the first entry whose bound is above a roll.
The entry it stops at is the one whose part of the whole range holds the roll.
-/

namespace Kitsu.Lib.WeightedChoice

/-- The first position whose cumulative weight is above the roll. -/
def choose (roll : Nat) : List Nat → Option Nat
  | [] => none
  | weight :: rest =>
    if roll < weight then some 0
    else (choose (roll - weight) rest).map (· + 1)

/-- The same choice by a loop that adds the weights up. -/
def chooseAbove (roll bound : Nat) : List Nat → Option Nat
  | [] => none
  | weight :: rest =>
    if roll < bound + weight then some 0
    else (chooseAbove roll (bound + weight) rest).map (· + 1)

variable {roll : Nat}

theorem chooseAbove_eq {bound : Nat} (above : bound ≤ roll) (weights : List Nat) :
    chooseAbove roll bound weights = choose (roll - bound) weights := by
  induction weights generalizing bound with
  | nil => rfl
  | cons weight rest induction =>
    rw [chooseAbove, choose]
    by_cases below : roll < bound + weight
    · rw [if_pos below, if_pos (by omega)]
    · rw [if_neg below, if_neg (by omega), induction (by omega),
        Nat.sub_sub]

/-- The weight of the positions before this one. -/
def weightBelow (weights : List Nat) (position : Nat) : Nat :=
  (weights.take position).sum

variable {weights : List Nat}

theorem choose_eq_some {position : Nat} :
    choose roll weights = some position ↔
      weightBelow weights position ≤ roll ∧
        roll < weightBelow weights (position + 1) := by
  induction weights generalizing roll position with
  | nil => simp [choose, weightBelow]
  | cons weight rest induction =>
    rw [choose]
    cases position with
    | zero =>
      simp only [weightBelow, List.take_zero, List.sum_nil, zero_add,
        List.take_succ_cons, List.sum_cons, Nat.zero_le, true_and, Nat.add_zero]
      split
      · rename_i below
        simp [below]
      · rename_i above
        simp [above]
    | succ position =>
      simp only [weightBelow, List.take_succ_cons,
        List.sum_cons] at induction ⊢
      split
      · rename_i below
        constructor
        · nofun
        · rintro ⟨above, -⟩
          omega
      · rename_i above
        rw [Option.map_eq_some_iff]
        simp only [Nat.succ_inj, exists_eq_right, induction]
        omega

theorem choose_eq_none : choose roll weights = none ↔ weights.sum ≤ roll := by
  induction weights generalizing roll with
  | nil => simp [choose]
  | cons weight rest induction =>
    rw [choose, List.sum_cons]
    split
    · rename_i below
      constructor
      · nofun
      · intro above
        omega
    · rename_i above
      rw [Option.map_eq_none_iff, induction]
      omega

theorem choose_lt {position : Nat} (chosen : choose roll weights = some position) :
    position < weights.length := by
  rcases choose_eq_some.mp chosen with ⟨above, below⟩
  apply Nat.lt_of_not_le
  intro outside
  rw [weightBelow, List.take_of_length_le outside] at above
  rw [weightBelow, List.take_of_length_le (Nat.le_succ_of_le outside)] at below
  omega

/-- A roll below the whole weight is always answered. -/
theorem exists_choose (inside : roll < weights.sum) :
    ∃ position, choose roll weights = some position := by
  rcases chosen : choose roll weights with _ | position
  · have above := choose_eq_none.mp chosen
    omega
  · exact ⟨position, rfl⟩

end Kitsu.Lib.WeightedChoice
