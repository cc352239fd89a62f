import Kitsu.MessageRead.Grammar

/-!
# A command marks what it asks for

A plan that succeeds has found a row for every identifier of the command.  The
identifiers are distinct and a row carries only one, so that no row is named twice;
applying the plan therefore changes the unread rows among those named and no others.
A plan that fails is not applied.
-/

namespace Kitsu.MessageRead

open Kitsu.Lib.ByteString
open Kitsu.Chat (Command kMaximumMessageIds)

/-! ## Plans -/

section Plans

variable {records : List Record} {output planned : Plan}
variable {messageIds : List UInt32} {messageId : UInt32} {position : Nat}

/-- The row that an identifier stands for, and it may be marked. -/
structure Finds (records : List Record) (messageId : UInt32) (position : Nat) :
    Prop where
  found : matchOf records messageId = some position
  inbound : ∃ record, records[position]? = some record ∧ record.inbound = true

theorem matchOf_some (found : matchOf records messageId = some position) :
    ∃ record, records[position]? = some record ∧
      record.messageId = messageId := by
  rcases List.findIdx?_eq_some_iff_getElem.mp found with ⟨inside, same, -⟩
  exact ⟨records[position], List.getElem?_eq_getElem inside, beq_iff_eq.mp same⟩

theorem Finds.id {record : Record} (finds : Finds records messageId position)
    (row : records[position]? = some record) : record.messageId = messageId := by
  rcases matchOf_some finds.found with ⟨other, at_, same⟩
  rw [row] at at_
  cases at_
  exact same

theorem Finds.inside (finds : Finds records messageId position) :
    position < records.length := by
  rcases finds.inbound with ⟨record, row, -⟩
  exact (List.getElem?_eq_some_iff.mp row).1

def unreadAt (records : List Record) (position : Nat) : Bool :=
  records[position]?.any Record.unread

/-- What a plan holds once its loop has gone through the identifiers. -/
structure Planned (records : List Record) (output planned : Plan)
    (messageIds : List UInt32) (positions : List Nat) : Prop where
  finds : List.Forall₂ (Finds records) messageIds positions
  indexes : planned.recordIndexes = output.recordIndexes ++ positions
  marked :
    planned.markedCount =
      output.markedCount + positions.countP (unreadAt records)
  counted :
    planned.markedCount + planned.unchangedCount =
      output.markedCount + output.unchangedCount + messageIds.length

theorem planIds_ok (succeeds : planIds records output messageIds = (.ok, planned)) :
    ∃ positions, Planned records output planned messageIds positions := by
  induction messageIds generalizing output with
  | nil =>
    cases succeeds
    exact ⟨[], .nil, (List.append_nil _).symm, rfl, rfl⟩
  | cons requested later induction =>
    rw [planIds] at succeeds
    split at succeeds
    · cases succeeds
    · rename_i position found
      split at succeeds
      · cases succeeds
      · rename_i record row
        split at succeeds
        · cases succeeds
        · rename_i inbound
          rcases induction succeeds with
            ⟨positions, finds, indexes, marked, counted⟩
          have unread : unreadAt records position = record.unread := by
            rw [unreadAt, row, Option.any_some]
          refine ⟨position :: positions, .cons ⟨found, record, row, ?_⟩ finds,
            ?_, ?_, ?_⟩
          · simpa using inbound
          · rw [indexes, Plan.add, List.append_assoc, List.singleton_append]
          · rw [marked, List.countP_cons, unread]
            cases known : record.unread
            · simp [Plan.add, known]
            · simp only [Plan.add, known, if_true]
              omega
          · have added :
                (output.add position record).markedCount +
                  (output.add position record).unchangedCount =
                    output.markedCount + output.unchangedCount + 1 := by
              cases known : record.unread
              · simp [Plan.add, known, Nat.add_assoc]
              · simp only [Plan.add, known, if_true]
                exact Nat.add_right_comm _ _ _
            rw [counted, added, List.length_cons]
            omega

theorem plan_ok {session : UInt32} {command : Command}
    {table : Option (List Record)}
    (succeeds : plan session command table = (.ok, planned)) :
    ∃ records, table = some records ∧
      planIds records {} command.messageIds = (.ok, planned) := by
  unfold plan at succeeds
  split at succeeds
  · cases succeeds
  · split at succeeds
    · cases succeeds
    · rename_i records
      split at succeeds
      · cases succeeds
      · exact ⟨records, rfl, succeeds⟩

/-- Different identifiers stand for different rows. -/
theorem nodup_positions {positions : List Nat} (distinct : messageIds.Nodup)
    (finds : List.Forall₂ (Finds records) messageIds positions) :
    positions.Nodup := by
  induction finds with
  | nil => exact List.nodup_nil
  | @cons requested position later positions first rest induction =>
    rcases List.nodup_cons.mp distinct with ⟨fresh, distinct⟩
    refine List.nodup_cons.mpr ⟨?_, induction distinct⟩
    intro again
    rcases List.mem_iff_getElem.mp again with ⟨index, inside, same⟩
    have other := List.forall₂_iff_get.mp rest
    have bound : index < later.length := other.1 ▸ inside
    have found := other.2 index bound inside
    rcases first.inbound with ⟨record, row, -⟩
    apply fresh
    rw [← first.id row]
    rw [List.get_eq_getElem, List.get_eq_getElem, same] at found
    rw [found.id row]
    exact List.getElem_mem bound

end Plans

/-! ## Applying -/

section Applying

variable {records : List Record} {positions : List Nat}

theorem applyPlan_length (output : Plan) :
    (applyPlan output records).length = records.length := by
  rw [applyPlan]
  induction output.recordIndexes generalizing records with
  | nil => rfl
  | cons position later induction =>
    rw [List.foldl_cons, induction, List.length_modify]

/-- Rows that are named once are marked, the others stay. -/
theorem foldl_markedRead (distinct : positions.Nodup) (index : Nat) :
    (positions.foldl
      (fun records position => records.modify position Record.markedRead)
        records)[index]? =
      if index ∈ positions then records[index]?.map Record.markedRead
      else records[index]? := by
  induction positions generalizing records with
  | nil => rfl
  | cons position later induction =>
    rcases List.nodup_cons.mp distinct with ⟨fresh, distinct⟩
    rw [List.foldl_cons, induction distinct, List.getElem?_modify]
    by_cases same : position = index
    · subst same
      simp [fresh]
    · simp [same, Ne.symm same]

end Applying

/-- The row is the message that its identifier stands for, and is asked for. -/
def Requested (command : Command) (records : List Record) (position : Nat)
    (record : Record) : Prop :=
  record.messageId ∈ command.messageIds ∧
    matchOf records record.messageId = some position

instance (command : Command) (records : List Record) (position : Nat)
    (record : Record) : Decidable (Requested command records position record) :=
  inferInstanceAs (Decidable (_ ∧ _))

/-- In a table that keeps no identifier twice every row is its message. -/
theorem requested_iff {command : Command} {records : List Record}
    {position : Nat} {record : Record}
    (distinct : (records.map Record.messageId).Nodup)
    (row : records[position]? = some record) :
    Requested command records position record ↔
      record.messageId ∈ command.messageIds := by
  rcases List.getElem?_eq_some_iff.mp row with ⟨inside, rfl⟩
  constructor
  · intro requested
    exact requested.1
  · intro asked
    refine ⟨asked, List.findIdx?_eq_some_iff_getElem.mpr
      ⟨inside, beq_self_eq_true _, ?_⟩⟩
    intro earlier before same
    have bound : earlier < records.length := Nat.lt_trans before inside
    have listed : earlier < (records.map Record.messageId).length := by
      rwa [List.length_map]
    have equal : earlier = position := (List.getElem?_inj listed distinct).mp
      (by
        rw [List.getElem?_map, List.getElem?_map, List.getElem?_eq_getElem bound,
          List.getElem?_eq_getElem inside]
        exact congrArg some (beq_iff_eq.mp same))
    exact absurd equal (Nat.ne_of_lt before)

/-- A plan that marks the unread rows of the messages asked for. -/
structure Exact (command : Command) (records : List Record) (output : Plan) :
    Prop where
  distinct : output.recordIndexes.Nodup
  inside : ∀ position ∈ output.recordIndexes, position < records.length
  counted :
    output.markedCount + output.unchangedCount = command.messageIds.length
  marked :
    output.markedCount = output.recordIndexes.countP (unreadAt records)
  whole : (applyPlan output records).length = records.length
  rows : ∀ position record, records[position]? = some record →
    (applyPlan output records)[position]? =
      some (if Requested command records position record ∧
          record.unread = true then { record with unread := false }
        else record)

theorem Planned.exact {command : Command} {records : List Record}
    {output : Plan} {positions : List Nat} (allowed : Allowed command)
    (planned : Planned records {} output command.messageIds positions) :
    Exact command records output := by
  have indexes : output.recordIndexes = positions := planned.indexes
  have distinct := nodup_positions allowed.distinct planned.finds
  have named : ∀ position ∈ positions,
      ∃ messageId ∈ command.messageIds, Finds records messageId position := by
    intro position member
    rcases List.mem_iff_getElem.mp member with ⟨index, inside, rfl⟩
    have paired := List.forall₂_iff_get.mp planned.finds
    have bound : index < command.messageIds.length := paired.1 ▸ inside
    exact ⟨_, List.getElem_mem bound, paired.2 index bound inside⟩
  constructor
  · rwa [indexes]
  · intro position member
    rw [indexes] at member
    rcases named position member with ⟨messageId, -, finds⟩
    exact finds.inside
  · exact planned.counted.trans (Nat.zero_add _)
  · rw [indexes]
    exact planned.marked.trans (Nat.zero_add _)
  · exact applyPlan_length output
  · intro position record row
    rw [applyPlan, indexes, foldl_markedRead distinct, row, Option.map_some]
    by_cases member : position ∈ positions
    · rw [if_pos member]
      rcases named position member with ⟨messageId, asked, finds⟩
      rcases finds.inbound with ⟨same, again, inbound⟩
      rw [row] at again
      cases again
      have id := finds.id row
      have requested : Requested command records position record := by
        constructor
        · rwa [id]
        · rw [id]
          exact finds.found
      simp only [requested, true_and, Record.markedRead, inbound, Bool.true_and]
    · rw [if_neg member, if_neg]
      rintro ⟨⟨asked, found⟩, -⟩
      rcases List.mem_iff_getElem.mp asked with ⟨index, bound, same⟩
      have paired := List.forall₂_iff_get.mp planned.finds
      have inside : index < positions.length := paired.1 ▸ bound
      have finds := paired.2 index bound inside
      rw [List.get_eq_getElem, List.get_eq_getElem, same] at finds
      have equal := Option.some.inj (finds.found.symm.trans found)
      exact member (equal ▸ List.getElem_mem inside)

/--
The parser accepts the documented inputs, whose identifiers are distinct, not zero
and no more than a table has rows.  A parsed command is either refused, and then no
row changes, or planned exactly; when no identifier is kept twice the rows that
change are the unread rows with an identifier that is asked for.
-/
theorem readCommands_exact :
    (∀ input command,
      parseCommand input = .ok command ↔ Documented command input) ∧
    (∀ input command, parseCommand input = .ok command →
      command.messageIds.Nodup ∧ command.messageIds ≠ [] ∧
        command.messageIds.length ≤ kMaximumMessageIds ∧
        ∀ messageId ∈ command.messageIds, messageId ≠ 0) ∧
    ∀ input command, parseCommand input = .ok command →
      ∀ (session : UInt32) (records : List Record),
        ((plan session command (some records)).1 ≠ .ok →
          markRead session command records = records) ∧
        ∀ output, plan session command (some records) = (.ok, output) →
          markRead session command records = applyPlan output records ∧
          Exact command records output ∧
          ((records.map Record.messageId).Nodup →
            ∀ (position : Nat) (record : Record),
              records[position]? = some record →
              (applyPlan output records)[position]? =
                some (if record.messageId ∈ command.messageIds ∧
                    record.unread = true then { record with unread := false }
                  else record)) := by
  refine ⟨fun input command => parseCommand_eq_ok, ?_, ?_⟩
  · intro input command parsed
    have allowed := (parseCommand_eq_ok.mp parsed).allowed
    exact ⟨allowed.distinct, allowed.nonempty, allowed.bounded, allowed.nonzero⟩
  · intro input command parsed session records
    have allowed := (parseCommand_eq_ok.mp parsed).allowed
    constructor
    · intro refused
      rw [markRead]
      split
      · rename_i output succeeds
        rw [succeeds] at refused
        exact absurd rfl refused
      · rfl
    · intro output succeeds
      rcases plan_ok succeeds with ⟨_, same, looped⟩
      cases same
      rcases planIds_ok looped with ⟨positions, planned⟩
      have exact_ := planned.exact allowed
      refine ⟨by rw [markRead, succeeds], exact_, ?_⟩
      intro distinct position record row
      rw [exact_.rows position record row]
      simp only [requested_iff distinct row]

end Kitsu.MessageRead
