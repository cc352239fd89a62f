import Kitsu.Unlocks.Persistence

/-!
# Runs of the ledger

Every store that calls reach holds valid records with distinct codes and ids, so it
writes an image of a ledger, and what it writes loads to the same records in any
store.  A legacy image loads alike and is written anew in the current layout.
-/

namespace Kitsu.Unlocks

open Kitsu.Lib Kitsu.Lib.Run
open Kitsu.Lib.ByteString

/-! ## One call -/

theorem foldl_found_isSome (normalized : FormattedCode)
    (records : List CodeRecord) (found : Option CodeRecord) :
    (records.foldl (fun found record =>
        if normalized == record.code then some record else found)
      found).isSome =
        (found.isSome || records.any (normalized == ·.code)) := by
  induction records generalizing found with
  | nil => simp
  | cons record later induction =>
    rw [List.foldl_cons, induction, List.any_cons]
    cases same : normalized == record.code with
    | false => simp
    | true => simp

variable {store : CodeStore}

/-- A record that is not a duplicate has a new id and a new code. -/
theorem not_duplicate {record : CodeRecord} (valid : validRecord record = true)
    (fresh : ¬((store.findById record.codeId).isSome ||
      (store.find record.code.bytes).isSome) = true) :
    ∀ other ∈ store.records,
      other.codeId ≠ record.codeId ∧ other.code ≠ record.code := by
  have normalized := (validRecord_valid valid).normalized
  rw [CodeStore.find, CodeStore.findById, normalized] at fresh
  rw [foldl_found_isSome] at fresh
  simp only [Option.isSome_none, Bool.false_or, Bool.or_eq_true,
    List.find?_isSome, List.any_eq_true, beq_iff_eq, not_or, not_exists,
    not_and] at fresh
  intro other member
  exact ⟨fresh.1 other member, fun same => fresh.2 other member same.symm⟩

variable {records : List CodeRecord}

theorem ledger_concat {record : CodeRecord} (ledger : Ledger records)
    (valid : validRecord record = true) (fresh : ∀ other ∈ records,
      other.codeId ≠ record.codeId ∧ other.code ≠ record.code) :
    Ledger (records ++ [record]) := by
  constructor
  · intro other member
    rcases List.mem_append.mp member with old | new
    · exact ledger.valid other old
    · rw [List.mem_singleton.mp new]
      exact valid
  · refine List.pairwise_append.mpr
      ⟨ledger.distinct, List.pairwise_singleton _ _, ?_⟩
    intro other old last new
    rw [List.mem_singleton.mp new]
    exact fresh other old

theorem map_modify {α β : Type} {project : α → β} {change : α → α}
    (kept : ∀ value, project (change value) = project value)
    (values : List α) (index : Nat) :
    (values.modify index change).map project = values.map project := by
  apply List.ext_getElem?
  intro position
  rw [List.getElem?_map, List.getElem?_map, List.getElem?_modify]
  cases values[position]? with
  | none => rfl
  | some value =>
    by_cases here : index = position
    · simp [here, kept]
    · simp [here]

/-- The identity of a record. -/
def identity (record : CodeRecord) : UInt32 × FormattedCode :=
  (record.codeId, record.code)

theorem distinct_iff :
    Distinct records ↔ (records.map identity).Pairwise fun first second =>
      first.1 ≠ second.1 ∧ first.2 ≠ second.2 := by
  rw [List.pairwise_map]
  exact Iff.rfl

theorem valid_iff :
    (∀ record ∈ records, validRecord record = true) ↔
      ∀ valid ∈ records.map validRecord, valid = true := by
  rw [List.forall_mem_map]

/-- A change that keeps identity and validity keeps a ledger. -/
theorem ledger_modify {change : CodeRecord → CodeRecord}
    (sameIdentity : ∀ record, identity (change record) = identity record)
    (sameValidity : ∀ record, validRecord (change record) = validRecord record)
    (ledger : Ledger records) (index : Nat) :
    Ledger (records.modify index change) := by
  constructor
  · rw [valid_iff, map_modify sameValidity, ← valid_iff]
    exact ledger.valid
  · rw [distinct_iff, map_modify sameIdentity, ← distinct_iff]
    exact ledger.distinct

theorem add_ledger (ledger : Ledger store.records) (record : CodeRecord) :
    Ledger (store.add record).2.records := by
  rw [CodeStore.add]
  split
  · exact ledger
  · rename_i valid
    rw [Bool.not_eq_true', Bool.not_eq_false] at valid
    split
    · exact ledger
    · rename_i fresh
      split
      · exact ledger_concat ledger valid (not_duplicate valid fresh)
      · exact ledger

theorem setFlag_ledger {flag : Flag} {set : Bool}
    (sameIdentity : ∀ record, identity (flag.set record set) = identity record)
    (sameValidity : ∀ record,
      validRecord (flag.set record set) = validRecord record)
    (ledger : Ledger store.records) (value : UInt32) :
    Ledger (store.setFlag flag value set).2.records := by
  rw [CodeStore.setFlag]
  split
  · exact ledger
  · split
    · exact ledger
    · exact ledger_modify sameIdentity sameValidity ledger _

theorem load_ledger (ledger : Ledger store.records) (input : Bytes) :
    Ledger (store.load input).2.records := by
  cases loaded : (store.load input).1 with
  | false =>
    rw [load_refused loaded]
    exact ledger
  | true =>
    rcases load_iff.mp loaded with ⟨layout, records, generation, written⟩
    rw [(load_image store written).2.records]
    exact written.ledger

/-- Every call keeps a ledger. -/
theorem perform_ledger (ledger : Ledger store.records) (call : Call) :
    Ledger (store.perform call).records := by
  cases call with
  | add record => exact add_ledger ledger record
  | setRedeemed value redeemed =>
    exact setFlag_ledger (fun _ => rfl) (fun _ => rfl) ledger value
  | setInstalled value installed =>
    exact setFlag_ledger (fun _ => rfl) (fun _ => rfl) ledger value
  | load input => exact load_ledger ledger input

theorem storeAfter_ledger (history : List Call) :
    Ledger (storeAfter history).records := by
  have initially : Ledger ({} : CodeStore).records :=
    ⟨fun _ member => absurd member List.not_mem_nil, .nil⟩
  exact @exec_invariant _ _ _ _ (fun store : CodeStore => Ledger store.records)
    initially
    (fun _ call ledger => perform_ledger ledger call) history

/-! ## Writing -/

/-- A store writes an image of its records with an empty room behind them. -/
theorem serialize_image (ledger : Ledger store.records) {capacity : Nat}
    {output : Bytes} (written : store.serialize capacity = some output) :
    Image currentLayout store.records store.generation output := by
  rw [CodeStore.serialize] at written
  split at written
  · cases written
  · refine ⟨.inr rfl, store.bounded, ledger, _, ?_, (Option.some.inj written).symm⟩
    rw [List.length_replicate]
    rfl

theorem serialize_some (store : CodeStore) {capacity : Nat}
    (room : kStoreSerializedBytes ≤ capacity) :
    ∃ output, store.serialize capacity = some output := by
  rw [CodeStore.serialize, if_neg (Nat.not_lt.mpr room)]
  exact ⟨_, rfl⟩

/-! ## The ledger's laws -/

/--
What a reached store writes loads to the same records and generation anywhere.  A
legacy image loads and is written anew in the current layout.  Every byte string
that is no image of a ledger is refused and changes nothing.  Codes have one stored
form, and no two records share a code or an id.
-/
theorem ledger_laws (history : List Call) :
    (∀ (other : CodeStore) capacity, kStoreSerializedBytes ≤ capacity →
        ∃ output, (storeAfter history).serialize capacity = some output ∧
          (other.load output).1 = true ∧
          (other.load output).2.records = (storeAfter history).records ∧
          (other.load output).2.generation = (storeAfter history).generation) ∧
      (∀ records generation input, Image legacyLayout records generation input →
          ((storeAfter history).load input).1 = true ∧
          Loaded legacyLayout records generation
            ((storeAfter history).load input).2 ∧ ∀ capacity output,
            ((storeAfter history).load input).2.serialize capacity = some output →
              Image currentLayout records generation output) ∧
      (∀ input, (∀ layout records generation,
          ¬Image layout records generation input) →
          (storeAfter history).load input = (false, storeAfter history)) ∧
      (∀ input code, normalizeCode input = some code →
        normalizeCode code.bytes = some code) ∧
      (∀ entropy code, generateCode entropy = some code →
        normalizeCode code.bytes = some code) ∧
      (∀ input other characters, characters.length = kCodeCharacters →
        Spells input characters → Spells other characters →
          normalizeCode input = normalizeCode other ∧
          ((∀ character ∈ characters, character ∈ kAlphabet) →
            ∃ code, normalizeCode input = some code)) ∧
      Distinct (storeAfter history).records := by
  have ledger := storeAfter_ledger history
  refine ⟨?_, ?_, ?_, ?_, ?_, ?_, ledger.distinct⟩
  · intro other capacity room
    rcases serialize_some (storeAfter history) room with ⟨output, written⟩
    rcases load_image other (serialize_image ledger written) with
      ⟨loaded, same⟩
    exact ⟨output, written, loaded, same.records, same.generation⟩
  · intro records generation input written
    rcases load_image (storeAfter history) written with ⟨loaded, same⟩
    refine ⟨loaded, same, ?_⟩
    intro capacity output anew
    have kept : Ledger ((storeAfter history).load input).2.records := by
      rw [same.records]
      exact written.ledger
    have current := serialize_image kept anew
    rw [same.records, same.generation] at current
    exact current
  · intro input unknown
    cases loaded : ((storeAfter history).load input).1 with
    | true =>
      rcases load_iff.mp loaded with ⟨layout, records, generation, written⟩
      exact absurd written (unknown layout records generation)
    | false => exact Prod.ext loaded (load_refused loaded)
  · intro input code normalized
    exact normalizeCode_idempotent normalized
  · intro entropy code generated
    exact normalizeCode_generateCode generated
  · intro input other characters length first second
    refine ⟨normalizeCode_spells length first second, ?_⟩
    intro known
    rcases formatCode_eq length with ⟨code, formatted, -⟩
    exact ⟨code, normalizeCode_eq_some.mpr
      ⟨characters, first, length, known, formatted⟩⟩

/-- An image with other bytes in the room behind its records is loaded too. -/
theorem filled_room_loaded :
    ∃ input : Bytes, input.length = kStoreSerializedBytes ∧
      (∀ (store : CodeStore) capacity, store.serialize capacity ≠ some input) ∧
      (({} : CodeStore).load input).1 = true := by
  have empty : Ledger [] :=
    ⟨fun _ member => absurd member List.not_mem_nil, .nil⟩
  have within : ([] : List CodeRecord).length ≤ currentLayout.expectedCapacity :=
    Nat.zero_le _
  have room : (List.replicate 2496 (1 : UInt8)).length = kPersistedRecordBytes *
      (currentLayout.expectedCapacity - ([] : List CodeRecord).length) := by
    rw [List.length_replicate]
    rfl
  have written : Image currentLayout [] 0
      (image currentLayout [] 0 (.replicate 2496 1)) :=
    ⟨.inr rfl, within, empty, _, room, rfl⟩
  refine ⟨image currentLayout [] 0 (.replicate 2496 1), length_image within room,
    ?_, (load_image {} written).1⟩
  intro store capacity same
  rw [CodeStore.serialize] at same
  split at same
  · cases same
  · have equal : image currentLayout store.records store.generation (.replicate
        (kPersistedRecordBytes * (kCodeCapacity - store.records.length)) 0) =
          image currentLayout [] 0 (.replicate 2496 1) := Option.some.inj same
    rcases @image_fields currentLayout store.records store.generation (.replicate
      (kPersistedRecordBytes * (kCodeCapacity - store.records.length)) 0)
      (.inr rfl) store.bounded with ⟨-, -, -, -, count, -, -, -, _, body⟩
    rcases @image_fields currentLayout [] 0 (.replicate 2496 1) (.inr rfl) within
      with ⟨-, -, -, -, other, -, -, -, _, filled⟩
    rw [equal] at count body
    have nothing : store.records = [] := List.length_eq_zero_iff.mp count.symm
    rw [filled, nothing] at body
    have first : (some 1 : Option UInt8) = some 0 := congrArg List.head? body
    cases first

end Kitsu.Unlocks
