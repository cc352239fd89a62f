import Kitsu.Replacement.AllOrNothing

/-!
# The web flasher

`installCompanion` of the flash site decides from the slot and the transaction
sectors, never from the identifier that the firmware has stored.  A session is
the list of writes it makes, so one that is interrupted has made some first
writes of the list: the PREPARED sector, the pack, whose slot is erased and
unreadable in between, and the COMMITTED sector.  Boots are those of the
firmware with no failing write.
-/

namespace Kitsu.Replacement

open Kitsu.Lib.Crash
open Kitsu.Lib.Run

/-! ## What the flasher reads -/

/-- `replacementIntentMetadata`; `none` when it throws. -/
def replacementIntentMetadata (sector : Sector) :
    Option (Option CompanionReplacementIntent) :=
  if sector = erasedSector then some none
  else if sector.paddingErased && validRecord sector.record then
    some (some sector.record)
  else none

/-- How far a replacement has come in the record. -/
inductive TransactionStatus where
  | empty
  | prepared (intent : CompanionReplacementIntent)
  | committed (intent : CompanionReplacementIntent)
deriving DecidableEq

/-- What the two sectors of the record say, if they agree. -/
def inspectReplacementTransaction (transaction : Transaction) :
    Option TransactionStatus :=
  match replacementIntentMetadata transaction.prepared with
  | none => none
  | some none =>
    match replacementIntentMetadata transaction.committed with
    | some none => some .empty
    | _ => none
  | some (some intent) =>
    match replacementIntentMetadata transaction.committed with
    | some (some other) =>
      if intent = other then some (.committed intent)
      else some (.prepared intent)
    | _ => some (.prepared intent)

/-- The replacement that is under way. -/
def TransactionStatus.pending? :
    TransactionStatus → Option CompanionReplacementIntent
  | .empty => none
  | .prepared intent => some intent
  | .committed intent => some intent

/-- What an installation has to do with the pack that is there. -/
structure Transition where
  destructive : Bool
  repair : Bool
  retry : Bool
  sourcePackId : Option UInt32
deriving DecidableEq

/-- `companionPackTransition` for a chosen pack; `none` when it throws. -/
def companionPackTransition (current : Slot) (target : Pack)
    (transaction : TransactionStatus) : Option Transition :=
  match transaction.pending? with
  | some intent =>
    if targetMatches intent target then
      some ⟨true, false, true, some intent.sourcePackId⟩
    else none
  | none =>
    match current with
    | .empty => some ⟨false, false, false, some 0⟩
    | .invalid => some ⟨false, true, false, none⟩
    | .valid pack =>
      some ⟨pack.packId != target.packId, false, false, some pack.packId⟩

/-! ## Sessions -/

/-- Write the first sector of the record. -/
def writePrepared (sector : Sector) (flash : Flash) : Flash :=
  { flash with
    conn := { flash.conn with
      transaction := { flash.conn.transaction with prepared := sector } } }

/-- Write the second sector of the record. -/
def writeCommitted (sector : Sector) (flash : Flash) : Flash :=
  { flash with
    conn := { flash.conn with
      transaction := { flash.conn.transaction with committed := sector } } }

def writeSlot (slot : Slot) (flash : Flash) : Flash :=
  { flash with slot }

/-- The writes of the pack: an erased slot, an unreadable one, the pack. -/
def packWrites (target : Pack) : List (Flash → Flash) :=
  [writeSlot .empty, writeSlot .invalid, writeSlot (.valid target)]

/-- The writes of the COMMITTED record, the first of them its erase. -/
def committedWrites (intent : CompanionReplacementIntent) :
    List (Flash → Flash) :=
  [writeCommitted erasedSector, writeCommitted ⟨intent, true⟩]

/-- The writes of a transition. -/
def transitionWrites (transaction : Transaction) (target : Pack)
    (transition : Transition) : List (Flash → Flash) :=
  if transition.destructive then
    if transition.retry then
      packWrites target ++ committedWrites transaction.prepared.record
    else
      let intent :=
        buildReplacementIntent (transition.sourcePackId.getD 0) target
      writePrepared ⟨intent, true⟩ ::
        (packWrites target ++ committedWrites intent)
  else
    packWrites target

/-- What the flasher decides on the device in front of it. -/
def transitionOf (flash : Flash) (target : Pack) : Option Transition :=
  (inspectReplacementTransaction flash.conn.transaction).bind
    (companionPackTransition flash.slot target)

/-- The writes of `installCompanion`; none when it stops before the first. -/
def installCompanion (flash : Flash) (target : Pack) :
    List (Flash → Flash) :=
  match transitionOf flash target with
  | some transition =>
    transitionWrites flash.conn.transaction target transition
  | none => []

/-- Make writes one after another. -/
def written (writes : List (Flash → Flash)) (flash : Flash) : Flash :=
  writes.foldl (fun flash write => write flash) flash

/-- The device after a session that made all its writes. -/
def installed (flash : Flash) (target : Pack) : Flash :=
  written (installCompanion flash target) flash

/-- A boot without failures, or a session that stops after some writes. -/
inductive Event where
  | boot
  | install (target : Pack) (writes : Nat)

/-- A boot, or the writes that the flasher completed. -/
def deviceStep (flash : Flash) : Event → Flash
  | .boot => step flash {}
  | .install target writes =>
    written ((installCompanion flash target).take writes) flash

variable {flash after : Flash} {target pack : Pack}
  {transaction : Transaction} {intent : CompanionReplacementIntent}

/-! ## The flasher and the firmware read alike -/

theorem validRecord_erased : validRecord erasedRecord = false := by
  decide

theorem ne_erased (valid : validRecord intent = true) (padding : Bool) :
    (⟨intent, padding⟩ : Sector) ≠ erasedSector := by
  intro equal
  have record : intent = erasedRecord := congrArg Sector.record equal
  rw [record, validRecord_erased] at valid
  cases valid

/-- A session meets a pending record when the firmware accepts PREPARED. -/
theorem inspect_prepared (valid : transaction.preparedValid = true) :
    ∃ status, inspectReplacementTransaction transaction = some status ∧
      status.pending? = some transaction.prepared.record := by
  have parts := valid
  simp only [Transaction.preparedValid, Bool.and_eq_true] at parts
  have metadata : replacementIntentMetadata transaction.prepared =
      some (some transaction.prepared.record) := by
    unfold replacementIntentMetadata
    rw [if_neg (ne_erased parts.2 _), if_pos (by simp [parts])]
  unfold inspectReplacementTransaction
  rw [metadata]
  cases replacementIntentMetadata transaction.committed with
  | none => exact ⟨_, rfl, rfl⟩
  | some found =>
    cases found with
    | none => exact ⟨_, rfl, rfl⟩
    | some other =>
      by_cases same : transaction.prepared.record = other
      · exact ⟨_, if_pos same, rfl⟩
      · exact ⟨_, if_neg same, rfl⟩

/-- The other transactions that a session accepts are erased. -/
theorem inspect_unprepared (invalid : transaction.preparedValid = false)
    {status : TransactionStatus}
    (inspected : inspectReplacementTransaction transaction = some status) :
    transaction = erasedTransaction ∧ status = .empty := by
  have parts := invalid
  simp only [Transaction.preparedValid] at parts
  unfold inspectReplacementTransaction at inspected
  by_cases prepared : transaction.prepared = erasedSector
  · have metadata : replacementIntentMetadata transaction.prepared =
        some none := if_pos prepared
    simp only [metadata] at inspected
    by_cases committed : transaction.committed = erasedSector
    · have other : replacementIntentMetadata transaction.committed =
          some none := if_pos committed
      simp only [other] at inspected
      cases inspected
      refine ⟨?_, rfl⟩
      cases transaction
      simp only at prepared committed
      rw [prepared, committed]
      rfl
    · have other : replacementIntentMetadata transaction.committed ≠
          some none := by
        unfold replacementIntentMetadata
        rw [if_neg committed]
        split <;> simp
      cases found : replacementIntentMetadata transaction.committed with
      | none => simp [found] at inspected
      | some intent =>
        cases intent with
        | none => exact absurd found other
        | some intent => simp [found] at inspected
  · have metadata : replacementIntentMetadata transaction.prepared =
        none := by
      unfold replacementIntentMetadata
      rw [if_neg prepared, if_neg (by simp [parts])]
    rw [metadata] at inspected
    cases inspected

theorem inspect_erased :
    inspectReplacementTransaction erasedTransaction = some .empty := by
  decide

/-! ## What a session writes -/

/-- The flasher goes on to write. -/
def Accepts (flash : Flash) (target : Pack) : Prop :=
  (transitionOf flash target).isSome = true

/-- The writes of a session, by what it found. -/
inductive Session (flash : Flash) (target : Pack) :
    List (Flash → Flash) → Prop where
  | retry (valid : flash.conn.transaction.preparedValid = true)
      (targets : targetMatches flash.conn.transaction.prepared.record
        target = true) :
      Session flash target (packWrites target ++
        committedWrites flash.conn.transaction.prepared.record)
  | replace {pack : Pack}
      (erased : flash.conn.transaction = erasedTransaction)
      (slot : flash.slot = .valid pack)
      (other : pack.packId ≠ target.packId) :
      Session flash target
        (writePrepared ⟨buildReplacementIntent pack.packId target, true⟩ ::
          (packWrites target ++
            committedWrites (buildReplacementIntent pack.packId target)))
  | plain (erased : flash.conn.transaction = erasedTransaction)
      (same : ∀ pack, flash.slot = .valid pack → pack.packId = target.packId) :
      Session flash target (packWrites target)

theorem transitionOf_prepared
    (valid : flash.conn.transaction.preparedValid = true) :
    transitionOf flash target =
      if targetMatches flash.conn.transaction.prepared.record target then
        some ⟨true, false, true,
          some flash.conn.transaction.prepared.record.sourcePackId⟩
      else none := by
  rcases inspect_prepared valid with ⟨status, inspected, pending⟩
  simp [transitionOf, inspected, companionPackTransition, pending]

theorem transitionOf_erased (erased : flash.conn.transaction = erasedTransaction) :
    transitionOf flash target =
      match flash.slot with
      | .empty => some ⟨false, false, false, some 0⟩
      | .invalid => some ⟨false, true, false, none⟩
      | .valid pack =>
        some ⟨pack.packId != target.packId, false, false, some pack.packId⟩ := by
  simp only [transitionOf, erased, inspect_erased, Option.bind_some,
    companionPackTransition, TransactionStatus.pending?]

/-- Whatever a session accepts is pending for its target or erased. -/
theorem transaction_of_accepts (accepts : Accepts flash target) :
    flash.conn.transaction.preparedValid = true ∧
        targetMatches flash.conn.transaction.prepared.record target =
          true ∨
      flash.conn.transaction = erasedTransaction := by
  cases valid : flash.conn.transaction.preparedValid with
  | true =>
    refine Or.inl ⟨rfl, ?_⟩
    unfold Accepts at accepts
    rw [transitionOf_prepared valid] at accepts
    split at accepts
    · assumption
    · cases accepts
  | false =>
    refine Or.inr ?_
    unfold Accepts transitionOf at accepts
    cases inspected :
        inspectReplacementTransaction flash.conn.transaction with
    | none => simp [inspected] at accepts
    | some status => exact (inspect_unprepared valid inspected).1

theorem accepts_of_transaction
    (ready : flash.conn.transaction.preparedValid = true ∧
        targetMatches flash.conn.transaction.prepared.record target = true ∨
      flash.conn.transaction = erasedTransaction) : Accepts flash target := by
  unfold Accepts
  rcases ready with ⟨valid, targets⟩ | erased
  · rw [transitionOf_prepared valid, if_pos targets]
    rfl
  · rw [transitionOf_erased erased]
    cases flash.slot <;> rfl

theorem session_cases (accepts : Accepts flash target) :
    Session flash target (installCompanion flash target) := by
  unfold installCompanion
  rcases transaction_of_accepts accepts with ⟨valid, targets⟩ | erased
  · rw [transitionOf_prepared valid, if_pos targets]
    exact .retry valid targets
  · rw [transitionOf_erased erased]
    cases slot : flash.slot with
    | empty => exact .plain erased (by simp [slot])
    | invalid => exact .plain erased (by simp [slot])
    | valid pack =>
      by_cases same : pack.packId = target.packId
      · have plain : (pack.packId != target.packId) = false := by
          simp [same]
        simp only [transitionWrites, plain]
        refine .plain erased ?_
        intro other found
        rw [slot] at found
        cases found
        exact same
      · have destructive : (pack.packId != target.packId) = true := by
          simp [same]
        simp only [transitionWrites, destructive]
        exact .replace erased slot same

/-- What every write of a list keeps, the first writes of it keep. -/
theorem written_take {Holds : Flash → Prop}
    {writes : List (Flash → Flash)} (initially : Holds flash)
    (kept : ∀ write ∈ writes, ∀ flash, Holds flash → Holds (write flash))
    (count : Nat) : Holds (written (writes.take count) flash) := by
  induction writes generalizing flash count with
  | nil => simpa [written] using initially
  | cons write writes induction =>
    cases count with
    | zero => exact initially
    | succ count =>
      apply induction
      · exact kept write (by simp) flash initially
      · intro other member
        exact kept other (by simp [member])

/-- The stored identifier, and the PREPARED record of the device. -/
def storedId (flash : Flash) : UInt32 :=
  (companion flash).collectiblePackId

/-- The first sector of the record, as it is read. -/
def preparedRecord (flash : Flash) : CompanionReplacementIntent :=
  flash.conn.transaction.prepared.record

/-- The first sector was marked as valid. -/
def isPrepared (flash : Flash) : Bool :=
  flash.conn.transaction.preparedValid

/-- A replacement of the source by the target has been recorded. -/
structure PendingFor (target : Pack) (source : UInt32) (flash : Flash) :
    Prop where
  prepared : isPrepared flash = true
  targets : targetMatches (preparedRecord flash) target = true
  named : (preparedRecord flash).sourcePackId = source
  slot : ∀ pack, flash.slot = .valid pack →
    pack.packId = target.packId ∨ pack.packId = source

/-- A pack is written without a record. -/
structure PlainFor (target : Pack) (flash : Flash) : Prop where
  erased : flash.conn.transaction = erasedTransaction
  slot : ∀ pack, flash.slot = .valid pack → pack.packId = target.packId

/-- What a session leaves once it has begun to write. -/
inductive Begun (flash : Flash) (target : Pack) (after : Flash) :
    Prop where
  | retry (valid : isPrepared flash = true)
      (pending : PendingFor target (preparedRecord flash).sourcePackId after)
  | replace {pack : Pack}
      (erased : flash.conn.transaction = erasedTransaction)
      (slot : flash.slot = .valid pack)
      (other : pack.packId ≠ target.packId)
      (pending : PendingFor target pack.packId after)
  | plain (erased : flash.conn.transaction = erasedTransaction)
      (same : ∀ pack, flash.slot = .valid pack → pack.packId = target.packId)
      (plain : PlainFor target after)

variable {write : Flash → Flash}

theorem slot_packWrites (member : write ∈ packWrites target) (flash : Flash) :
    ∃ slot, write flash = { flash with slot } ∧
      ∀ pack, slot = .valid pack → pack = target := by
  simp only [packWrites, List.mem_cons, List.not_mem_nil, or_false]
    at member
  rcases member with rfl | rfl | rfl
  · exact ⟨.empty, rfl, nofun⟩
  · exact ⟨.invalid, rfl, nofun⟩
  · refine ⟨.valid target, rfl, ?_⟩
    intro pack equal
    cases equal
    rfl

theorem committedWrites_eq (member : write ∈ committedWrites intent)
    (flash : Flash) : ∃ sector, write flash = writeCommitted sector flash := by
  simp only [committedWrites, List.mem_cons, List.not_mem_nil, or_false]
    at member
  rcases member with rfl | rfl
  · exact ⟨_, rfl⟩
  · exact ⟨_, rfl⟩

/-- Writes of the pack and of COMMITTED keep PREPARED and the companion. -/
structure Carried (target : Pack) (source : UInt32) (sector : Sector)
    (state : CoreState) (flash : Flash) : Prop where
  prepared : flash.conn.transaction.prepared = sector
  companion : companion flash = state
  slot : ∀ pack, flash.slot = .valid pack →
    pack.packId = target.packId ∨ pack.packId = source

variable {state : CoreState}

variable {source : UInt32}

theorem carried_write {sector : Sector}
    (member : write ∈ packWrites target ++ committedWrites intent)
    (flash : Flash) (carried : Carried target source sector state flash) :
    Carried target source sector state (write flash) := by
  rcases List.mem_append.mp member with inPack | inCommitted
  · rcases slot_packWrites inPack flash with ⟨slot, equal, own⟩
    rw [equal]
    refine ⟨carried.prepared, carried.companion, ?_⟩
    intro pack found
    exact Or.inl (congrArg Pack.packId (own pack found))
  · rcases committedWrites_eq inCommitted flash with ⟨sector, equal⟩
    rw [equal]
    exact ⟨carried.prepared, carried.companion, carried.slot⟩

theorem Carried.pendingFor {sector : Sector}
    (carried : Carried target source sector state flash)
    (padding : sector.paddingErased = true)
    (valid : validRecord sector.record = true)
    (targets : targetMatches sector.record target = true)
    (named : sector.record.sourcePackId = source) :
    PendingFor target source flash := by
  have prepared := carried.prepared
  refine ⟨?_, ?_, ?_, carried.slot⟩
  · simp [isPrepared, Transaction.preparedValid, prepared, padding, valid]
  · simp [preparedRecord, prepared, targets]
  · simp [preparedRecord, prepared, named]

/-- A session that has begun keeps the companion and can be recognized. -/
theorem session_begun (accepts : Accepts flash target) (count : Nat) :
    let after :=
      written ((installCompanion flash target).take (count + 1)) flash
    companion after = companion flash ∧ Begun flash target after := by
  have session := session_cases accepts
  generalize installCompanion flash target = writes at session
  cases session with
  | retry valid targets =>
    -- The first write erases the slot, and the record is there already.
    have parts := valid
    simp only [Transaction.preparedValid, Bool.and_eq_true] at parts
    have first : Carried target
        (preparedRecord flash).sourcePackId
        flash.conn.transaction.prepared (companion flash)
        (writeSlot .empty flash) :=
      ⟨rfl, rfl, by rintro _ ⟨⟩⟩
    have carried := written_take first
      (fun write (member : write ∈ [writeSlot .invalid,
          writeSlot (.valid target)] ++ committedWrites
            flash.conn.transaction.prepared.record) =>
        carried_write (List.mem_cons_of_mem _ member)) count
    exact ⟨carried.companion, .retry valid
      (carried.pendingFor parts.1 parts.2 targets rfl)⟩
  | @replace pack erased slot other =>
    -- The first write is the record, which names the pack in the slot.
    have first : Carried target pack.packId
        ⟨buildReplacementIntent pack.packId target, true⟩
        (companion flash)
        (writePrepared
          ⟨buildReplacementIntent pack.packId target, true⟩ flash) := by
      refine ⟨rfl, rfl, ?_⟩
      intro found equal
      have same : pack = found := by
        have both := slot.symm.trans equal
        cases both
        rfl
      exact Or.inr (congrArg Pack.packId same.symm)
    have carried := written_take first
      (fun write (member : write ∈ packWrites target ++
          committedWrites (buildReplacementIntent pack.packId target)) =>
        carried_write member) count
    exact ⟨carried.companion, .replace erased slot other (carried.pendingFor rfl
        (validRecord_build pack.packId_ne other) targetMatches_build rfl)⟩
  | plain erased same =>
    let Holds (after : Flash) : Prop :=
      companion after = companion flash ∧ PlainFor target after
    have initially : Holds flash := ⟨rfl, erased, same⟩
    have kept : ∀ write ∈ packWrites target, ∀ flash, Holds flash →
        Holds (write flash) := by
      rintro write member flash ⟨companion, plain⟩
      rcases slot_packWrites member flash with ⟨slot, equal, own⟩
      rw [equal]
      refine ⟨companion, plain.erased, ?_⟩
      intro pack found
      exact congrArg Pack.packId (own pack found)
    have left := written_take initially kept (count + 1)
    exact ⟨left.1, .plain erased same left.2⟩

/-! ## Boots without failures -/

theorem retire_plain (preservation : LegacyConnectivityPreservation)
    (flash : Flash) :
    ∃ after, retire preservation {} flash = .done true after ∧
      after.conn = overlay preservation flash.conn erasedConn := by
  unfold retire
  rw [Prog.bind_apply, Prog.get_apply]
  by_cases clean : verifyErased preservation flash.conn = true
  · have conn : overlay preservation flash.conn erasedConn = flash.conn :=
      beq_iff_eq.mp clean
    simp only [if_pos clean, clearLegacyReplayNamespace]
    rw [Prog.bind_apply, Prog.get_apply, conn]
    cases used : flash.replayUsed with
    | true =>
      simp only [used]
      exact ⟨_, rfl, rfl⟩
    | false =>
      simp only [used]
      exact ⟨_, rfl, rfl⟩
  · simp only [if_neg clean, clearLegacyReplayNamespace]
    rw [Prog.bind_apply]
    simp only [eraseAfter, if_pos]
    cases used : flash.replayUsed with
    | true => exact ⟨_, rfl, rfl⟩
    | false => exact ⟨_, rfl, rfl⟩

theorem loadState_plain (flash : Flash) :
    ∃ after, loadState {} flash = .done (companion flash) after ∧
      after.conn = flash.conn := by
  unfold loadState
  rw [Prog.bind_apply, Prog.get_apply]
  by_cases missing : (loadedCore flash).isNone = true
  · simp only [if_pos missing]
    exact ⟨_, rfl, rfl⟩
  · simp only [if_neg missing]
    exact ⟨_, rfl, rfl⟩

theorem saveState_written (valid : validCoreState state = true) (flash : Flash) :
    saveState state .written flash =
      .done true { flash with core := some state } := by
  unfold saveState
  rw [valid]
  rfl

/-- Only a replacement consumes the transaction while it settles. -/
theorem settlePack_plain (transaction : Transaction) (ready : Bool)
    (state : CoreState) (flash : Flash) :
    ∃ settled after,
      settlePack transaction ready state {} flash = .done settled after ∧
      after.conn.transaction =
        if settled.attempted then erasedTransaction
        else flash.conn.transaction := by
  unfold settlePack
  rw [Prog.bind_apply, Prog.get_apply]
  cases slot : flash.slot with
  | empty =>
    simp only [slot]
    exact ⟨_, _, rfl, rfl⟩
  | invalid =>
    simp only [slot]
    exact ⟨_, _, rfl, rfl⟩
  | valid pack =>
    simp only [slot]
    split
    · exact ⟨_, _, rfl, rfl⟩
    · split
      · have saves (flash : Flash) :
            saveState (replaced state pack.packId) .written flash =
              .done true
                { flash with
                  core := some (replaced state pack.packId) } :=
          saveState_written (validCoreState_newborn _) flash
        rw [Prog.bind_apply]
        simp only [clearStoredState]
        rw [Prog.bind_apply, saves]
        exact ⟨_, _, rfl, rfl⟩
      · split
        · exact ⟨_, _, rfl, rfl⟩
        · exact ⟨_, _, rfl, rfl⟩

/-- The transaction after a boot, by what the boot settled. -/
theorem boot_plain (flash : Flash) :
    ∃ settled after, boot {} flash = .done settled after ∧
      after.conn.transaction =
        if settled.attempted || isPrepared flash &&
            (preparedRecord flash).sourcePackId !=
              settled.state.collectiblePackId then
          erasedTransaction
        else
          (overlay (preservation flash.conn.transaction) flash.conn
            erasedConn).transaction := by
  rcases retire_plain (preservation flash.conn.transaction) flash with
    ⟨retired, retiring, retiredConn⟩
  rcases loadState_plain retired with ⟨loaded, loading, loadedConn⟩
  rcases settlePack_plain flash.conn.transaction true (companion retired)
    loaded with ⟨settled, replaced, settling, replacedConn⟩
  have cleaning : ∃ cleaned,
      cleanUp flash.conn.transaction true settled {} replaced =
        .done () cleaned ∧
      cleaned.conn.transaction =
        if settled.attempted || isPrepared flash &&
            (preparedRecord flash).sourcePackId !=
              settled.state.collectiblePackId then
          erasedTransaction
        else
          (overlay (preservation flash.conn.transaction) flash.conn
            erasedConn).transaction := by
    rw [loadedConn, retiredConn] at replacedConn
    unfold cleanUp isPrepared preparedRecord
    cases attempted : settled.attempted with
    | true =>
      refine ⟨replaced, rfl, ?_⟩
      rw [replacedConn, attempted]
      rfl
    | false =>
      rw [attempted] at replacedConn
      simp only [Bool.not_false, Bool.and_true, Bool.true_and, Bool.false_or]
      split
      · exact ⟨_, rfl, rfl⟩
      · exact ⟨_, rfl, replacedConn⟩
  rcases cleaning with ⟨cleaned, cleans, cleanedConn⟩
  have hatching : ∃ after,
      beginBrain (brainPackId settled) {} cleaned = .done () after ∧
      after.conn = cleaned.conn := by
    unfold beginBrain
    rw [Prog.bind_apply, Prog.get_apply]
    by_cases known : hasBrain cleaned (brainPackId settled) = true
    · simp only [if_pos known]
      exact ⟨_, rfl, rfl⟩
    · simp only [if_neg known]
      exact ⟨_, rfl, rfl⟩
  rcases hatching with ⟨after, hatches, afterConn⟩
  refine ⟨settled, after, ?_, ?_⟩
  · unfold boot
    rw [Prog.bind_apply, Prog.get_apply]
    simp only [Prog.bind_apply, retiring, loading, settling, cleans,
      hatches, Prog.pure_apply]
  · rw [afterConn]
    exact cleanedConn

theorem settlePack_first {ready : Bool} (unassigned : Unassigned flash)
    (same : Same flash after) :
    wp (settlePack flash.conn.transaction ready (companion flash) {})
      (fun settled last =>
        settled.attempted = false ∧
        companion last = settled.state ∧ last.slot = flash.slot ∧
        match flash.slot with
        | .valid pack =>
          settled.state = assigned (companion flash) pack.packId ∧
            settled.exposed = some pack
        | _ => settled.state = companion flash) (fun _ => True) after := by
  have zero : (companion flash).collectiblePackId = 0 := unassigned
  unfold settlePack
  rw [wp_bind, wp_get, same.slot]
  cases slot : flash.slot with
  | empty => exact ⟨rfl, same.companion, same.slot.trans slot, rfl⟩
  | invalid => exact ⟨rfl, same.companion, same.slot.trans slot, rfl⟩
  | valid pack =>
    have other : ¬ (companion flash).collectiblePackId = pack.packId := by
      rw [zero]
      exact pack.packId_ne.symm
    have valid := validCoreState_assigned
      (validCoreState_companion flash) pack.packId
    simp only [if_neg other]
    rw [if_neg (by simp [zero]), if_pos zero, wp_bind, wp,
      saveState_written valid]
    exact ⟨rfl, companion_of_core rfl valid, same.slot.trans slot, rfl, rfl⟩

/-- A boot of an unassigned companion takes the pack that is there. -/
theorem boot_first (unassigned : Unassigned flash) :
    wp (boot {}) (fun settled after =>
        settled.attempted = false ∧
        companion after = settled.state ∧ after.slot = flash.slot ∧
        match flash.slot with
        | .valid pack =>
          settled.state = assigned (companion flash) pack.packId ∧
            settled.exposed = some pack
        | _ => settled.state = companion flash) (fun _ => True) flash := by
  apply boot_spec
  · intro _ _ _ _
    trivial
  · intro ready loaded same _ _
    rw [wp_bind]
    refine wp_post (settlePack_first unassigned same) ?_
    rintro settled stored ⟨attempted, companion, slot, found⟩
    rw [wp_bind]
    refine wp_mono (cleanUp_spec _ _ _ {} stored) ?_ fun _ _ => trivial
    intro _ cleaned aside
    rw [wp_bind]
    refine wp_mono (beginBrain_spec _ {} cleaned) ?_ fun _ _ => trivial
    intro _ after hatched
    refine ⟨attempted, ?_, ?_, found⟩
    · rw [companion_congr hatched.core hatched.legacy,
        aside.same.companion, companion]
    · rw [hatched.slot, aside.slot, slot]

/-! ## Sessions and boots -/

/--
The stored identifier is the one in the slot, or PREPARED names it as its
source.
-/
def Tracked (flash : Flash) : Prop :=
  storedId flash = 0 ∨ ∀ pack, flash.slot = .valid pack →
    pack.packId = storedId flash ∨
      isPrepared flash = true ∧
        (preparedRecord flash).sourcePackId = storedId flash

/--
A session continues only a record about the stored companion, and repairs or
fills a slot without a record only for the stored companion.
-/
def Meets (flash : Flash) : Event → Prop
  | .boot => True
  | .install target _ =>
    storedId flash ≠ 0 →
      (isPrepared flash = true →
        (preparedRecord flash).sourcePackId = storedId flash) ∧
      (isPrepared flash = false → (∀ pack, flash.slot ≠ .valid pack) →
        target.packId = storedId flash)

theorem isPrepared_of_erased
    (erased : flash.conn.transaction = erasedTransaction) :
    isPrepared flash = false := by
  have invalid : erasedTransaction.preparedValid = false := by decide
  simp [isPrepared, erased, invalid]

/-- What a boot without failures settles. -/
inductive Booted (flash : Flash) : Settled → Flash → Prop where
  | held {after : Flash} (held : Held flash) (kept : Kept flash after) :
      Booted flash ⟨companion flash, shown flash, false⟩ after
  | replaced {after : Flash} {pack : Pack}
      (pending : Pending flash (companion flash) pack)
      (done : Done after pack) :
      Booted flash ⟨newborn pack.packId, some pack, true⟩ after
  | first {settled : Settled} {after : Flash}
      (unassigned : Unassigned flash)
      (attempted : settled.attempted = false)
      (companion : companion after = settled.state)
      (slot : after.slot = flash.slot)
      (found : match flash.slot with
        | .valid pack =>
          settled.state =
              assigned (Replacement.companion flash) pack.packId ∧
            settled.exposed = some pack
        | _ => settled.state = Replacement.companion flash) :
      Booted flash settled after

theorem sound_default : ({} : Faults).Sound :=
  ⟨rfl, rfl, rfl, rfl, rfl⟩

theorem booted {settled : Settled}
    (completed : boot {} flash = .done settled after) :
    Booted flash settled after := by
  by_cases unassigned : Unassigned flash
  · have spec := wp_done (boot_first unassigned) completed
    exact .first unassigned spec.1 spec.2.1 spec.2.2.1 spec.2.2.2
  · by_cases held : Held flash
    · have spec := wp_done (boot_held held {}) completed
      rw [spec.2]
      exact .held held spec.1
    · have authorized : ∃ pack, flash.slot = .valid pack ∧
          Authorizes flash.conn.transaction
            (companion flash).collectiblePackId pack := by
        by_contra none
        apply held
        refine ⟨unassigned, ?_⟩
        intro pack slot authorizes
        exact none ⟨pack, slot, authorizes⟩
      rcases authorized with ⟨pack, slot, authorizes⟩
      have pending : Pending flash (companion flash) pack :=
        ⟨rfl, slot, authorizes⟩
      have spec := (wp_done (boot_pending pending {}) completed).2
        sound_default
      rw [spec.1]
      exact .replaced pending spec.2.1

/-- The PREPARED record survives a boot or the transaction is erased. -/
def Survives (flash after : Flash) : Prop :=
  isPrepared flash = true ∧ isPrepared after = true ∧
      preparedRecord after = preparedRecord flash ∨
    after.conn.transaction = erasedTransaction

theorem overlay_prepared (prepared : isPrepared flash = true)
    (conn : after.conn.transaction =
      (overlay (preservation flash.conn.transaction) flash.conn
        erasedConn).transaction) :
    isPrepared after = true ∧
      preparedRecord after = preparedRecord flash := by
  have valid : flash.conn.transaction.preparedValid = true := prepared
  have sector : after.conn.transaction.prepared =
      flash.conn.transaction.prepared := by
    rw [conn]
    unfold preservation
    split
    · rfl
    · rfl
  unfold isPrepared Transaction.preparedValid preparedRecord
  rw [sector]
  exact ⟨valid, rfl⟩

theorem overlay_survives (conn : after.conn.transaction =
      (overlay (preservation flash.conn.transaction) flash.conn
        erasedConn).transaction) : Survives flash after := by
  cases prepared : isPrepared flash with
  | true => exact Or.inl ⟨prepared, overlay_prepared prepared conn⟩
  | false =>
    have invalid : flash.conn.transaction.preparedValid = false :=
      prepared
    have none : preservation flash.conn.transaction = .none := by
      simp [preservation, Transaction.committedValid, invalid]
    rw [none] at conn
    exact Or.inr conn

/-- One boot, with what becomes of the record. -/
theorem step_plain (flash : Flash) :
    ∃ settled, boot {} flash = .done settled (step flash {}) ∧
      Booted flash settled (step flash {}) ∧
      Survives flash (step flash {}) ∧
      (settled.attempted = false → (preparedRecord flash).sourcePackId =
          settled.state.collectiblePackId → isPrepared flash = true →
        isPrepared (step flash {}) = true) := by
  rcases boot_plain flash with ⟨settled, after, completed, conn⟩
  have stepped : step flash {} = after := by
    unfold step
    rw [completed]
  rw [stepped]
  refine ⟨settled, completed, booted completed, ?_, ?_⟩
  · split at conn
    · exact Or.inr conn
    · exact overlay_survives conn
  · intro attempted named prepared
    rw [if_neg (by simp [attempted, named])] at conn
    exact (overlay_prepared prepared conn).1

theorem tracked_boot (tracked : Tracked flash) : Tracked (step flash {}) := by
  rcases step_plain flash with
    ⟨settled, _, boots, survives, remains⟩
  generalize step flash {} = after at boots survives remains
  cases boots with
  | held held kept =>
    have stored : storedId after = storedId flash := by
      unfold storedId
      rw [kept.companion]
    refine Or.inr ?_
    intro pack slot
    rw [stored]
    rcases tracked with zero | tracked
    · exact absurd zero held.stored
    · rcases tracked pack (kept.slot ▸ slot) with own | ⟨prepared, named⟩
      · exact Or.inl own
      · have prepared' := remains rfl named prepared
        refine Or.inr ⟨prepared', ?_⟩
        rcases survives with kept | erased
        · rw [kept.2.2]
          exact named
        · rw [isPrepared_of_erased erased] at prepared'
          cases prepared'
  | replaced pending done =>
    refine Or.inr ?_
    intro pack slot
    refine Or.inl ?_
    rw [done.slot] at slot
    cases slot
    unfold storedId
    rw [done.companion]
    rfl
  | first unassigned attempted companion slot found =>
    cases present : flash.slot with
    | empty =>
      refine Or.inl ?_
      rw [present] at found
      unfold storedId
      rw [companion, found]
      exact unassigned
    | invalid =>
      refine Or.inl ?_
      rw [present] at found
      unfold storedId
      rw [companion, found]
      exact unassigned
    | valid pack =>
      refine Or.inr ?_
      intro other placed
      rw [slot, present] at placed
      cases placed
      rw [present] at found
      refine Or.inl ?_
      unfold storedId
      rw [companion, found.1]
      rfl

theorem storedId_congr (same : companion after = companion flash) :
    storedId after = storedId flash :=
  congrArg CoreState.collectiblePackId same

theorem installCompanion_refused (refused : ¬ Accepts flash target) :
    installCompanion flash target = [] := by
  unfold installCompanion
  cases decided : transitionOf flash target with
  | none => rfl
  | some transition =>
    refine absurd ?_ refused
    unfold Accepts
    rw [decided]
    rfl

variable {count : Nat}

theorem tracked_install (tracked : Tracked flash)
    (meets : Meets flash (.install target count)) :
    Tracked (deviceStep flash (.install target count)) := by
  change Tracked
    (written ((installCompanion flash target).take count) flash)
  by_cases accepts : Accepts flash target
  · cases count with
    | zero => exact tracked
    | succ count =>
      have left := session_begun accepts count
      rcases left with ⟨companion, begun⟩
      have stored := storedId_congr companion
      by_cases zero : storedId flash = 0
      · exact Or.inl (stored.trans zero)
      · have allowed := meets zero
        have tracks := tracked.resolve_left zero
        refine Or.inr ?_
        rw [stored]
        intro pack slot
        cases begun with
        | retry valid pending =>
          exact Or.inr ⟨pending.prepared, pending.named.trans (allowed.1 valid)⟩
        | @replace old erased found _ pending =>
          have unprepared := isPrepared_of_erased erased
          rcases tracks old found with own | ⟨prepared, _⟩
          · exact Or.inr ⟨pending.prepared, pending.named.trans own⟩
          · rw [unprepared] at prepared
            cases prepared
        | plain erased same plain =>
          have unprepared := isPrepared_of_erased erased
          refine Or.inl ((plain.slot pack slot).trans ?_)
          by_cases present : ∃ old, flash.slot = .valid old
          · rcases present with ⟨old, found⟩
            rcases tracks old found with own | ⟨prepared, _⟩
            · exact (same old found).symm.trans own
            · rw [unprepared] at prepared
              cases prepared
          · apply allowed.2 unprepared
            intro old found
            exact present ⟨old, found⟩
  · rw [installCompanion_refused accepts]
    simpa [written] using tracked

/-- The companion is tracked through every allowed run. -/
theorem exec_tracked {start : Flash} {history : List Event}
    (tracked : Tracked start) (meets : Throughout deviceStep start Meets history) :
    Tracked (exec deviceStep start history) := by
  refine exec_throughout tracked ?_ meets
  intro flash event tracked meets
  cases event with
  | boot => exact tracked_boot tracked
  | install target count => exact tracked_install tracked meets

/-! ## Complete sessions -/

/-- The flasher records this source for the target. -/
def Records (flash : Flash) (target : Pack) (source : UInt32) : Prop :=
  ∃ transition, transitionOf flash target = some transition ∧
    transition.destructive = true ∧ transition.sourcePackId = some source

/-- What a complete session leaves. -/
inductive Installed (flash : Flash) (target : Pack) (after : Flash) :
    Prop where
  | recorded {source : UInt32} (records : Records flash target source)
      (authorizes : Authorizes after.conn.transaction source target)
  | plain (silent : ∀ source, ¬ Records flash target source)
      (erased : after.conn.transaction = erasedTransaction)

theorem Records.unique {other : UInt32} (first : Records flash target source)
    (second : Records flash target other) : source = other := by
  rcases first with ⟨one, decided, _, named⟩
  rcases second with ⟨two, decided', _, named'⟩
  rw [decided] at decided'
  cases decided'
  rw [named] at named'
  cases named'
  rfl

theorem records_prepared (prepared : isPrepared flash = true)
    (targets : targetMatches (preparedRecord flash) target = true) :
    Records flash target (preparedRecord flash).sourcePackId :=
  ⟨⟨true, false, true, _⟩,
    (transitionOf_prepared prepared).trans (if_pos targets), rfl, rfl⟩

theorem records_slot (erased : flash.conn.transaction = erasedTransaction)
    (slot : flash.slot = .valid pack) (other : pack.packId ≠ target.packId) :
    Records flash target pack.packId := by
  refine ⟨⟨pack.packId != target.packId, false, false,
    some pack.packId⟩, ?_, bne_iff_ne.mpr other, rfl⟩
  rw [transitionOf_erased erased, slot]

/-- A session without a record has no source. -/
theorem not_records (erased : flash.conn.transaction = erasedTransaction)
    (same : ∀ pack, flash.slot = .valid pack →
      pack.packId = target.packId) (source : UInt32) :
    ¬ Records flash target source := by
  rintro ⟨transition, decided, destructive, _⟩
  rw [transitionOf_erased erased] at decided
  cases slot : flash.slot with
  | empty =>
    rw [slot] at decided
    cases decided
    cases destructive
  | invalid =>
    rw [slot] at decided
    cases decided
    cases destructive
  | valid pack =>
    rw [slot] at decided
    cases decided
    exact bne_iff_ne.mp destructive (same pack slot)

theorem installed_cases (accepts : Accepts flash target) :
    companion (installed flash target) = companion flash ∧
      (installed flash target).slot = .valid target ∧
      Installed flash target (installed flash target) := by
  have session := session_cases accepts
  unfold installed
  generalize installCompanion flash target = writes at session
  cases session with
  | retry valid targets =>
    have parts := valid
    simp only [Transaction.preparedValid, Bool.and_eq_true] at parts
    exact ⟨rfl, rfl, .recorded (records_prepared valid targets)
      ⟨⟨parts.1, rfl⟩, parts.2, rfl, rfl, targets⟩⟩
  | @replace pack erased slot other =>
    exact ⟨rfl, rfl, .recorded (records_slot erased slot other)
      (authorizes_built pack.packId_ne other)⟩
  | plain erased same =>
    exact ⟨rfl, rfl, .plain (not_records erased same) erased⟩

/-- What the next boot accepts of a session. -/
def Agrees (flash : Flash) (target : Pack) : Prop :=
  storedId flash = 0 ∨ storedId flash = target.packId ∨
    Records flash target (storedId flash)

/-- The care that a boot behind a session leaves. -/
def caredFor (state : CoreState) (target : Pack) : CoreState :=
  if state.collectiblePackId = 0 then assigned state target.packId
  else if state.collectiblePackId = target.packId then state
  else newborn target.packId

/-- The next boot behind a complete session shows its pack. -/
def Exposes (flash : Flash) (target : Pack) : Prop :=
  ∃ settled after,
    boot {} (installed flash target) = .done settled after ∧
      settled.exposed = some target

theorem authorizes_erased {stored : UInt32}
    (erased : transaction = erasedTransaction) :
    ¬ Authorizes transaction stored pack := by
  intro authorizes
  have valid := authorizes.valid
  rw [erased] at valid
  exact absurd valid (by decide)

/-- The installed pack is that of the stored companion, or a stranger. -/
theorem held_installed (accepts : Accepts flash target)
    (nonzero : storedId flash ≠ 0)
    (silent : ¬ Records flash target (storedId flash) ∨
      storedId flash = target.packId) : Held (installed flash target) := by
  rcases installed_cases accepts with ⟨same, slot, left⟩
  refine ⟨?_, ?_⟩
  · rw [same]
    exact nonzero
  · intro pack found authorizes
    rw [same] at authorizes
    have own : target = pack := by
      have both := slot.symm.trans found
      cases both
      rfl
    rcases silent with silent | equal
    · cases left with
      | @recorded source records recorded =>
        apply silent
        have named : storedId flash = source :=
          authorizes.source.symm.trans recorded.source
        rw [named]
        exact records
      | plain _ erased => exact authorizes_erased erased authorizes
    · apply authorizes.source_ne.2
      rw [← own]
      exact equal

/-- A session that the firmware agrees with is shown and cared for. -/
theorem exposes_of_agrees (accepts : Accepts flash target)
    (agrees : Agrees flash target) :
    ∃ settled after,
      boot {} (installed flash target) = .done settled after ∧
        settled.exposed = some target ∧
        companion after = caredFor (companion flash) target := by
  rcases installed_cases accepts with ⟨same, slot, left⟩
  rcases boot_plain (installed flash target) with
    ⟨settled, after, completed, _⟩
  refine ⟨settled, after, completed, ?_⟩
  have boots := booted completed
  by_cases zero : storedId flash = 0
  · have care : caredFor (companion flash) target =
        assigned (companion flash) target.packId := if_pos zero
    cases boots with
    | held held kept =>
      refine absurd ?_ held.stored
      rw [same]
      exact zero
    | replaced pending done =>
      refine absurd ?_ pending.authorizes.source_ne.1
      rw [same]
      exact zero
    | first unassigned attempted companion placed found =>
      rw [slot, same] at found
      refine ⟨found.2, ?_⟩
      rw [companion, found.1, care]
  · have care : caredFor (companion flash) target =
        if storedId flash = target.packId then companion flash
        else newborn target.packId := if_neg zero
    by_cases own : storedId flash = target.packId
    · have held := held_installed accepts zero (Or.inr own)
      have spec := wp_done (boot_held held {}) completed
      have shows : shown (installed flash target) = some target := by
        have equal : (companion (installed flash
            target)).collectiblePackId = target.packId := by
          rw [same]
          exact own
        simp [shown, slot, equal]
      refine ⟨?_, ?_⟩
      · rw [spec.2]
        exact shows
      · rw [spec.1.companion, same, care, if_pos own]
    · have records := (agrees.resolve_left zero).resolve_left own
      have authorizes : Authorizes (installed flash
          target).conn.transaction (storedId flash) target := by
        cases left with
        | recorded named authorizes =>
          rw [records.unique named]
          exact authorizes
        | plain silent _ => exact absurd records (silent _)
      have pending : Pending (installed flash target) (companion flash)
          target :=
        ⟨same, slot, authorizes⟩
      have spec := (wp_done (boot_pending pending {}) completed).2
        sound_default
      refine ⟨?_, ?_⟩
      · rw [spec.1]
      · rw [spec.2.1.companion, care, if_neg own]

/-- The firmware shows a session exactly when it agrees with its source. -/
theorem exposes_iff (accepts : Accepts flash target) :
    Exposes flash target ↔ Agrees flash target := by
  constructor
  · rintro ⟨settled, after, completed, exposed⟩
    by_contra disagrees
    have zero : storedId flash ≠ 0 := fun zero => disagrees (Or.inl zero)
    have own : storedId flash ≠ target.packId :=
      fun own => disagrees (Or.inr (Or.inl own))
    have silent : ¬ Records flash target (storedId flash) :=
      fun records => disagrees (Or.inr (Or.inr records))
    have held := held_installed accepts zero (Or.inl silent)
    have spec := wp_done (boot_held held {}) completed
    rw [spec.2] at exposed
    have shows := packId_of_shown exposed
    rw [(installed_cases accepts).1] at shows
    exact own shows.symm
  · intro agrees
    rcases exposes_of_agrees accepts agrees with
      ⟨settled, after, completed, exposed, _⟩
    exact ⟨settled, after, completed, exposed⟩

/-- A session that meets the condition is one the firmware agrees with. -/
theorem agrees_of_meets (accepts : Accepts flash target)
    (tracked : Tracked flash) (meets : Meets flash (.install target count)) :
    Agrees flash target := by
  by_cases zero : storedId flash = 0
  · exact Or.inl zero
  refine Or.inr ?_
  have allowed := meets zero
  rcases transaction_of_accepts accepts with ⟨prepared, targets⟩ | erased
  · refine Or.inr ?_
    rw [← allowed.1 prepared]
    exact records_prepared prepared targets
  · have unprepared := isPrepared_of_erased erased
    by_cases present : ∃ pack, flash.slot = .valid pack
    · rcases present with ⟨pack, slot⟩
      have own : pack.packId = storedId flash := by
        rcases tracked.resolve_left zero pack slot with own | ⟨prepared, _⟩
        · exact own
        · rw [unprepared] at prepared
          cases prepared
      by_cases same : pack.packId = target.packId
      · exact Or.inl (own.symm.trans same)
      · rw [← own]
        exact Or.inr (records_slot erased slot same)
    · refine Or.inl (allowed.2 unprepared ?_).symm
      intro pack slot
      exact present ⟨pack, slot⟩

/-! ## Interrupted sessions -/

/-- The same target can be installed again, and the firmware will agree. -/
structure Retryable (target : Pack) (flash : Flash) : Prop where
  offered : isPrepared flash = true ∧
      targetMatches (preparedRecord flash) target = true ∨
    flash.conn.transaction = erasedTransaction
  agreed : storedId flash = 0 ∧
      (∀ pack, flash.slot = .valid pack → pack.packId = target.packId ∨
          isPrepared flash = true ∧
            pack.packId = (preparedRecord flash).sourcePackId) ∨
    isPrepared flash = true ∧
      (preparedRecord flash).sourcePackId = storedId flash ∨
    target.packId = storedId flash

theorem Retryable.accepts (retryable : Retryable target flash) :
    Accepts flash target :=
  accepts_of_transaction retryable.offered

theorem Retryable.agrees (retryable : Retryable target flash) :
    Agrees flash target := by
  rcases retryable.agreed with ⟨zero, _⟩ | ⟨prepared, named⟩ | own
  · exact Or.inl zero
  · refine Or.inr (Or.inr ?_)
    rcases retryable.offered with ⟨_, targets⟩ | erased
    · rw [← named]
      exact records_prepared prepared targets
    · rw [isPrepared_of_erased erased] at prepared
      cases prepared
  · exact Or.inr (Or.inl own.symm)

/-- A session that has begun can be tried again. -/
theorem retryable_begun (accepts : Accepts flash target) (tracked : Tracked flash)
    (meets : Meets flash (.install target (count + 1))) :
    Retryable target
      (deviceStep flash (.install target (count + 1))) := by
  change Retryable target
    (written ((installCompanion flash target).take (count + 1)) flash)
  have agrees := agrees_of_meets accepts tracked meets
  have left := session_begun accepts count
  generalize written ((installCompanion flash target).take
    (count + 1)) flash = after at left ⊢
  rcases left with ⟨companion, begun⟩
  have stored := storedId_congr companion
  have pendingAgreed {source : UInt32}
      (pending : PendingFor target source after)
      (records : Records flash target source) :
      Retryable target after := by
    refine ⟨Or.inl ⟨pending.prepared, pending.targets⟩, ?_⟩
    rw [stored]
    rcases agrees with zero | own | named
    · refine Or.inl ⟨zero, ?_⟩
      intro pack slot
      rw [pending.named]
      exact (pending.slot pack slot).imp_right
        fun old => ⟨pending.prepared, old⟩
    · exact Or.inr (Or.inr own.symm)
    · refine Or.inr (Or.inl ⟨pending.prepared, ?_⟩)
      exact pending.named.trans (records.unique named)
  cases begun with
  | retry valid pending =>
    apply pendingAgreed pending
    rcases transaction_of_accepts accepts with ⟨_, targets⟩ | erased
    · exact records_prepared valid targets
    · rw [isPrepared_of_erased erased] at valid
      cases valid
  | replace erased slot other pending =>
    exact pendingAgreed pending (records_slot erased slot other)
  | plain erased same plain =>
    refine ⟨Or.inr plain.erased, ?_⟩
    rw [stored]
    rcases agrees with zero | own | records
    · refine Or.inl ⟨zero, ?_⟩
      intro pack slot
      exact Or.inl (plain.slot pack slot)
    · exact Or.inr (Or.inr own.symm)
    · exact absurd records (not_records erased same _)

theorem source_ne_of_prepared (prepared : isPrepared flash = true) :
    (preparedRecord flash).sourcePackId ≠ 0 := by
  have valid : flash.conn.transaction.preparedValid = true := prepared
  simp only [Transaction.preparedValid, validRecord, Bool.and_eq_true,
    bne_iff_ne, ne_eq] at valid
  exact valid.2.1.1.1.1.1.1.2

/-- Boots keep an interrupted session retryable. -/
theorem retryable_boot (retryable : Retryable target flash) :
    Retryable target (step flash {}) := by
  rcases step_plain flash with
    ⟨settled, _, boots, survives, remains⟩
  generalize step flash {} = after at boots survives remains
  have offered : isPrepared after = true ∧
        targetMatches (preparedRecord after) target = true ∨
      after.conn.transaction = erasedTransaction := by
    rcases survives with ⟨prepared, still, same⟩ | erased
    · rcases retryable.offered with ⟨_, targets⟩ | erased
      · rw [same]
        exact Or.inl ⟨still, targets⟩
      · rw [isPrepared_of_erased erased] at prepared
        cases prepared
    · exact Or.inr erased
  -- A record that a boot keeps has the source it had.
  have named (still : isPrepared after = true) :
      preparedRecord after = preparedRecord flash := by
    rcases survives with ⟨_, _, same⟩ | erased
    · exact same
    · rw [isPrepared_of_erased erased] at still
      cases still
  refine ⟨offered, ?_⟩
  cases boots with
  | held held kept =>
    have stored := storedId_congr kept.companion
    rw [stored]
    rcases retryable.agreed with ⟨zero, _⟩ | ⟨prepared, source⟩ | own
    · exact absurd zero held.stored
    · have still := remains rfl source prepared
      refine Or.inr (Or.inl ⟨still, ?_⟩)
      rw [named still]
      exact source
    · exact Or.inr (Or.inr own)
  | @replaced _ pack pending done =>
    refine Or.inr (Or.inr ?_)
    have stored : storedId after = pack.packId := by
      unfold storedId
      rw [done.companion]
      rfl
    rw [stored]
    rcases retryable.offered with ⟨_, targets⟩ | erased
    · have installs := pending.authorizes.target
      simp only [targetMatches, Bool.and_eq_true, beq_iff_eq]
        at installs targets
      exact targets.1.1.1.1.symm.trans installs.1.1.1.1
    · exact absurd pending.authorizes (authorizes_erased erased)
  | first unassigned attempted companion slot found =>
    have zero : storedId flash = 0 := unassigned
    have about : ∀ pack, flash.slot = .valid pack →
        pack.packId = target.packId ∨
          isPrepared flash = true ∧
            pack.packId = (preparedRecord flash).sourcePackId := by
      rcases retryable.agreed with ⟨_, about⟩ | ⟨prepared, source⟩ | own
      · exact about
      · refine absurd (source.trans zero) ?_
        exact source_ne_of_prepared prepared
      · exact absurd (own.trans zero) target.packId_ne
    cases present : flash.slot with
    | empty =>
      refine Or.inl ⟨?_, by simp [slot, present]⟩
      rw [present] at found
      unfold storedId
      rw [companion, found]
      exact unassigned
    | invalid =>
      refine Or.inl ⟨?_, by simp [slot, present]⟩
      rw [present] at found
      unfold storedId
      rw [companion, found]
      exact unassigned
    | valid pack =>
      rw [present] at found
      have stored : storedId after = pack.packId := by
        unfold storedId
        rw [companion, found.1]
        rfl
      rw [stored]
      refine Or.inr ?_
      rcases about pack present with own | ⟨prepared, source⟩
      · exact Or.inr own.symm
      · have state : settled.state.collectiblePackId = pack.packId := by
          rw [found.1]
          rfl
        have still := remains attempted
          (source.symm.trans state.symm) prepared
        refine Or.inl ⟨still, ?_⟩
        rw [named still]
        exact source.symm

theorem exec_retryable (retryable : Retryable target flash) (boots : Nat) :
    Retryable target
      (exec deviceStep flash (List.replicate boots .boot)) := by
  induction boots generalizing flash with
  | zero => exact retryable
  | succ boots induction => exact induction (retryable_boot retryable)

/--
Through every run of sessions, each stopped after any write, and boots in which
the sessions meet the condition: the boot behind a complete session shows its
pack and resets the care exactly for another species, and a session that was
stopped is accepted again, whatever boots came between, and then shown as well.
Whatever the state, the boot shows the pack exactly when it has no companion,
the one of the session, or the one that the session recorded.
-/
theorem installed_pack_accepted (start : Flash) (genuine : storedId start = 0 ∨
      ∃ pack, start.slot = .valid pack ∧ pack.packId = storedId start)
    (history : List Event) (allowed : Throughout deviceStep start Meets history)
    (target : Pack) (count : Nat) :
    let before := exec deviceStep start history
    (Accepts before target → Meets before (.install target count) →
      (∃ settled after, boot {} (installed before target) = .done settled after ∧
          settled.exposed = some target ∧
          companion after = caredFor (companion before) target) ∧
      ∀ boots, 0 < count →
        let later := exec deviceStep
          (deviceStep before (.install target count))
          (List.replicate boots .boot)
        Accepts later target ∧
          ∃ settled after,
            boot {} (installed later target) = .done settled after ∧
              settled.exposed = some target ∧
              companion after = caredFor (companion later) target) ∧
    ∀ flash, Accepts flash target →
      (Exposes flash target ↔ Agrees flash target) := by
  intro before
  have initially : Tracked start := by
    rcases genuine with zero | ⟨pack, slot, own⟩
    · exact Or.inl zero
    · refine Or.inr ?_
      intro other found
      rw [slot] at found
      cases found
      exact Or.inl own
  have tracked : Tracked before := exec_tracked initially allowed
  refine ⟨?_, fun flash accepts => exposes_iff accepts⟩
  intro accepts meets
  refine ⟨exposes_of_agrees accepts (agrees_of_meets accepts tracked meets), ?_⟩
  intro boots begun later
  have retryable : Retryable target later := by
    cases count with
    | zero => exact absurd begun (Nat.lt_irrefl 0)
    | succ count =>
      exact exec_retryable (retryable_begun accepts tracked meets) boots
  exact ⟨retryable.accepts, exposes_of_agrees retryable.accepts retryable.agrees⟩

/-- A fox at home in its slot, and no transaction. -/
def foxAtHome : Flash where
  core := some { collectiblePackId := 1, pets := 40 }
  legacy := none
  brainA := some ⟨1, 5, [7]⟩
  brainB := none
  slot := .valid foxPack
  conn := erasedConn
  replayUsed := false

/-- A replacement of the fox that stops behind its record, and its retry. -/
theorem foxAtHome_replaced :
    let stopped := deviceStep foxAtHome (.install owlPack 1)
    Accepts stopped owlPack ∧
      ∃ settled after,
        boot {} (installed stopped owlPack) = .done settled after ∧
          settled.exposed = some owlPack ∧
          companion after = newborn 2 := by
  have accepts : Accepts foxAtHome owlPack :=
    accepts_of_transaction (Or.inr rfl)
  have meets : Meets foxAtHome (.install owlPack 1) := by
    intro _
    refine ⟨?_, fun _ absent => absurd rfl (absent foxPack)⟩
    intro prepared
    cases prepared
  have retried := ((installed_pack_accepted foxAtHome
    (Or.inr ⟨foxPack, rfl, rfl⟩) [] Throughout.nil owlPack 1).1 accepts
      meets).2 0 Nat.one_pos
  exact retried

/--
An update of the fox that stops with the slot erased: the flasher then installs
an owl as a first companion, without a record, and the firmware refuses it.
-/
theorem owl_refused :
    let stopped := deviceStep foxAtHome (.install foxPack 1)
    foxAtHome.slot = .valid foxPack ∧
      storedId foxAtHome = foxPack.packId ∧
      Accepts stopped owlPack ∧ ¬ Exposes stopped owlPack := by
  have transition :
      transitionOf (deviceStep foxAtHome (.install foxPack 1)) owlPack =
        some ⟨false, false, false, some 0⟩ := by
    decide +kernel
  have stored :
      storedId (deviceStep foxAtHome (.install foxPack 1)) = 1 := by
    decide +kernel
  have accepts :
      Accepts (deviceStep foxAtHome (.install foxPack 1)) owlPack := by
    rfl
  refine ⟨rfl, rfl, accepts, ?_⟩
  rw [exposes_iff accepts]
  rintro (zero | own | ⟨found, decided, destructive, _⟩)
  · rw [stored] at zero
    exact absurd zero (by decide)
  · rw [stored] at own
    exact absurd own (by decide)
  · rw [transition] at decided
    cases decided
    cases destructive

end Kitsu.Replacement
