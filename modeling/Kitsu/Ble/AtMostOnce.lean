import Kitsu.Ble.ReplayCache
import Kitsu.Ble.Transcripts
import Kitsu.Lib.Run
import Kitsu.Sha256

/-!
# Actions are carried out at most once

Over every history of inspections, reservations, completions and reboots the
blob stays sound: it is sealed, its records are valid and have different
identifiers, and the unused slots are zero, so a reboot restores exactly the
same cache.  A reservation only takes a slot whose record has expired, hence a
record stays in its slot until its command expires, and until then the command
is reported as a duplicate.
-/

namespace Kitsu.Ble.AtMostOnce

open Kitsu.Lib.ByteString
open Kitsu.Lib.Run
open Kitsu.Ble.Action
open Kitsu.Ble.ReplayCache
open Kitsu.Ble.Transcripts

variable {sha256 : Bytes → Option (ByteVec 32)}
  {blob next : Blob} {command : BleActionCommand} {now slot : Nat}
  {record : Record} {digest : ByteVec 32}

/-! ## Sound blobs -/

/-- An identifier has at most one position. -/
def DistinctActions (records : List Record) : Prop :=
  ∀ (i j : Nat) (first second : Record), records[i]? = some first →
    records[j]? = some second → first.actionId = second.actionId → i = j

/-- What `valid` checks, as a proposition. -/
structure Sound (blob : Blob) : Prop where
  magic : blob.magic = kReplayMagic
  bytes : blob.bytes = blobBytes.toUInt16
  count : blob.count.toNat ≤ kBleActionReplayCapacity
  reserved : blob.reserved = 0
  crc : blob.crc32 = Crc32.crc32 blob.body
  occupied : ∀ record ∈ blob.occupied, occupiedRecordValid record = true
  distinct : DistinctActions blob.occupied
  free : ∀ record ∈ blob.free, record.allZero = true

theorem distinctActions_iff (records : List Record) :
    distinctActions records = true ↔ DistinctActions records := by
  rw [distinctActions, decide_eq_true_iff, List.pairwise_iff_getElem]
  constructor
  · intro pairwise i j first second firstAt secondAt same
    obtain ⟨iBound, rfl⟩ := List.getElem?_eq_some_iff.mp firstAt
    obtain ⟨jBound, rfl⟩ := List.getElem?_eq_some_iff.mp secondAt
    rcases Nat.lt_trichotomy i j with before | equal | behind
    · exact absurd same (pairwise i j iBound jBound before)
    · exact equal
    · exact absurd same.symm (pairwise j i jBound iBound behind)
  · intro distinct i j iBound jBound before same
    have equal := distinct i j _ _ (List.getElem?_eq_getElem iBound)
      (List.getElem?_eq_getElem jBound) same
    omega

theorem valid_iff : blob.valid = true ↔ Sound blob := by
  simp only [Blob.valid, Bool.and_eq_true, beq_iff_eq, decide_eq_true_eq,
    List.all_eq_true, distinctActions_iff]
  constructor
  · rintro ⟨⟨⟨⟨⟨⟨⟨magic, bytes⟩, count⟩, reserved⟩, crc⟩, occupied⟩,
      distinct⟩, free⟩
    exact ⟨magic, bytes, count, reserved, crc, occupied, distinct, free⟩
  · intro sound
    exact ⟨⟨⟨⟨⟨⟨⟨sound.magic, sound.bytes⟩, sound.count⟩, sound.reserved⟩,
      sound.crc⟩, sound.occupied⟩, sound.distinct⟩, sound.free⟩

/-- A sound blob survives being stored and loaded. -/
theorem Sound.reload (sound : Sound blob) :
    load blob.serialized = (blob, true) := by
  rw [load, if_neg (not_not.mpr blob.length_serialized),
    blob.parse_serialized, valid_iff.mpr sound]
  rfl

theorem Sound.length_occupied (sound : Sound blob) :
    blob.occupied.length = blob.count.toNat := by
  rw [Blob.occupied, List.length_take, blob.records_length]
  exact Nat.min_eq_left sound.count

/-- The record with an identifier is the one the search finds. -/
theorem Sound.find (sound : Sound blob)
    (at_ : blob.occupied[slot]? = some record) :
    blob.occupied.find? (·.actionId == record.actionId) =
      some record := by
  cases found : blob.occupied.find? (·.actionId == record.actionId) with
  | none =>
    have absent := List.find?_eq_none.mp found record
      (List.mem_of_getElem? at_)
    simp at absent
  | some other =>
    have same := List.find?_some found
    obtain ⟨j, otherAt⟩ := List.getElem?_of_mem (List.mem_of_find?_eq_some found)
    have equal := sound.distinct j slot other record otherAt at_
      (by simpa using same)
    subst equal
    rw [at_] at otherAt
    exact otherAt.symm

/-! ## Writing a record -/

/-- The next blob has this record in this slot and is otherwise the same. -/
structure Puts (blob next : Blob) (slot : Nat) (record : Record) :
    Prop where
  sound : Sound next
  here : next.occupied[slot]? = some record
  elsewhere : ∀ i, i ≠ slot → next.occupied[i]? = blob.occupied[i]?

theorem DistinctActions.update {records updated : List Record}
    (distinct : DistinctActions records) (here : updated[slot]? = some record)
    (elsewhere : ∀ i, i ≠ slot → updated[i]? = records[i]?)
    (alone : ∀ (i : Nat) (other : Record), i ≠ slot → records[i]? = some other →
      other.actionId ≠ record.actionId) : DistinctActions updated := by
  intro i j first second firstAt secondAt same
  by_cases iHere : i = slot
  · by_cases jHere : j = slot
    · rw [iHere, jHere]
    · rw [iHere, here] at firstAt
      rw [elsewhere j jHere] at secondAt
      cases firstAt
      exact absurd same.symm (alone j second jHere secondAt)
  · by_cases jHere : j = slot
    · rw [jHere, here] at secondAt
      rw [elsewhere i iHere] at firstAt
      cases secondAt
      exact absurd same (alone i first iHere firstAt)
    · rw [elsewhere i iHere] at firstAt
      rw [elsewhere j jHere] at secondAt
      exact distinct i j first second firstAt secondAt same

/-- The updated records are valid when the new one is. -/
theorem valid_of_update {records updated : List Record}
    (valid : ∀ record ∈ records, occupiedRecordValid record = true)
    (here : updated[slot]? = some record)
    (elsewhere : ∀ i, i ≠ slot → updated[i]? = records[i]?)
    (recordValid : occupiedRecordValid record = true) :
    ∀ record ∈ updated, occupiedRecordValid record = true := by
  intro other member
  obtain ⟨i, otherAt⟩ := List.getElem?_of_mem member
  by_cases iHere : i = slot
  · rw [iHere, here] at otherAt
    cases otherAt
    exact recordValid
  · rw [elsewhere i iHere] at otherAt
    exact valid other (List.mem_of_getElem? otherAt)

/-- A record written over one that is in use. -/
theorem Sound.put (sound : Sound blob) (inside : slot < blob.count.toNat)
    (recordValid : occupiedRecordValid record = true)
    (alone : ∀ (i : Nat) (other : Record), i ≠ slot →
      blob.occupied[i]? = some other → other.actionId ≠ record.actionId) :
    Puts blob (blob.put slot record) slot record := by
  have occupied : (blob.put slot record).occupied =
      blob.occupied.set slot record := List.take_set
  have free : (blob.put slot record).free = blob.free := by
    exact List.drop_set_of_lt inside
  have here : (blob.put slot record).occupied[slot]? = some record := by
    rw [occupied, List.getElem?_set_self]
    rw [sound.length_occupied]
    exact inside
  have elsewhere : ∀ i, i ≠ slot →
      (blob.put slot record).occupied[i]? = blob.occupied[i]? := by
    intro i other
    rw [occupied, List.getElem?_set_ne other.symm]
  constructor
  · constructor
    · exact sound.magic
    · exact sound.bytes
    · exact sound.count
    · exact sound.reserved
    · rfl
    · exact valid_of_update sound.occupied here elsewhere recordValid
    · exact sound.distinct.update here elsewhere alone
    · rw [free]
      exact sound.free
  · exact here
  · exact elsewhere

/-- A record written behind those in use. -/
theorem Sound.append (sound : Sound blob)
    (room : blob.count.toNat < kBleActionReplayCapacity)
    (recordValid : occupiedRecordValid record = true)
    (alone : ∀ (i : Nat) (other : Record), blob.occupied[i]? = some other →
        other.actionId ≠ record.actionId) :
    Puts blob
      (Blob.put { blob with count := blob.count + 1 } blob.count.toNat
        record) blob.count.toNat record := by
  have inside : blob.count.toNat < blob.records.length := by
    rw [blob.records_length]
    exact room
  have grown : (blob.count + 1).toNat = blob.count.toNat + 1 := by
    have small : blob.count.toNat < 8 := room
    simp
    omega
  set next := Blob.put { blob with count := blob.count + 1 }
    blob.count.toNat record with next_eq
  have occupied : next.occupied = blob.occupied ++ [record] := by
    show (blob.records.set blob.count.toNat record).take
      (blob.count + 1).toNat = _
    rw [grown, List.take_add_one, List.getElem?_set_self inside,
      List.take_set_of_le (Nat.le_refl _)]
    rfl
  have free : next.free = blob.free.drop 1 := by
    show (blob.records.set blob.count.toNat record).drop
      (blob.count + 1).toNat = _
    rw [grown, List.drop_set_of_lt (Nat.lt_succ_self _), Blob.free, List.drop_drop]
  have here : next.occupied[blob.count.toNat]? = some record := by
    rw [occupied, ← sound.length_occupied, List.getElem?_concat_length]
  have elsewhere : ∀ i, i ≠ blob.count.toNat →
      next.occupied[i]? = blob.occupied[i]? := by
    intro i other
    rw [occupied]
    rw [← sound.length_occupied] at other
    rcases Nat.lt_or_gt_of_ne other with before | behind
    · exact List.getElem?_append_left before
    · have past : (blob.occupied ++ [record]).length ≤ i := by
        rw [List.length_append]
        exact behind
      rw [List.getElem?_eq_none past, List.getElem?_eq_none (Nat.le_of_lt behind)]
  constructor
  · constructor
    · exact sound.magic
    · exact sound.bytes
    · show (blob.count + 1).toNat ≤ kBleActionReplayCapacity
      rw [grown]
      exact room
    · exact sound.reserved
    · rfl
    · exact valid_of_update sound.occupied here elsewhere recordValid
    · exact sound.distinct.update here elsewhere
        fun i other _ => alone i other
    · intro other member
      rw [free] at member
      exact sound.free other (List.mem_of_mem_drop member)
  · exact here
  · exact elsewhere

/-! ## Decisions -/

/-- The checks of a command's times, which precede the look at the records. -/
structure Current (command : BleActionCommand) (now : Nat) : Prop where
  trusted : kBleActionMinimumTrustedEpoch ≤ now ∧
    now ≤ kBleActionMaximumTrustedEpoch
  unexpired : now < command.expiresAtEpoch
  near : command.expiresAtEpoch - now ≤ kBleActionMaximumExpirySeconds

theorem inspect_current (digested : commandDigest sha256 command = some digest)
    (current : Current command now) :
    blob.inspect sha256 command now =
      match blob.occupied.find? (·.actionId == command.actionId) with
      | none => .fresh
      | some record =>
        if record.commandDigest = digest then
          if record.outcome = kReplayApplied then .duplicateApplied
          else .duplicateIndeterminate
        else if record.expiresAtEpoch.toNat ≤ now then .fresh
        else .conflict := by
  have inRange : ¬(now < kBleActionMinimumTrustedEpoch ∨
      now > kBleActionMaximumTrustedEpoch) := by
    have range := current.trusted
    omega
  rw [Blob.inspect, digested]
  simp only
  rw [if_neg inRange, if_neg (Nat.not_le.mpr current.unexpired)]
  exact if_neg (Nat.not_lt.mpr current.near)

/-- What a fresh decision says. -/
structure Fresh (blob : Blob) (command : BleActionCommand) (now : Nat) :
    Prop where
  current : Current command now
  reusable : ∀ record ∈ blob.occupied,
    record.actionId = command.actionId → record.expiresAtEpoch.toNat ≤ now

theorem Sound.fresh (sound : Sound blob)
    (decided : blob.inspect sha256 command now = .fresh) :
    ∃ digest, commandDigest sha256 command = some digest ∧
      Fresh blob command now := by
  cases digested : commandDigest sha256 command with
  | none =>
    rw [Blob.inspect, digested] at decided
    cases decided
  | some digest =>
    have current : Current command now := by
      rw [Blob.inspect, digested] at decided
      simp only at decided
      split at decided
      · cases decided
      split at decided
      · cases decided
      split at decided
      · cases decided
      exact ⟨by omega, by omega, by omega⟩
    refine ⟨digest, rfl, current, ?_⟩
    intro record member same
    rw [inspect_current digested current] at decided
    obtain ⟨i, recordAt⟩ := List.getElem?_of_mem member
    rw [← same, sound.find recordAt] at decided
    simp only at decided
    split at decided
    · split at decided <;> cases decided
    split at decided
    · assumption
    · cases decided

/-! ## Slots -/

/-- The search only finds expired records. -/
theorem expiredSlot_expired {actionId : ByteVec 16} {records : List Record}
    {index : Nat} {before : Option Nat}
    (found : expiredSlot actionId now index before records = some slot) :
    before = some slot ∨ ∃ i record, slot = index + i ∧
      records[i]? = some record ∧ record.expiresAtEpoch.toNat ≤ now := by
  induction records generalizing index before with
  | nil => exact .inl found
  | cons record rest induction =>
    have later : ∀ {earlier : Option Nat},
        expiredSlot actionId now (index + 1) earlier rest = some slot →
        earlier = some slot ∨ ∃ i other, slot = index + i ∧
          (record :: rest)[i]? = some other ∧
          other.expiresAtEpoch.toNat ≤ now := by
      intro earlier foundLater
      rcases induction foundLater with same | ⟨i, other, at_, rest⟩
      · exact .inl same
      · exact .inr ⟨i + 1, other, by omega, rest⟩
    rw [expiredSlot] at found
    split at found
    · rename_i expired
      have first : ∀ {position : Nat}, index = position →
          ∃ i other, position = index + i ∧
            (record :: rest)[i]? = some other ∧
            other.expiresAtEpoch.toNat ≤ now := by
        rintro position rfl
        exact ⟨0, record, rfl, rfl, expired⟩
      split at found
      · exact .inr (first (Option.some.inj found))
      · rcases later found with same | further
        · cases before with
          | none => exact .inr (first (Option.some.inj same))
          | some position => exact .inl same
        · exact .inr further
    · exact later found

/-- An expired record with the identifier is the one that is found. -/
theorem expiredSlot_same {actionId : ByteVec 16} {records : List Record}
    {index : Nat} {before : Option Nat} (member : record ∈ records)
    (expired : record.expiresAtEpoch.toNat ≤ now)
    (same : record.actionId = actionId) :
    ∃ i other, records[i]? = some other ∧ other.actionId = actionId ∧
      expiredSlot actionId now index before records = some (index + i) := by
  induction records generalizing index before with
  | nil => cases member
  | cons first rest induction =>
    by_cases here : first.expiresAtEpoch.toNat ≤ now ∧
        first.actionId = actionId
    · exact ⟨0, first, rfl, here.2,
        by simp [expiredSlot, here.1, here.2]⟩
    have behind : record ∈ rest := by
      rcases List.mem_cons.mp member with rfl | behind
      · exact absurd ⟨expired, same⟩ here
      · exact behind
    obtain ⟨earlier, step⟩ : ∃ earlier,
        expiredSlot actionId now index before (first :: rest) =
          expiredSlot actionId now (index + 1) earlier rest := by
      rw [expiredSlot]
      split
      · rename_i firstExpired
        rw [if_neg fun other => here ⟨firstExpired, other⟩]
        exact ⟨_, rfl⟩
      · exact ⟨_, rfl⟩
    obtain ⟨i, other, at_, otherSame, found⟩ := @induction (index + 1)
      earlier behind
    refine ⟨i + 1, other, at_, otherSame, ?_⟩
    rw [step, found]
    congr 1
    omega

/-! ## The operations -/

/-- The record of a command that was just reserved. -/
def pendingRecord (command : BleActionCommand) (digest : ByteVec 32) :
    Record :=
  ⟨command.actionId, digest, command.expiresAtEpoch.toUInt32, kReplayPending⟩

theorem pendingRecord_expires (valid : validReplayCommand command = true) :
    (pendingRecord command digest).expiresAtEpoch.toNat =
      command.expiresAtEpoch := by
  have bounded := (validReplayCommand_bounded valid).expires
  exact UInt32.toNat_ofNat_of_lt' bounded

theorem commandDigest_valid
    (digested : commandDigest sha256 command = some digest) :
    validReplayCommand command = true := by
  unfold commandDigest at digested
  split at digested
  · cases digested
  · rename_i valid
    simpa using valid

theorem pendingRecord_valid (valid : validReplayCommand command = true) :
    occupiedRecordValid (pendingRecord command digest) = true := by
  have expires := @pendingRecord_expires command digest valid
  simp only [validReplayCommand, Bool.and_eq_true, decide_eq_true_eq]
    at valid
  simp only [occupiedRecordValid, expires, Bool.and_eq_true, decide_eq_true_eq]
  refine ⟨⟨?_, valid.1.1.1.1.2⟩, valid.1.1.1.2⟩
  simp [pendingRecord]

/-- What a reservation writes. -/
structure Reserves (sha256 : Bytes → Option (ByteVec 32))
    (blob next : Blob) (command : BleActionCommand) (now slot : Nat)
    (digest : ByteVec 32) : Prop where
  current : Current command now
  digested : commandDigest sha256 command = some digest
  puts : Puts blob next slot (pendingRecord command digest)
  expired : ∀ old, blob.occupied[slot]? = some old →
    old.expiresAtEpoch.toNat ≤ now

theorem Sound.reserve_over (sound : Sound blob)
    (digested : commandDigest sha256 command = some digest)
    (fresh : Fresh blob command now)
    (found : expiredSlot command.actionId now 0 none blob.occupied = some slot) :
    Reserves sha256 blob (blob.reserve sha256 slot command).1 command now
      slot digest := by
  have valid := commandDigest_valid digested
  have written : blob.reserve sha256 slot command =
      (blob.put slot (pendingRecord command digest), true) := by
    rw [Blob.reserve, digested]
    rfl
  obtain none_ | ⟨i, old, slot_eq, oldAt, expired⟩ :=
    expiredSlot_expired found
  · cases none_
  obtain rfl : slot = i := by omega
  have inside : slot < blob.count.toNat := by
    rw [← sound.length_occupied]
    exact (List.getElem?_eq_some_iff.mp oldAt).1
  rw [written]
  constructor
  · exact fresh.current
  · exact digested
  · apply sound.put inside (pendingRecord_valid valid)
    intro j other elsewhere otherAt same
    -- a record with the identifier has expired, so the search finds it
    have member := List.mem_of_getElem? otherAt
    obtain ⟨k, found_, foundAt, foundSame, foundSlot⟩ :=
      @expiredSlot_same now other command.actionId blob.occupied 0 none
        member (fresh.reusable other member same) same
    have slots : slot = k := by
      rw [found] at foundSlot
      have equal := Option.some.inj foundSlot
      omega
    have position := sound.distinct j k other found_ otherAt foundAt
      (same.trans foundSame.symm)
    exact elsewhere (position.trans slots.symm)
  · intro other otherAt
    rw [oldAt] at otherAt
    cases otherAt
    exact expired

theorem Sound.reserve_behind (sound : Sound blob)
    (digested : commandDigest sha256 command = some digest)
    (fresh : Fresh blob command now)
    (found : expiredSlot command.actionId now 0 none blob.occupied = none)
    (room : blob.count.toNat < kBleActionReplayCapacity) :
    Reserves sha256 blob
      (Blob.reserve sha256 { blob with count := blob.count + 1 }
        blob.count.toNat command).1 command now blob.count.toNat
      digest := by
  have valid := commandDigest_valid digested
  have written : Blob.reserve sha256
        { blob with count := blob.count + 1 } blob.count.toNat command =
      (Blob.put { blob with count := blob.count + 1 } blob.count.toNat
        (pendingRecord command digest), true) := by
    rw [Blob.reserve, digested]
    rfl
  rw [written]
  constructor
  · exact fresh.current
  · exact digested
  · apply sound.append room (pendingRecord_valid valid)
    intro i other otherAt same
    have member := List.mem_of_getElem? otherAt
    obtain ⟨k, _, _, _, foundSlot⟩ :=
      @expiredSlot_same now other command.actionId blob.occupied 0 none
        member (fresh.reusable other member same) same
    rw [found] at foundSlot
    cases foundSlot
  · intro old oldAt
    rw [List.getElem?_eq_none (Nat.le_of_eq sound.length_occupied)] at oldAt
    cases oldAt

/--
A reservation leaves the blob as it is, and then a fresh command was refused, or
it writes the record of a fresh command.
-/
theorem Sound.remember (sound : Sound blob) :
    ((blob.remember sha256 command now).1 = blob ∧
      (blob.inspect sha256 command now = .fresh →
        (blob.remember sha256 command now).2 = false)) ∨
      ∃ slot digest, Reserves sha256 blob
        (blob.remember sha256 command now).1 command now slot digest := by
  cases decided : blob.inspect sha256 command now with
  | fresh =>
    obtain ⟨digest, digested, fresh⟩ := sound.fresh decided
    cases found : expiredSlot command.actionId now 0 none
        blob.occupied with
    | some slot =>
      have result : blob.remember sha256 command now =
          blob.reserve sha256 slot command := by
        rw [Blob.remember, decided]
        simp only [found]
      rw [result]
      exact .inr ⟨slot, digest, sound.reserve_over digested fresh found⟩
    | none =>
      by_cases full : kBleActionReplayCapacity ≤ blob.count.toNat
      · have result : blob.remember sha256 command now =
            (blob, false) := by
          rw [Blob.remember, decided]
          simp only [found, if_pos full]
        rw [result]
        exact .inl ⟨rfl, fun _ => rfl⟩
      · have result : blob.remember sha256 command now =
            Blob.reserve sha256 { blob with count := blob.count + 1 }
              blob.count.toNat command := by
          rw [Blob.remember, decided]
          simp only [found, if_neg full]
        rw [result]
        exact .inr ⟨blob.count.toNat, digest,
          sound.reserve_behind digested fresh found (Nat.lt_of_not_le full)⟩
  | _ =>
    rw [Blob.remember, decided]
    exact .inl ⟨rfl, by simp⟩

/-- The record after its command was carried out. -/
def Record.applied (record : Record) : Record :=
  { record with outcome := kReplayApplied }

/-- A completion marks the record of the command, if there is one. -/
theorem Sound.markApplied (sound : Sound blob) :
    (blob.markApplied sha256 command).1 = blob ∨
      ∃ slot record, blob.occupied[slot]? = some record ∧
        record.actionId = command.actionId ∧
        commandDigest sha256 command = some record.commandDigest ∧
        Puts blob (blob.markApplied sha256 command).1 slot
          (Record.applied record) := by
  cases digested : commandDigest sha256 command with
  | none =>
    left
    rw [Blob.markApplied, digested]
  | some digest =>
    cases found : blob.occupied.findIdx?
        (·.actionId == command.actionId) with
    | none =>
      left
      rw [Blob.markApplied, digested]
      simp only [found]
    | some slot =>
      obtain ⟨inside, same, _⟩ :=
        List.findIdx?_eq_some_iff_getElem.mp found
      obtain ⟨record, recordAt⟩ :
          ∃ record, blob.occupied[slot]? = some record :=
        ⟨_, List.getElem?_eq_getElem inside⟩
      have sameId : record.actionId = command.actionId := by
        rw [List.getElem?_eq_getElem inside] at recordAt
        cases recordAt
        simpa using same
      by_cases other : record.commandDigest = digest
      · have marked : blob.markApplied sha256 command =
            (blob.put slot (Record.applied record), true) := by
          rw [Blob.markApplied, digested]
          simp only [found, recordAt, if_neg (not_not.mpr other)]
          rfl
        rw [marked]
        refine .inr ⟨slot, record, recordAt, sameId, by rw [other], ?_⟩
        apply sound.put
        · rw [← sound.length_occupied]
          exact inside
        · have valid := sound.occupied record
            (List.mem_of_getElem? recordAt)
          simp only [occupiedRecordValid, Bool.and_eq_true] at valid ⊢
          refine ⟨⟨?_, valid.1.2⟩, valid.2⟩
          simp [Record.applied]
        · intro i second elsewhere secondAt sameSecond
          exact elsewhere
            (sound.distinct i slot second record secondAt recordAt sameSecond)
      · left
        rw [Blob.markApplied, digested]
        simp only [found, recordAt, if_pos other]

/-! ## Histories -/

/-- What the owner of the cache does with it. -/
inductive Operation where
  | inspect (command : BleActionCommand) (now : Nat)
  | remember (command : BleActionCommand) (now : Nat)
  | markApplied (command : BleActionCommand)
  | reboot

/-- The trusted time an operation is given. -/
def Operation.time : Operation → Option Nat
  | .inspect _ now | .remember _ now => some now
  | .markApplied _ | .reboot => none

/-- What an operation makes of the cache; a reboot loads what was written. -/
def step (sha256 : Bytes → Option (ByteVec 32)) (blob : Blob) :
    Operation → Blob
  | .inspect _ _ => blob
  | .remember command now => (blob.remember sha256 command now).1
  | .markApplied command => (blob.markApplied sha256 command).1
  | .reboot => (load blob.serialized).1

/-- The times of a history and the present do not decrease. -/
def NonDecreasing (history : List Operation) (now : Nat) : Prop :=
  (history.filterMap Operation.time ++ [now]).Pairwise (· ≤ ·)

theorem Sound.step (sound : Sound blob) (operation : Operation) :
    Sound (step sha256 blob operation) := by
  cases operation with
  | inspect command now => exact sound
  | remember command now =>
    rcases @Sound.remember sha256 _ command now sound with
      ⟨same, _⟩ | ⟨slot, digest, reserves⟩
    · show Sound (blob.remember sha256 command now).1
      rw [same]
      exact sound
    · exact reserves.puts.sound
  | markApplied command =>
    rcases @Sound.markApplied sha256 _ command sound with
      same | ⟨slot, record, _, _, _, puts⟩
    · show Sound (blob.markApplied sha256 command).1
      rw [same]
      exact sound
    · exact puts.sound
  | reboot =>
    show Sound (load blob.serialized).1
    rw [sound.reload]
    exact sound

/-- The records agree in all but the outcome. -/
structure SameBinding (record kept : Record) : Prop where
  actionId : kept.actionId = record.actionId
  commandDigest : kept.commandDigest = record.commandDigest
  expiresAtEpoch : kept.expiresAtEpoch = record.expiresAtEpoch

/-- The outcome changes only when the command of the record is completed. -/
def OutcomeKept (sha256 : Bytes → Option (ByteVec 32))
    (operation : Operation) (record kept : Record) : Prop :=
  kept.outcome = record.outcome ∨
    kept.outcome = kReplayApplied ∧ ∃ command,
      operation = .markApplied command ∧
        command.actionId = record.actionId ∧
        commandDigest sha256 command = some record.commandDigest

/-- A record stays in its slot as long as it has not expired. -/
theorem Sound.keeps (sound : Sound blob) {operation : Operation}
    (recordAt : blob.occupied[slot]? = some record)
    (unexpired : ∀ time, operation.time = some time →
      time < record.expiresAtEpoch.toNat) :
    ∃ kept, (AtMostOnce.step sha256 blob operation).occupied[slot]? =
        some kept ∧
      SameBinding record kept ∧
        OutcomeKept sha256 operation record kept := by
  have unchanged : ∀ {other : Blob}, other = blob →
      ∃ kept, other.occupied[slot]? = some kept ∧
        SameBinding record kept ∧
          OutcomeKept sha256 operation record kept := by
    rintro other rfl
    exact ⟨record, recordAt, ⟨rfl, rfl, rfl⟩, .inl rfl⟩
  cases operation with
  | inspect command now => exact unchanged rfl
  | remember command now =>
    rcases @Sound.remember sha256 _ command now sound with
      ⟨same, _⟩ | ⟨taken, digest, reserves⟩
    · exact unchanged same
    · have elsewhere : slot ≠ taken := by
        rintro rfl
        have expired := reserves.expired record recordAt
        have later := unexpired now rfl
        omega
      refine ⟨record, ?_, ⟨rfl, rfl, rfl⟩, .inl rfl⟩
      exact (reserves.puts.elsewhere slot elsewhere).trans recordAt
  | markApplied command =>
    rcases @Sound.markApplied sha256 _ command sound with
      same | ⟨marked, old, oldAt, sameId, digested, puts⟩
    · exact unchanged same
    · by_cases here : slot = marked
      · subst here
        rw [recordAt] at oldAt
        cases oldAt
        exact ⟨Record.applied record, puts.here, ⟨rfl, rfl, rfl⟩,
          .inr ⟨rfl, command, rfl, sameId.symm, digested⟩⟩
      · refine ⟨record, ?_, ⟨rfl, rfl, rfl⟩, .inl rfl⟩
        exact (puts.elsewhere slot here).trans recordAt
  | reboot =>
    apply unchanged
    show (load blob.serialized).1 = blob
    rw [sound.reload]

/-! ## Reserved commands -/

/-- The blob has the record of a command. -/
def Held (blob : Blob) (command : BleActionCommand)
    (digest : ByteVec 32) : Prop :=
  ∃ (slot : Nat) (record : Record), blob.occupied[slot]? = some record ∧
    record.actionId = command.actionId ∧ record.commandDigest = digest ∧
    record.expiresAtEpoch.toNat = command.expiresAtEpoch

/-- A command that was reserved stays held until it expires. -/
theorem Held.exec (sound : Sound blob) (held : Held blob command digest)
    {later : List Operation} (unexpired : ∀ operation ∈ later, ∀ time,
      operation.time = some time → time < command.expiresAtEpoch) :
    Sound (exec (step sha256) blob later) ∧
      Held (exec (step sha256) blob later) command digest := by
  induction later using List.reverseRecOn with
  | nil => exact ⟨sound, held⟩
  | append_singleton later operation induction =>
    obtain ⟨soundBefore, slot, record, recordAt, sameId, sameDigest,
      expires⟩ := induction fun earlier member =>
        unexpired earlier (List.mem_append_left _ member)
    rw [exec_concat]
    refine ⟨soundBefore.step operation, ?_⟩
    obtain ⟨kept, keptAt, binding, _⟩ :=
      @Sound.keeps sha256 _ _ _ soundBefore operation recordAt (by
        intro time timed
        rw [expires]
        exact unexpired operation (by simp) time timed)
    exact ⟨slot, kept, keptAt, binding.actionId.trans sameId,
      binding.commandDigest.trans sameDigest, by
        rw [binding.expiresAtEpoch, expires]⟩

/-- A held command is a duplicate. -/
theorem Held.inspect (sound : Sound blob) (held : Held blob command digest)
    (digested : commandDigest sha256 command = some digest)
    (current : Current command now) :
    blob.inspect sha256 command now = .duplicateApplied ∨
      blob.inspect sha256 command now = .duplicateIndeterminate := by
  obtain ⟨slot, record, recordAt, sameId, sameDigest, _⟩ := held
  rw [inspect_current digested current, ← sameId, sound.find recordAt]
  simp only [if_pos sameDigest]
  split
  · exact .inl rfl
  · exact .inr rfl

/-- The refusals of another command with the identifier of a held one. -/
def Refused (decision : BleActionReplayDecision)
    (other : BleActionCommand) (now : Nat) : Prop :=
  decision = .conflict ∨
    decision = .expired ∧ other.expiresAtEpoch ≤ now ∨
    decision = .invalidExpiry ∧
      now + kBleActionMaximumExpirySeconds < other.expiresAtEpoch

theorem Held.refuses (sound : Sound blob)
    (held : Held blob command digest) {other : BleActionCommand}
    (sameAction : other.actionId = command.actionId)
    (different : commandDigest sha256 other ≠ some digest)
    (trusted : kBleActionMinimumTrustedEpoch ≤ now ∧
      now ≤ kBleActionMaximumTrustedEpoch)
    (unexpired : now < command.expiresAtEpoch) :
    Refused (blob.inspect sha256 other now) other now := by
  obtain ⟨slot, record, recordAt, sameId, sameDigest, expires⟩ := held
  cases digested : commandDigest sha256 other with
  | none =>
    rw [Blob.inspect, digested]
    exact .inl rfl
  | some otherDigest =>
    by_cases current : Current other now
    · left
      rw [inspect_current digested current, sameAction, ← sameId,
        sound.find recordAt]
      simp only
      rw [if_neg, if_neg]
      · omega
      · rintro same
        rw [digested, ← same, sameDigest] at different
        exact different rfl
    · rw [Blob.inspect, digested]
      simp only
      rw [if_neg (by omega)]
      split
      · exact .inr (.inl ⟨rfl, by assumption⟩)
      split
      · exact .inr (.inr ⟨rfl, by omega⟩)
      · rename_i later near
        exact absurd ⟨trusted, by omega, by omega⟩ current

/-! ## The results -/

variable {start : Blob} {history : List Operation}

theorem sound_exec (valid : start.valid = true) :
    Sound (exec (step sha256) start history) :=
  exec_invariant (valid_iff.mp valid)
    (fun _ operation sound => sound.step operation) history

/-- A reservation that succeeded on a fresh decision holds the command. -/
theorem held_of_remember (sound : Sound blob)
    (fresh : blob.inspect sha256 command now = .fresh)
    (succeeded : (blob.remember sha256 command now).2 = true) :
    ∃ digest, Current command now ∧
      commandDigest sha256 command = some digest ∧
      Held (blob.remember sha256 command now).1 command digest := by
  rcases @Sound.remember sha256 _ command now sound with
    ⟨_, refused⟩ | ⟨slot, digest, reserves⟩
  · rw [refused fresh] at succeeded
    cases succeeded
  · refine ⟨digest, reserves.current, reserves.digested, slot,
      pendingRecord command digest, reserves.puts.here, rfl, rfl, ?_⟩
    exact pendingRecord_expires (commandDigest_valid reserves.digested)

theorem NonDecreasing.past {earlier later : List Operation} {time : Nat} (ordered :
      NonDecreasing (earlier ++ .remember command time :: later) now) :
    time ≤ now ∧ ∀ operation ∈ later, ∀ other,
      operation.time = some other → other ≤ now := by
  have times : (earlier ++ .remember command time :: later).filterMap
      Operation.time = earlier.filterMap Operation.time ++
        time :: later.filterMap Operation.time := by
    simp [Operation.time]
  rw [NonDecreasing, times, List.pairwise_append] at ordered
  constructor
  · exact ordered.2.2 time (by simp) now (by simp)
  · intro operation member other timed
    have listed : other ∈ later.filterMap Operation.time :=
      List.mem_filterMap.mpr ⟨operation, member, timed⟩
    exact ordered.2.2 other (by simp [listed]) now (by simp)

theorem inspect_expired (digested : commandDigest sha256 command = some digest)
    (trusted : kBleActionMinimumTrustedEpoch ≤ now ∧
      now ≤ kBleActionMaximumTrustedEpoch)
    (expired : command.expiresAtEpoch ≤ now) :
    blob.inspect sha256 command now = .expired := by
  rw [Blob.inspect, digested]
  simp only
  rw [if_neg (by omega), if_pos expired]

theorem commandDigest_eq (valid : validReplayCommand command = true) :
    commandDigest sha256 command = sha256 (commandPreimage command) := by
  simp [commandDigest, valid]

/--
Commands are carried out at most once.  In every history of operations and
reboots with a trusted time that does not decrease, and at every present time:
a command that was reserved on a fresh decision is reported as a duplicate or as
expired, and until it expires another command with its identifier is refused; a
record that has not expired stays in its slot; no two records share an
identifier; and the stored blob is accepted and restores the same cache.
-/
theorem actions_at_most_once (sha256 : Bytes → Option (ByteVec 32))
    (start : Blob) (valid : start.valid = true)
    (history : List Operation) (now : Nat) (ordered : NonDecreasing history now)
    (trusted : kBleActionMinimumTrustedEpoch ≤ now ∧
      now ≤ kBleActionMaximumTrustedEpoch) :
    (∀ earlier command time later,
      history = earlier ++ .remember command time :: later →
      (exec (step sha256) start earlier).inspect sha256 command time = .fresh →
      ((exec (step sha256) start earlier).remember sha256 command time).2 = true →
      ((exec (step sha256) start history).inspect sha256 command now ∈
          [.duplicateApplied, .duplicateIndeterminate, .expired] ∧
        ∀ other : BleActionCommand, other.actionId = command.actionId →
          meaning other ≠ meaning command → (sha256 (commandPreimage other) =
            sha256 (commandPreimage command) →
              commandPreimage other = commandPreimage command) →
          now < command.expiresAtEpoch → Refused
            ((exec (step sha256) start history).inspect sha256 other now)
            other now)) ∧
    (∀ earlier operation later, history = earlier ++ operation :: later →
      ∀ (slot : Nat) (record : Record),
        (exec (step sha256) start earlier).occupied[slot]? = some record →
        (∀ time, operation.time = some time → time < record.expiresAtEpoch.toNat) →
        ∃ kept, (exec (step sha256) start
            (earlier ++ [operation])).occupied[slot]? = some kept ∧
          SameBinding record kept ∧ OutcomeKept sha256 operation record kept) ∧
    DistinctActions (exec (step sha256) start history).occupied ∧
    load (exec (step sha256) start history).serialized =
      (exec (step sha256) start history, true) := by
  refine ⟨?_, ?_, ?_, ?_⟩
  · rintro earlier command time later rfl fresh succeeded
    obtain ⟨digest, current, digested, held⟩ :=
      held_of_remember (sound_exec valid) fresh succeeded
    have sound : Sound ((exec (step sha256) start earlier).remember sha256
        command time).1 :=
      (@sound_exec sha256 start earlier valid).step (.remember command time)
    rw [exec_append]
    obtain ⟨timePast, laterPast⟩ := ordered.past
    have keeps : now < command.expiresAtEpoch →
        Sound (exec (step sha256) (exec (step sha256) start earlier)
          (.remember command time :: later)) ∧
        Held (exec (step sha256) (exec (step sha256) start earlier)
          (.remember command time :: later)) command digest := by
      intro unexpired
      apply held.exec sound
      intro operation member other timed
      exact Nat.lt_of_le_of_lt (laterPast operation member other timed)
        unexpired
    constructor
    · by_cases expired : command.expiresAtEpoch ≤ now
      · rw [inspect_expired digested trusted expired]
        simp
      · have unexpired := Nat.lt_of_not_le expired
        obtain ⟨soundLater, heldLater⟩ := keeps unexpired
        have still : Current command now := by
          refine ⟨trusted, unexpired, ?_⟩
          have near := current.near
          omega
        rcases heldLater.inspect soundLater digested still with
          applied | indeterminate
        · rw [applied]
          simp
        · rw [indeterminate]
          simp
    · intro other sameAction different collisionFree unexpired
      obtain ⟨soundLater, heldLater⟩ := keeps unexpired
      apply heldLater.refuses soundLater sameAction _ trusted unexpired
      intro same
      apply different
      have otherValid := commandDigest_valid same
      have commandValid := commandDigest_valid digested
      apply commandPreimage_injective otherValid commandValid
      apply collisionFree
      rw [commandDigest_eq otherValid] at same
      rw [commandDigest_eq commandValid] at digested
      rw [same, digested]
  · rintro earlier operation later rfl slot record recordAt unexpired
    rw [exec_concat]
    exact (@sound_exec sha256 start earlier valid).keeps recordAt unexpired
  · exact (sound_exec valid).distinct
  · exact (sound_exec valid).reload

/-- The hash that the firmware carries. -/
def firmwareHash (input : Bytes) : Option (ByteVec 32) :=
  some (Sha256.sha256 input)

/-- A command without parameters. -/
def sampleCommand (kind : Permissions.BleActionKind)
    (expiresAtEpoch : Nat) : BleActionCommand where
  actionId := ByteVec.replicate 16 7
  actionIdText := ascii "07070707-0707-0707-0707-070707070707"
  kind := kind
  expiresAtEpoch := expiresAtEpoch
  actionIdValid := true

def samplePet : BleActionCommand := sampleCommand .pet 1767225660

/-- The petting is reserved, the board reboots, and it is carried out. -/
def sampleHistory : List Operation :=
  [.remember samplePet 1767225600, .reboot, .markApplied samplePet]

theorem sample_at_most_once :
    (exec (step firmwareHash) reset sampleHistory).inspect firmwareHash
        samplePet 1767225620 ∈
      [.duplicateApplied, .duplicateIndeterminate, .expired] ∧
    Refused
      ((exec (step firmwareHash) reset sampleHistory).inspect firmwareHash
        (sampleCommand .feed 1767225650) 1767225620)
      (sampleCommand .feed 1767225650) 1767225620 := by
  have results := actions_at_most_once firmwareHash reset
    (by decide +kernel) sampleHistory 1767225620
    (by unfold NonDecreasing; decide) (by decide)
  have petting := results.1 [] samplePet 1767225600
    [.reboot, .markApplied samplePet] rfl (by decide +kernel)
    (by decide +kernel)
  refine ⟨petting.1, petting.2 _ rfl (by decide) ?_ (by decide)⟩
  intro same
  exact absurd same (by decide +kernel)

/-- Another command with the identifier of a live record is not a conflict. -/
theorem expired_before_conflict :
    reset.inspect firmwareHash samplePet 1767225600 = .fresh ∧
    (reset.remember firmwareHash samplePet 1767225600).2 = true ∧
    1767225620 < samplePet.expiresAtEpoch ∧
    (sampleCommand .feed 1767225610).actionId = samplePet.actionId ∧
    meaning (sampleCommand .feed 1767225610) ≠ meaning samplePet ∧
    (reset.remember firmwareHash samplePet 1767225600).1.inspect
      firmwareHash (sampleCommand .feed 1767225610) 1767225620 =
        .expired := by
  decide +kernel

end Kitsu.Ble.AtMostOnce
