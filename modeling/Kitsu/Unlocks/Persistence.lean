import Kitsu.Lib.FixedRecords
import Kitsu.Unlocks.CodeStore

/-!
# What the ledger loads

A persisted record and a persisted header are codecs of fixed size.  A byte string
loads exactly when it is an image of valid records with distinct codes and ids
under either layout; the room behind the records may hold anything that the
checksum covers.
-/

namespace Kitsu.Unlocks

open Kitsu.Lib Kitsu.Lib.Run
open Kitsu.Lib.ByteString Kitsu.Lib.FixedRecords
open Kitsu.Crc32

/-! ## Packed records -/

theorem length_bytes (record : PersistedRecord) :
    record.bytes.length = kPersistedRecordBytes := by
  simp only [PersistedRecord.bytes, List.length_append, List.length_cons,
    List.length_nil, length_littleEndian, ByteVec.length_bytes]
  rfl

theorem read_bytes (record : PersistedRecord) (rest : Bytes) :
    PersistedRecord.read (record.bytes ++ rest) = record := by
  have codeId : (record.bytes ++ rest).drop 0 =
      littleEndian 4 record.codeId.toNat ++ (record.code.bytes ++
        (littleEndian 4 record.packId.toNat ++ (record.creatureName.bytes ++
          (record.rarity :: (record.source.bytes ++
            (littleEndian 4 record.acquiredAtEpoch.toNat ++
              record.redeemed :: record.installed :: rest)))))) := by
    simp only [PersistedRecord.bytes, List.drop_zero, List.append_assoc,
      List.cons_append, List.nil_append]
  have code := drop_at (length_littleEndian 4 _) codeId
  have packId := drop_at record.code.length_bytes code
  have creatureName := drop_at (length_littleEndian 4 _) packId
  have rarity := drop_at record.creatureName.length_bytes creatureName
  have source := @drop_at _ _ _ [record.rarity] 1 rfl rarity
  have acquiredAtEpoch := drop_at record.source.length_bytes source
  have redeemed := drop_at (length_littleEndian 4 _) acquiredAtEpoch
  have installed := @drop_at _ _ _ [record.redeemed] 1 rfl redeemed
  rw [PersistedRecord.read, @getU32_at _ _ 0 _ codeId, @slice_at _ _ 4 _ _ code,
    @getU32_at _ _ 25 _ packId, @slice_at _ _ 29 _ _ creatureName,
    @getD_at _ _ 54 _ rarity, @slice_at _ _ 55 _ _ source,
    @getU32_at _ _ 72 _ acquiredAtEpoch, @getD_at _ _ 76 _ redeemed,
    @getD_at _ _ 77 _ installed, UInt32.ofNat_toNat, UInt32.ofNat_toNat, UInt32.ofNat_toNat]

theorem bytes_read {buffer : Bytes}
    (inside : kPersistedRecordBytes ≤ buffer.length) :
    (PersistedRecord.read buffer).bytes =
      buffer.take kPersistedRecordBytes := by
  have length : 78 ≤ buffer.length := inside
  have codeId := @take_field buffer 0 4 74
  have code := @take_field buffer 4 21 53
  have packId := @take_field buffer 25 4 49
  have creatureName := @take_field buffer 29 25 24
  have rarity := @take_byte buffer 54 23 (by omega)
  have source := @take_field buffer 55 17 6
  have acquiredAtEpoch := @take_field buffer 72 4 2
  have redeemed := @take_byte buffer 76 1 (by omega)
  have installed := @take_byte buffer 77 0 (by omega)
  rw [List.take_zero] at installed
  have whole : buffer.take kPersistedRecordBytes = (buffer.drop 0).take 78 :=
    rfl
  rw [whole, codeId, code, packId, creatureName, rarity, source,
    acquiredAtEpoch, redeemed, installed]
  simp only [PersistedRecord.bytes, PersistedRecord.read]
  rw [toNat_getU32, toNat_getU32, toNat_getU32,
    littleEndian_getU32 (by omega), littleEndian_getU32 (by omega),
    littleEndian_getU32 (by omega), slice_bytes (show 4 + 21 ≤ _ by omega),
    slice_bytes (show 29 + 25 ≤ _ by omega),
    slice_bytes (show 55 + 17 ≤ _ by omega)]

theorem recordCodec : Codec kPersistedRecordBytes PersistedRecord.bytes
    PersistedRecord.read where
  length := length_bytes
  read_write := read_bytes
  write_read := fun _ inside => bytes_read inside

theorem copyFromPersisted_copyToPersisted (record : CodeRecord) :
    copyFromPersisted (copyToPersisted record) = record := by
  rcases record with ⟨_, _, _, _, _, _, _, redeemed, installed⟩
  cases redeemed <;> cases installed <;> rfl

/-- Flags that are bits are copied there and back. -/
theorem copyToPersisted_copyFromPersisted {record : PersistedRecord}
    (redeemed : record.redeemed ≤ 1) (installed : record.installed ≤ 1) :
    copyToPersisted (copyFromPersisted record) = record := by
  have bit (flag : UInt8) (bounded : flag ≤ 1) :
      (if flag != 0 then 1 else 0) = flag := by
    rw [UInt8.le_iff_toNat_le] at bounded
    by_cases zero : flag = 0
    · simp [zero]
    · rw [if_pos (bne_iff_ne.mpr zero)]
      apply UInt8.toNat_inj.mp
      have positive : flag.toNat ≠ 0 := fun none =>
        zero (UInt8.toNat_inj.mp none)
      have one : (1 : UInt8).toNat = 1 := rfl
      omega
  have first := bit record.redeemed redeemed
  have second := bit record.installed installed
  calc
    copyToPersisted (copyFromPersisted record) =
        { record with
          redeemed := if record.redeemed != 0 then 1 else 0
          installed := if record.installed != 0 then 1 else 0 } := rfl
    _ = record := by rw [first, second]

/-! ## Identity -/

/-- A text that fills its array ends with the array's last byte. -/
theorem terminated {code : FormattedCode}
    (full : boundedLength code.bytes (kFormattedCodeBytes - 1) =
      kFormattedCodeBytes - 1) : code.bytes = cString code.bytes ++ [0] := by
  have whole : code.bytes.take (kFormattedCodeBytes - 1 + 1) = code.bytes :=
    List.take_of_length_le (Nat.le_of_eq code.length_bytes)
  rw [boundedLength, whole] at full
  have split := List.takeWhile_append_dropWhile (p := (· != 0))
    (l := code.bytes)
  have length := congrArg List.length split
  rw [List.length_append, code.length_bytes] at length
  rw [cString] at full ⊢
  have one : (code.bytes.dropWhile (· != 0)).length = 1 := by
    have bytes : kFormattedCodeBytes = kFormattedCodeBytes - 1 + 1 := rfl
    omega
  rcases List.length_eq_one_iff.mp one with ⟨byte, last⟩
  have zero : byte = 0 := by
    have head := List.head?_dropWhile_not (· != 0) code.bytes
    rw [last] at head
    simpa using head
  rw [last, zero] at split
  exact split.symm

/-- The stored code of a record is the code that its text normalises to. -/
structure ValidRecord (record : CodeRecord) : Prop where
  codeId : record.codeId = Unlocks.codeId record.code.bytes
  full : boundedLength record.code.bytes (kFormattedCodeBytes - 1) =
    kFormattedCodeBytes - 1
  normalized : normalizeCode record.code.bytes = some record.code

theorem cString_normalized {input : Bytes} {code : FormattedCode}
    (normalized : normalizeCode input = some code) :
    code.bytes = cString code.bytes ++ [0] := by
  rcases normalizeCode_eq_some.mp normalized with
    ⟨characters, -, -, known, formatted⟩
  rw [cString_formatted known formatted]
  exact formatCode_bytes formatted

variable {record : CodeRecord}

theorem validRecord_valid (valid : validRecord record = true) :
    ValidRecord record := by
  rw [validRecord, Bool.and_eq_true, Bool.and_eq_true, Bool.and_eq_true] at valid
  rcases valid with ⟨⟨-, full⟩, rest⟩
  have whole := terminated (beq_iff_eq.mp full)
  cases normalized : normalizeCode record.code.bytes with
  | none =>
    rw [normalized] at rest
    cases rest
  | some code =>
    simp only [normalized, Bool.and_eq_true, beq_iff_eq] at rest
    rcases rest with ⟨⟨⟨⟨text, codeId⟩, -⟩, -⟩, -⟩
    have same : code = record.code := by
      apply ByteVec.ext
      rw [cString_normalized normalized, whole, text]
    rw [same] at codeId normalized
    exact ⟨codeId.symm, beq_iff_eq.mp full, normalized⟩

/-- Two valid records with the same text have the same code. -/
theorem code_eq_of_cString {other : CodeRecord} (valid : ValidRecord record)
    (otherValid : ValidRecord other)
    (same : cString record.code.bytes = cString other.code.bytes) :
    record.code = other.code := by
  apply ByteVec.ext
  rw [terminated valid.full, terminated otherValid.full, same]

/-- No two records share a code or an id. -/
def Distinct (records : List CodeRecord) : Prop :=
  records.Pairwise fun record other =>
    record.codeId ≠ other.codeId ∧ record.code ≠ other.code

/-- Records that a store may hold. -/
structure Ledger (records : List CodeRecord) : Prop where
  valid : ∀ record ∈ records, validRecord record = true
  distinct : Distinct records

theorem sharesIdentity_eq_false {candidate : CodeRecord}
    (valid : validRecord record = true)
    (candidateValid : validRecord candidate = true) :
    sharesIdentity (copyToPersisted record) candidate = false ↔
      record.codeId ≠ candidate.codeId ∧ record.code ≠ candidate.code := by
  have copied : (copyToPersisted record).code = record.code := rfl
  have id : (copyToPersisted record).codeId = record.codeId := rfl
  rw [sharesIdentity, Bool.or_eq_false_iff, beq_eq_false_iff_ne,
    beq_eq_false_iff_ne, copied, id]
  constructor
  · rintro ⟨ids, texts⟩
    exact ⟨ids, fun same => texts (congrArg (cString ·.bytes) same)⟩
  · rintro ⟨ids, codes⟩
    exact ⟨ids, fun same => codes (code_eq_of_cString (validRecord_valid valid)
      (validRecord_valid candidateValid) same)⟩

/-! ## Images -/

/-- The size of a store in a format. -/
def Layout.size (layout : Layout) : Nat :=
  kPersistedEnvelopeBytes + kPersistedRecordBytes * layout.expectedCapacity

/-- One of the two layouts. -/
def Known (layout : Layout) : Prop :=
  layout = legacyLayout ∨ layout = currentLayout

/-- What a store writes, with these bytes in the room behind the records. -/
def image (layout : Layout) (records : List CodeRecord) (generation : UInt32)
    (unused : Bytes) : Bytes :=
  checksummed
    (PersistedHeader.bytes {
        schema := layout.expectedSchema
        size := layout.size
        generation
        count := records.length.toUInt8 } ++
      ((records.map fun record => (copyToPersisted record).bytes).flatten ++
        unused))

/-- The bytes are an image of a ledger. -/
structure Image (layout : Layout) (records : List CodeRecord)
    (generation : UInt32) (input : Bytes) : Prop where
  known : Known layout
  fits : records.length ≤ layout.expectedCapacity
  ledger : Ledger records
  written : ∃ unused : Bytes, unused.length = kPersistedRecordBytes *
      (layout.expectedCapacity - records.length) ∧
    input = image layout records generation unused

theorem length_header (header : PersistedHeader) :
    header.bytes.length = kPersistedHeaderBytes := by
  simp only [PersistedHeader.bytes, List.length_append, List.length_cons,
    List.length_nil, length_littleEndian]

section Written

variable {layout : Layout} {records : List CodeRecord} {generation : UInt32}
  {unused : Bytes}

/-- The packed records of a ledger. -/
def packed (records : List CodeRecord) : Bytes :=
  ((records.map copyToPersisted).map PersistedRecord.bytes).flatten

theorem packed_eq (records : List CodeRecord) :
    (records.map fun record => (copyToPersisted record).bytes).flatten =
      packed records := by
  rw [packed, List.map_map]
  rfl

theorem length_packed (records : List CodeRecord) :
    (packed records).length = records.length * kPersistedRecordBytes := by
  rw [packed, length_flatten recordCodec.toFormat, List.length_map]

theorem capacity_le (known : Known layout) :
    layout.expectedCapacity ≤ kCodeCapacity := by
  rcases known with rfl | rfl
  · decide
  · decide

theorem length_body (fits : records.length ≤ layout.expectedCapacity)
    (room : unused.length = kPersistedRecordBytes *
      (layout.expectedCapacity - records.length)) (header : PersistedHeader) :
    (header.bytes ++ (packed records ++ unused)).length = layout.size - 4 := by
  rw [List.length_append, List.length_append, length_header, length_packed, room,
    Layout.size]
  have sixteen : kPersistedHeaderBytes = 16 := rfl
  have twenty : kPersistedEnvelopeBytes = 20 := rfl
  have size : kPersistedRecordBytes = 78 := rfl
  rw [sixteen, twenty, size]
  omega

theorem length_checksummed (body : Bytes) :
    (checksummed body).length = body.length + 4 := by
  rw [checksummed, List.length_append, length_littleEndian]

theorem length_image (fits : records.length ≤ layout.expectedCapacity)
    (room : unused.length = kPersistedRecordBytes *
      (layout.expectedCapacity - records.length)) :
    (image layout records generation unused).length = layout.size := by
  have envelope : 4 ≤ layout.size := Nat.le_add_right_of_le (by decide)
  rw [image, packed_eq, length_checksummed, length_body fits room]
  omega

/-- The checksum of checksummed bytes is right. -/
theorem checksum_checksummed {body : Bytes} {size : Nat}
    (length : body.length = size - 4) :
    getU32 (checksummed body) (size - 4) =
      (crc32 ((checksummed body).take (size - 4))).toNat := by
  have stands : (checksummed body).drop (size - 4) =
      littleEndian 4 (crc32 body).toNat ++ [] := by
    rw [checksummed, List.drop_left' length, List.append_nil]
  rw [getU32_at stands, checksummed, List.take_left' length]

theorem layoutOf_size (known : Known layout) :
    layoutOf layout.size = some layout := by
  rcases known with rfl | rfl
  · rfl
  · rfl

/-- What stands at the front of an image. -/
theorem image_header :
    (image layout records generation unused).drop 0 =
      littleEndian 4 (UInt32.ofNat kStoreMagic).toNat ++
        (littleEndian 2 layout.expectedSchema ++ (littleEndian 2 layout.size ++
            (littleEndian 4 generation.toNat ++
              (records.length.toUInt8 :: 0 :: 0 :: 0 ::
                (packed records ++ (unused ++ littleEndian 4 (crc32
                  (PersistedHeader.bytes {
                      schema := layout.expectedSchema
                      size := layout.size
                      generation
                      count := records.length.toUInt8 } ++
                    (packed records ++ unused))).toNat)))))) := by
  have magic : (UInt32.ofNat kStoreMagic).toNat = kStoreMagic := rfl
  rw [image, packed_eq, magic]
  simp only [checksummed, PersistedHeader.bytes, List.drop_zero,
    List.append_assoc, List.cons_append, List.nil_append]

/-- The fields that an image's header holds. -/
theorem image_fields (known : Known layout)
    (fits : records.length ≤ layout.expectedCapacity) :
    let input := image layout records generation unused
    getU32 input 0 = kStoreMagic ∧ getU16 input 4 = layout.expectedSchema ∧
      getU16 input 6 = layout.size ∧ getU32 input 8 = generation.toNat ∧
      headerCount input = records.length ∧ input.getD 13 0 = 0 ∧
      input.getD 14 0 = 0 ∧ input.getD 15 0 = 0 ∧
      ∃ checksum, input.drop 16 = packed records ++ (unused ++ checksum) := by
  intro input
  have small : layout.expectedSchema < 65536 ∧ layout.size < 65536 := by
    rcases known with rfl | rfl
    · exact ⟨by decide, by decide⟩
    · exact ⟨by decide, by decide⟩
  have within := capacity_le known
  have magic : input.drop 0 = _ := image_header
  have schema := drop_at (length_littleEndian 4 _) magic
  have size := drop_at (length_littleEndian 2 _) schema
  have generations := drop_at (length_littleEndian 2 _) size
  have count := drop_at (length_littleEndian 4 _) generations
  have first := @drop_at _ _ _ [records.length.toUInt8] 1 rfl count
  have second := @drop_at _ _ _ [0] 1 rfl first
  have third := @drop_at _ _ _ [0] 1 rfl second
  have body := @drop_at _ _ _ [0] 1 rfl third
  refine ⟨@getU32_at _ _ 0 _ magic, @getU16_at _ _ 4 _ small.1 schema,
    @getU16_at _ _ 6 _ small.2 size, @getU32_at _ _ 8 _ generations, ?_,
    @getD_at _ _ 13 _ first, @getD_at _ _ 14 _ second, @getD_at _ _ 15 _ third,
    _, body⟩
  apply Nat.mod_eq_of_lt
  have capacity : kCodeCapacity < 2 ^ 8 := by decide
  omega

/-- The envelope of an image is valid. -/
theorem image_envelope (known : Known layout)
    (fits : records.length ≤ layout.expectedCapacity)
    (room : unused.length = kPersistedRecordBytes *
      (layout.expectedCapacity - records.length)) :
    envelopeValid layout (image layout records generation unused) = true := by
  have length := @length_image layout records generation unused fits room
  rcases @image_fields layout records generation unused known fits with
    ⟨magic, schema, size, -, count, first, second, third, -⟩
  have checksum := checksum_checksummed (length_body fits room {
    schema := layout.expectedSchema
    size := layout.size
    generation
    count := records.length.toUInt8 })
  rw [← packed_eq] at checksum
  rw [envelopeValid, length, magic, schema, size, count, first, second, third]
  simp only [beq_self_eq_true, decide_eq_true fits, Bool.true_and]
  exact beq_iff_eq.mpr checksum

/-- The records of an image are read back. -/
theorem image_records (known : Known layout)
    (fits : records.length ≤ layout.expectedCapacity) :
    (List.range records.length).map
        (persistedAt (image layout records generation unused)) =
      records.map copyToPersisted := by
  rcases @image_fields layout records generation unused known fits with
    ⟨-, -, -, -, -, -, -, -, checksum, body⟩
  have back := table_flatten recordCodec.toFormat
    (records.map copyToPersisted) (unused ++ checksum)
  rw [List.length_map, List.map_id, table] at back
  rw [← back]
  apply List.map_congr_left
  intro index _
  rw [persistedAt, ← List.drop_drop]
  exact congrArg (fun buffer => PersistedRecord.read
    (List.drop (index * kPersistedRecordBytes) buffer)) body

end Written

/-! ## Loading -/

theorem copied_flags (record : CodeRecord) :
    (copyToPersisted record).redeemed ≤ 1 ∧
      (copyToPersisted record).installed ≤ 1 := by
  have bit (flag : Bool) : (if flag then (1 : UInt8) else 0) ≤ 1 := by
    cases flag <;> decide
  exact ⟨bit record.redeemed, bit record.installed⟩

/-- The records read from a buffer are these. -/
def Reads (input : Bytes) (records : List CodeRecord) : Prop :=
  (List.range records.length).map (persistedAt input) =
    records.map copyToPersisted

section Reads

variable {input : Bytes} {records : List CodeRecord}

theorem Reads.at (reads : Reads input records) {index : Nat}
    (inside : index < records.length) :
    persistedAt input index = copyToPersisted records[index] := by
  have both := congrArg (fun list => list[index]?) reads
  simpa [inside] using both

/-- What is read is accepted exactly when it is a ledger. -/
theorem Reads.acceptable_iff (reads : Reads input records) :
    (List.range records.length).all (recordAcceptable input) = true ↔
      Ledger records := by
  have each (index : Nat) (inside : index < records.length) :
      recordAcceptable input index = true ↔
        validRecord records[index] = true ∧
          ∀ prior (earlier : prior < index),
            sharesIdentity (copyToPersisted records[prior])
              records[index] = false := by
    have flags := copied_flags records[index]
    rw [recordAcceptable, reads.at inside, copyFromPersisted_copyToPersisted]
    simp only [flags.1, flags.2, decide_true, Bool.true_and, Bool.and_eq_true,
      List.all_eq_true, List.mem_range, Bool.not_eq_true']
    constructor
    · rintro ⟨valid, others⟩
      refine ⟨valid, ?_⟩
      intro prior earlier
      rw [← reads.at (Nat.lt_trans earlier inside)]
      exact others prior earlier
    · rintro ⟨valid, others⟩
      refine ⟨valid, ?_⟩
      intro prior earlier
      rw [reads.at (Nat.lt_trans earlier inside)]
      exact others prior earlier
  constructor
  · intro all
    have accepted (index : Nat) (inside : index < records.length) :=
      (each index inside).mp
        (List.all_eq_true.mp all index (List.mem_range.mpr inside))
    constructor
    · intro record member
      rcases List.getElem_of_mem member with ⟨index, inside, rfl⟩
      exact (accepted index inside).1
    · apply List.pairwise_iff_getElem.mpr
      intro prior index priorInside inside earlier
      exact (sharesIdentity_eq_false (accepted prior priorInside).1
        (accepted index inside).1).mp ((accepted index inside).2 prior earlier)
  · intro ledger
    apply List.all_eq_true.mpr
    intro index member
    have inside := List.mem_range.mp member
    refine (each index inside).mpr ⟨ledger.valid _ (List.getElem_mem inside), ?_⟩
    intro prior earlier
    have priorInside := Nat.lt_trans earlier inside
    exact (sharesIdentity_eq_false (ledger.valid _ (List.getElem_mem priorInside))
      (ledger.valid _ (List.getElem_mem inside))).mpr
        (List.pairwise_iff_getElem.mp ledger.distinct prior index priorInside
          inside earlier)

theorem Reads.copied (reads : Reads input records) :
    (List.range records.length).map (fun index =>
      copyFromPersisted (persistedAt input index)) = records := by
  have both := congrArg (List.map copyFromPersisted) reads
  rw [List.map_map, List.map_map] at both
  have same : copyFromPersisted ∘ copyToPersisted = id :=
    funext copyFromPersisted_copyToPersisted
  rw [same, List.map_id] at both
  exact both

end Reads

/-- What a store is after loading records. -/
structure Loaded (layout : Layout) (records : List CodeRecord)
    (generation : UInt32) (store : CodeStore) : Prop where
  records : store.records = records
  generation : store.generation = generation
  migrationRequired : store.migrationRequired = layout.legacy

variable {store : CodeStore}

/-- A load that passes the checks takes what it reads. -/
theorem load_reads {input : Bytes} {layout : Layout} {records : List CodeRecord}
    (known : Known layout) (layouts : layoutOf input.length = some layout)
    (envelope : envelopeValid layout input = true)
    (count : headerCount input = records.length)
    (fits : records.length ≤ layout.expectedCapacity)
    (reads : Reads input records) (ledger : Ledger records) :
    (store.load input).1 = true ∧
      Loaded layout records (.ofNat (getU32 input 8)) (store.load input).2 := by
  have room : headerCount input ≤ kCodeCapacity := by
    rw [count]
    exact Nat.le_trans fits (capacity_le known)
  have accepted : ((List.range (headerCount input)).all
      (recordAcceptable input)) = true := by
    rw [count]
    exact reads.acceptable_iff.mpr ledger
  rw [CodeStore.load, layouts]
  simp only [envelope, accepted, Bool.not_true, Bool.false_eq_true, if_false,
    dif_pos room]
  refine ⟨trivial, ?_, rfl, rfl⟩
  simp only [count]
  exact reads.copied

/-- Every image of a ledger is loaded. -/
theorem load_image (store : CodeStore) {layout : Layout}
    {records : List CodeRecord} {generation : UInt32} {input : Bytes}
    (written : Image layout records generation input) :
    (store.load input).1 = true ∧
      Loaded layout records generation (store.load input).2 := by
  rcases written with ⟨known, fits, ledger, unused, room, rfl⟩
  rcases @image_fields layout records generation unused known fits with
    ⟨-, -, -, generations, count, -⟩
  have loaded := @load_reads store _ _ _ known
    (by rw [length_image fits room]; exact layoutOf_size known)
    (image_envelope known fits room) count fits (image_records known fits) ledger
  rw [generations, UInt32.ofNat_toNat] at loaded
  exact loaded

/-- A load that fails leaves the store as it was. -/
theorem load_refused {input : Bytes} (refused : (store.load input).1 = false) :
    (store.load input).2 = store := by
  revert refused
  rw [CodeStore.load]
  repeat' split
  all_goals first | exact fun _ => rfl | nofun

/-- What an accepted load has checked. -/
structure Checked (layout : Layout) (input : Bytes) : Prop where
  known : Known layout
  length : input.length = layout.size
  envelope : envelopeValid layout input = true
  records : (List.range (headerCount input)).all (recordAcceptable input) = true

theorem load_checked {input : Bytes} (loaded : (store.load input).1 = true) :
    ∃ layout, Checked layout input := by
  rw [CodeStore.load, layoutOf] at loaded
  have checks {layout : Layout} (known : Known layout)
      (length : input.length = layout.size)
      (accepted : (if !envelopeValid layout input then (false, store)
        else if !(List.range (headerCount input)).all (recordAcceptable input)
        then (false, store)
        else if fits : headerCount input ≤ kCodeCapacity then
          (true, {
            records := (List.range (headerCount input)).map fun index =>
              copyFromPersisted (persistedAt input index)
            generation := .ofNat (getU32 input 8)
            migrationRequired := layout.legacy
            bounded := by rw [List.length_map, List.length_range]; exact fits })
        else (false, store)).1 = true) : Checked layout input := by
    cases envelope : envelopeValid layout input with
    | false => simp [envelope] at accepted
    | true =>
      cases records : (List.range (headerCount input)).all
          (recordAcceptable input) with
      | false => simp [envelope, records] at accepted
      | true => exact ⟨known, length, envelope, records⟩
  by_cases legacy : input.length = kLegacyStoreSerializedBytes
  · rw [if_pos legacy] at loaded
    exact ⟨legacyLayout, checks (.inl rfl) legacy loaded⟩
  · rw [if_neg legacy] at loaded
    by_cases current : input.length = kStoreSerializedBytes
    · rw [if_pos current] at loaded
      exact ⟨currentLayout, checks (.inr rfl) current loaded⟩
    · rw [if_neg current] at loaded
      cases loaded

/-- What the envelope's checks say of the fields. -/
structure EnvelopeFields (layout : Layout) (input : Bytes) : Prop where
  magic : getU32 input 0 = kStoreMagic
  schema : getU16 input 4 = layout.expectedSchema
  size : getU16 input 6 = input.length
  count : headerCount input ≤ layout.expectedCapacity
  reserved : input.getD 13 0 = 0 ∧ input.getD 14 0 = 0 ∧ input.getD 15 0 = 0
  checksum : getU32 input (input.length - 4) =
    (crc32 (input.take (input.length - 4))).toNat

theorem envelopeValid_fields {layout : Layout} {input : Bytes}
    (valid : envelopeValid layout input = true) : EnvelopeFields layout input := by
  simp only [envelopeValid, Bool.and_eq_true, beq_iff_eq,
    decide_eq_true_eq] at valid
  rcases valid with
    ⟨⟨⟨⟨⟨⟨⟨magic, schema⟩, size⟩, count⟩, first⟩, second⟩, third⟩, checksum⟩
  exact ⟨magic, schema, size, count, ⟨first, second, third⟩, checksum⟩

theorem take_header {layout : Layout} {input : Bytes}
    (fields : EnvelopeFields layout input)
    (long : kPersistedHeaderBytes ≤ input.length) :
    input.take kPersistedHeaderBytes = PersistedHeader.bytes {
      schema := layout.expectedSchema
      size := input.length
      generation := .ofNat (getU32 input 8)
      count := (headerCount input).toUInt8 } := by
  have inside : 16 ≤ input.length := long
  have magic := @take_field input 0 4 12
  have schema := @take_field input 4 2 10
  have size := @take_field input 6 2 8
  have generations := @take_field input 8 4 4
  have count := @take_byte input 12 3 (by omega)
  have first := @take_byte input 13 2 (by omega)
  have second := @take_byte input 14 1 (by omega)
  have third := @take_byte input 15 0 (by omega)
  have whole : input.take kPersistedHeaderBytes = (input.drop 0).take 16 := rfl
  rw [List.take_zero] at third
  rw [whole, magic, schema, size, generations, count, first, second, third,
    fields.reserved.1, fields.reserved.2.1, fields.reserved.2.2,
    ← littleEndian_getU32 (by omega), ← littleEndian_getU16 (by omega),
    ← littleEndian_getU16 (by omega), ← littleEndian_getU32 (by omega),
    fields.magic, fields.schema, fields.size]
  simp only [PersistedHeader.bytes, toNat_getU32, headerCount, Nat.toUInt8,
    UInt8.ofNat_toNat]

/-- What is loaded is an image of a ledger. -/
theorem image_of_checked {layout : Layout} {input : Bytes}
    (checked : Checked layout input) :
    ∃ records, Image layout records (.ofNat (getU32 input 8)) input := by
  have fields := envelopeValid_fields checked.envelope
  have size : layout.size = 20 + 78 * layout.expectedCapacity := rfl
  have length := checked.length
  have count := fields.count
  have flags : ∀ index < headerCount input,
      (persistedAt input index).redeemed ≤ 1 ∧
        (persistedAt input index).installed ≤ 1 := by
    intro index inside
    have accepted := List.all_eq_true.mp checked.records index
      (List.mem_range.mpr inside)
    simp only [recordAcceptable, Bool.and_eq_true, decide_eq_true_eq] at accepted
    exact accepted.1.1
  let body := input.drop kPersistedHeaderBytes
  let stored := table kPersistedRecordBytes PersistedRecord.read
    (headerCount input) body
  have storedAt : stored =
      (List.range (headerCount input)).map (persistedAt input) := by
    apply List.map_congr_left
    intro index _
    rw [persistedAt, ← List.drop_drop]
  let records := stored.map copyFromPersisted
  have counted : records.length = headerCount input := by
    rw [List.length_map, storedAt, List.length_map, List.length_range]
  have copied : records.map copyToPersisted = stored := by
    rw [List.map_map]
    conv_rhs => rw [← List.map_id stored]
    apply List.map_congr_left
    intro record member
    rw [storedAt] at member
    rcases List.mem_map.mp member with ⟨index, inside, rfl⟩
    have bits := flags index (List.mem_range.mp inside)
    exact copyToPersisted_copyFromPersisted bits.1 bits.2
  have reads : Reads input records := by
    rw [Reads, counted, copied, storedAt]
  have ledger : Ledger records := by
    apply reads.acceptable_iff.mp
    rw [counted]
    exact checked.records
  have room : headerCount input * kPersistedRecordBytes ≤ body.length := by
    have header : kPersistedHeaderBytes = 16 := rfl
    have record : kPersistedRecordBytes = 78 := rfl
    rw [List.length_drop, length, size, header, record]
    omega
  have written : packed records =
      body.take (headerCount input * kPersistedRecordBytes) := by
    rw [packed, copied]
    exact flatten_table recordCodec room
  let unused := (body.drop (headerCount input * kPersistedRecordBytes)).take
    (kPersistedRecordBytes * (layout.expectedCapacity - headerCount input))
  have header := take_header fields
    (by rw [length, size]; exact Nat.le_add_right_of_le (by decide))
  have whole : input.take (input.length - 4) =
      input.take kPersistedHeaderBytes ++ (packed records ++ unused) := by
    have split : input.length - 4 = kPersistedHeaderBytes +
        (headerCount input * kPersistedRecordBytes + kPersistedRecordBytes *
            (layout.expectedCapacity - headerCount input)) := by
      have front : kPersistedHeaderBytes = 16 := rfl
      have record : kPersistedRecordBytes = 78 := rfl
      rw [length, size, front, record]
      omega
    rw [split, List.take_add, written]
    congr 1
    exact List.take_add
  refine ⟨records, checked.known, by rw [counted]; exact count, ledger, unused,
    ?_, ?_⟩
  · have front : kPersistedHeaderBytes = 16 := rfl
    have record : kPersistedRecordBytes = 78 := rfl
    rw [counted, List.length_take, List.length_drop, List.length_drop, length,
      size, front, record]
    omega
  · have last : input.drop (input.length - 4) =
        littleEndian 4 (crc32 (input.take (input.length - 4))).toNat := by
      rw [← fields.checksum, littleEndian_getU32 (by omega),
        List.take_of_length_le]
      rw [List.length_drop]
      omega
    calc
      input = input.take (input.length - 4) ++ input.drop (input.length - 4) :=
        (List.take_append_drop _ _).symm
      _ = checksummed (input.take (input.length - 4)) := by
        rw [last, checksummed]
      _ = image layout records (.ofNat (getU32 input 8)) unused := by
        rw [whole, header, image, packed_eq, counted, length]

/-- A byte string is loaded exactly when it is an image of a ledger. -/
theorem load_iff {input : Bytes} :
    (store.load input).1 = true ↔
      ∃ layout records generation, Image layout records generation input := by
  constructor
  · intro loaded
    rcases load_checked loaded with ⟨layout, checked⟩
    rcases image_of_checked checked with ⟨records, written⟩
    exact ⟨layout, records, _, written⟩
  · rintro ⟨layout, records, generation, written⟩
    exact (load_image store written).1

end Kitsu.Unlocks
