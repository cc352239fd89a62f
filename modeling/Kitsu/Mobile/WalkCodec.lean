import Kitsu.Crc32
import Kitsu.Lib.FixedRecords
import Mathlib.Algebra.Group.Action.Defs
import Mathlib.Algebra.Order.BigOperators.Group.List
import Mathlib.Algebra.Order.Ring.Nat

/-!
# The stored walk checkpoints

The phone keeps a checkpoint of the step counter for each of at most three
devices, and which of them is credited.  A `Long` is held by its 64 bits, so a
negative one is a number from 2^63 on.  An address is held by its bytes: only
ASCII is canonical, and other bytes decode to characters that are not.
-/

namespace Kitsu.Mobile.WalkSteps

open Kitsu.Crc32
open Kitsu.Lib.ByteString
open Kitsu.Lib.FixedRecords

def MAX_WALK_STEPS : Nat := 100000
def MAX_RETAINED_DEVICES : Nat := 3
def MAX_ADDRESS_BYTES : Nat := 64
def SAFE_ADDRESS : Bytes := ascii "0123456789ABCDEFGHIJKLMNOPQRSTUVWXYZ:._-"

/-- The names of routes. -/
def validOperationId (value : Nat) : Bool :=
  1 ≤ value && value ≤ 4294967295

/-- The address of a device, of plain characters only. -/
def requireCanonical (deviceAddress : Bytes) : Bool :=
  deviceAddress ≠ [] && deviceAddress.length ≤ MAX_ADDRESS_BYTES &&
    deviceAddress.all (SAFE_ADDRESS.contains ·)

/-- A route of a device. -/
structure WalkStepRouteKey where
  deviceAddress : Bytes
  routeId : Nat
deriving DecidableEq, Repr

/-- The steps of a route, and the counter they were counted to. -/
structure WalkStepCheckpoint where
  deviceAddress : Bytes
  routeId : Nat
  lastCounter : Option Nat
  stepsTotal : Nat
deriving DecidableEq, Repr

def WalkStepCheckpoint.key (checkpoint : WalkStepCheckpoint) :
    WalkStepRouteKey :=
  ⟨checkpoint.deviceAddress, checkpoint.routeId⟩

/-- The checkpoints, at most one a device, and the route in use. -/
structure WalkStepCheckpointSet where
  checkpoints : List WalkStepCheckpoint
  activeKey : Option WalkStepRouteKey
deriving DecidableEq, Repr

/-- A checkpoint whose numbers fit their fields. -/
structure ValidCheckpoint (checkpoint : WalkStepCheckpoint) : Prop where
  address : requireCanonical checkpoint.deviceAddress = true
  route : validOperationId checkpoint.routeId = true
  counter : ∀ counter ∈ checkpoint.lastCounter, counter < 2 ^ 63
  steps : checkpoint.stepsTotal ≤ MAX_WALK_STEPS

/-- What the set must meet before it is written or taken over. -/
structure RequireValid (state : WalkStepCheckpointSet) : Prop where
  few : state.checkpoints.length ≤ MAX_RETAINED_DEVICES
  distinct : (state.checkpoints.map (·.deviceAddress)).Nodup
  checkpoints : ∀ checkpoint ∈ state.checkpoints, ValidCheckpoint checkpoint
  active : ∀ key ∈ state.activeKey,
    ∃ checkpoint ∈ state.checkpoints, checkpoint.key = key

instance (checkpoint : WalkStepCheckpoint) :
    Decidable (ValidCheckpoint checkpoint) :=
  decidable_of_iff
    (requireCanonical checkpoint.deviceAddress = true ∧
      validOperationId checkpoint.routeId = true ∧
      (∀ counter ∈ checkpoint.lastCounter, counter < 2 ^ 63) ∧
      checkpoint.stepsTotal ≤ MAX_WALK_STEPS)
    ⟨fun ⟨address, route, counter, steps⟩ => ⟨address, route, counter, steps⟩,
      fun valid => ⟨valid.address, valid.route, valid.counter, valid.steps⟩⟩

instance (state : WalkStepCheckpointSet) : Decidable (RequireValid state) :=
  decidable_of_iff
    (state.checkpoints.length ≤ MAX_RETAINED_DEVICES ∧
      (state.checkpoints.map (·.deviceAddress)).Nodup ∧
      (∀ checkpoint ∈ state.checkpoints, ValidCheckpoint checkpoint) ∧
      ∀ key ∈ state.activeKey,
        ∃ checkpoint ∈ state.checkpoints, checkpoint.key = key)
    ⟨fun ⟨few, distinct, valid, active⟩ => ⟨few, distinct, valid, active⟩,
      fun valid => ⟨valid.few, valid.distinct, valid.checkpoints, valid.active⟩⟩

/-- The constructor checks what it is given. -/
def checkpointSet (checkpoints : List WalkStepCheckpoint)
    (activeKey : Option WalkStepRouteKey) : Option WalkStepCheckpointSet :=
  if RequireValid ⟨checkpoints, activeKey⟩ then some ⟨checkpoints, activeKey⟩
  else none

variable {checkpoints : List WalkStepCheckpoint}

theorem checkpointSet_eq_some {activeKey : Option WalkStepRouteKey}
    {state : WalkStepCheckpointSet} :
    checkpointSet checkpoints activeKey = some state ↔
      RequireValid state ∧ ⟨checkpoints, activeKey⟩ = state := by
  unfold checkpointSet
  split_ifs with valid
  · rw [Option.some.injEq]
    exact ⟨fun same => ⟨same ▸ valid, same⟩, And.right⟩
  · exact ⟨nofun, fun ⟨known, same⟩ => absurd (same ▸ known) valid⟩

/-! ## Encoding -/

def MAGIC : Nat := 0x4b535432
def VERSION : Nat := 2
def NO_ACTIVE : Nat := 2 ^ 32 - 1
def NO_COUNTER : Nat := 2 ^ 64 - 1
def HEADER_BYTES : Nat := 16
def RECORD_FIXED_BYTES : Nat := 28
def CRC_BYTES : Nat := 4
/-- The longest file there can be. -/
def ENCODED_MAX_BYTES : Nat :=
  HEADER_BYTES +
    MAX_RETAINED_DEVICES * (RECORD_FIXED_BYTES + MAX_ADDRESS_BYTES) + CRC_BYTES

/-- The position of the route in use, or the mark for none. -/
def activeIndex (state : WalkStepCheckpointSet) : Nat :=
  match state.activeKey with
  | none => NO_ACTIVE
  | some key => state.checkpoints.findIdx (·.key = key)

/-- The bytes of a checkpoint, its address behind its length. -/
def encodeRecord (checkpoint : WalkStepCheckpoint) : Bytes :=
  bigEndian 4 checkpoint.deviceAddress.length ++ (checkpoint.deviceAddress ++
    (bigEndian 8 checkpoint.routeId ++
      (bigEndian 8 (checkpoint.lastCounter.getD NO_COUNTER) ++
        bigEndian 8 checkpoint.stepsTotal)))

/-- The bytes of the set, without its checksum. -/
def payload (state : WalkStepCheckpointSet) : Bytes :=
  bigEndian 4 MAGIC ++ (bigEndian 4 VERSION ++
    (bigEndian 4 state.checkpoints.length ++ (bigEndian 4 (activeIndex state) ++
      state.checkpoints.flatMap encodeRecord)))

/-- The file of a set that is valid. -/
def encode (state : WalkStepCheckpointSet) : Option Bytes :=
  if RequireValid state then
    some (payload state ++ bigEndian 4 (crc32 (payload state)).toNat)
  else none

/-! ## Decoding -/

/-- A number at the cursor, and what lies behind it. -/
def getNumber (count : Nat) (buffer : Bytes) : Option (Nat × Bytes) :=
  if buffer.length < count then none
  else some (ofLittleEndian (buffer.take count).reverse, buffer.drop count)

/-- A checkpoint; its address must fit what is left of the file. -/
def decodeRecord (buffer : Bytes) : Option (WalkStepCheckpoint × Bytes) :=
  if buffer.length < RECORD_FIXED_BYTES then none
  else
    (getNumber 4 buffer).bind fun addressLength =>
    if addressLength.1 < 1 || addressLength.1 > MAX_ADDRESS_BYTES ||
        addressLength.2.length < addressLength.1 + (RECORD_FIXED_BYTES - 4) then
      none
    else
      (getNumber 8 (addressLength.2.drop addressLength.1)).bind fun routeId =>
      (getNumber 8 routeId.2).bind fun lastCounter =>
      (getNumber 8 lastCounter.2).bind fun stepsTotal =>
      some (⟨addressLength.2.take addressLength.1, routeId.1,
        if lastCounter.1 = NO_COUNTER then none else some lastCounter.1,
        stepsTotal.1⟩, stepsTotal.2)

/-- So many checkpoints, one behind the other. -/
def decodeRecords : Nat → Bytes → Option (List WalkStepCheckpoint × Bytes)
  | 0, buffer => some ([], buffer)
  | count + 1, buffer =>
    (decodeRecord buffer).bind fun checkpoint =>
    (decodeRecords count checkpoint.2).bind fun later =>
    some (checkpoint.1 :: later.1, later.2)

/-- The set that a payload stands for, with nothing left behind it. -/
def decodePayload (buffer : Bytes) : Option WalkStepCheckpointSet :=
  (getNumber 4 buffer).bind fun magic =>
  (getNumber 4 magic.2).bind fun version =>
  if magic.1 ≠ MAGIC || version.1 ≠ VERSION then none
  else
    (getNumber 4 version.2).bind fun count =>
    (getNumber 4 count.2).bind fun index =>
    if count.1 > MAX_RETAINED_DEVICES then none
    else if index.1 ≠ NO_ACTIVE && index.1 ≥ count.1 then none
    else
      (decodeRecords count.1 index.2).bind fun checkpoints =>
      if checkpoints.2 ≠ [] then none
      else
        checkpointSet checkpoints.1 (if index.1 = NO_ACTIVE then none
          else checkpoints.1[index.1]?.map (·.key))

/-- The set that a file stands for, if its checksum fits. -/
def decode (bytes : Bytes) : Option WalkStepCheckpointSet :=
  let payloadBytes := bytes.length - CRC_BYTES
  let stored := bytes.drop payloadBytes
  if bytes.length < HEADER_BYTES + CRC_BYTES ||
      bytes.length > ENCODED_MAX_BYTES then none
  else if ofLittleEndian stored.reverse ≠
      (crc32 (bytes.take payloadBytes)).toNat then none
  else decodePayload (bytes.take payloadBytes)

/-! ## Numbers -/

theorem length_bigEndian (count value : Nat) :
    (bigEndian count value).length = count := by
  rw [bigEndian, List.length_reverse, length_littleEndian]

theorem getNumber_bigEndian {count value : Nat} (small : value < 256 ^ count)
    (rest : Bytes) :
    getNumber count (bigEndian count value ++ rest) = some (value, rest) := by
  have long : ¬ (bigEndian count value ++ rest).length < count := by
    rw [List.length_append, length_bigEndian]
    omega
  rw [getNumber, if_neg long, List.take_left' (length_bigEndian count value),
    List.drop_left' (length_bigEndian count value), bigEndian,
    List.reverse_reverse, ofLittleEndian_littleEndian, Nat.mod_eq_of_lt small]

theorem bigEndian_reverse (bytes : Bytes) :
    bigEndian bytes.length (ofLittleEndian bytes.reverse) = bytes := by
  have written := littleEndian_ofLittleEndian bytes.reverse
  rw [List.length_reverse] at written
  rw [bigEndian, written, List.reverse_reverse]

variable {buffer : Bytes}

/-- What was read is the front of the buffer. -/
theorem getNumber_eq_some {count value : Nat} {rest : Bytes}
    (read : getNumber count buffer = some (value, rest)) :
    buffer = bigEndian count value ++ rest := by
  unfold getNumber at read
  split_ifs at read with short
  obtain ⟨rfl, rfl⟩ := Prod.mk.inj (Option.some.inj read)
  have length : (buffer.take count).length = count := by
    rw [List.length_take]
    omega
  have written := bigEndian_reverse (buffer.take count)
  rw [length] at written
  rw [written, List.take_append_drop]

/-! ## What is written is read back -/

section RoundTrip

variable {checkpoint : WalkStepCheckpoint} {state : WalkStepCheckpointSet}

theorem ValidCheckpoint.addressLength (valid : ValidCheckpoint checkpoint) :
    1 ≤ checkpoint.deviceAddress.length ∧
      checkpoint.deviceAddress.length ≤ 64 := by
  have canonical := valid.address
  simp only [requireCanonical, Bool.and_eq_true, decide_eq_true_eq] at canonical
  exact ⟨List.length_pos_of_ne_nil canonical.1.1, canonical.1.2⟩

theorem length_encodeRecord (checkpoint : WalkStepCheckpoint) :
    (encodeRecord checkpoint).length =
      RECORD_FIXED_BYTES + checkpoint.deviceAddress.length := by
  simp only [encodeRecord, List.length_append, length_bigEndian,
    RECORD_FIXED_BYTES]
  omega

theorem decodeRecord_encodeRecord (valid : ValidCheckpoint checkpoint)
    (rest : Bytes) :
    decodeRecord (encodeRecord checkpoint ++ rest) =
      some (checkpoint, rest) := by
  obtain ⟨least, most⟩ := valid.addressLength
  have route := valid.route
  have steps := valid.steps
  simp only [validOperationId, Bool.and_eq_true, decide_eq_true_eq] at route
  unfold MAX_WALK_STEPS at steps
  have length := length_encodeRecord checkpoint
  have long : ¬ (encodeRecord checkpoint ++ rest).length <
      RECORD_FIXED_BYTES := by
    rw [List.length_append, length]
    exact Nat.not_lt.mpr (Nat.le_add_right_of_le (Nat.le_add_right _ _))
  have counter : checkpoint.lastCounter.getD NO_COUNTER < 256 ^ 8 := by
    cases known : checkpoint.lastCounter with
    | none => decide
    | some counter =>
      have small := valid.counter counter known
      rw [Option.getD_some]
      omega
  have back : (if checkpoint.lastCounter.getD NO_COUNTER = NO_COUNTER then none
      else some (checkpoint.lastCounter.getD NO_COUNTER)) =
      checkpoint.lastCounter := by
    cases known : checkpoint.lastCounter with
    | none => rfl
    | some counter =>
      have small := valid.counter counter known
      rw [Option.getD_some, if_neg]
      unfold NO_COUNTER
      omega
  rw [decodeRecord, if_neg long]
  simp only [encodeRecord, List.append_assoc]
  rw [getNumber_bigEndian (by omega)]
  have enough : ¬ (decide (checkpoint.deviceAddress.length < 1) ||
      decide (checkpoint.deviceAddress.length > MAX_ADDRESS_BYTES) ||
      decide ((checkpoint.deviceAddress ++ (bigEndian 8 checkpoint.routeId ++
        (bigEndian 8 (checkpoint.lastCounter.getD NO_COUNTER) ++
          (bigEndian 8 checkpoint.stepsTotal ++ rest)))).length <
        checkpoint.deviceAddress.length + (RECORD_FIXED_BYTES - 4))) = true := by
    simp [length_bigEndian, MAX_ADDRESS_BYTES, RECORD_FIXED_BYTES]
    exact ⟨⟨List.ne_nil_of_length_pos least, most⟩, by omega⟩
  simp only [Option.bind_some, if_neg enough, List.take_left, List.drop_left]
  rw [getNumber_bigEndian (by omega), Option.bind_some,
    getNumber_bigEndian counter, Option.bind_some,
    getNumber_bigEndian (by omega), Option.bind_some, back]

theorem decodeRecords_encodeRecord
    (valid : ∀ checkpoint ∈ checkpoints, ValidCheckpoint checkpoint)
    (rest : Bytes) :
    decodeRecords checkpoints.length
        (checkpoints.flatMap encodeRecord ++ rest) =
      some (checkpoints, rest) := by
  induction checkpoints with
  | nil => rfl
  | cons checkpoint later step =>
    have first := valid checkpoint List.mem_cons_self
    have others := step fun _ member => valid _ (List.mem_cons_of_mem _ member)
    rw [List.length_cons, decodeRecords, List.flatMap_cons,
      List.append_assoc, decodeRecord_encodeRecord first, Option.bind_some,
      others, Option.bind_some]

theorem RequireValid.activeIndex_spec (valid : RequireValid state) :
    (state.activeKey = none ∧ activeIndex state = NO_ACTIVE) ∨
      activeIndex state < state.checkpoints.length ∧
        state.checkpoints[activeIndex state]?.map (·.key) = state.activeKey := by
  unfold activeIndex
  cases active : state.activeKey with
  | none => exact .inl ⟨rfl, rfl⟩
  | some key =>
    obtain ⟨checkpoint, member, same⟩ := valid.active key active
    have inside : state.checkpoints.findIdx (·.key = key) <
        state.checkpoints.length :=
      List.findIdx_lt_length_of_exists
        ⟨checkpoint, member, decide_eq_true same⟩
    have found := List.findIdx_getElem (w := inside)
    refine .inr ⟨inside, ?_⟩
    rw [List.getElem?_eq_getElem inside, Option.map_some]
    exact congrArg some (of_decide_eq_true found)

theorem decodePayload_payload (valid : RequireValid state) :
    decodePayload (payload state) = some state := by
  have few := valid.few
  unfold MAX_RETAINED_DEVICES at few
  have small : activeIndex state < 256 ^ 4 := by
    rcases valid.activeIndex_spec with ⟨-, none⟩ | ⟨inside, -⟩
    · rw [none]
      decide
    · omega
  have within : ¬ (decide (activeIndex state ≠ NO_ACTIVE) &&
      decide (activeIndex state ≥ state.checkpoints.length)) = true := by
    rcases valid.activeIndex_spec with ⟨-, none⟩ | ⟨inside, -⟩
    · simp [none]
    · simp [inside]
  have same : (if activeIndex state = NO_ACTIVE then none
      else state.checkpoints[activeIndex state]?.map (·.key)) =
      state.activeKey := by
    rcases valid.activeIndex_spec with ⟨none, index⟩ | ⟨inside, active⟩
    · rw [if_pos index, none]
    · rw [if_neg, active]
      unfold NO_ACTIVE
      omega
  have records := decodeRecords_encodeRecord valid.checkpoints []
  rw [List.append_nil] at records
  have notMany : ¬ state.checkpoints.length > MAX_RETAINED_DEVICES := by
    unfold MAX_RETAINED_DEVICES
    omega
  rw [decodePayload, payload, getNumber_bigEndian (by decide),
    Option.bind_some, getNumber_bigEndian (by decide), Option.bind_some,
    if_neg (by simp), getNumber_bigEndian (by omega), Option.bind_some,
    getNumber_bigEndian small, Option.bind_some, if_neg notMany,
    if_neg within, records, Option.bind_some, if_neg (by simp)]
  rw [same]
  exact checkpointSet_eq_some.mpr ⟨valid, rfl⟩

theorem length_payload (state : WalkStepCheckpointSet) :
    (payload state).length = HEADER_BYTES +
      (state.checkpoints.map fun checkpoint =>
        RECORD_FIXED_BYTES + checkpoint.deviceAddress.length).sum := by
  simp only [payload, List.length_append, length_bigEndian,
    List.length_flatMap, length_encodeRecord, HEADER_BYTES]
  omega

theorem RequireValid.length_payload_le (valid : RequireValid state) :
    (payload state).length + CRC_BYTES ≤ ENCODED_MAX_BYTES := by
  have each : ∀ size ∈ state.checkpoints.map (fun checkpoint =>
      RECORD_FIXED_BYTES + checkpoint.deviceAddress.length),
      size ≤ RECORD_FIXED_BYTES + MAX_ADDRESS_BYTES := by
    intro size member
    obtain ⟨checkpoint, inside, rfl⟩ := List.mem_map.mp member
    exact Nat.add_le_add_left (valid.checkpoints _ inside).addressLength.2 _
  have sum := List.sum_le_card_nsmul _ _ each
  have few := Nat.mul_le_mul_right (RECORD_FIXED_BYTES + MAX_ADDRESS_BYTES)
    valid.few
  rw [List.length_map, smul_eq_mul] at sum
  rw [length_payload, ENCODED_MAX_BYTES]
  omega

/-- Whatever is valid is restored from its encoding. -/
theorem decode_encode (valid : RequireValid state) :
    (encode state).bind decode = some state := by
  have length := valid.length_payload_le
  have crc := length_bigEndian 4 (crc32 (payload state)).toNat
  have header : HEADER_BYTES ≤ (payload state).length := by
    rw [length_payload]
    exact Nat.le_add_right _ _
  rw [encode, if_pos valid, Option.bind_some, decode]
  simp only [List.length_append, crc, CRC_BYTES, Nat.add_sub_cancel,
    List.drop_left, List.take_left]
  unfold CRC_BYTES at length
  rw [if_neg, if_neg, decodePayload_payload valid]
  · have small : (crc32 (payload state)).toNat < 256 ^ 4 := UInt32.toNat_lt _
    rw [bigEndian, List.reverse_reverse, ofLittleEndian_littleEndian,
      Nat.mod_eq_of_lt small]
    simp
  · simp only [Bool.or_eq_true, decide_eq_true_eq]
    omega

end RoundTrip

/-! ## What is restored is written again -/

theorem decodeRecord_eq_some {checkpoint : WalkStepCheckpoint × Bytes}
    (read : decodeRecord buffer = some checkpoint)
    (valid : ValidCheckpoint checkpoint.1) :
    buffer = encodeRecord checkpoint.1 ++ checkpoint.2 := by
  unfold decodeRecord at read
  split_ifs at read with short
  obtain ⟨⟨length, behind⟩, size, read⟩ := Option.bind_eq_some_iff.mp read
  split_ifs at read with outside
  obtain ⟨⟨route, afterRoute⟩, routeRead, read⟩ :=
    Option.bind_eq_some_iff.mp read
  obtain ⟨⟨counter, afterCounter⟩, counterRead, read⟩ :=
    Option.bind_eq_some_iff.mp read
  obtain ⟨⟨steps, rest⟩, stepsRead, read⟩ := Option.bind_eq_some_iff.mp read
  cases read
  simp only [Bool.or_eq_true, decide_eq_true_eq, not_or] at outside
  have taken : (behind.take length).length = length := by
    rw [List.length_take]
    omega
  have back : (if counter = NO_COUNTER then none
      else some counter).getD NO_COUNTER = counter := by
    split_ifs with none
    · exact none.symm
    · rfl
  dsimp only at counterRead stepsRead
  have split := getNumber_eq_some routeRead
  rw [getNumber_eq_some counterRead, getNumber_eq_some stepsRead] at split
  rw [encodeRecord]
  simp only [taken, back, List.append_assoc]
  rw [← split, List.take_append_drop]
  exact getNumber_eq_some size

theorem decodeRecords_eq_some {count : Nat}
    {checkpoints : List WalkStepCheckpoint × Bytes}
    (read : decodeRecords count buffer = some checkpoints)
    (valid : ∀ checkpoint ∈ checkpoints.1, ValidCheckpoint checkpoint) :
    checkpoints.1.length = count ∧
      buffer = checkpoints.1.flatMap encodeRecord ++ checkpoints.2 := by
  induction count generalizing buffer checkpoints with
  | zero => cases read; exact ⟨rfl, rfl⟩
  | succ count step =>
    obtain ⟨first, firstRead, read⟩ := Option.bind_eq_some_iff.mp read
    obtain ⟨later, laterRead, read⟩ := Option.bind_eq_some_iff.mp read
    cases read
    obtain ⟨length, behind⟩ := step laterRead fun _ member =>
      valid _ (List.mem_cons_of_mem _ member)
    refine ⟨congrArg (· + 1) length, ?_⟩
    have front :=
      decodeRecord_eq_some firstRead (valid _ List.mem_cons_self)
    rw [front, behind, List.flatMap_cons, List.append_assoc]

/-- The index of the active checkpoint is the one that was read. -/
theorem activeIndex_read {index : Nat}
    (distinct : (checkpoints.map (·.deviceAddress)).Nodup)
    (inside : index < checkpoints.length) :
    activeIndex ⟨checkpoints, checkpoints[index]?.map (·.key)⟩ = index := by
  rw [List.getElem?_eq_getElem inside]
  refine (List.findIdx_eq inside).mpr ⟨decide_eq_true rfl, ?_⟩
  intro other earlier
  refine decide_eq_false fun equal => ?_
  have apart := List.pairwise_map.mp distinct
  exact List.pairwise_iff_getElem.mp apart other index (by omega) inside
    earlier (congrArg WalkStepRouteKey.deviceAddress equal)

theorem decodePayload_eq_some {state : WalkStepCheckpointSet}
    (read : decodePayload buffer = some state) :
    RequireValid state ∧ buffer = payload state := by
  obtain ⟨⟨magic, afterMagic⟩, magicRead, read⟩ :=
    Option.bind_eq_some_iff.mp read
  obtain ⟨⟨version, afterVersion⟩, versionRead, read⟩ :=
    Option.bind_eq_some_iff.mp read
  dsimp only at magicRead versionRead read
  split_ifs at read with known
  obtain ⟨⟨count, afterCount⟩, countRead, read⟩ :=
    Option.bind_eq_some_iff.mp read
  obtain ⟨⟨index, afterIndex⟩, indexRead, read⟩ :=
    Option.bind_eq_some_iff.mp read
  dsimp only at countRead indexRead read
  split at read
  · cases read
  split at read
  · cases read
  rename_i outside
  obtain ⟨⟨checkpoints, rest⟩, records, read⟩ :=
    Option.bind_eq_some_iff.mp read
  split at read
  · cases read
  rename_i ended
  obtain ⟨valid, rfl⟩ := checkpointSet_eq_some.mp read
  obtain ⟨length, behind⟩ := decodeRecords_eq_some records valid.checkpoints
  have written : activeIndex ⟨checkpoints, if index = NO_ACTIVE then none
      else checkpoints[index]?.map (·.key)⟩ = index := by
    by_cases inactive : index = NO_ACTIVE
    · rw [if_pos inactive, inactive]
      rfl
    · rw [if_neg inactive]
      refine activeIndex_read valid.distinct ?_
      simpa [inactive, length] using outside
  rw [not_not.mp ended, List.append_nil] at behind
  simp only [Bool.or_eq_true, decide_eq_true_eq, not_or, not_not] at known
  refine ⟨valid, ?_⟩
  rw [payload, written, length, ← behind, getNumber_eq_some magicRead,
    getNumber_eq_some versionRead, getNumber_eq_some countRead,
    getNumber_eq_some indexRead, known.1, known.2]

/-- Whatever is restored has the very bytes of its encoding. -/
theorem encode_decode {bytes : Bytes} {state : WalkStepCheckpointSet}
    (read : decode bytes = some state) : encode state = some bytes := by
  unfold decode at read
  dsimp only at read
  split_ifs at read with size crc
  obtain ⟨valid, front⟩ := decodePayload_eq_some read
  simp only [Bool.or_eq_true, decide_eq_true_eq, not_or] at size
  unfold HEADER_BYTES CRC_BYTES at size
  have length : (bytes.drop (bytes.length - CRC_BYTES)).length = 4 := by
    rw [List.length_drop]
    unfold CRC_BYTES
    omega
  have stored := bigEndian_reverse (bytes.drop (bytes.length - CRC_BYTES))
  rw [length, not_not.mp crc, front] at stored
  rw [encode, if_pos valid, stored, ← front, List.take_append_drop]

end Kitsu.Mobile.WalkSteps
