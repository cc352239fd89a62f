import Kitsu.Lib.ByteString
import Kitsu.Lib.Run
import Kitsu.Lib.Tally
import Kitsu.Mix32

/-!
# The field guide

The discovery state of `companion_fun.cpp`: which creatures of the catalogue
were met, how often and where, beside the dreams that the same record keeps.
-/

namespace Kitsu.Encounter

open Kitsu.Lib.ByteString

def kDiscoveryStateSchemaVersion : UInt8 := 1
def kCatalogCreatureCount : Nat := 21
def kDreamCount : UInt8 := 12
def kDreamHistoryCapacity : UInt8 := 8
def kCatalogMask : UInt32 := 0x1FFFFF

/--
The guide: which creatures were met, how often and how last, and the dreams.
-/
structure DiscoveryState where
  schemaVersion : UInt8 := kDiscoveryStateSchemaVersion
  reserved : Bytes := [0, 0, 0]
  seenMask : UInt32 := 0
  encounterCounts : Vector UInt16 kCatalogCreatureCount := .replicate _ 0
  lastSources : Vector UInt8 kCatalogCreatureCount := .replicate _ 0
  completedDreams : UInt16 := 0
  rareReactions : UInt16 := 0
  dreamHistory : Bytes := List.replicate kDreamHistoryCapacity.toNat 0
  dreamHead : UInt8 := 0
  dreamHistoryCount : UInt8 := 0
deriving DecidableEq

/-- The bit of a creature in the mask. -/
def creatureBit (index : Fin kCatalogCreatureCount) : UInt32 :=
  1 <<< UInt32.ofNat index

/-- How many dreams the history holds after so many of them. -/
def expectedDreamHistoryCount (state : DiscoveryState) : UInt8 :=
  if state.completedDreams < kDreamHistoryCapacity.toUInt16 then
    state.completedDreams.toUInt8
  else kDreamHistoryCapacity

/-- A creature has a count and a source only if it was seen. -/
def creatureValid (state : DiscoveryState)
    (index : Fin kCatalogCreatureCount) : Bool :=
  let seen := state.seenMask &&& creatureBit index != 0
  seen == (state.encounterCounts[index] != 0) &&
    (seen || state.lastSources[index] == 0)

/-- What a stored guide must meet before it is taken over. -/
def validateDiscoveryState (state : DiscoveryState) : Bool :=
  state.schemaVersion == kDiscoveryStateSchemaVersion &&
    state.reserved == [0, 0, 0] &&
    state.seenMask &&& ~~~ kCatalogMask == 0 &&
    state.dreamHead < kDreamHistoryCapacity &&
    state.dreamHistoryCount ≤ kDreamHistoryCapacity &&
    state.dreamHistoryCount == expectedDreamHistoryCount state &&
    (state.dreamHistoryCount ≥ kDreamHistoryCapacity ||
      state.dreamHead == state.dreamHistoryCount) &&
    (List.finRange kCatalogCreatureCount).all (creatureValid state) &&
    (state.dreamHistory.take state.dreamHistoryCount.toNat).all
      (· < kDreamCount)

/-- The guide with one more encounter of a creature. -/
def metCreature (state : DiscoveryState)
    (index : Fin kCatalogCreatureCount) (source : UInt8) :
    DiscoveryState :=
  { state with
    seenMask := state.seenMask ||| creatureBit index
    encounterCounts :=
      if state.encounterCounts[index] ≠ 0xffff then
        state.encounterCounts.set index (state.encounterCounts[index] + 1)
      else state.encounterCounts
    lastSources := state.lastSources.set index source }

/-- `none` when the guide refuses. -/
def recordCreatureEncounter (state : DiscoveryState)
    (catalogIndex source : UInt8) : Option DiscoveryState :=
  if h : catalogIndex.toNat < kCatalogCreatureCount then
    if validateDiscoveryState state then
      some (metCreature state ⟨catalogIndex.toNat, h⟩ source)
    else none
  else none

/-- The count of the creature goes up by one, and no other changes. -/
theorem encounterCounts_metCreature (state : DiscoveryState)
    (index : Fin kCatalogCreatureCount) (source : UInt8)
    (room : state.encounterCounts[index] ≠ 0xffff)
    (other : Fin kCatalogCreatureCount) :
    (metCreature state index source).encounterCounts[other] =
      state.encounterCounts[other] + if other = index then 1 else 0 := by
  have counts : (metCreature state index source).encounterCounts =
      state.encounterCounts.set index (state.encounterCounts[index] + 1) :=
    if_pos room
  rw [counts]
  by_cases same : other = index
  · subst same
    simp
  · have apart : (index : Nat) ≠ other := fun equal =>
      same (Fin.ext equal.symm)
    simp [same, apart]

/-! ## Validity -/

theorem creatureBit_and (first second : Fin kCatalogCreatureCount) :
    creatureBit first &&& creatureBit second =
      if first = second then creatureBit second else 0 := by
  revert first second
  decide +kernel

theorem creatureBit_ne_zero (index : Fin kCatalogCreatureCount) :
    creatureBit index ≠ 0 := by
  revert index
  decide +kernel

theorem creatureBit_inside (index : Fin kCatalogCreatureCount) :
    creatureBit index &&& ~~~ kCatalogMask = 0 := by
  revert index
  decide +kernel

theorem or_and_right (first second mask : UInt32) :
    (first ||| second) &&& mask = first &&& mask ||| second &&& mask := by
  apply UInt32.toNat_inj.mp
  simp [Nat.and_or_distrib_right]

/-- Meeting a creature shows it as seen and no other. -/
theorem seen_metCreature (mask : UInt32)
    (index other : Fin kCatalogCreatureCount) :
    ((mask ||| creatureBit index) &&& creatureBit other != 0) =
      (decide (other = index) || (mask &&& creatureBit other != 0)) := by
  rw [or_and_right, creatureBit_and]
  by_cases same : other = index
  · subst same
    have nonzero := creatureBit_ne_zero other
    simp [nonzero]
  · simp [same, Ne.symm same]

theorem encounterCounts_eq_zero_iff (state : DiscoveryState)
    (index : Fin kCatalogCreatureCount) (source : UInt8)
    (other : Fin kCatalogCreatureCount) :
    (metCreature state index source).encounterCounts[other] = 0 ↔
      other ≠ index ∧ state.encounterCounts[other] = 0 := by
  by_cases room : state.encounterCounts[index] = 0xffff
  · have counts : (metCreature state index source).encounterCounts =
        state.encounterCounts := if_neg (by simp [room])
    rw [counts]
    refine ⟨fun zero => ⟨?_, zero⟩, fun parts => parts.2⟩
    rintro rfl
    rw [room] at zero
    exact absurd zero (by decide)
  · rw [encounterCounts_metCreature state index source room]
    by_cases same : other = index
    · subst same
      have nonzero : state.encounterCounts[other] + 1 ≠ 0 := by
        intro zero
        apply room
        have wrapped := congrArg (· - 1) zero
        simp only [UInt16.add_sub_cancel] at wrapped
        rw [wrapped]
        decide
      simpa using nonzero
    · simp [same]

theorem creatureValid_metCreature {state : DiscoveryState}
    (index : Fin kCatalogCreatureCount) (source : UInt8)
    {other : Fin kCatalogCreatureCount}
    (valid : creatureValid state other = true) :
    creatureValid (metCreature state index source) other = true := by
  have counted := encounterCounts_eq_zero_iff state index source other
  have seen := seen_metCreature state.seenMask index other
  by_cases same : other = index
  · have nonzero :
        (metCreature state index source).encounterCounts[other] ≠ 0 :=
      fun zero => (counted.mp zero).1 same
    simp only [same, decide_true, Bool.true_or] at seen
    rw [← same] at seen
    have shown : ((metCreature state other source).seenMask &&&
        creatureBit other != 0) = true := seen
    subst same
    simp only [creatureValid, shown]
    simpa using nonzero
  · have apart : (index : Nat) ≠ other := fun equal =>
      same (Fin.ext equal.symm)
    have shown : ((metCreature state index source).seenMask &&&
        creatureBit other != 0) =
        (state.seenMask &&& creatureBit other != 0) := by
      simp only [same, decide_false, Bool.false_or] at seen
      exact seen
    have counts : ((metCreature state index source).encounterCounts[other] != 0) =
        (state.encounterCounts[other] != 0) := by
      rw [Bool.eq_iff_iff]
      simp only [bne_iff_ne, ne_eq, counted]
      simp [same]
    have sources : (metCreature state index source).lastSources[other] =
        state.lastSources[other] := by
      simp [metCreature, apart]
    simp only [creatureValid, shown, counts, sources] at valid ⊢
    exact valid

/-- A valid guide stays valid. -/
theorem validateDiscoveryState_metCreature {state : DiscoveryState}
    (valid : validateDiscoveryState state = true)
    (index : Fin kCatalogCreatureCount) (source : UInt8) :
    validateDiscoveryState (metCreature state index source) = true := by
  simp only [validateDiscoveryState, Bool.and_eq_true, List.all_eq_true,
    beq_iff_eq] at valid ⊢
  refine ⟨⟨⟨⟨⟨⟨⟨valid.1.1.1.1.1.1.1, ?_⟩, valid.1.1.1.1.1.2⟩,
    valid.1.1.1.1.2⟩, valid.1.1.1.2⟩, valid.1.1.2⟩, ?_⟩, valid.2⟩
  · have inside := valid.1.1.1.1.1.1.2
    change (state.seenMask ||| creatureBit index) &&& ~~~ kCatalogMask = 0
    rw [or_and_right, inside, creatureBit_inside]
    rfl
  · intro other member
    exact creatureValid_metCreature index source (valid.1.2 other member)

end Kitsu.Encounter

/-!
# Signal encounters

The decision engine of `signal_encounter.cpp`.  A successful operation under a
new id rolls three times against a configuration in basis points: for an
encounter, for its rarity and for a code.  The last record is kept with the state,
and an id that is not above the last one is refused.
-/

namespace Kitsu.Encounter

open Kitsu.Lib Kitsu.Lib.Run

def kBasisPointScale : UInt16 := 10000

def kOnePercentBasisPoints : UInt16 := 100

def kRecordSchemaVersion : UInt8 := 1

def kCoordinatorStateSchemaVersion : UInt8 := 1

/-- What the mesh did when a creature was met. -/
inductive MeshOperationKind where
  | repeaterDiscovered
  | peerDiscovered
  | messageSent
  | messageReceived
  | advertSent
  | advertReceived
  | otherCompleted
  | nearbyKitsuMet
  | count
deriving DecidableEq

/-- The byte that stands for an operation in the record. -/
def MeshOperationKind.byte : MeshOperationKind → UInt8
  | .repeaterDiscovered => 0
  | .peerDiscovered => 1
  | .messageSent => 2
  | .messageReceived => 3
  | .advertSent => 4
  | .advertReceived => 5
  | .otherCompleted => 6
  | .nearbyKitsuMet => 7
  | .count => 8

/-- How rare a creature is. -/
inductive Rarity where
  | common
  | uncommon
  | rare
  | veryRare
  | epic
  | legendary
  | mythical
  | count
deriving DecidableEq

/-- The byte that stands for a rarity in the record. -/
def Rarity.byte : Rarity → UInt8
  | .common => 0
  | .uncommon => 1
  | .rare => 2
  | .veryRare => 3
  | .epic => 4
  | .legendary => 5
  | .mythical => 6
  | .count => 7

/-- The cast of an index below `kRarityCount`. -/
def Rarity.ofIndex : Nat → Rarity
  | 0 => .common
  | 1 => .uncommon
  | 2 => .rare
  | 3 => .veryRare
  | 4 => .epic
  | 5 => .legendary
  | 6 => .mythical
  | _ => .count

/-- Whether an encounter revealed a code. -/
inductive CodeOutcome where
  | notApplicable
  | notRevealed
  | revealed
deriving DecidableEq

/-- The byte that stands for an outcome in the record. -/
def CodeOutcome.byte : CodeOutcome → UInt8
  | .notApplicable => 0
  | .notRevealed => 1
  | .revealed => 2

abbrev kMeshOperationKindCount : Nat := 8

abbrev kRarityCount : Nat := 7

/-- The chances of an encounter, in basis points. -/
structure Configuration where
  encounterChanceBasisPoints : Vector UInt16 kMeshOperationKindCount :=
    .replicate _ 0
  rarityWeightBasisPoints : Vector UInt16 kRarityCount := .replicate _ 0
  codeChanceBasisPoints : Vector UInt16 kRarityCount := .replicate _ 0
deriving DecidableEq

/-- What a configuration is refused for. -/
inductive ConfigurationStatus where
  | ok
  | encounterChanceOutOfRange
  | rarityWeightTotalInvalid
  | mythicalWeightMustBeSubOnePercent
  | codeChanceOutOfRange
deriving DecidableEq

/-- An operation of the mesh, with its number. -/
structure LogicalOperationEvent where
  operationId : UInt64 := 0
  kind : MeshOperationKind := .otherCompleted
  successful : UInt8 := 0
deriving DecidableEq

/-- What became of an operation, with the numbers that were rolled. -/
structure EncounterRecord where
  schemaVersion : UInt8 := kRecordSchemaVersion
  operationKind : UInt8 := MeshOperationKind.otherCompleted.byte
  encounterOccurred : UInt8 := 0
  guaranteed : UInt8 := 0
  rarity : UInt8 := Rarity.common.byte
  codeOutcome : UInt8 := CodeOutcome.notApplicable.byte
  encounterRollBasisPoints : UInt16 := 0
  rarityRollBasisPoints : UInt16 := 0
  codeRollBasisPoints : UInt16 := 0
  operationId : UInt64 := 0
  entropy : UInt32 := 0
deriving DecidableEq

/-- What the coordinator keeps: its last operation and the record of it. -/
structure CoordinatorState where
  schemaVersion : UInt8 := kCoordinatorStateSchemaVersion
  hasLastRecord : UInt8 := 0
  reserved : UInt16 := 0
  lastOperationId : UInt64 := 0
  lastRecord : EncounterRecord := {}
deriving DecidableEq

/-- What became of an event. -/
inductive ProcessStatus where
  | recordedNoEncounter
  | recordedEncounter
  | invalidConfiguration
  | invalidEvent
  | unsuccessfulOperation
  | duplicateOperation
  | staleOperation
deriving DecidableEq

/-- What the reading of a stored state answers. -/
inductive RestoreStatus where
  | ok
  | unsupportedSchema
  | invalidState
deriving DecidableEq

/-! ## The rolls -/

def rotateLeft (value : UInt32) (count : UInt32) : UInt32 :=
  value <<< count ||| value >>> (32 - count)

/-- The same mixing as that of the other modules. -/
def avalanche (value : UInt32) : UInt32 :=
  mix32 value

/-- The roll of an event depends on it, the entropy and what is rolled for. -/
def deterministicRoll (event : LogicalOperationEvent)
    (entropy domain : UInt32) : UInt16 :=
  let operationLow := event.operationId.toUInt32
  let operationHigh := (event.operationId >>> 32).toUInt32
  let value := entropy ^^^ operationLow ^^^ rotateLeft operationHigh 13 ^^^
    event.kind.byte.toUInt32 * 0x9E3779B9 ^^^ domain
  (avalanche value % kBasisPointScale.toUInt32).toUInt16

/-! ## Validation -/

def validOperationKind (kind : UInt8) : Bool :=
  kind < MeshOperationKind.count.byte

/-- One of the known rarities. -/
def validRarity (rarity : UInt8) : Bool :=
  rarity < Rarity.count.byte

/-- One of the three outcomes. -/
def validCodeOutcome (outcome : UInt8) : Bool :=
  outcome == CodeOutcome.notApplicable.byte ||
    outcome == CodeOutcome.notRevealed.byte ||
    outcome == CodeOutcome.revealed.byte

/-- The rarity weights, in order. -/
def Configuration.weights (configuration : Configuration) : List Nat :=
  configuration.rarityWeightBasisPoints.toList.map (·.toNat)

/-- The chances are in range and the weights make up the whole. -/
def validateConfiguration (configuration : Configuration) :
    ConfigurationStatus :=
  if configuration.encounterChanceBasisPoints.toList.any
      (· > kBasisPointScale) then .encounterChanceOutOfRange
  else if configuration.weights.sum != kBasisPointScale.toNat then
    .rarityWeightTotalInvalid
  else if configuration.rarityWeightBasisPoints[6] == 0 ||
      configuration.rarityWeightBasisPoints[6] ≥ kOnePercentBasisPoints then
    .mythicalWeightMustBeSubOnePercent
  else if configuration.codeChanceBasisPoints.toList.any
      (· > kBasisPointScale) then .codeChanceOutOfRange
  else .ok

/-- The rarity that a roll falls on, by the weights. -/
def rarityForRoll (configuration : Configuration) (rollBasisPoints : UInt16) :
    Option Rarity :=
  if validateConfiguration configuration != .ok ||
      rollBasisPoints ≥ kBasisPointScale then none
  else
    (WeightedChoice.chooseAbove rollBasisPoints.toNat 0
      configuration.weights).map Rarity.ofIndex

/-- Whether a roll reveals a code, by the rarity. -/
def codeOutcomeForRoll (configuration : Configuration) (rarity : Rarity)
    (rollBasisPoints : UInt16) : CodeOutcome :=
  if validateConfiguration configuration != .ok || !validRarity rarity.byte ||
      rollBasisPoints ≥ kBasisPointScale then .notApplicable
  else if rollBasisPoints <
      configuration.codeChanceBasisPoints[rarity.byte.toNat]?.getD 0 then
    .revealed
  else .notRevealed

/-- The record is of the known format and its parts fit each other. -/
def validateRecord (record : EncounterRecord) : Bool :=
  record.schemaVersion == kRecordSchemaVersion && record.operationId != 0 &&
    validOperationKind record.operationKind &&
    record.encounterOccurred ≤ 1 && record.guaranteed ≤ 1 &&
    record.encounterRollBasisPoints < kBasisPointScale &&
    record.rarityRollBasisPoints < kBasisPointScale &&
    record.codeRollBasisPoints < kBasisPointScale &&
    validRarity record.rarity && validCodeOutcome record.codeOutcome &&
    (record.guaranteed ==
      if record.operationKind == MeshOperationKind.repeaterDiscovered.byte then
        1
      else 0) &&
    !(record.guaranteed != 0 && record.encounterOccurred == 0) &&
    if record.encounterOccurred == 0 then
      record.codeOutcome == CodeOutcome.notApplicable.byte
    else
      record.codeOutcome == CodeOutcome.notRevealed.byte ||
        record.codeOutcome == CodeOutcome.revealed.byte

/-! ## The coordinator -/

/-- The coordinator: its configuration and what it keeps. -/
structure SignalEncounterCoordinator where
  configuration : Configuration
  configurationStatus : ConfigurationStatus
  state : CoordinatorState := {}
deriving DecidableEq

/-- The constructor. -/
def SignalEncounterCoordinator.create (configuration : Configuration) :
    SignalEncounterCoordinator where
  configuration := configuration
  configurationStatus := validateConfiguration configuration

/-- The refusal of an event, if it is refused. -/
def refusal (coordinator : SignalEncounterCoordinator)
    (event : LogicalOperationEvent) : Option ProcessStatus :=
  if coordinator.configurationStatus != .ok then some .invalidConfiguration
  else if event.operationId == 0 || !validOperationKind event.kind.byte ||
      event.successful > 1 then some .invalidEvent
  else if event.successful == 0 then some .unsuccessfulOperation
  else if coordinator.state.hasLastRecord != 0 then
    if event.operationId == coordinator.state.lastOperationId then
      some .duplicateOperation
    else if event.operationId < coordinator.state.lastOperationId then
      some .staleOperation
    else none
  else none

/-- The record before an encounter is resolved. -/
def rolledRecord (coordinator : SignalEncounterCoordinator)
    (event : LogicalOperationEvent) (entropy : UInt32) : EncounterRecord :=
  let guaranteed := event.kind == .repeaterDiscovered
  let encounterRoll := deterministicRoll event entropy 0x454E4301
  let chance :=
    if guaranteed then kBasisPointScale
    else coordinator.configuration.encounterChanceBasisPoints[
      event.kind.byte.toNat]?.getD 0
  { operationId := event.operationId
    operationKind := event.kind.byte
    entropy := entropy
    encounterRollBasisPoints := encounterRoll
    rarityRollBasisPoints := deterministicRoll event entropy 0x52415202
    codeRollBasisPoints := deterministicRoll event entropy 0x434F4403
    guaranteed := if guaranteed then 1 else 0
    encounterOccurred := if encounterRoll < chance then 1 else 0 }

/-- The record with its encounter's rarity and code, if there is one. -/
def resolvedRecord (configuration : Configuration) (rolled : EncounterRecord) :
    Option EncounterRecord :=
  if rolled.encounterOccurred == 0 then some rolled
  else
    match rarityForRoll configuration rolled.rarityRollBasisPoints with
    | none => none
    | some rarity =>
      some { rolled with
        rarity := rarity.byte
        codeOutcome := (codeOutcomeForRoll configuration rarity
          rolled.codeRollBasisPoints).byte }

/-- The reply to an event: its status and the record, if one is written. -/
def process (coordinator : SignalEncounterCoordinator)
    (event : LogicalOperationEvent) (entropy : UInt32) :
    (ProcessStatus × Option EncounterRecord) × SignalEncounterCoordinator :=
  match refusal coordinator event with
  | some status => ((status, none), coordinator)
  | none =>
    match resolvedRecord coordinator.configuration
        (rolledRecord coordinator event entropy) with
    | none => ((.invalidConfiguration, none), coordinator)
    | some record =>
      ((if record.encounterOccurred == 0 then .recordedNoEncounter
        else .recordedEncounter, some record),
        { coordinator with
          state := {
            hasLastRecord := 1
            lastOperationId := event.operationId
            lastRecord := record } })

/-- Take over a stored state; one that is not valid is refused. -/
def SignalEncounterCoordinator.restore
    (coordinator : SignalEncounterCoordinator) (state : CoordinatorState) :
    RestoreStatus × SignalEncounterCoordinator :=
  if state.schemaVersion != kCoordinatorStateSchemaVersion then
    (.unsupportedSchema, coordinator)
  else if state.hasLastRecord > 1 || state.reserved != 0 then
    (.invalidState, coordinator)
  else if state.hasLastRecord == 0 then
    if state.lastOperationId != 0 then (.invalidState, coordinator)
    else (.ok, { coordinator with state })
  else if state.lastOperationId == 0 ||
      state.lastRecord.operationId != state.lastOperationId ||
      !validateRecord state.lastRecord then (.invalidState, coordinator)
  else (.ok, { coordinator with state })

/-- Forget the last operation. -/
def SignalEncounterCoordinator.reset
    (coordinator : SignalEncounterCoordinator) : SignalEncounterCoordinator :=
  { coordinator with state := {} }

end Kitsu.Encounter

/-!
# Records of a signal encounter

Under a valid configuration the weights cover every roll, so an accepted event
always writes a record.  What the record says of rarity is where its roll lies
among the cumulative weights.  The configuration never changes, and a restore
takes any validated record, so what an event writes depends on the past only
through the last id.
-/

namespace Kitsu.Encounter

open Kitsu.Lib Kitsu.Lib.Run

variable {configuration : Configuration}

theorem deterministicRoll_lt (event : LogicalOperationEvent)
    (entropy domain : UInt32) :
    deterministicRoll event entropy domain < kBasisPointScale := by
  rw [UInt16.lt_iff_toNat_lt, deterministicRoll, UInt32.toNat_toUInt16,
    UInt32.toNat_mod]
  have below := Nat.mod_lt (avalanche (entropy ^^^ event.operationId.toUInt32 ^^^
    rotateLeft (event.operationId >>> 32).toUInt32 13 ^^^
    event.kind.byte.toUInt32 * 0x9E3779B9 ^^^ domain)).toNat
    (show 0 < kBasisPointScale.toUInt32.toNat by decide)
  exact Nat.lt_of_le_of_lt (Nat.mod_le _ _) below

theorem weights_length : configuration.weights.length = kRarityCount := by
  rw [Configuration.weights, List.length_map, Vector.length_toList]

theorem weights_sum (valid : validateConfiguration configuration = .ok) :
    configuration.weights.sum = kBasisPointScale.toNat := by
  simp only [validateConfiguration] at valid
  split at valid
  · cases valid
  · split at valid
    · cases valid
    · rename_i total
      exact bne_eq_false_iff_eq.mp (Bool.eq_false_iff.mpr total)

theorem Rarity.byte_ofIndex {index : Nat} (inside : index < kRarityCount) :
    (Rarity.ofIndex index).byte.toNat = index := by
  match index, inside with
  | 0, _ | 1, _ | 2, _ | 3, _ | 4, _ | 5, _ | 6, _ => rfl

variable {rarity : Rarity}

theorem Rarity.ofIndex_byte : Rarity.ofIndex rarity.byte.toNat = rarity := by
  cases rarity <;> rfl

variable {roll : UInt16}

/-- The rarity of a roll is the one whose part of the weights holds it. -/
theorem rarityForRoll_eq_some (valid : validateConfiguration configuration = .ok)
    (inside : roll < kBasisPointScale) :
    rarityForRoll configuration roll = some rarity ↔
      WeightedChoice.weightBelow configuration.weights rarity.byte.toNat ≤
          roll.toNat ∧
        roll.toNat < WeightedChoice.weightBelow configuration.weights
          (rarity.byte.toNat + 1) := by
  have refused : ¬(validateConfiguration configuration != .ok ||
      roll ≥ kBasisPointScale) = true := by
    simpa [valid] using inside
  rw [rarityForRoll, if_neg refused,
    WeightedChoice.chooseAbove_eq (Nat.zero_le _), Nat.sub_zero,
    Option.map_eq_some_iff, ← WeightedChoice.choose_eq_some]
  constructor
  · rintro ⟨index, chosen, rfl⟩
    have bound := WeightedChoice.choose_lt chosen
    rw [weights_length] at bound
    rw [Rarity.byte_ofIndex bound]
    exact chosen
  · intro chosen
    exact ⟨_, chosen, Rarity.ofIndex_byte⟩

theorem exists_rarityForRoll (valid : validateConfiguration configuration = .ok)
    (inside : roll < kBasisPointScale) :
    ∃ rarity, rarityForRoll configuration roll = some rarity := by
  have total : roll.toNat < configuration.weights.sum := by
    rw [weights_sum valid]
    exact UInt16.lt_iff_toNat_lt.mp inside
  rcases WeightedChoice.exists_choose total with ⟨index, chosen⟩
  have bound := WeightedChoice.choose_lt chosen
  rw [weights_length] at bound
  refine ⟨Rarity.ofIndex index, (rarityForRoll_eq_some valid inside).mpr ?_⟩
  rw [Rarity.byte_ofIndex bound]
  exact WeightedChoice.choose_eq_some.mp chosen

theorem rarityForRoll_valid
    (chosen : rarityForRoll configuration roll = some rarity) :
    validRarity rarity.byte = true := by
  rw [rarityForRoll] at chosen
  split at chosen
  · cases chosen
  · rw [WeightedChoice.chooseAbove_eq (Nat.zero_le _),
      Option.map_eq_some_iff] at chosen
    rcases chosen with ⟨index, found, rfl⟩
    have bound := WeightedChoice.choose_lt found
    rw [weights_length] at bound
    match index, bound with
    | 0, _ | 1, _ | 2, _ | 3, _ | 4, _ | 5, _ | 6, _ => rfl

/-- A code is revealed or not for every roll of a valid rarity. -/
theorem codeOutcomeForRoll_ne (valid : validateConfiguration configuration = .ok)
    (inside : roll < kBasisPointScale) (known : validRarity rarity.byte = true) :
    codeOutcomeForRoll configuration rarity roll ≠ .notApplicable := by
  have refused : ¬(validateConfiguration configuration != .ok ||
      !validRarity rarity.byte || roll ≥ kBasisPointScale) = true := by
    simpa [valid, known] using inside
  rw [codeOutcomeForRoll, if_neg refused]
  split <;> nofun

/-! ## An accepted event -/

/-- The event under a new id of a successful operation. -/
structure Fresh (coordinator : SignalEncounterCoordinator)
    (event : LogicalOperationEvent) : Prop where
  id : event.operationId ≠ 0
  kind : validOperationKind event.kind.byte = true
  successful : event.successful = 1
  above : coordinator.state.hasLastRecord ≠ 0 →
    coordinator.state.lastOperationId < event.operationId

theorem refusal_fresh {coordinator : SignalEncounterCoordinator}
    {event : LogicalOperationEvent} (valid : coordinator.configurationStatus = .ok)
    (fresh : Fresh coordinator event) : refusal coordinator event = none := by
  rw [refusal, if_neg (by simp [valid]),
    if_neg (by simp [fresh.id, fresh.kind, fresh.successful]),
    if_neg (by simp [fresh.successful])]
  by_cases last : coordinator.state.hasLastRecord = 0
  · rw [if_neg (by simp [last])]
  · have above := UInt64.lt_iff_toNat_lt.mp (fresh.above last)
    rw [if_pos (by simpa using last), if_neg, if_neg]
    · rw [UInt64.lt_iff_toNat_lt]
      omega
    · rw [beq_iff_eq, ← UInt64.toNat_inj]
      omega

/-- What the record of an event says under a configuration. -/
structure Records (configuration : Configuration)
    (event : LogicalOperationEvent) (record : EncounterRecord) : Prop where
  id : record.operationId = event.operationId
  kind : record.operationKind = event.kind.byte
  valid : validateRecord record = true
  /-- The rarity's part of the cumulative weights holds the rarity roll. -/
  rarity : record.encounterOccurred ≠ 0 →
    WeightedChoice.weightBelow configuration.weights record.rarity.toNat ≤
        record.rarityRollBasisPoints.toNat ∧
      record.rarityRollBasisPoints.toNat <
        WeightedChoice.weightBelow configuration.weights
          (record.rarity.toNat + 1)

/-- The status a record is reported with. -/
def recordedStatus (record : EncounterRecord) : ProcessStatus :=
  if record.encounterOccurred == 0 then .recordedNoEncounter
  else .recordedEncounter

section Resolved

variable {coordinator : SignalEncounterCoordinator}
  {event : LogicalOperationEvent} {entropy : UInt32}

/-- A discovered repeater always meets an encounter. -/
theorem rolledRecord_guaranteed (discovered : event.kind = .repeaterDiscovered) :
    (rolledRecord coordinator event entropy).encounterOccurred = 1 := by
  have below := deterministicRoll_lt event entropy 0x454E4301
  simp [rolledRecord, discovered, below]

theorem MeshOperationKind.byte_injective
    {kind other : MeshOperationKind} (same : kind.byte = other.byte) :
    kind = other := by
  cases kind <;> cases other <;> first | rfl | cases same

/-- The fields of a record that every rolled one shares. -/
structure Rolled (event : LogicalOperationEvent) (record : EncounterRecord) :
    Prop where
  schema : record.schemaVersion = kRecordSchemaVersion
  id : record.operationId = event.operationId
  kind : record.operationKind = event.kind.byte
  encounterRoll : record.encounterRollBasisPoints < kBasisPointScale
  rarityRoll : record.rarityRollBasisPoints < kBasisPointScale
  codeRoll : record.codeRollBasisPoints < kBasisPointScale
  guaranteed : record.guaranteed =
    if event.kind = .repeaterDiscovered then 1 else 0
  /-- A discovered repeater always meets an encounter. -/
  discovered : event.kind = .repeaterDiscovered → record.encounterOccurred = 1

theorem rolledRecord_rolled :
    Rolled event (rolledRecord coordinator event entropy) where
  schema := rfl
  id := rfl
  kind := rfl
  encounterRoll := deterministicRoll_lt _ _ _
  rarityRoll := deterministicRoll_lt _ _ _
  codeRoll := deterministicRoll_lt _ _ _
  guaranteed := by simp [rolledRecord]
  discovered := rolledRecord_guaranteed

/-- A rolled record is valid when its rarity and code fit its encounter. -/
theorem Rolled.validateRecord {record : EncounterRecord}
    (rolled : Rolled event record) (id : event.operationId ≠ 0)
    (kind : validOperationKind event.kind.byte = true)
    (rarity : validRarity record.rarity = true)
    (code : record.encounterOccurred = 0 ∧
        record.codeOutcome = CodeOutcome.notApplicable.byte ∨
      record.encounterOccurred = 1 ∧
        (record.codeOutcome = CodeOutcome.notRevealed.byte ∨
          record.codeOutcome = CodeOutcome.revealed.byte)) :
    Encounter.validateRecord record = true := by
  have given : record.guaranteed =
      if record.operationKind = MeshOperationKind.repeaterDiscovered.byte
      then 1 else 0 := by
    rw [rolled.guaranteed, rolled.kind]
    by_cases discovered : event.kind = .repeaterDiscovered
    · rw [if_pos discovered, discovered, if_pos rfl]
    · rw [if_neg discovered, if_neg]
      exact fun same => discovered (MeshOperationKind.byte_injective same)
  have atMost : record.guaranteed ≤ 1 := by
    rw [given]
    split <;> decide
  have outcome : validCodeOutcome record.codeOutcome = true := by
    rcases code with ⟨-, same⟩ | ⟨-, same | same⟩ <;> rw [same] <;> rfl
  rw [← rolled.id] at id
  rw [← rolled.kind] at kind
  rcases code with ⟨missed, plain⟩ | ⟨occurred, revealed⟩
  · have ordinary : record.guaranteed = 0 := by
      rw [rolled.guaranteed, if_neg]
      intro discovered
      rw [rolled.discovered discovered] at missed
      cases missed
    rw [plain] at outcome
    simp [Encounter.validateRecord, rolled.schema, id, kind,
      rolled.encounterRoll, rolled.rarityRoll, rolled.codeRoll, rarity,
      missed, plain, ordinary, outcome, ← given]
  · simp [Encounter.validateRecord, rolled.schema, id, kind,
      rolled.encounterRoll, rolled.rarityRoll, rolled.codeRoll, rarity, outcome,
      occurred, revealed, atMost, ← given]

theorem encounterOccurred_cases :
    (rolledRecord coordinator event entropy).encounterOccurred = 0 ∨
      (rolledRecord coordinator event entropy).encounterOccurred = 1 := by
  have flag (occurred : Prop) [Decidable occurred] :
      (if occurred then (1 : UInt8) else 0) = 0 ∨
        (if occurred then (1 : UInt8) else 0) = 1 := by
    split
    · exact .inr rfl
    · exact .inl rfl
  exact flag _

/-- Under a valid configuration every rolled record is resolved. -/
theorem resolvedRecord_records (valid : validateConfiguration configuration = .ok)
    (id : event.operationId ≠ 0)
    (kind : validOperationKind event.kind.byte = true) :
    ∃ record, resolvedRecord configuration
        (rolledRecord coordinator event entropy) = some record ∧
      Records configuration event record := by
  have rolled : Rolled event (rolledRecord coordinator event entropy) :=
    rolledRecord_rolled
  rcases @encounterOccurred_cases coordinator event entropy with missed | occurred
  · refine ⟨_, by rw [resolvedRecord, if_pos (beq_iff_eq.mpr missed)], ?_⟩
    constructor
    · rfl
    · rfl
    · exact rolled.validateRecord id kind rfl (.inl ⟨missed, rfl⟩)
    · intro occurred
      exact absurd missed occurred
  · rcases exists_rarityForRoll valid rolled.rarityRoll with ⟨rarity, chosen⟩
    have known := rarityForRoll_valid chosen
    have revealed := codeOutcomeForRoll_ne valid rolled.codeRoll known
    refine ⟨_, by rw [resolvedRecord, if_neg (by simp [occurred]), chosen], ?_⟩
    constructor
    · rfl
    · rfl
    · apply @Rolled.validateRecord event _ _ id kind known
      · refine .inr ⟨occurred, ?_⟩
        cases outcome : codeOutcomeForRoll configuration rarity
            (rolledRecord coordinator event entropy).codeRollBasisPoints with
        | notApplicable => exact absurd outcome revealed
        | notRevealed => exact .inl rfl
        | revealed => exact .inr rfl
      · exact { rolled with }
    · intro _
      exact (rarityForRoll_eq_some valid rolled.rarityRoll).mp chosen

end Resolved

/-- A fresh event is recorded, and its id is the last one afterwards. -/
theorem process_fresh {coordinator : SignalEncounterCoordinator}
    {event : LogicalOperationEvent} (entropy : UInt32)
    (checked : coordinator.configurationStatus =
      validateConfiguration coordinator.configuration)
    (valid : validateConfiguration coordinator.configuration = .ok)
    (fresh : Fresh coordinator event) :
    ∃ record, process coordinator event entropy =
        ((recordedStatus record, some record), { coordinator with
          state := {
            hasLastRecord := 1
            lastOperationId := event.operationId
            lastRecord := record } }) ∧
      Records coordinator.configuration event record := by
  rcases @resolvedRecord_records _ coordinator event entropy valid fresh.id
    fresh.kind with ⟨record, resolved, records⟩
  refine ⟨record, ?_, records⟩
  rw [process, refusal_fresh (checked.trans valid) fresh, resolved]
  rfl

/-! ## Runs -/

/-- The calls of the coordinator. -/
inductive CoordinatorCall where
  | process (event : LogicalOperationEvent) (entropy : UInt32)
  | restore (state : CoordinatorState)
  | reset

/-- A call by its name. -/
def SignalEncounterCoordinator.perform
    (coordinator : SignalEncounterCoordinator) :
    CoordinatorCall → SignalEncounterCoordinator
  | .process event entropy => (process coordinator event entropy).2
  | .restore state => (coordinator.restore state).2
  | .reset => coordinator.reset

/-- The replies to events in a row. -/
def replies (coordinator : SignalEncounterCoordinator) :
    List (LogicalOperationEvent × UInt32) →
      List (ProcessStatus × Option EncounterRecord)
  | [] => []
  | (event, entropy) :: later =>
    (process coordinator event entropy).1 ::
      replies (process coordinator event entropy).2 later

/-- The coordinator works under this configuration and its checked status. -/
structure Configured (configuration : Configuration)
    (coordinator : SignalEncounterCoordinator) : Prop where
  kept : coordinator.configuration = configuration
  checked : coordinator.configurationStatus =
    validateConfiguration configuration

theorem process_configured {coordinator : SignalEncounterCoordinator}
    (configured : Configured configuration coordinator)
    (event : LogicalOperationEvent) (entropy : UInt32) :
    Configured configuration (process coordinator event entropy).2 := by
  cases refused : refusal coordinator event with
  | some status =>
    rw [process, refused]
    exact configured
  | none =>
    cases resolved : resolvedRecord coordinator.configuration
        (rolledRecord coordinator event entropy) with
    | none =>
      rw [process, refused, resolved]
      exact configured
    | some record =>
      rw [process, refused, resolved]
      exact ⟨configured.kept, configured.checked⟩

theorem restore_configured {coordinator : SignalEncounterCoordinator}
    (configured : Configured configuration coordinator)
    (state : CoordinatorState) :
    Configured configuration (coordinator.restore state).2 := by
  have kept : Configured configuration { coordinator with state } :=
    ⟨configured.kept, configured.checked⟩
  rw [SignalEncounterCoordinator.restore]
  split
  · exact configured
  · split
    · exact configured
    · split
      · split
        · exact configured
        · exact kept
      · split
        · exact configured
        · exact kept

/-- Every call keeps the configuration. -/
theorem perform_configured {coordinator : SignalEncounterCoordinator}
    (configured : Configured configuration coordinator) (call : CoordinatorCall) :
    Configured configuration (coordinator.perform call) := by
  cases call with
  | process event entropy => exact process_configured configured event entropy
  | restore state => exact restore_configured configured state
  | reset => exact ⟨configured.kept, configured.checked⟩

theorem run_configured (history : List CoordinatorCall) :
    Configured configuration (exec SignalEncounterCoordinator.perform
      (.create configuration) history) := by
  have initially : Configured configuration (.create configuration) :=
    ⟨rfl, rfl⟩
  exact exec_invariant initially
    (fun _ call configured => perform_configured configured call) history

/-- An event that a coordinator has to take, given the ids before it. -/
structure Wellformed (event : LogicalOperationEvent) : Prop where
  id : event.operationId ≠ 0
  kind : validOperationKind event.kind.byte = true
  successful : event.successful = 1

/-- The reply to an event that is recorded. -/
def Recorded (configuration : Configuration)
    (event : LogicalOperationEvent × UInt32)
    (reply : ProcessStatus × Option EncounterRecord) : Prop :=
  ∃ record, reply = (recordedStatus record, some record) ∧
    Records configuration event.1 record

/-- Events whose ids increase above the last one are all recorded. -/
theorem replies_recorded {coordinator : SignalEncounterCoordinator}
    (configured : Configured configuration coordinator)
    (valid : validateConfiguration configuration = .ok)
    {events : List (LogicalOperationEvent × UInt32)}
    (wellformed : ∀ event ∈ events, Wellformed event.1)
    (above : ∀ event ∈ events, coordinator.state.hasLastRecord ≠ 0 →
      coordinator.state.lastOperationId < event.1.operationId)
    (increasing : events.Pairwise fun event later =>
      event.1.operationId < later.1.operationId) :
    List.Forall₂ (Recorded configuration) events (replies coordinator events) := by
  induction events generalizing coordinator with
  | nil => exact .nil
  | cons first later induction =>
    rcases first with ⟨event, entropy⟩
    have shape := wellformed (event, entropy) List.mem_cons_self
    rcases List.pairwise_cons.mp increasing with ⟨next, rest⟩
    rcases configured with ⟨rfl, checked⟩
    rcases @process_fresh coordinator event entropy
      checked valid ⟨shape.id, shape.kind, shape.successful,
        above (event, entropy) List.mem_cons_self⟩ with
      ⟨record, processed, records⟩
    have kept := process_configured ⟨rfl, checked⟩ event entropy
    rw [replies]
    rw [processed] at kept ⊢
    constructor
    · exact ⟨record, rfl, records⟩
    · exact induction kept
        (fun other member => wellformed other (List.mem_cons_of_mem _ member))
        (fun other member _ => next other member) rest

end Kitsu.Encounter
