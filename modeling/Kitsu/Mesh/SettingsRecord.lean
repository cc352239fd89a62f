import Kitsu.Crc32
import Kitsu.Lib.Layout

/-!
# The record of the mesh settings

`encodeSettings` and `decodeSettings` of `kitsu_mesh_config.cpp`.  A record has sixty-four
bytes with a checksum over all of them, its own field taken as zero.  Enumerations are
held as their byte, since a record may hold any; validation decides which of them are
accepted.
-/

namespace Kitsu.Mesh.SettingsRecord

open Kitsu.Crc32
open Kitsu.Lib
open Kitsu.Lib.ByteString

def kPersistedSettingsBytes : Nat := 64
def kSettingsSchemaVersion : UInt16 := 1
def kMagic : Vector UInt8 4 := ⟨#[0x4b, 0x4d, 0x43, 0x31], rfl⟩
def kOffsetLocationMode : Nat := 13
def kOffsetFixedLatitude : Nat := 16

/-- The only role the firmware takes. -/
def Role.client : UInt8 := 0x01

/-- What an advert may say of the location. -/
inductive LocationMode where
  | hidden
  | fixed
  | currentOnce
deriving DecidableEq, Repr

/-- The byte that stands for a mode in the record. -/
def LocationMode.code : LocationMode → UInt8
  | .hidden => 0
  | .fixed => 1
  | .currentOnce => 2

/-- When the radio may send. -/
inductive TxPolicy where
  | locked
  | explicitSession
deriving DecidableEq, Repr

/-- The byte that stands for a policy in the record. -/
def TxPolicy.code : TxPolicy → UInt8
  | .locked => 0
  | .explicitSession => 1

/-- A location in millionths of a degree. -/
@[ext]
structure Coordinates where
  latitudeE6 : Int32 := 0
  longitudeE6 : Int32 := 0
deriving DecidableEq

/-- The parameters of the radio. -/
structure RadioProfile where
  profileId : UInt32 := 0
  frequencyHz : UInt32 := 0
  bandwidthHz : UInt32 := 0
  spreadingFactor : UInt8 := 0
  codingRate : UInt8 := 0
  syncWord : UInt8 := 0
  txPowerDbm : Int8 := 0
  preambleSymbols : UInt16 := 0
deriving DecidableEq

/-- A profile was chosen. -/
def RadioProfile.selected (profile : RadioProfile) : Bool :=
  profile.profileId ≠ 0

def kUkEuNarrowProfileId : UInt32 := 0x4b55454e

/-- The profile that the firmware comes with. -/
def ukEuNarrowProfile : RadioProfile where
  profileId := kUkEuNarrowProfileId
  frequencyHz := 869618000
  bandwidthHz := 62500
  spreadingFactor := 8
  codingRate := 5
  syncWord := 0x12
  txPowerDbm := 22
  preambleSymbols := 32

/-- The settings of the mesh. -/
structure Settings where
  enabled : Bool := false
  locationMode : UInt8 := LocationMode.hidden.code
  fixedLocation : Coordinates := {}
  txPolicy : UInt8 := TxPolicy.locked.code
  radio : RadioProfile := ukEuNarrowProfile
deriving DecidableEq

/-- What the codec answers. -/
inductive Status where
  | ok
  | nullArgument
  | wrongLength
  | invalidLocationMode
  | invalidCoordinates
  | locationPrivacyResidue
  | invalidEnabledFlag
  | invalidTxPolicy
  | incompleteRadioProfile
  | invalidFrequency
  | invalidBandwidth
  | invalidSpreadingFactor
  | invalidCodingRate
  | invalidTxPower
  | invalidPreamble
  | badMagic
  | unsupportedSchema
  | unexpectedRole
  | reservedNotZero
  | integrityMismatch
deriving DecidableEq, Repr

/-! ## Validation -/

/-- A location on the globe. -/
def validateCoordinates (coordinates : Coordinates) : Status :=
  if coordinates.latitudeE6 < -90000000 || coordinates.latitudeE6 > 90000000 ||
      coordinates.longitudeE6 < -180000000 || coordinates.longitudeE6 > 180000000 then
    .invalidCoordinates
  else .ok

def bandwidths : List UInt32 :=
  [7800, 10400, 15600, 20800, 31250, 41700, 62500, 125000, 250000, 500000]

/-- A profile within the band, or none at all. -/
def validateRadioProfile (profile : RadioProfile) : Status :=
  if !profile.selected then
    if profile = {} then .ok else .incompleteRadioProfile
  else if profile.frequencyHz < 863000000 || profile.frequencyHz > 870000000 then
    .invalidFrequency
  else if !bandwidths.contains profile.bandwidthHz then .invalidBandwidth
  else if profile.spreadingFactor < 5 || profile.spreadingFactor > 12 then
    .invalidSpreadingFactor
  else if profile.codingRate < 5 || profile.codingRate > 8 then .invalidCodingRate
  else if profile.txPowerDbm < -9 || profile.txPowerDbm > 22 then .invalidTxPower
  else if profile.preambleSymbols < 4 then .invalidPreamble
  else .ok

/-- Only a fixed location is kept; otherwise nothing may be left of one. -/
def validateLocation (settings : Settings) : Status :=
  if settings.locationMode = LocationMode.hidden.code ∨
      settings.locationMode = LocationMode.currentOnce.code then
    if settings.fixedLocation.latitudeE6 ≠ 0 ∨ settings.fixedLocation.longitudeE6 ≠ 0 then
      .locationPrivacyResidue
    else .ok
  else if settings.locationMode = LocationMode.fixed.code then
    validateCoordinates settings.fixedLocation
  else .invalidLocationMode

/-- The location first, then the policy, then the profile. -/
def validateSettings (settings : Settings) : Status :=
  if validateLocation settings ≠ .ok then validateLocation settings
  else if settings.txPolicy ≠ TxPolicy.locked.code ∧
      settings.txPolicy ≠ TxPolicy.explicitSession.code then .invalidTxPolicy
  else validateRadioProfile settings.radio

def hideLocation (settings : Settings) : Settings :=
  { settings with locationMode := LocationMode.hidden.code, fixedLocation := {} }

/-! ## Records -/

/-- The fields of a record in the order of their offsets. -/
structure Record where
  magic : Vector UInt8 4
  schema : UInt16
  bytes : UInt16
  crc32 : UInt32
  role : UInt8
  locationMode : UInt8
  txPolicy : UInt8
  enabled : UInt8
  fixedLatitude : UInt32
  fixedLongitude : UInt32
  profileId : UInt32
  frequency : UInt32
  bandwidth : UInt32
  spreadingFactor : UInt8
  codingRate : UInt8
  syncWord : UInt8
  txPower : UInt8
  preamble : UInt16
  reserved : Vector UInt8 22
deriving DecidableEq

/-- The fields of the record in their order. -/
def Record.layout : Layout Record :=
  ((Layout.byte.vector 4).pair <| .pair .word16 <| .pair .word16 <| .pair .word32 <|
    .pair .byte <| .pair .byte <| .pair .byte <| .pair .byte <| .pair .word32 <|
    .pair .word32 <| .pair .word32 <| .pair .word32 <| .pair .word32 <| .pair .byte <|
    .pair .byte <| .pair .byte <| .pair .byte <| .pair .word16 <|
    Layout.byte.vector 22).as
    (fun (magic, schema, bytes, crc32, role, locationMode, txPolicy, enabled,
        fixedLatitude, fixedLongitude, profileId, frequency, bandwidth, spreadingFactor,
        codingRate, syncWord, txPower, preamble, reserved) =>
      { magic, schema, bytes, crc32, role, locationMode, txPolicy, enabled, fixedLatitude,
        fixedLongitude, profileId, frequency, bandwidth, spreadingFactor, codingRate,
        syncWord, txPower, preamble, reserved })
    (fun record =>
      (record.magic, record.schema, record.bytes, record.crc32, record.role,
        record.locationMode, record.txPolicy, record.enabled, record.fixedLatitude,
        record.fixedLongitude, record.profileId, record.frequency, record.bandwidth,
        record.spreadingFactor, record.codingRate, record.syncWord, record.txPower,
        record.preamble, record.reserved))
    (fun _ => rfl) (fun _ => rfl)

theorem size_layout : Record.layout.size = kPersistedSettingsBytes :=
  rfl

/-- The checksum of a record; its own field counts as zero. -/
def crc32WithZeroedField (record : Record) : UInt32 :=
  crc32 (Record.layout.write { record with crc32 := 0 })

/-- The record of settings in front of its checksum. -/
def candidate (settings : Settings) : Record where
  magic := kMagic
  schema := kSettingsSchemaVersion
  bytes := UInt16.ofNat kPersistedSettingsBytes
  crc32 := 0
  role := Role.client
  locationMode :=
    if settings.locationMode = LocationMode.currentOnce.code then LocationMode.hidden.code
    else settings.locationMode
  txPolicy := settings.txPolicy
  enabled := if settings.enabled then 1 else 0
  fixedLatitude := settings.fixedLocation.latitudeE6.toUInt32
  fixedLongitude := settings.fixedLocation.longitudeE6.toUInt32
  profileId := settings.radio.profileId
  frequency := settings.radio.frequencyHz
  bandwidth := settings.radio.bandwidthHz
  spreadingFactor := settings.radio.spreadingFactor
  codingRate := settings.radio.codingRate
  syncWord := settings.radio.syncWord
  txPower := settings.radio.txPowerDbm.toUInt8
  preamble := settings.radio.preambleSymbols
  reserved := Vector.replicate 22 0

def sealed (settings : Settings) : Record :=
  { candidate settings with crc32 := crc32WithZeroedField (candidate settings) }

/-- The buffer is absent for a null pointer. -/
def encodeSettings (settings : Settings) (output : Option Bytes) : Status × Option Bytes :=
  match output with
  | none => (.nullArgument, none)
  | some buffer =>
    if buffer.length ≠ kPersistedSettingsBytes then (.wrongLength, some buffer)
    else if validateSettings settings ≠ .ok then (validateSettings settings, some buffer)
    else (.ok, some (Record.layout.write (sealed settings)))

/-- The settings of a record, before they are validated. -/
def settingsOf (record : Record) : Settings where
  enabled := record.enabled ≠ 0
  locationMode := record.locationMode
  txPolicy := record.txPolicy
  fixedLocation :=
    { latitudeE6 := record.fixedLatitude.toInt32
      longitudeE6 := record.fixedLongitude.toInt32 }
  radio :=
    { profileId := record.profileId
      frequencyHz := record.frequency
      bandwidthHz := record.bandwidth
      spreadingFactor := record.spreadingFactor
      codingRate := record.codingRate
      syncWord := record.syncWord
      txPowerDbm := record.txPower.toInt8
      preambleSymbols := record.preamble }

/-- What is checked of a record in front of its settings. -/
def validateRecord (record : Record) : Status :=
  if record.magic ≠ kMagic then .badMagic
  else if record.schema ≠ kSettingsSchemaVersion ∨
      record.bytes ≠ UInt16.ofNat kPersistedSettingsBytes then .unsupportedSchema
  else if record.role ≠ Role.client then .unexpectedRole
  else if record.enabled > 1 then .invalidEnabledFlag
  else if record.reserved ≠ Vector.replicate 22 0 then .reservedNotZero
  else if record.crc32 ≠ crc32WithZeroedField record then .integrityMismatch
  else .ok

/-- A current location is not asked for again after a restart. -/
def normalized (settings : Settings) : Settings :=
  if settings.locationMode = LocationMode.currentOnce.code then hideLocation settings
  else settings

/-- The settings of a record, or the ones there were and why. -/
def decodeSettings (input : Option Bytes) (output : Settings) : Status × Settings :=
  match input with
  | none => (.nullArgument, output)
  | some bytes =>
    if bytes.length ≠ kPersistedSettingsBytes then (.wrongLength, output)
    else
      let record := Record.layout.read bytes
      if validateRecord record ≠ .ok then (validateRecord record, output)
      else if validateSettings (settingsOf record) ≠ .ok then
        (validateSettings (settingsOf record), output)
      else (.ok, normalized (settingsOf record))

section Codec

variable {settings output : Settings} {record : Record} {bytes : Bytes}

/-! ## Valid settings -/

/-- What valid settings keep of a location. -/
theorem location_of_valid (valid : validateSettings settings = .ok)
    (notFixed : settings.locationMode ≠ LocationMode.fixed.code) :
    settings.fixedLocation = {} := by
  have location : validateLocation settings = .ok := by
    by_contra refused
    rw [validateSettings, if_pos refused] at valid
    exact refused valid
  unfold validateLocation at location
  split at location
  · split at location
    · cases location
    · rename_i clean
      rw [not_or, not_not, not_not] at clean
      exact Coordinates.ext clean.1 clean.2
  · cases location

/-- The mode may change between those without a location. -/
theorem validate_hidden (valid : validateSettings settings = .ok)
    (once : settings.locationMode = LocationMode.currentOnce.code) :
    validateSettings { settings with locationMode := LocationMode.hidden.code } = .ok := by
  have location := location_of_valid valid (by rw [once]; decide)
  have hidden : validateLocation { settings with
      locationMode := LocationMode.hidden.code } = .ok := by
    simp [validateLocation, location]
  have here : validateLocation settings = .ok := by
    simp [validateLocation, location, once]
  unfold validateSettings at valid ⊢
  rw [if_neg (not_not.mpr here)] at valid
  rw [if_neg (not_not.mpr hidden)]
  exact valid

theorem normalized_eq (valid : validateSettings settings = .ok) :
    normalized settings =
      if settings.locationMode = LocationMode.currentOnce.code then
        { settings with locationMode := LocationMode.hidden.code }
      else settings := by
  unfold normalized hideLocation
  split
  · rename_i once
    rw [← location_of_valid valid (by rw [once]; decide)]
  · rfl

/-! ## Records of settings -/

theorem settingsOf_candidate (checksum : UInt32)
    (valid : validateSettings settings = .ok) :
    settingsOf { candidate settings with crc32 := checksum } = normalized settings := by
  rw [normalized_eq valid]
  obtain ⟨enabled, locationMode, location, txPolicy, radio⟩ := settings
  cases enabled
  · by_cases once : locationMode = LocationMode.currentOnce.code
    · simp [settingsOf, candidate, once]
    · simp [settingsOf, candidate, once]
  · by_cases once : locationMode = LocationMode.currentOnce.code
    · simp [settingsOf, candidate, once]
    · simp [settingsOf, candidate, once]

theorem validateRecord_sealed (settings : Settings) :
    validateRecord (sealed settings) = .ok := by
  have flag : ¬ (sealed settings).enabled > 1 := by
    simp only [sealed, candidate]
    split
    · decide
    · decide
  unfold validateRecord
  rw [if_neg (by simp [sealed, candidate]), if_neg (by simp [sealed, candidate]),
    if_neg (by simp [sealed, candidate]), if_neg flag, if_neg (by simp [sealed, candidate]),
    if_neg (by simp [sealed, candidate, crc32WithZeroedField])]

/-- What a record must meet before its settings are looked at. -/
structure Checked (record : Record) : Prop where
  magic : record.magic = kMagic
  schema : record.schema = kSettingsSchemaVersion
  bytes : record.bytes = UInt16.ofNat kPersistedSettingsBytes
  role : record.role = Role.client
  enabled : record.enabled ≤ 1
  reserved : record.reserved = Vector.replicate 22 0
  crc32 : record.crc32 = crc32WithZeroedField record

theorem checked_of_valid (valid : validateRecord record = .ok) : Checked record := by
  unfold validateRecord at valid
  split at valid
  · cases valid
  rename_i magic
  split at valid
  · cases valid
  rename_i schema
  split at valid
  · cases valid
  rename_i role
  split at valid
  · cases valid
  rename_i enabled
  split at valid
  · cases valid
  rename_i reserved
  split at valid
  · cases valid
  rename_i crc32
  rw [not_or, not_not, not_not] at schema
  exact ⟨not_not.mp magic, schema.1, schema.2, not_not.mp role, UInt8.not_lt.mp enabled,
    not_not.mp reserved, not_not.mp crc32⟩

/-- A record that is accepted is the one its settings are written as. -/
theorem sealed_settingsOf (checked : Checked record)
    (notOnce : record.locationMode ≠ LocationMode.currentOnce.code) :
    sealed (settingsOf record) = record := by
  have flag : (if decide (record.enabled ≠ 0) = true then (1 : UInt8) else 0) =
      record.enabled := by
    have small := UInt8.le_iff_toNat_le.mp checked.enabled
    change record.enabled.toNat ≤ 1 at small
    by_cases zero : record.enabled = 0
    · simp [zero]
    · have positive : record.enabled.toNat ≠ 0 :=
        fun none => zero (UInt8.toNat_inj.mp none)
      have one : record.enabled = 1 := UInt8.toNat_inj.mp (by change _ = 1; omega)
      simp [one]
  have same : candidate (settingsOf record) = { record with crc32 := 0 } := by
    unfold candidate settingsOf
    simp only [flag, if_neg notOnce, ← checked.magic, ← checked.schema, ← checked.bytes,
      ← checked.role, ← checked.reserved]
    simp
  have checksum := checked.crc32
  unfold sealed
  rw [same]
  simp only [crc32WithZeroedField] at checksum ⊢
  rw [← checksum]

theorem read_locationMode :
    (Record.layout.read bytes).locationMode = bytes.getD kOffsetLocationMode 0 := by
  change (((((bytes.drop 4).drop 2).drop 2).drop 4).drop 1).headD 0 = _
  simp [kOffsetLocationMode, List.headD_eq_head?_getD, List.head?_drop,
    List.getD_eq_getElem?_getD]

theorem write_location :
    ((Record.layout.write record).drop kOffsetFixedLatitude).take 8 =
      littleEndian 4 record.fixedLatitude.toNat ++
        littleEndian 4 record.fixedLongitude.toNat := by
  have length := (Layout.byte.vector 4).length_write record.magic
  change (((Layout.byte.vector 4).write record.magic ++
    (littleEndian 2 record.schema.toNat ++ (littleEndian 2 record.bytes.toNat ++
      (littleEndian 4 record.crc32.toNat ++ ([record.role] ++ ([record.locationMode] ++
        ([record.txPolicy] ++ ([record.enabled] ++
          (littleEndian 4 record.fixedLatitude.toNat ++
            (littleEndian 4 record.fixedLongitude.toNat ++ _)))))))))).drop 16).take 8 = _
  change _ = 4 at length
  simp (disch := simp [length]) [List.drop_append, List.take_append, length,
    List.drop_eq_nil_of_le, List.take_of_length_le]

/-- The settings that a restart finds. -/
def restored (settings : Settings) : Settings :=
  if settings.locationMode = LocationMode.currentOnce.code then
    { settings with locationMode := LocationMode.hidden.code }
  else settings

theorem decode_sealed (valid : validateSettings settings = .ok) :
    decodeSettings (some (Record.layout.write (sealed settings))) output =
      (.ok, restored settings) := by
  have kept : settingsOf (sealed settings) = normalized settings :=
    settingsOf_candidate _ valid
  have again : validateSettings (normalized settings) = .ok := by
    rw [normalized_eq valid]
    split
    · rename_i once
      exact validate_hidden valid once
    · exact valid
  have twice : normalized (normalized settings) = restored settings := by
    rw [normalized_eq again, normalized_eq valid, restored]
    split
    all_goals rfl
  unfold decodeSettings
  simp only [Layout.length_write, Layout.read_write, size_layout]
  rw [if_neg (by simp), if_neg (by simp [validateRecord_sealed]), kept,
    if_neg (by simp [again]), twice]

theorem decode_accepted {input : Bytes}
    (accepted : decodeSettings (some input) output = (.ok, settings)) :
    input.length = kPersistedSettingsBytes ∧ Checked (Record.layout.read input) ∧
      validateSettings (settingsOf (Record.layout.read input)) = .ok ∧
      settings = normalized (settingsOf (Record.layout.read input)) := by
  unfold decodeSettings at accepted
  simp only at accepted
  split at accepted
  · cases accepted
  rename_i whole
  split at accepted
  · rename_i refused
    rw [Prod.mk.injEq] at accepted
    exact absurd accepted.1 refused
  rename_i checked
  split at accepted
  · rename_i refused
    rw [Prod.mk.injEq] at accepted
    exact absurd accepted.1 refused
  rename_i valid
  rw [Prod.mk.injEq] at accepted
  exact ⟨not_not.mp whole, checked_of_valid (not_not.mp checked), not_not.mp valid,
    accepted.2.symm⟩

end Codec

/--
What is written is read back, a current location as a hidden one, and holds a location
only where the mode is fixed.  What is accepted is written back as it was, unless it asks
for the current location, and what is refused changes nothing.
-/
theorem settings_codec :
    (∀ settings buffer, validateSettings settings = .ok →
      buffer.length = kPersistedSettingsBytes →
      ∃ bytes, encodeSettings settings (some buffer) = (.ok, some bytes) ∧
        (∀ output, decodeSettings (some bytes) output = (.ok, restored settings)) ∧
        (settings.locationMode ≠ LocationMode.fixed.code →
          (bytes.drop kOffsetFixedLatitude).take 8 = List.replicate 8 0)) ∧
    (∀ input output settings, decodeSettings (some input) output = (.ok, settings) →
      (input.getD kOffsetLocationMode 0 = LocationMode.currentOnce.code →
        settings.locationMode = LocationMode.hidden.code) ∧
      (input.getD kOffsetLocationMode 0 ≠ LocationMode.currentOnce.code →
        ∀ buffer, buffer.length = kPersistedSettingsBytes →
          encodeSettings settings (some buffer) = (.ok, some input))) ∧
    ∀ input output, (decodeSettings input output).1 ≠ .ok →
      (decodeSettings input output).2 = output := by
  refine ⟨?_, ?_, ?_⟩
  · intro settings buffer valid whole
    refine ⟨Record.layout.write (sealed settings), ?_, fun _ => decode_sealed valid, ?_⟩
    · unfold encodeSettings
      simp only
      rw [if_neg (by simp [whole]), if_neg (by simp [valid])]
    · intro notFixed
      rw [write_location]
      simp only [sealed, candidate, location_of_valid valid notFixed]
      rfl
  · intro input output settings accepted
    obtain ⟨whole, checked, valid, rfl⟩ := decode_accepted accepted
    have mode : (settingsOf (Record.layout.read input)).locationMode =
        input.getD kOffsetLocationMode 0 := read_locationMode
    constructor
    · intro once
      rw [normalized, if_pos (mode.trans once)]
      rfl
    · intro notOnce buffer room
      have same : normalized (settingsOf (Record.layout.read input)) =
          settingsOf (Record.layout.read input) := by
        rw [normalized, if_neg]
        rw [mode]
        exact notOnce
      unfold encodeSettings
      simp only
      rw [same, if_neg (by simp [room]), if_neg (by simp [valid]),
        sealed_settingsOf checked (by rw [read_locationMode]; exact notOnce),
        Record.layout.write_read whole]
  · intro input output refused
    unfold decodeSettings at refused ⊢
    split
    · rfl
    · simp only at refused ⊢
      split
      · rfl
      split
      · rfl
      split
      · rfl
      · simp_all

end Kitsu.Mesh.SettingsRecord
