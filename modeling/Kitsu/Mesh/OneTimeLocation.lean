import Kitsu.Lib.Run
import Kitsu.Mesh.SettingsRecord

/-!
# The location of the adverts

The mesh commands of `main.cpp` that set, use and revoke a location.  A fixed
location stays in the settings and in their record; one for a single advert is
staged in memory only.  What else the radio and the transport ask for, and what
becomes of a write, is part of the input.  Beside the device runs a history of
what was accepted and which adverts were made.
-/

namespace Kitsu.Mesh.OneTimeLocation

open Kitsu.Lib.ByteString
open Kitsu.Lib.Run
open Kitsu.Mesh.SettingsRecord

/-- The location that is staged for a single advert. -/
structure CurrentLocationOnce where
  pending : Bool := false
  coordinates : Coordinates := {}
deriving DecidableEq

/-- Where the location of an advert comes from. -/
inductive LocationSource where
  | fixed
  | currentOnce
deriving DecidableEq, Repr

/-- A location that an advert carries. -/
structure AdvertLocation where
  source : LocationSource
  coordinates : Coordinates
deriving DecidableEq

/-- There is none where the source answers `false`. -/
def selectAdvertLocation (settings : Settings) (current : CurrentLocationOnce) :
    Option AdvertLocation :=
  if settings.locationMode = LocationMode.fixed.code ∧
      validateCoordinates settings.fixedLocation = .ok then
    some ⟨.fixed, settings.fixedLocation⟩
  else if settings.locationMode = LocationMode.currentOnce.code ∧
      current.pending = true ∧ validateCoordinates current.coordinates = .ok then
    some ⟨.currentOnce, current.coordinates⟩
  else none

/-- The settings with a fixed location, if it is one. -/
def setFixedLocation (settings : Settings) (coordinates : Coordinates) :
    Option Settings :=
  if validateCoordinates coordinates ≠ .ok then none
  else some { settings with
    locationMode := LocationMode.fixed.code
    fixedLocation := coordinates }

/-- The settings for a single advert; they hold no location themselves. -/
def requestCurrentLocationOnce (settings : Settings) : Settings :=
  { settings with
    locationMode := LocationMode.currentOnce.code
    fixedLocation := {} }

/-- The location to be staged, if it is one. -/
def stageCurrentLocationOnce (coordinates : Coordinates) :
    Option CurrentLocationOnce :=
  if validateCoordinates coordinates ≠ .ok then none
  else some ⟨true, coordinates⟩

/-! ## The store -/

/-- A write that reports a failure may have changed the record all the same. -/
inductive SaveOutcome where
  | saved
  | refused
  | misreported
deriving DecidableEq, Repr

/-- The record after a write, and whether it counts as saved. -/
def save (stored : Option Bytes) (settings : Settings) (outcome : SaveOutcome) :
    Option Bytes × Bool :=
  match encodeSettings settings
    (some (List.replicate kPersistedSettingsBytes 0)) with
  | (.ok, some bytes) =>
    match outcome with
    | .saved => (some bytes, (decodeSettings (some bytes) {}).1 = .ok)
    | .refused => (stored, false)
    | .misreported => (some bytes, false)
  | _ => (stored, false)

/-- Without a record that is accepted the settings are the default ones. -/
def load (stored : Option Bytes) : Settings :=
  (decodeSettings stored {}).2

/-! ## The device -/

/--
What was accepted, what was given up, the adverts and the boots.  A location
command leaves a location or none; to be `revoked` is to be switched off; `unread`
is a boot that cannot read the settings.
-/
inductive Event where
  | located (location : Option AdvertLocation)
  | revoked
  | dropped
  | advert (location : Option AdvertLocation)
  | booted (location : Option AdvertLocation)
  | unread
deriving DecidableEq

/--
The settings in memory and in the record, what is staged, and the history.
-/
structure Device where
  settings : Settings
  current : CurrentLocationOnce
  stored : Option Bytes
  history : List Event

/-- Whether the radio is on, takes new settings, and lets an advert out. -/
structure Radio where
  active : Bool
  applies : Bool
  ready : Bool
deriving DecidableEq, Repr

namespace Device

def log (device : Device) (events : List Event) : Device :=
  { device with history := events ++ device.history }

/-- What an advert made now would carry. -/
def selected (device : Device) : Option AdvertLocation :=
  selectAdvertLocation device.settings device.current

/-- The candidate is taken over when it was saved. -/
def store (device : Device) (candidate : Settings) (outcome : SaveOutcome) :
    Device × Bool :=
  let saved := save device.stored candidate outcome
  if saved.2 then
    ({ device with settings := candidate, stored := saved.1 }, true)
  else ({ device with stored := saved.1 }, false)

/-- Write settings that differ in the location at most. -/
def persistMeshPrivacySettings (device : Device) (candidate : Settings)
    (outcome : SaveOutcome) : Device × Bool :=
  if validateSettings candidate ≠ .ok then (device, false)
  else device.store candidate outcome

/-- Settings that the radio has already are accepted without a write. -/
def commitMeshRadioSettings (device : Device) (candidate : Settings)
    (radio : Radio) (outcome : SaveOutcome) : Device × Bool :=
  if validateSettings candidate ≠ .ok then (device, false)
  else if candidate = device.settings ∧ candidate.enabled = radio.active then
    (device, true)
  else if !radio.applies then (device, false)
  else device.store candidate outcome

/-- After an advert nothing is staged, also if the write fails. -/
def consumeCurrentLocationOnce (device : Device) (outcome : SaveOutcome) :
    Device :=
  if device.settings.locationMode ≠ LocationMode.currentOnce.code then device
  else
    ({ device with current := {} }.persistMeshPrivacySettings
      (hideLocation device.settings) outcome).1

end Device

/-! ## Commands -/

/-- The name of a profile, hashed from its numbers; never zero. -/
def derivedMeshProfileId (profile : RadioProfile) : UInt32 :=
  let mixed := littleEndian 4 profile.frequencyHz.toNat ++
    littleEndian 4 profile.bandwidthHz.toNat ++
    [profile.spreadingFactor, profile.codingRate, profile.syncWord,
      profile.txPowerDbm.toUInt8] ++
    littleEndian 2 profile.preambleSymbols.toNat
  let hash := mixed.foldl
    (fun hash byte => (hash ^^^ byte.toUInt32) * 16777619) 2166136261
  if hash ≠ 0 then hash else 1

/-- The profile that the numbers of a command stand for. -/
def commandProfile (frequency bandwidth spreadingFactor codingRate : Nat)
    (txPower : Int) : Option RadioProfile :=
  if frequency > 0xffffffff ∨ bandwidth > 0xffffffff ∨ spreadingFactor < 5 ∨
      spreadingFactor > 12 ∨ codingRate < 5 ∨ codingRate > 8 ∨ txPower < -9 ∨
      txPower > 22 then none
  else
    let profile : RadioProfile :=
      { frequencyHz := UInt32.ofNat frequency
        bandwidthHz := UInt32.ofNat bandwidth
        spreadingFactor := UInt8.ofNat spreadingFactor
        codingRate := UInt8.ofNat codingRate
        syncWord := 0x12
        txPowerDbm := Int8.ofInt txPower
        preambleSymbols := if spreadingFactor ≤ 8 then 32 else 16 }
    let profile := { profile with profileId := derivedMeshProfileId profile }
    if validateRadioProfile profile ≠ .ok then none else some profile

/-- The commands that switch the mesh on or off or choose its profile. -/
inductive ConfigCommand where
  | on
  | off
  | profile (frequency bandwidth spreadingFactor codingRate : Nat) (txPower : Int)
  | malformed
deriving DecidableEq, Repr

/-- The settings that a command asks for; switching off hides the location. -/
def ConfigCommand.candidate (settings : Settings) :
    ConfigCommand → Option Settings
  | .on => some { settings with
      enabled := true
      radio := ukEuNarrowProfile
      txPolicy := TxPolicy.explicitSession.code }
  | .off => some (hideLocation { settings with
      enabled := false
      txPolicy := TxPolicy.locked.code })
  | .profile frequency bandwidth spreadingFactor codingRate txPower =>
    (commandProfile frequency bandwidth spreadingFactor codingRate
      txPower).map fun radio =>
        { settings with
          enabled := true
          radio
          txPolicy := TxPolicy.explicitSession.code }
  | .malformed => none

/-- The commands that set or hide the location. -/
inductive LocationCommand where
  | hidden
  | fixed (latitude longitude : Int)
  | currentOnce (latitude longitude : Int)
  | malformed
deriving DecidableEq, Repr

/-- The location that the numbers of a command stand for. -/
def commandCoordinates (latitude longitude : Int) : Option Coordinates :=
  if latitude < -2 ^ 31 ∨ latitude > 2 ^ 31 - 1 ∨ longitude < -2 ^ 31 ∨
      longitude > 2 ^ 31 - 1 then none
  else
    let coordinates : Coordinates :=
      ⟨Int32.ofInt latitude, Int32.ofInt longitude⟩
    if validateCoordinates coordinates ≠ .ok then none else some coordinates

/-- The settings that a command asks for, and what it stages. -/
def LocationCommand.candidate (settings : Settings) :
    LocationCommand → Option (Settings × CurrentLocationOnce)
  | .hidden => some (hideLocation settings, {})
  | .fixed latitude longitude =>
    (commandCoordinates latitude longitude).bind fun coordinates =>
      (setFixedLocation settings coordinates).map (·, {})
  | .currentOnce latitude longitude =>
    (commandCoordinates latitude longitude).bind fun coordinates =>
      (stageCurrentLocationOnce coordinates).map
        (requestCurrentLocationOnce settings, ·)
  | .malformed => none

/-- What an accepted location command leaves to be carried. -/
def LocationCommand.location : LocationCommand → Option AdvertLocation
  | .fixed latitude longitude =>
    some ⟨.fixed, Int32.ofInt latitude, Int32.ofInt longitude⟩
  | .currentOnce latitude longitude =>
    some ⟨.currentOnce, Int32.ofInt latitude, Int32.ofInt longitude⟩
  | _ => none

/-- A reboot comes with whether it can read the settings store. -/
inductive Command where
  | config (command : ConfigCommand)
  | configureMesh (enabled : Bool)
  | location (command : LocationCommand)
  | introduce
  | publishMap
  | queueBleAdvert
  | reboot (readable : Bool)
deriving DecidableEq, Repr

/-- A command with what the radio and the store do. -/
structure Action where
  command : Command
  radio : Radio
  outcome : SaveOutcome
deriving DecidableEq, Repr

namespace Device

/-- A command of the console; switching off drops what is staged in any case. -/
def configureMeshFromCommand (device : Device) (command : ConfigCommand)
    (radio : Radio) (outcome : SaveOutcome) : Device × Bool :=
  match command.candidate device.settings with
  | none => (device, false)
  | some candidate =>
    let committed := device.commitMeshRadioSettings candidate radio outcome
    if command = .off then ({ committed.1 with current := {} }, committed.2)
    else committed

/-- The same by the companion; a rejection keeps what is staged. -/
def configureMesh (device : Device) (enabled : Bool) (radio : Radio)
    (outcome : SaveOutcome) : Device × Bool :=
  let candidate := { device.settings with
    enabled
    radio := ukEuNarrowProfile
    txPolicy :=
      if enabled then TxPolicy.explicitSession.code else TxPolicy.locked.code }
  let committed := device.commitMeshRadioSettings
    (if enabled then candidate else hideLocation candidate) radio outcome
  if committed.2 && !enabled then ({ committed.1 with current := {} }, true)
  else committed

/--
A location command; what it stages is taken over only if its write succeeds.
-/
def configureMeshLocation (device : Device) (command : LocationCommand)
    (outcome : SaveOutcome) : Device × Bool :=
  match command.candidate device.settings with
  | none => (device, false)
  | some (candidate, candidateCurrent) =>
    let persisted := device.persistMeshPrivacySettings candidate outcome
    if persisted.2 then ({ persisted.1 with current := candidateCurrent }, true)
    else persisted

/-- The location in the advert, if one can be made and goes out. -/
def makeAdvert (device : Device) (ready : Bool) :
    Option (Option AdvertLocation) :=
  if !ready || validateSettings device.settings ≠ .ok then none
  else if device.settings.locationMode = LocationMode.currentOnce.code ∧
      device.selected = none then none
  else some device.selected

/-- Make an advert and send it. -/
def introduceKitsu (device : Device) (ready : Bool) (outcome : SaveOutcome) :
    Device :=
  match device.makeAdvert ready with
  | none => device
  | some location =>
    (device.log [.advert location]).consumeCurrentLocationOnce outcome

/-- The advert is exported instead of sent. -/
def publishKitsuMapCard (device : Device) (ready : Bool)
    (outcome : SaveOutcome) : Device :=
  if device.selected = none then device
  else device.introduceKitsu ready outcome

/-- Make an advert for the phone; what was staged is used up. -/
def queueBleAdvert (device : Device) (ready : Bool) : Device :=
  match device.makeAdvert ready with
  | none => device
  | some location =>
    let made := device.log [.advert location]
    if device.settings.locationMode = LocationMode.currentOnce.code then
      { made with current := {} }
    else made

/--
Only a missing record is written.  Where the store cannot be read, the defaults
are used and the record is left alone.
-/
def initMesh (device : Device) (readable : Bool) (outcome : SaveOutcome) :
    Device :=
  if !readable then
    { device with settings := {}, current := {} }.log [.unread]
  else
    let booted :=
      { device with
        settings := load device.stored
        current := {}
        stored :=
          if device.stored = none then (save none {} outcome).1
          else device.stored }
    booted.log [.booted booted.selected]

end Device

/-- One command, with what it adds to the history. -/
def step (device : Device) (action : Action) : Device :=
  match action.command with
  | .config command =>
    let configured := device.configureMeshFromCommand command action.radio
      action.outcome
    configured.1.log (if command ≠ .off then []
      else if configured.2 then [.revoked] else [.dropped])
  | .configureMesh enabled =>
    let configured := device.configureMesh enabled action.radio action.outcome
    configured.1.log (if configured.2 && !enabled then [.revoked] else [])
  | .location command =>
    let configured := device.configureMeshLocation command action.outcome
    configured.1.log (if configured.2 then [.located command.location] else [])
  | .introduce => device.introduceKitsu action.radio.ready action.outcome
  | .publishMap => device.publishKitsuMapCard action.radio.ready action.outcome
  | .queueBleAdvert => device.queueBleAdvert action.radio.ready
  | .reboot readable => device.initMesh readable action.outcome

/-- A device that boots with a record. -/
def start (record : Option Bytes) (readable : Bool) (outcome : SaveOutcome) :
    Device :=
  ({ settings := {}, current := {}, stored := record, history := [] } :
    Device).initMesh readable outcome

@[simp]
theorem Device.log_nil (device : Device) : device.log [] = device :=
  rfl

/-! ## What the history may show -/

/-- A location that was staged does not last. -/
def dropOnce : Option AdvertLocation → Option AdvertLocation
  | some ⟨.currentOnce, _⟩ => none
  | location => location

/-- What the next advert has to carry, by what was accepted so far. -/
def carried : List Event → Option AdvertLocation
  | [] => none
  | .located location :: _ => location
  | .revoked :: _ => none
  | .booted location :: _ => location
  | .unread :: _ => none
  | _ :: earlier => dropOnce (carried earlier)

/-- An advert has what is carried; a boot finds nothing that was staged. -/
def Sound : List Event → Prop
  | [] => True
  | .advert location :: earlier => location = carried earlier ∧ Sound earlier
  | .booted location :: earlier => dropOnce location = location ∧ Sound earlier
  | _ :: earlier => Sound earlier

/-- The last boot read the settings, or a location command was accepted since. -/
def Synced : List Event → Prop
  | [] => False
  | .located _ :: _ => True
  | .booted _ :: _ => True
  | .unread :: _ => False
  | _ :: earlier => Synced earlier

/--
The locations that the record may hold.  Settings that were not read are written
with the next change; until then the record keeps what it had, also when the mesh
is switched off that these settings have off already.
-/
def Recorded : List Event → Option AdvertLocation → Prop
  | [], _ => True
  | .located location :: _, found => found = dropOnce location
  | .booted location :: _, found => found = location
  | .unread :: earlier, found => found = none ∨ Recorded earlier found
  | .revoked :: earlier, found =>
    found = none ∨ ¬ Synced earlier ∧ Recorded earlier found
  | _ :: earlier, found => Recorded earlier found

/-- A boot carries on with what may be in the record. -/
def Boots : List Event → Prop
  | [] => True
  | .booted location :: earlier => Recorded earlier location ∧ Boots earlier
  | _ :: earlier => Boots earlier

/-- The locations staged so far; the number is the name of the last one. -/
def stagings : List Event → Nat
  | [] => 0
  | .located (some ⟨.currentOnce, _⟩) :: earlier => stagings earlier + 1
  | _ :: earlier => stagings earlier

/-- The stagings that were placed in an advert, one entry for each advert. -/
def uses : List Event → List Nat
  | [] => []
  | .advert (some ⟨.currentOnce, _⟩) :: earlier =>
    stagings earlier :: uses earlier
  | _ :: earlier => uses earlier

/--
No write of a location command or a switching-off reports a failure and takes
effect all the same.
-/
def Honest (actions : List Action) : Prop :=
  ∀ action ∈ actions, action.outcome = .misreported →
    match action.command with
    | .location _ | .config .off | .configureMesh false => False
    | _ => True

/-- The location of a first record, or of a command that fixes one. -/
def Given (record : Option Bytes) (actions : List Action)
    (coordinates : Coordinates) : Prop :=
  coordinates = {} ∨ coordinates = (load record).fixedLocation ∨
    ∃ action ∈ actions, ∃ latitude longitude,
      action.command = .location (.fixed latitude longitude) ∧
        commandCoordinates latitude longitude = some coordinates

/-! ## Selection -/

section Selection

variable {settings : Settings} {current : CurrentLocationOnce}

theorem select_cleared (settings : Settings) (current : CurrentLocationOnce) :
    selectAdvertLocation settings {} =
      dropOnce (selectAdvertLocation settings current) := by
  unfold selectAdvertLocation
  by_cases fixed : settings.locationMode = LocationMode.fixed.code ∧
      validateCoordinates settings.fixedLocation = .ok
  · rw [if_pos fixed, if_pos fixed]
    rfl
  · rw [if_neg fixed, if_neg fixed, if_neg (by simp)]
    split_ifs
    · rfl
    · rfl

theorem dropOnce_select_cleared (settings : Settings) :
    dropOnce (selectAdvertLocation settings {}) =
      selectAdvertLocation settings {} :=
  (select_cleared settings {}).symm

theorem select_notFixed
    (notFixed : settings.locationMode ≠ LocationMode.fixed.code) :
    selectAdvertLocation settings {} = none := by
  rw [selectAdvertLocation, if_neg fun fixed => notFixed fixed.1, if_neg (by simp)]

theorem select_notOnce
    (notOnce : settings.locationMode ≠ LocationMode.currentOnce.code) :
    selectAdvertLocation settings current = selectAdvertLocation settings {} := by
  unfold selectAdvertLocation
  rw [if_neg (c := settings.locationMode = LocationMode.currentOnce.code ∧ _)
    fun once => notOnce once.1]
  rw [if_neg (c := settings.locationMode = LocationMode.currentOnce.code ∧ _)
    fun once => notOnce once.1]

theorem select_hideLocation :
    selectAdvertLocation (hideLocation settings) current = none := by
  exact select_notFixed (by simp [hideLocation, LocationMode.code])

theorem select_restored (settings : Settings) :
    selectAdvertLocation (restored settings) {} =
      selectAdvertLocation settings {} := by
  unfold restored
  split_ifs with once
  · rw [select_notFixed (by simp [LocationMode.code]),
      select_notFixed (by simp [once, LocationMode.code])]
  · rfl

end Selection

/-! ## Writes -/

def recordOf (settings : Settings) : Bytes :=
  Record.layout.write (sealed settings)

/-- What a boot would carry. -/
def bootLocation (stored : Option Bytes) : Option AdvertLocation :=
  selectAdvertLocation (load stored) {}

theorem load_recordOf {settings : Settings}
    (valid : validateSettings settings = .ok) :
    load (some (recordOf settings)) = restored settings := by
  rw [load, recordOf, decode_sealed valid]

theorem save_valid {settings : Settings} (valid : validateSettings settings = .ok)
    (stored : Option Bytes) (outcome : SaveOutcome) :
    save stored settings outcome =
      match outcome with
      | .saved => (some (recordOf settings), true)
      | .refused => (stored, false)
      | .misreported => (some (recordOf settings), false) := by
  have written : encodeSettings settings
      (some (List.replicate kPersistedSettingsBytes 0)) =
        (.ok, some (recordOf settings)) := by
    unfold encodeSettings
    simp only
    rw [if_neg (by simp), if_neg (by simp [valid]), recordOf]
  rw [save, written]
  cases outcome with
  | saved =>
    have read : (decodeSettings (some (recordOf settings)) {}).1 = .ok := by
      rw [recordOf, decode_sealed valid]
    simp [read]
  | refused => rfl
  | misreported => rfl

/-- How a write of settings ends: with its record, or as it began. -/
inductive Commits (device : Device) (candidate : Settings)
    (outcome : SaveOutcome) : Device × Bool → Prop where
  | saved {stored : Option Bytes} (written : load stored = restored candidate) :
      Commits device candidate outcome
        ({ device with settings := candidate, stored }, true)
  | unchanged (same : candidate = device.settings) :
      Commits device candidate outcome (device, true)
  | refused : Commits device candidate outcome (device, false)
  | misreported {stored : Option Bytes}
      (written : load stored = restored candidate)
      (reported : outcome = .misreported) :
      Commits device candidate outcome ({ device with stored }, false)

section Commits

variable {device : Device} {candidate : Settings} {outcome : SaveOutcome}

theorem store_commits (valid : validateSettings candidate = .ok) :
    Commits device candidate outcome (device.store candidate outcome) := by
  have written := load_recordOf valid
  rw [Device.store, save_valid valid]
  cases outcome with
  | saved => exact .saved written
  | refused => exact .refused
  | misreported => exact .misreported written rfl

theorem persist_commits :
    Commits device candidate outcome
      (device.persistMeshPrivacySettings candidate outcome) := by
  unfold Device.persistMeshPrivacySettings
  split_ifs with invalid
  · exact .refused
  · exact store_commits (not_not.mp invalid)

theorem commit_commits {radio : Radio} :
    Commits device candidate outcome
      (device.commitMeshRadioSettings candidate radio outcome) := by
  unfold Device.commitMeshRadioSettings
  split_ifs with invalid same
  · exact .refused
  · exact .unchanged same.1
  · exact .refused
  · exact store_commits (not_not.mp invalid)

/-- Unlike the radio settings, these are written also if nothing is changed. -/
theorem persist_written
    (accepted : (device.persistMeshPrivacySettings candidate outcome).2 = true) :
    load (device.persistMeshPrivacySettings candidate outcome).1.stored =
      restored candidate := by
  unfold Device.persistMeshPrivacySettings at accepted ⊢
  split_ifs at accepted ⊢ with invalid
  have valid := not_not.mp invalid
  rw [Device.store, save_valid valid] at accepted ⊢
  cases outcome with
  | saved => exact load_recordOf valid
  | refused => cases accepted
  | misreported => cases accepted

theorem location_commits (device : Device) (command : LocationCommand)
    (outcome : SaveOutcome) :
    device.configureMeshLocation command outcome = (device, false) ∨
      ∃ candidate current result,
        command.candidate device.settings = some (candidate, current) ∧
        Commits device candidate outcome result ∧
        (result.2 = true → load result.1.stored = restored candidate) ∧
        device.configureMeshLocation command outcome =
          if result.2 then ({ result.1 with current }, true) else result := by
  unfold Device.configureMeshLocation
  cases command.candidate device.settings with
  | none => exact .inl rfl
  | some chosen =>
    exact .inr ⟨_, _, _, rfl, persist_commits, persist_written, rfl⟩

end Commits

/-! ## Choices -/

theorem ConfigCommand.candidate_located {settings candidate : Settings}
    {command : ConfigCommand} (notOff : command ≠ .off)
    (known : command.candidate settings = some candidate) :
    candidate.locationMode = settings.locationMode ∧
      candidate.fixedLocation = settings.fixedLocation := by
  cases command with
  | on => cases known; exact ⟨rfl, rfl⟩
  | off => exact absurd rfl notOff
  | profile frequency bandwidth spreadingFactor codingRate txPower =>
    obtain ⟨radio, -, rfl⟩ := Option.map_eq_some_iff.mp known
    exact ⟨rfl, rfl⟩
  | malformed => cases known

theorem commandCoordinates_some {latitude longitude : Int}
    {coordinates : Coordinates}
    (read : commandCoordinates latitude longitude = some coordinates) :
    coordinates = ⟨Int32.ofInt latitude, Int32.ofInt longitude⟩ ∧
      validateCoordinates coordinates = .ok := by
  unfold commandCoordinates at read
  split at read
  · cases read
  dsimp only at read
  split at read
  · cases read
  rename_i valid
  cases read
  exact ⟨rfl, not_not.mp valid⟩

/-- What the candidate of a location command is. -/
theorem LocationCommand.chosen {settings candidate : Settings}
    {command : LocationCommand} {current : CurrentLocationOnce}
    (known : command.candidate settings = some (candidate, current)) :
    selectAdvertLocation candidate current = command.location ∧
    (candidate.fixedLocation = {} ∨ ∃ latitude longitude,
      command = .fixed latitude longitude ∧
        commandCoordinates latitude longitude = some candidate.fixedLocation) := by
  cases command with
  | hidden =>
    cases known
    exact ⟨select_hideLocation, .inl rfl⟩
  | fixed latitude longitude =>
    obtain ⟨coordinates, read, chosen⟩ := Option.bind_eq_some_iff.mp known
    obtain ⟨rfl, valid⟩ := commandCoordinates_some read
    rw [setFixedLocation, if_neg (not_not.mpr valid)] at chosen
    cases chosen
    exact ⟨if_pos ⟨rfl, valid⟩, .inr ⟨_, _, rfl, read⟩⟩
  | currentOnce latitude longitude =>
    obtain ⟨coordinates, read, chosen⟩ := Option.bind_eq_some_iff.mp known
    obtain ⟨rfl, valid⟩ := commandCoordinates_some read
    rw [stageCurrentLocationOnce, if_neg (not_not.mpr valid)] at chosen
    cases chosen
    refine ⟨(if_neg fun fixed => ?_).trans (if_pos ⟨rfl, rfl, valid⟩), .inl rfl⟩
    exact absurd fixed.1 (by simp [requestCurrentLocationOnce, LocationMode.code])
  | malformed => cases known

theorem Given.restored {record stored : Option Bytes} {actions : List Action}
    {candidate : Settings} (given : Given record actions candidate.fixedLocation)
    (written : load stored = restored candidate) :
    Given record actions (load stored).fixedLocation := by
  rw [written, SettingsRecord.restored]
  split_ifs
  · exact given
  · exact given

/-! ## Records -/

@[simp]
theorem dropOnce_dropOnce (location : Option AdvertLocation) :
    dropOnce (dropOnce location) = dropOnce location := by
  rcases location with _ | ⟨_ | _, coordinates⟩
  · rfl
  · rfl
  · rfl

/-- What is carried may always be in the record. -/
theorem recorded_carried {history : List Event} (sound : Sound history) :
    Recorded history (dropOnce (carried history)) := by
  induction history with
  | nil => trivial
  | cons event earlier known =>
    cases event with
    | located location => rfl
    | revoked => exact .inl rfl
    | dropped => simpa [Recorded, carried] using known sound
    | advert location => simpa [Recorded, carried] using known sound.2
    | booted location => exact sound.1
    | unread => exact .inl rfl

/-- After a boot that read the settings nothing else is in the record. -/
theorem carried_of_recorded {history : List Event} (sound : Sound history)
    (synced : Synced history) {found : Option AdvertLocation}
    (recorded : Recorded history found) : found = dropOnce (carried history) := by
  induction history with
  | nil => exact synced.elim
  | cons event earlier known =>
    cases event with
    | located location => exact recorded
    | revoked => exact recorded.resolve_right fun unsynced => unsynced.1 synced
    | dropped => simpa [carried] using known sound synced recorded
    | advert location => simpa [carried] using known sound.2 synced recorded
    | booted location => exact recorded.trans sound.1.symm
    | unread => exact synced.elim

/-! ## The invariant -/

/-- What a boot would find is only spoken of where failures are honest. -/
structure Kept (record : Option Bytes) (actions : List Action)
    (device : Device) : Prop where
  sound : Sound device.history
  carries : device.selected = carried device.history
  found : Honest actions → Recorded device.history (bootLocation device.stored)
  boots : Honest actions → Boots device.history
  settings : Given record actions device.settings.fixedLocation
  stored : Given record actions (load device.stored).fixedLocation

namespace Kept

variable {record : Option Bytes} {actions : List Action} {device : Device}
  {candidate : Settings} {outcome : SaveOutcome} {result : Device × Bool}

section

variable (kept : Kept record actions device)

include kept

theorem found_settings (honest : Honest actions) (synced : Synced device.history) :
    bootLocation device.stored = selectAdvertLocation device.settings {} := by
  rw [carried_of_recorded kept.sound synced (kept.found honest), ← kept.carries,
    Device.selected, ← select_cleared]

/-- Settings with the same location change nothing, however they are saved. -/
theorem committed
    (here : selectAdvertLocation candidate device.current = device.selected)
    (given : Given record actions candidate.fixedLocation)
    (commits : Commits device candidate outcome result) :
    Kept record actions result.1 := by
  have found {stored : Option Bytes} (written : load stored = restored candidate) :
      Recorded device.history (bootLocation stored) := by
    rw [bootLocation, written, select_restored,
      select_cleared candidate device.current, here, kept.carries]
    exact recorded_carried kept.sound
  cases commits with
  | saved written =>
    exact ⟨kept.sound, here.trans kept.carries, fun _ => found written,
      kept.boots, given, given.restored written⟩
  | unchanged => exact kept
  | refused => exact kept
  | misreported written =>
    exact ⟨kept.sound, kept.carries, fun _ => found written, kept.boots,
      kept.settings, given.restored written⟩

/-- A rejected choice changes nothing if its write tells the truth. -/
theorem rejected (commits : Commits device candidate outcome result)
    (given : Given record actions candidate.fixedLocation)
    (refused : result.2 = false) (told : Honest actions → outcome ≠ .misreported) :
    Kept record actions result.1 := by
  cases commits with
  | saved => cases refused
  | unchanged => exact kept
  | refused => exact kept
  | misreported written reported =>
    exact ⟨kept.sound, kept.carries,
      fun honest => absurd reported (told honest), kept.boots, kept.settings,
      given.restored written⟩

/-- An accepted choice is what is carried from now on. -/
theorem chosen (commits : Commits device candidate outcome result)
    (given : Given record actions candidate.fixedLocation)
    (accepted : result.2 = true) {current : CurrentLocationOnce} {event : Event}
    (choice : event = .revoked ∨ ∃ location, event = .located location)
    (carries : selectAdvertLocation candidate current =
      carried (event :: device.history)) (found : Honest actions →
      Recorded (event :: device.history) (bootLocation result.1.stored)) :
    Kept record actions ({ result.1 with current }.log [event]) := by
  have sound : Sound (event :: device.history) := by
    rcases choice with rfl | ⟨location, rfl⟩
    · exact kept.sound
    · exact kept.sound
  have boots (honest : Honest actions) : Boots (event :: device.history) := by
    rcases choice with rfl | ⟨location, rfl⟩
    · exact kept.boots honest
    · exact kept.boots honest
  cases commits with
  | saved written =>
    exact ⟨sound, carries, found, boots, given, given.restored written⟩
  | unchanged same =>
    subst same
    exact ⟨sound, carries, found, boots, given, kept.stored⟩
  | refused => cases accepted
  | misreported => cases accepted

/-- To switch off settings that were not read may leave the record as it was. -/
theorem revoked {settings : Settings}
    (commits : Commits device (hideLocation settings) outcome result)
    (accepted : result.2 = true) (current : CurrentLocationOnce) :
    Kept record actions ({ result.1 with current }.log [.revoked]) := by
  refine kept.chosen commits (.inl rfl) accepted (.inl rfl) select_hideLocation
    fun honest => ?_
  cases commits with
  | saved written =>
    left
    rw [bootLocation, written, select_restored, select_hideLocation]
  | unchanged same =>
    by_cases synced : Synced device.history
    · left
      rw [kept.found_settings honest synced, ← same, select_hideLocation]
    · exact .inr ⟨synced, kept.found honest⟩
  | refused => cases accepted
  | misreported => cases accepted

theorem dropped :
    Kept record actions ({ device with current := {} }.log [.dropped]) where
  sound := kept.sound
  carries := (select_cleared _ _).trans (congrArg dropOnce kept.carries)
  found := kept.found
  boots := kept.boots
  settings := kept.settings
  stored := kept.stored

/-- An advert uses up what was staged. -/
theorem advertised :
    Kept record actions
      ({ device with current := {} }.log [.advert device.selected]) where
  sound := ⟨kept.carries, kept.sound⟩
  carries := kept.dropped.carries
  found := kept.found
  boots := kept.boots
  settings := kept.settings
  stored := kept.stored

theorem advertised_notOnce
    (notOnce : device.settings.locationMode ≠ LocationMode.currentOnce.code) :
    Kept record actions (device.log [.advert device.selected]) :=
  { kept.advertised with
    carries := (select_notOnce notOnce).trans kept.advertised.carries }

end

theorem made_selected {ready : Bool} {location : Option AdvertLocation}
    (made : device.makeAdvert ready = some location) :
    device.selected = location := by
  unfold Device.makeAdvert at made
  split_ifs at made
  exact Option.some.inj made

theorem introduced (kept : Kept record actions device) (ready : Bool)
    (outcome : SaveOutcome) :
    Kept record actions (device.introduceKitsu ready outcome) := by
  unfold Device.introduceKitsu
  cases made : device.makeAdvert ready with
  | none => exact kept
  | some location =>
    obtain rfl := made_selected made
    dsimp only [Device.consumeCurrentLocationOnce]
    split_ifs with notOnce
    · exact kept.advertised_notOnce notOnce
    · have once := not_not.mp notOnce
      refine kept.advertised.committed ?_ (.inl rfl) persist_commits
      refine select_hideLocation.trans (select_notFixed fun fixed => ?_).symm
      exact absurd (once.symm.trans fixed) (by decide)

theorem queued (kept : Kept record actions device) (ready : Bool) :
    Kept record actions (device.queueBleAdvert ready) := by
  unfold Device.queueBleAdvert
  cases made : device.makeAdvert ready with
  | none => exact kept
  | some location =>
    obtain rfl := made_selected made
    split_ifs with once
    · exact kept.advertised
    · exact kept.advertised_notOnce once

theorem booted (device : Device) (sound : Sound device.history)
    (found : Honest actions → Recorded device.history (bootLocation device.stored))
    (boots : Honest actions → Boots device.history)
    (stored : Given record actions (load device.stored).fixedLocation)
    (readable : Bool) (outcome : SaveOutcome) :
    Kept record actions (device.initMesh readable outcome) := by
  cases readable with
  | false =>
    exact ⟨sound, rfl, fun honest => .inr (found honest), boots, .inl rfl, stored⟩
  | true =>
    have same : load (device.initMesh true outcome).stored =
        load device.stored := by
      simp only [Device.initMesh, Device.log]
      split_ifs with readable missing
      · cases readable
      · have valid : validateSettings {} = .ok := by decide
        rw [missing, save_valid valid]
        cases outcome with
        | saved => exact load_recordOf valid
        | refused => rfl
        | misreported => exact load_recordOf valid
      · rfl
    refine ⟨⟨dropOnce_select_cleared _, sound⟩, rfl, fun _ => ?_,
      fun honest => ⟨found honest, boots honest⟩, stored, same ▸ stored⟩
    rw [bootLocation, same]
    rfl

theorem configured (kept : Kept record actions device) (command : ConfigCommand)
    (radio : Radio) (outcome : SaveOutcome)
    (told : Honest actions → command = .off → outcome ≠ .misreported) :
    Kept record actions (step device ⟨.config command, radio, outcome⟩) := by
  dsimp only [step]
  by_cases off : command = .off
  · subst off
    obtain ⟨result, commits, performed⟩ : ∃ result,
        Commits device (hideLocation { device.settings with
          enabled := false
          txPolicy := TxPolicy.locked.code }) outcome result ∧
        device.configureMeshFromCommand .off radio outcome =
          ({ result.1 with current := {} }, result.2) := ⟨_, commit_commits, rfl⟩
    rw [performed]
    cases accepted : result.2 with
    | true =>
      exact kept.revoked commits accepted {}
    | false =>
      exact (kept.rejected commits (.inl rfl) accepted fun honest =>
        told honest rfl).dropped
  · rw [if_pos off]
    unfold Device.configureMeshFromCommand
    cases known : command.candidate device.settings with
    | none => exact kept
    | some candidate =>
      obtain ⟨mode, location⟩ := ConfigCommand.candidate_located off known
      dsimp only
      rw [if_neg off]
      refine kept.committed ?_ (location ▸ kept.settings) commit_commits
      rw [Device.selected, selectAdvertLocation, mode, location]
      rfl

theorem switched (kept : Kept record actions device) (enabled : Bool)
    (radio : Radio) (outcome : SaveOutcome)
    (told : Honest actions → enabled = false → outcome ≠ .misreported) :
    Kept record actions (step device ⟨.configureMesh enabled, radio, outcome⟩) := by
  dsimp only [step]
  cases enabled with
  | true =>
    have commits : Commits device { device.settings with
        enabled := true
        radio := ukEuNarrowProfile
        txPolicy := TxPolicy.explicitSession.code } outcome
        (device.commitMeshRadioSettings _ radio outcome) := commit_commits
    simpa [Device.configureMesh] using
      kept.committed (by rfl) (by exact kept.settings) commits
  | false =>
    obtain ⟨result, commits, performed⟩ : ∃ result,
        Commits device (hideLocation { device.settings with
          enabled := false
          radio := ukEuNarrowProfile
          txPolicy := TxPolicy.locked.code }) outcome result ∧
        device.configureMesh false radio outcome =
          if result.2 && !false then ({ result.1 with current := {} }, true)
          else result := ⟨_, commit_commits, rfl⟩
    rw [performed]
    cases accepted : result.2 with
    | true =>
      exact kept.revoked commits accepted {}
    | false =>
      have rejected := kept.rejected commits (.inl rfl) accepted
        fun honest => told honest rfl
      simpa [accepted] using rejected

theorem located (kept : Kept record actions device) (command : LocationCommand)
    (radio : Radio) (outcome : SaveOutcome)
    (member : ⟨.location command, radio, outcome⟩ ∈ actions) :
    Kept record actions (step device ⟨.location command, radio, outcome⟩) := by
  dsimp only [step]
  rcases location_commits device command outcome with
    performed | ⟨candidate, current, result, known, commits, written, performed⟩
  · rw [performed]
    exact kept
  · obtain ⟨carries, fixes⟩ := LocationCommand.chosen known
    have given : Given record actions candidate.fixedLocation := by
      refine fixes.imp_right fun fixed => .inr ?_
      obtain ⟨latitude, longitude, rfl, read⟩ := fixed
      exact ⟨_, member, latitude, longitude, rfl, read⟩
    rw [performed]
    cases accepted : result.2 with
    | true =>
      have found : bootLocation result.1.stored = dropOnce command.location := by
        rw [bootLocation, written accepted, select_restored,
          select_cleared candidate current, carries]
      have choice : ∃ location, Event.located command.location =
          .located location := ⟨_, rfl⟩
      simpa [accepted] using
        kept.chosen commits given accepted (.inr choice) carries fun _ => found
    | false =>
      simpa [accepted] using kept.rejected commits given accepted
        fun honest reported => honest _ member reported

theorem stepped (kept : Kept record actions device) (action : Action)
    (member : action ∈ actions) : Kept record actions (step device action) := by
  obtain ⟨command, radio, outcome⟩ := action
  cases command with
  | config command =>
    refine kept.configured command radio outcome fun honest off reported => ?_
    subst off
    exact honest _ member reported
  | configureMesh enabled =>
    refine kept.switched enabled radio outcome fun honest off reported => ?_
    subst off
    exact honest _ member reported
  | location command => exact kept.located command radio outcome member
  | introduce => exact kept.introduced radio.ready outcome
  | publishMap =>
    dsimp only [step, Device.publishKitsuMapCard]
    split_ifs
    · exact kept
    · exact kept.introduced radio.ready outcome
  | queueBleAdvert => exact kept.queued radio.ready
  | reboot readable =>
    exact booted device kept.sound kept.found kept.boots kept.stored readable
      outcome

theorem started (record : Option Bytes) (readable : Bool) (outcome : SaveOutcome) :
    Kept record actions (start record readable outcome) :=
  booted ⟨{}, {}, record, []⟩ trivial (fun _ => trivial) (fun _ => trivial)
    (.inr (.inl rfl)) readable outcome

end Kept

/-! ## Histories -/

theorem dropOnce_ne (location : Option AdvertLocation) (coordinates : Coordinates) :
    dropOnce location ≠ some ⟨.currentOnce, coordinates⟩ := by
  rcases location with _ | ⟨_ | _, other⟩
  · nofun
  · nofun
  · nofun

/-- A staging is used once; while it is carried it is not used yet. -/
theorem uses_once {history : List Event} (sound : Sound history) :
    (uses history).Nodup ∧ (∀ number ∈ uses history, number ≤ stagings history) ∧
      ∀ coordinates, carried history = some ⟨.currentOnce, coordinates⟩ →
        ∀ number ∈ uses history, number < stagings history := by
  induction history with
  | nil => exact ⟨List.nodup_nil, nofun, nofun⟩
  | cons event earlier known =>
    rcases event with (_ | ⟨_ | _, coordinates⟩) | _ | _ |
      (_ | ⟨_ | _, coordinates⟩) | location | _
    · exact ⟨(known sound).1, (known sound).2.1, nofun⟩
    · exact ⟨(known sound).1, (known sound).2.1, nofun⟩
    · have atMost := (known sound).2.1
      exact ⟨(known sound).1, fun _ used => Nat.le_succ_of_le (atMost _ used),
        fun _ _ _ used => Nat.lt_succ_of_le (atMost _ used)⟩
    · exact ⟨(known sound).1, (known sound).2.1, nofun⟩
    · exact ⟨(known sound).1, (known sound).2.1,
        fun _ once => absurd once (dropOnce_ne _ _)⟩
    · exact ⟨(known sound.2).1, (known sound.2).2.1,
        fun _ once => absurd once (dropOnce_ne _ _)⟩
    · exact ⟨(known sound.2).1, (known sound.2).2.1,
        fun _ once => absurd once (dropOnce_ne _ _)⟩
    · obtain ⟨distinct, atMost, below⟩ := known sound.2
      have fresh := below coordinates sound.1.symm
      refine ⟨List.nodup_cons.mpr ⟨fun used => (fresh _ used).false, distinct⟩,
        ?_, fun _ once => absurd once (dropOnce_ne _ _)⟩
      exact List.forall_mem_cons.mpr ⟨Nat.le_refl _, atMost⟩
    · exact ⟨(known sound.2).1, (known sound.2).2.1, fun _ once =>
        absurd (sound.1.trans once) (dropOnce_ne _ _)⟩
    · exact ⟨(known sound).1, (known sound).2.1, nofun⟩

/-- A record without a location has none until a location command sets one. -/
theorem recorded_since {later history : List Event}
    (unlocated : ∀ location, .located (some location) ∉ later)
    (boots : Boots (later ++ history))
    (hidden : ∀ found, Recorded history found → found = none)
    (found : Option AdvertLocation) (recorded : Recorded (later ++ history) found) :
    found = none := by
  induction later generalizing found with
  | nil => exact hidden found recorded
  | cons event later known =>
    have others := fun location inside =>
      unlocated location (List.mem_cons_of_mem _ inside)
    cases event with
    | located location =>
      cases location with
      | none => exact recorded
      | some location => exact absurd List.mem_cons_self (unlocated location)
    | revoked =>
      exact recorded.elim id fun kept => known others boots found kept.2
    | dropped => exact known others boots found recorded
    | advert location => exact known others boots found recorded
    | booted location =>
      exact Eq.trans recorded (known others boots.2 location boots.1)
    | unread => exact recorded.elim id (known others boots found)

/-- What was revoked stays out of the adverts without a location command. -/
theorem hidden_since {later history : List Event}
    (sound : Sound (later ++ history)) (hidden : carried history = none)
    (unlocated : ∀ location, .located (some location) ∉ later)
    (boots : (∀ location, .booted location ∉ later) ∨ Boots (later ++ history) ∧
        ∀ found, Recorded history found → found = none) :
    carried (later ++ history) = none ∧
      ∀ location, .advert location ∈ later → location = none := by
  induction later with
  | nil => exact ⟨hidden, nofun⟩
  | cons event later known =>
    have others := fun location inside =>
      unlocated location (List.mem_cons_of_mem _ inside)
    have before : (∀ location, .booted location ∉ later) ∨
        Boots (later ++ history) ∧
          ∀ found, Recorded history found → found = none := by
      refine boots.imp (fun none location inside =>
        none location (List.mem_cons_of_mem _ inside))
        (And.imp_left fun boots => ?_)
      cases event with
      | booted location => exact boots.2
      | _ => exact boots
    have rest (hidden : ∀ location, .advert location ∈ later → location = none)
        (location : Option AdvertLocation)
        (made : .advert location ∈ event :: later)
        (other : .advert location ≠ event) : location = none :=
      hidden location ((List.mem_cons.mp made).resolve_left other)
    cases event with
    | located location =>
      obtain ⟨-, hidden⟩ := known sound others before
      cases location with
      | none => exact ⟨rfl, fun location made => rest hidden location made nofun⟩
      | some location => exact absurd List.mem_cons_self (unlocated location)
    | revoked =>
      obtain ⟨-, hidden⟩ := known sound others before
      exact ⟨rfl, fun location made => rest hidden location made nofun⟩
    | dropped =>
      obtain ⟨none, hidden⟩ := known sound others before
      exact ⟨congrArg dropOnce none,
        fun location made => rest hidden location made nofun⟩
    | advert shown =>
      obtain ⟨none, hidden⟩ := known sound.2 others before
      refine ⟨congrArg dropOnce none, fun location made => ?_⟩
      by_cases same : Event.advert location = .advert shown
      · cases same
        exact sound.1.trans none
      · exact rest hidden location made same
    | booted location =>
      obtain ⟨-, hidden⟩ := known sound.2 others before
      refine ⟨?_, fun location made => rest hidden location made nofun⟩
      rcases boots with unbooted | ⟨boots, unrecorded⟩
      · exact absurd List.mem_cons_self (unbooted location)
      · exact recorded_since others boots.2 unrecorded location boots.1
    | unread =>
      obtain ⟨-, hidden⟩ := known sound others before
      exact ⟨rfl, fun location made => rest hidden location made nofun⟩

theorem rejected_kept (device : Device) (command : LocationCommand)
    (outcome : SaveOutcome)
    (rejected : (device.configureMeshLocation command outcome).2 = false) :
    (device.configureMeshLocation command outcome).1.selected = device.selected ∧
      (outcome ≠ .misreported →
        (device.configureMeshLocation command outcome).1.stored =
          device.stored) := by
  rcases location_commits device command outcome with
    performed | ⟨candidate, current, result, -, commits, -, performed⟩
  · rw [performed]
    exact ⟨rfl, fun _ => rfl⟩
  · rw [performed] at rejected ⊢
    cases commits with
    | saved => cases rejected
    | unchanged => cases rejected
    | refused => exact ⟨rfl, fun _ => rfl⟩
    | misreported _ reported => exact ⟨rfl, fun told => absurd reported told⟩

/--
In every run: an advert has what the commands left to be carried; every staging
is used in at most one advert; a location in the record was there before the
first boot or was given to be fixed; after the location was hidden or the mesh
switched off no advert has a location until a location command sets one, up to
the next boot; and a rejected location command changes neither what is carried
nor the record, unless its write was misreported.  Where no such write is
misreported, a boot carries on with what may be in the record.  Then a hidden
location stays so over every boot, and so it does after the mesh was switched off,
if the boot in which it was had read the settings or accepted a location command.
-/
theorem one_time_location (record : Option Bytes) (readable : Bool)
    (outcome : SaveOutcome) (actions : List Action) :
    let device := exec step (start record readable outcome) actions
    Sound device.history ∧ (uses device.history).Nodup ∧
      Given record actions (load device.stored).fixedLocation ∧
      (∀ later event earlier, device.history = later ++ event :: earlier →
        event = .located none ∨ event = .revoked →
        (∀ location, .located (some location) ∉ later) →
        (∀ location, .booted location ∉ later) ∨
          Honest actions ∧ (event = .revoked → Synced earlier) →
          ∀ location, .advert location ∈ later → location = none) ∧
      (∀ command outcome,
        (device.configureMeshLocation command outcome).2 = false →
          (device.configureMeshLocation command outcome).1.selected =
            device.selected ∧ (outcome ≠ .misreported →
            (device.configureMeshLocation command outcome).1.stored =
              device.stored)) ∧
      (Honest actions → Boots device.history) := by
  intro device
  have kept : Kept record actions device :=
    exec_throughout (Kept.started record readable outcome)
      (fun _ action kept member => kept.stepped action member)
      fun earlier action later equal => by simp [equal]
  refine ⟨kept.sound, (uses_once kept.sound).1, kept.stored, ?_,
    rejected_kept device, kept.boots⟩
  intro later event earlier same hides unlocated lasting
  have hidden : carried (event :: earlier) = none := by
    rcases hides with rfl | rfl
    · rfl
    · rfl
  refine (hidden_since (same ▸ kept.sound) hidden unlocated (lasting.imp_right
    fun ⟨honest, synced⟩ => ⟨same ▸ kept.boots honest, fun found recorded => ?_⟩)).2
  rcases hides with rfl | rfl
  · exact recorded
  · exact recorded.resolve_right fun unsynced => unsynced.1 (synced rfl)

-- Off in a boot that read no settings is no change: the next boot has the location.
example :
    (exec step (start none true .saved)
      [⟨.location (.fixed 51500000 0), ⟨false, true, true⟩, .saved⟩,
        ⟨.reboot false, ⟨false, true, true⟩, .saved⟩,
        ⟨.config .off, ⟨false, true, true⟩, .saved⟩,
        ⟨.reboot true, ⟨false, true, true⟩, .saved⟩,
        ⟨.introduce, ⟨false, true, true⟩, .saved⟩]).history =
      [.advert (some ⟨.fixed, 51500000, 0⟩), .booted (some ⟨.fixed, 51500000, 0⟩),
        .revoked, .unread, .located (some ⟨.fixed, 51500000, 0⟩), .booted none] := by
  decide +kernel

/--
The location is hidden, then a command to fix one is rejected, but its record was
written: after a boot an advert has that location.
-/
theorem rejected_location_disclosed :
    ¬ ∀ actions later earlier,
      (exec step (start none true .saved) actions).history =
        later ++ .located none :: earlier →
      (∀ location, .located (some location) ∉ later) →
        ∀ location, .advert location ∈ later → location = none := by
  intro hidden
  let radio : Radio := ⟨true, true, true⟩
  have shown := hidden [⟨.location .hidden, radio, .saved⟩,
    ⟨.location (.fixed 51500000 0), radio, .misreported⟩,
    ⟨.reboot true, radio, .saved⟩, ⟨.introduce, radio, .saved⟩]
    [.advert (some ⟨.fixed, 51500000, 0⟩), .booted (some ⟨.fixed, 51500000, 0⟩)]
    [.booted none] (by decide +kernel)
    (by rintro location inside; simp at inside) _ List.mem_cons_self
  cases shown

end Kitsu.Mesh.OneTimeLocation
