import Kitsu.Mix32

/-!
# The packets of the party modes

The value types of `kitsu_party_modes.h`: the modes with their prompts and
contributions, and the M8 packets with the checks that every one of them passes
before it is sent or used.
-/

namespace Kitsu.PartyModes

/-- The modes of a party. -/
inductive Mode where
  | signalHunt
  | triangulation
  | hotCold
  | hideAndSeek
  | syncRhythm
  | coopEcho
  | asyncRelay
  | rareEncounter
  | sharedTrail
  | storyVote
deriving DecidableEq, Repr

/-- The packets of a session. -/
inductive PacketType where
  | beacon
  | joinRequest
  | welcome
  | ready
  | roundOpen
  | contribution
  | result
  | cancel
deriving DecidableEq, Repr

/-- What a call or the check of a packet answers. -/
inductive Status where
  | ok
  | unsupportedMode
  | legacySignalHunt
  | invalidPacket
  | invalidArgument
  | invalidSourceUid
  | invalidHostUid
  | invalidSessionNonce
  | invalidSequence
  | invalidRound
  | invalidFlags
  | invalidParticipantCount
  | invalidContribution
  | unexpectedField
  | wrongPhase
  | wrongSession
  | wrongHost
  | duplicate
  | staleSequence
  | sequenceConflict
  | sequenceExhausted
  | partyFull
  | unknownParticipant
  | notReady
  | joinClosed
  | roundMismatch
  | alreadySubmitted
  | timedOut
  | invalidState
deriving DecidableEq, Repr

def kMinimumParticipants : Nat := 2
def kMaximumParticipants : Nat := 4
abbrev kMaximumRounds : Nat := 3
def kLateJoinLastRound : Nat := 2
def kHideSlotCount : Nat := 8
def kStoryChoiceCount : Nat := 3
def kMaximumWindowSeconds : Nat := 600

def kFlagJoinOpen : UInt8 := 0x01
def kFlagActive : UInt8 := 0x02
def kFlagReady : UInt8 := 0x04
def kFlagRareEncounter : UInt8 := 0x08
def kKnownFlags : UInt8 :=
  kFlagJoinOpen ||| kFlagActive ||| kFlagReady ||| kFlagRareEncounter

/-- A packet of a session. -/
structure Packet where
  type : PacketType
  mode : Mode
  round : Nat := 0
  flags : UInt8 := 0
  participantCount : Nat := 0
  sourceUid : UInt16 := 0
  hostUid : UInt16 := 0
  sessionNonce : UInt32 := 0
  sequence : UInt16 := 0
  value : Int := 0
  dataA : UInt32 := 0
  dataB : UInt32 := 0
  windowSeconds : Nat := 0
deriving DecidableEq, Repr

/-- What a member contributes to a round. -/
structure Contribution where
  signalRssi : Int := 0
  value : UInt16 := 0
deriving DecidableEq, Repr

/-- What a round asks for. -/
structure RoundPrompt where
  round : Nat := 0
  hideSlot : Nat := 255
  echoBeats : Nat := 0
  echoPattern : UInt16 := 0
deriving DecidableEq, Repr

/-! ## Fingerprints -/

def fnvByte (hash : UInt32) (value : UInt8) : UInt32 :=
  (hash ^^^ value.toUInt32) * 16777619

/-- Hash two bytes, the least significant first. -/
def fnv16 (hash : UInt32) (value : UInt16) : UInt32 :=
  fnvByte (fnvByte hash (value &&& 0xff).toUInt8) (value >>> 8).toUInt8

/-- Hash four bytes, the least significant first. -/
def fnv32 (hash : UInt32) (value : UInt32) : UInt32 :=
  fnv16 (fnv16 hash (value &&& 0xffff).toUInt16) (value >>> 16).toUInt16

/-- A proof is never zero. -/
def nonZero (value : UInt32) : UInt32 :=
  if value = 0 then 0x4D385231 else value

/-- The byte that stands for a type on the air. -/
def PacketType.code : PacketType → UInt8
  | .beacon => 1
  | .joinRequest => 2
  | .welcome => 3
  | .ready => 4
  | .roundOpen => 5
  | .contribution => 6
  | .result => 7
  | .cancel => 8

/-- The byte that stands for a mode on the air. -/
def Mode.code : Mode → UInt8
  | .signalHunt => 0
  | .triangulation => 1
  | .hotCold => 2
  | .hideAndSeek => 3
  | .syncRhythm => 4
  | .coopEcho => 5
  | .asyncRelay => 6
  | .rareEncounter => 7
  | .sharedTrail => 8
  | .storyVote => 9

/-- A signed 16-bit field as it is sent. -/
def wireInt16 (value : Int) : UInt16 :=
  UInt16.ofNat (value % 65536).toNat

/-- A hash of all fields of a packet. -/
def packetFingerprint (packet : Packet) : UInt32 :=
  let hash := fnvByte 2166136261 packet.type.code
  let hash := fnvByte hash packet.mode.code
  let hash := fnvByte hash packet.round.toUInt8
  let hash := fnvByte hash packet.flags
  let hash := fnvByte hash packet.participantCount.toUInt8
  let hash := fnv16 hash packet.sourceUid
  let hash := fnv16 hash packet.hostUid
  let hash := fnv32 hash packet.sessionNonce
  let hash := fnv16 hash packet.sequence
  let hash := fnv16 hash (wireInt16 packet.value)
  let hash := fnv32 hash packet.dataA
  let hash := fnv32 hash packet.dataB
  let hash := fnv16 hash packet.windowSeconds.toUInt16
  nonZero hash

/-! ## Prompts and contributions -/

/-- The rounds that a mode takes. -/
def roundsForMode : Mode → Nat
  | .triangulation | .hotCold | .asyncRelay => 3
  | .hideAndSeek | .syncRhythm | .coopEcho | .rareEncounter | .sharedTrail
  | .storyVote => 1
  | .signalHunt => 0

/-- What a round asks for, from the seed. -/
def promptFor (mode : Mode) (seed : UInt32) (round : Nat) : RoundPrompt :=
  if mode = .signalHunt || round = 0 || round > roundsForMode mode then {}
  else
    let mixed := mix32 (seed ^^^ (mode.code.toUInt32 <<< 24) ^^^
      (UInt32.ofNat round * 0x9E3779B9))
    let echoBeats := 5 + ((mixed >>> 8) % 4).toNat
    { round
      hideSlot := mixed.toNat % kHideSlotCount
      echoBeats
      echoPattern := (mixed >>> 16).toUInt16 &&&
        UInt16.ofNat (2 ^ echoBeats - 1) }

/--
A contribution that the mode can take; the fields it does not use are zero.
-/
def validContribution (mode : Mode) (contribution : Contribution)
    (prompt : RoundPrompt) : Bool :=
  if prompt.round = 0 then false
  else
    match mode with
    | .triangulation | .hotCold =>
      -140 ≤ contribution.signalRssi && contribution.signalRssi ≤ 0 &&
        contribution.value = 0
    | .hideAndSeek =>
      contribution.signalRssi = 0 &&
        contribution.value.toNat < kHideSlotCount
    | .syncRhythm =>
      contribution.signalRssi = 0 && contribution.value ≤ 2000
    | .coopEcho =>
      contribution.signalRssi = 0 &&
        contribution.value &&& ~~~ UInt16.ofNat (2 ^ prompt.echoBeats - 1) =
          0
    | .asyncRelay | .rareEncounter =>
      contribution.signalRssi = 0 && contribution.value ≤ 1000
    | .sharedTrail => contribution.signalRssi = 0 && contribution.value ≤ 20
    | .storyVote =>
      contribution.signalRssi = 0 &&
        contribution.value.toNat < kStoryChoiceCount
    | .signalHunt => false

/-- The prompt in a word of the packet. -/
def packedPrompt (prompt : RoundPrompt) : UInt32 :=
  UInt32.ofNat prompt.hideSlot ||| (UInt32.ofNat prompt.echoBeats <<< 8) |||
    (prompt.echoPattern.toUInt32 <<< 16)

/-- The seed that is sent. -/
def publicSeedFor (mode : Mode) (privateSeed : UInt32) : UInt32 :=
  if mode ≠ .hideAndSeek then privateSeed
  else nonZero (mix32 (privateSeed ^^^ 0x48494445))

/-- What a packet says of the prompt; only the echo is told. -/
def wirePromptFor (mode : Mode) (publicSeed : UInt32) (round : Nat) :
    UInt32 :=
  if mode = .coopEcho then packedPrompt (promptFor mode publicSeed round)
  else 0

/-! ## Validity -/

/-- A window that is neither empty nor too long. -/
def validWindow (seconds : Nat) : Bool :=
  seconds ≠ 0 && seconds ≤ kMaximumWindowSeconds

/-- The checks of the fields that a type of packet uses. -/
def validFields (packet : Packet) : Status :=
  let rounds := roundsForMode packet.mode
  let inRound : Bool := packet.round ≠ 0
  match packet.type with
  | .beacon =>
    if packet.sourceUid ≠ packet.hostUid ||
        inRound ≠ (packet.flags &&& kFlagActive ≠ 0 : Bool) ||
        packet.flags &&& (kFlagReady ||| kFlagRareEncounter) ≠ 0 ||
        packet.value < 0 || packet.value > packet.participantCount ||
        packet.dataA = 0 || packet.dataB ≠ 0 ||
        !validWindow packet.windowSeconds then .unexpectedField
    else .ok
  | .joinRequest =>
    if packet.sourceUid = packet.hostUid ||
        packet.flags &&& ~~~kFlagActive ≠ 0 || packet.value ≠ 0 ||
        packet.dataA ≠ 0 || packet.dataB ≠ 0 ||
        packet.windowSeconds ≠ 0 then .unexpectedField
    else .ok
  | .welcome =>
    if packet.sourceUid ≠ packet.hostUid || packet.value < 1 ||
        packet.value ≥ kMaximumParticipants || packet.dataA = 0 ||
        packet.dataB = 0 || packet.dataB >>> 16 ≠ 0 ||
        packet.flags &&& (kFlagJoinOpen ||| kFlagRareEncounter) ≠ 0 ||
        inRound ≠ (packet.flags &&& kFlagActive ≠ 0 : Bool) ||
        !validWindow packet.windowSeconds then .unexpectedField
    else .ok
  | .ready =>
    if packet.sourceUid = packet.hostUid || packet.round ≠ 0 ||
        packet.flags ≠ 0 || (packet.value ≠ 0 && packet.value ≠ 1) ||
        packet.dataA ≠ 0 || packet.dataB ≠ 0 ||
        packet.windowSeconds ≠ 0 then .unexpectedField
    else .ok
  | .roundOpen =>
    if packet.sourceUid ≠ packet.hostUid || !inRound ||
        packet.participantCount < kMinimumParticipants ||
        packet.flags ≠ kFlagActive || packet.value ≠ 0 ||
        packet.dataA = 0 ||
        packet.dataB ≠ wirePromptFor packet.mode packet.dataA packet.round ||
        !validWindow packet.windowSeconds then .unexpectedField
    else .ok
  | .contribution =>
    let contribution : Contribution :=
      { signalRssi := packet.value
        value := (packet.dataA &&& 0xffff).toUInt16 }
    if packet.sourceUid = packet.hostUid || !inRound ||
        packet.participantCount < kMinimumParticipants ||
        packet.flags ≠ kFlagActive || packet.dataA >>> 16 ≠ 0 ||
        packet.dataB ≠ 0 || packet.windowSeconds ≠ 0 ||
        !validContribution packet.mode contribution
          (promptFor packet.mode 1 packet.round) then
      -- The bits of an echo depend on the real seed; the session checks them.
      if packet.mode ≠ .coopEcho || packet.sourceUid = packet.hostUid ||
          !inRound || packet.flags ≠ kFlagActive ||
          packet.dataA >>> 16 ≠ 0 || packet.dataB ≠ 0 ||
          packet.windowSeconds ≠ 0 || packet.value ≠ 0 then
        .invalidContribution
      else .ok
    else .ok
  | .result =>
    if packet.sourceUid ≠ packet.hostUid || !inRound ||
        packet.round ≠ rounds ||
        packet.participantCount < kMinimumParticipants ||
        packet.flags &&& ~~~(kFlagActive ||| kFlagRareEncounter) ≠ 0 ||
        packet.flags &&& kFlagActive = 0 || packet.value < 0 ||
        packet.value > 1000 || packet.dataB = 0 ||
        packet.windowSeconds ≠ 0 then .unexpectedField
    else if ((packet.dataA >>> 16) &&& 0xff).toNat > 5 ||
        ((packet.dataA >>> 24) &&& 0xff).toNat ≥ kStoryChoiceCount ||
        (packet.mode = .storyVote && (packet.dataA &&& 0xffff).toNat ≠
            ((packet.dataA >>> 24) &&& 0xff).toNat) then
      .unexpectedField
    else .ok
  | .cancel =>
    if packet.sourceUid ≠ packet.hostUid || packet.round ≠ 0 ||
        packet.flags ≠ 0 || packet.value ≠ 0 || packet.dataA ≠ 0 ||
        packet.dataB ≠ 0 || packet.windowSeconds ≠ 0 then .unexpectedField
    else .ok

/-- What a packet is refused for, in the order it is asked. -/
def validate (packet : Packet) : Status :=
  if packet.mode = .signalHunt then .legacySignalHunt
  else if packet.sourceUid = 0 then .invalidSourceUid
  else if packet.hostUid = 0 then .invalidHostUid
  else if packet.sessionNonce = 0 then .invalidSessionNonce
  else if packet.sequence = 0 then .invalidSequence
  else if packet.flags &&& ~~~kKnownFlags ≠ 0 then .invalidFlags
  else if packet.participantCount < 1 ||
      packet.participantCount > kMaximumParticipants then
    .invalidParticipantCount
  else if packet.round > roundsForMode packet.mode then .invalidRound
  else validFields packet

end Kitsu.PartyModes

/-!
# The result of a party

The scores of `social_progression.cpp`, and what the host computes from the
contributions of its members after the last round: the outcome of the mode, the
share of the contributions that arrived, and the proof over the transcript.
-/

namespace Kitsu.PartyModes

/-! ## Scores -/

/-- Whether the signal got stronger. -/
inductive TemperatureHint where
  | unknown
  | muchColder
  | colder
  | same
  | hotter
  | muchHotter
deriving DecidableEq, Repr

/-- The number that stands for a hint. -/
def TemperatureHint.code : TemperatureHint → Nat
  | .unknown => 0
  | .muchColder => 1
  | .colder => 2
  | .same => 3
  | .hotter => 4
  | .muchHotter => 5

def kPartyCapacity : Nat := 4

/-- A strong signal in all rounds scores; a spread costs. -/
def triangulationScore (firstRssi secondRssi thirdRssi : Int) : Nat :=
  if firstRssi > 0 || secondRssi > 0 || thirdRssi > 0 || firstRssi < -140 ||
      secondRssi < -140 || thirdRssi < -140 then 0
  else
    let strongest := max (max firstRssi secondRssi) thirdRssi
    let spread := (strongest - firstRssi).toNat +
      (strongest - secondRssi).toNat + (strongest - thirdRssi).toNat
    let strength :=
      if strongest ≤ -120 then 0 else ((strongest + 120) * 8).toNat
    if strength > spread * 3 then strength - spread * 3 else 1

/-- The hint that two signals give. -/
def temperatureHint (previousRssi currentRssi : Int) : TemperatureHint :=
  if previousRssi > 0 || currentRssi > 0 || previousRssi < -140 ||
      currentRssi < -140 then .unknown
  else
    let delta := currentRssi - previousRssi
    if delta ≥ 8 then .muchHotter
    else if delta ≥ 3 then .hotter
    else if delta ≤ -8 then .muchColder
    else if delta ≤ -3 then .colder
    else .same

/-- The score of a guess by its distance on the circle of slots. -/
def hideAndSeekScore (hiddenSlot guessedSlot slotCount : Nat) : Nat :=
  if slotCount < 2 || hiddenSlot ≥ slotCount || guessedSlot ≥ slotCount then 0
  else
    let distance :=
      if hiddenSlot > guessedSlot then hiddenSlot - guessedSlot
      else guessedSlot - hiddenSlot
    let wrap := slotCount - distance
    let distance := if wrap < distance then wrap else distance
    if distance = 0 then 1000 else 1000 / (distance + 1)

/-- The signed distance of a tap from the first one. -/
def tapDelta (first tap : UInt32) : Int :=
  let forward := (tap - first).toNat
  if forward ≤ 2147483647 then forward else (forward : Int) - 4294967296

/-- The score of taps by how far they spread. -/
def synchronizedTapScore (taps : List UInt32)
    (perfectSpreadMs maximumSpreadMs : Nat) : Nat :=
  if taps.length < 2 || taps.length > kPartyCapacity ||
      perfectSpreadMs > maximumSpreadMs || maximumSpreadMs = 0 then 0
  else
    let deltas := taps.tail.map (tapDelta (taps.headD 0))
    let earliest := deltas.foldl min 0
    let latest := deltas.foldl max 0
    let spread := (latest - earliest).toNat
    if spread ≤ perfectSpreadMs then 1000
    else if spread ≥ maximumSpreadMs then 0
    else
      (maximumSpreadMs - spread) * 1000 / (maximumSpreadMs - perfectSpreadMs)

/-- How many bits are set. -/
def bitCount16 (value : UInt16) : Nat :=
  (List.range 16).countP fun bit => value.toNat.testBit bit

/-- The score of patterns by how many of their beats are right. -/
def cooperativeEchoScore (expectedPattern : UInt16)
    (playerPatterns : List UInt16) (beats : Nat) : Nat :=
  if playerPatterns.length < 2 || playerPatterns.length > kPartyCapacity ||
      beats = 0 || beats > 16 ||
      (beats < 16 && expectedPattern.toNat ≥ 2 ^ beats) then 0
  else
    let validMask := UInt16.ofNat (2 ^ beats - 1)
    if playerPatterns.any (· &&& ~~~validMask ≠ 0) then 0
    else
      let matching := (playerPatterns.map fun pattern =>
        beats - bitCount16 (expectedPattern ^^^ pattern)).sum
      matching * 1000 / (beats * playerPatterns.length)

/-- The misses of two together, at most twenty. -/
def sharedTrailMisses (localMisses peerMisses : Nat) : Nat :=
  let combined := localMisses + peerMisses
  if combined > 20 then 20 else combined

/-- The choice with the most votes; a tie is drawn by the seed. -/
def storyVoteWinner (votes : List Nat) (tieSeed : UInt32) : Nat :=
  let best := votes.foldl max 0
  let candidates := (List.range kStoryChoiceCount).filter fun index =>
    votes.getD index 0 = best
  candidates.getD ((mix32 tieSeed).toNat % candidates.length) 0

/-- The score, at most a thousand. -/
def clampScore (score : Nat) : Nat :=
  if score > 1000 then 1000 else score

/-- The mean, at most a thousand; zero for nobody. -/
def meanScore (total count : Nat) : Nat :=
  if count = 0 then 0 else clampScore (total / count)

/-! ## The host -/

/-- The last packet of a sender. -/
structure ReplayCursor where
  lastSequence : UInt16 := 0
  lastFingerprint : UInt32 := 0
deriving DecidableEq, Repr

/-- A member of a session, with what it contributed. -/
structure MemberState where
  uid : UInt16 := 0
  ready : Bool := false
  joinedRound : Nat := 0
  submittedMask : UInt8 := 0
  replay : ReplayCursor := {}
  signals : Vector Int kMaximumRounds := Vector.replicate kMaximumRounds 0
  values : Vector UInt16 kMaximumRounds := Vector.replicate kMaximumRounds 0
deriving DecidableEq

/-- The result of a session. -/
structure ModeResult where
  participantCount : Nat := 0
  completedRounds : Nat := 0
  rareEncounter : Bool := false
  storyChoice : Nat := 0
  temperature : TemperatureHint := .unknown
  score : Nat := 0
  outcomeValue : Nat := 0
  proof : UInt32 := 0
deriving DecidableEq, Repr

/-- Where a session stands. -/
inductive HostPhase where
  | lobby
  | active
  | complete
  | cancelled
  | expired
deriving DecidableEq, Repr

/-- A session that was started; the members in use are a list. -/
structure HostState where
  phase : HostPhase := .lobby
  mode : Mode
  currentRound : Nat := 0
  totalRounds : Nat
  hostUid : UInt16
  txSequence : UInt16 := 0
  lobbyWindowSeconds : Nat
  roundWindowSeconds : Nat
  sessionNonce : UInt32
  seed : UInt32
  deadlineMs : UInt32
  members : List MemberState
  result : ModeResult := {}
deriving DecidableEq

/-- How many members there are, with the host. -/
def HostState.participantCount (state : HostState) : Nat :=
  state.members.length

/-- The bit of a round in the mask of a member. -/
def roundMask (round : Nat) : UInt8 :=
  1 <<< UInt8.ofNat (round - 1)

def MemberState.submitted (member : MemberState) (round : Nat) : Bool :=
  member.submittedMask &&& roundMask round ≠ 0

/-- What a member contributed to the first round. -/
def MemberState.firstValue (member : MemberState) : UInt16 :=
  member.values[0]

def MemberState.firstSignal (member : MemberState) : Int :=
  member.signals[0]

/-- The signal of the second round. -/
def MemberState.middleSignal (member : MemberState) : Int :=
  member.signals[1]

/-- The signal of the third round. -/
def MemberState.lastSignal (member : MemberState) : Int :=
  member.signals[2]

/-! ## The outcome of a mode -/

/-- The members that submitted in every one of the three rounds. -/
def allRounds (members : List MemberState) : List MemberState :=
  members.filter fun member => member.submittedMask &&& 0x07 = 0x07

/-- The mean over the members who were there in all rounds. -/
def triangulationOutcome (members : List MemberState) (result : ModeResult) :
    ModeResult :=
  let total := ((allRounds members).map fun member =>
    triangulationScore member.signals[0] member.signals[1]
      member.signals[2]).sum
  { result with score := meanScore total (allRounds members).length }

def kHintScores : List Nat := [0, 0, 250, 500, 800, 1000]

/-- The mean of the hints from the first to the last round. -/
def hotColdOutcome (members : List MemberState) (result : ModeResult) :
    ModeResult :=
  let counted := allRounds members
  let total := (counted.map fun member => kHintScores.getD
    (temperatureHint member.signals[0] member.signals[2]).code 0).sum
  let firstTotal := (counted.map fun member => member.signals[0]).sum
  let lastTotal := (counted.map fun member => member.signals[2]).sum
  { result with
    score := meanScore total counted.length
    temperature :=
      if counted.length = 0 then result.temperature
      else temperatureHint (firstTotal.tdiv counted.length)
        (lastTotal.tdiv counted.length) }

/-- The mean of the guesses. -/
def hideAndSeekOutcome (seed : UInt32) (members : List MemberState)
    (result : ModeResult) : ModeResult :=
  let hidden := (promptFor .hideAndSeek seed 1).hideSlot
  let total := (members.map fun member => hideAndSeekScore hidden
    member.firstValue.toUInt8.toNat kHideSlotCount).sum
  { result with
    score := meanScore total members.length
    outcomeValue := hidden }

def kSyncPerfectMs : Nat := 80
def kSyncMaximumMs : Nat := 600

/-- How close together the members tapped. -/
def syncRhythmOutcome (members : List MemberState) (result : ModeResult) :
    ModeResult :=
  { result with
    score := synchronizedTapScore
      (members.map fun member => member.firstValue.toUInt32)
      kSyncPerfectMs kSyncMaximumMs }

/-- How well the members echoed the pattern. -/
def coopEchoOutcome (seed : UInt32) (members : List MemberState)
    (result : ModeResult) : ModeResult :=
  let prompt := promptFor .coopEcho seed 1
  { result with
    score := cooperativeEchoScore prompt.echoPattern
      (members.map MemberState.firstValue) prompt.echoBeats
    outcomeValue := prompt.echoPattern.toNat }

/-- The values that a member submitted from the round in which it joined. -/
def relayed (totalRounds : Nat) (member : MemberState) : List Nat :=
  let first := if member.joinedRound = 0 then 1 else member.joinedRound
  ((List.range' first (totalRounds + 1 - first)).filter member.submitted).map
    fun round => (member.values.toList.getD (round - 1) 0).toNat

/-- The mean of what was relayed, and its sum. -/
def asyncRelayOutcome (totalRounds : Nat) (members : List MemberState)
    (result : ModeResult) : ModeResult :=
  let values := members.flatMap (relayed totalRounds)
  { result with
    score := meanScore values.sum values.length
    outcomeValue := if values.sum > 65535 then 65535 else values.sum }

/-- The mean of what the members contributed. -/
def rareEncounterOutcome (members : List MemberState) (result : ModeResult) :
    ModeResult :=
  let total := (members.map fun member => member.firstValue.toNat).sum
  { result with score := meanScore total members.length }

/-- The misses of all members together. -/
def sharedTrailOutcome (members : List MemberState) (result : ModeResult) :
    ModeResult :=
  let merged := members.foldl (fun merged member =>
    sharedTrailMisses merged member.firstValue.toUInt8.toNat) 0
  { result with outcomeValue := merged, score := merged * 50 }

/-- The votes for each choice. -/
def countVotes (members : List MemberState) : List Nat :=
  members.foldl (fun votes member =>
    votes.modify member.firstValue.toNat (· + 1))
    (List.replicate kStoryChoiceCount 0)

/-- The choice that won, and its share of the votes. -/
def storyVoteOutcome (seed sessionNonce : UInt32)
    (members : List MemberState) (result : ModeResult) : ModeResult :=
  let votes := countVotes members
  let winner := storyVoteWinner votes (seed ^^^ sessionNonce)
  { result with
    storyChoice := winner
    outcomeValue := winner
    score := votes.getD winner 0 * 1000 / members.length }

/-- The outcome before it is scaled by the share of the contributions. -/
def outcome (mode : Mode) (seed sessionNonce : UInt32) (totalRounds : Nat)
    (members : List MemberState) (result : ModeResult) : Option ModeResult :=
  match mode with
  | .triangulation => some (triangulationOutcome members result)
  | .hotCold => some (hotColdOutcome members result)
  | .hideAndSeek => some (hideAndSeekOutcome seed members result)
  | .syncRhythm => some (syncRhythmOutcome members result)
  | .coopEcho => some (coopEchoOutcome seed members result)
  | .asyncRelay => some (asyncRelayOutcome totalRounds members result)
  | .rareEncounter => some (rareEncounterOutcome members result)
  | .sharedTrail => some (sharedTrailOutcome members result)
  | .storyVote => some (storyVoteOutcome seed sessionNonce members result)
  | .signalHunt => none

/-! ## The result -/

/-- The rounds in which a member is expected to contribute. -/
def expectedRounds (totalRounds : Nat) (member : MemberState) : List Nat :=
  let firstRound := if member.joinedRound = 0 then 1 else member.joinedRound
  List.range' firstRound (totalRounds + 1 - firstRound)

/-- The score is cut by the share of contributions that are missing. -/
def participationScore (totalRounds : Nat) (members : List MemberState)
    (score : Nat) : Nat :=
  let expectedContributions :=
    (members.map fun member => (expectedRounds totalRounds member).length).sum
  let actualContributions := (members.map fun member =>
    ((expectedRounds totalRounds member).filter member.submitted).length).sum
  if expectedContributions ≠ 0 && actualContributions < expectedContributions
  then score * actualContributions / expectedContributions
  else score

/-- The member goes behind the last one that has no larger UID. -/
def insertByUid (selected : MemberState) :
    List MemberState → List MemberState
  | [] => [selected]
  | first :: later =>
    if first.uid > selected.uid then selected :: first :: later
    else first :: insertByUid selected later

/-- The members by their names, not by when they joined. -/
def orderByUid (members : List MemberState) : List MemberState :=
  members.foldl (fun sorted member => insertByUid member sorted) []

/-- A member's part of the proof. -/
def memberProof (totalRounds : Nat) (proof : UInt32) (member : MemberState) :
    UInt32 :=
  let proof := fnv16 proof member.uid
  let proof := fnvByte proof member.joinedRound.toUInt8
  let proof := fnvByte proof member.submittedMask
  (List.range totalRounds).foldl (fun proof round =>
    fnv16 (fnv16 proof (wireInt16 (member.signals.toList.getD round 0)))
      (member.values.toList.getD round 0)) proof

/-- The proof of a result, over the members by their names. -/
def resultProof (state : HostState) (result : ModeResult) : UInt32 :=
  let proof := fnv32 2166136261 0x4D385231
  let proof := fnvByte proof state.mode.code
  let proof := fnv32 proof state.sessionNonce
  let proof := fnv32 proof state.seed
  let proof := fnvByte proof state.participantCount.toUInt8
  let proof := (orderByUid state.members).foldl
    (memberProof state.totalRounds) proof
  let proof := fnv16 proof result.score.toUInt16
  let proof := fnv16 proof result.outcomeValue.toUInt16
  let proof := fnvByte proof result.storyChoice.toUInt8
  let proof := fnvByte proof result.temperature.code.toUInt8
  let proof := fnvByte proof (if result.rareEncounter then 1 else 0)
  nonZero proof

/-- The result of a session whose rounds are over. -/
def resolveResult (state : HostState) : Except Status ModeResult :=
  if state.participantCount < kMinimumParticipants ||
      state.currentRound ≠ state.totalRounds then .error .invalidState
  else
    match outcome state.mode state.seed state.sessionNonce state.totalRounds
        state.members { participantCount := state.participantCount
                        completedRounds := state.totalRounds } with
    | none => .error .unsupportedMode
    | some result =>
      let result := { result with
        score := participationScore state.totalRounds state.members
          result.score }
      let result := { result with rareEncounter :=
        state.participantCount ≥ kMinimumParticipants &&
          result.score ≥ 800 }
      .ok { result with proof := resultProof state result }

/-- The result in a word of the packet. -/
def packedResult (result : ModeResult) : UInt32 :=
  UInt32.ofNat result.outcomeValue |||
    (UInt32.ofNat result.temperature.code <<< 16) |||
    (UInt32.ofNat result.storyChoice <<< 24)

end Kitsu.PartyModes
