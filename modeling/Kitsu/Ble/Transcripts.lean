import Kitsu.Ble.Action
import Kitsu.Companion.Envelope
import Kitsu.Lib.Framing

/-!
# Transcripts determine what they attest

Four functions feed a concatenated byte string to the message authentication
code: the handshake proof, the two pairing proofs and the code of an envelope.
Each string starts with the domain of its function, and no domain is a prefix
of another, so the functions cannot be confused.  Behind the domain every field
is a terminated word, an array of a fixed size or a length-prefixed string,
hence the string determines the fields.  The root of a handshake is the key of
its code and not part of the string.
-/

namespace Kitsu.Ble.Transcripts

open Kitsu.Lib.ByteString
open Kitsu.Lib.Framing
open Kitsu.Ble.Action
open Kitsu.Ble.Permissions
open Kitsu.Companion.Base64Url
open Kitsu.Companion.Json
open Kitsu.Companion.Envelope
open Kitsu.Companion.Handshake

/-! ## Calls -/

/-- A call of one of the four functions, with all its arguments. -/
inductive ProofCall where
  | handshake (root : Key) (role : ProofRole)
      (controllerId clientNonce deviceNonce : Nonce)
  | pairing (root : Key) (role : ProofRole) (controllerId : Nonce)
      (deviceUid : ByteVec 7) (clientNonce deviceNonce : Nonce)
  | roleBound (root : Key) (role : ProofRole) (controllerRole : String)
      (controllerId : Nonce) (deviceUid : ByteVec 7)
      (clientNonce deviceNonce : Nonce)
  | envelope (key : Key) (frame : DecodedEnvelope) (payload : Bytes)

/-- The proof that a call computes. -/
def ProofCall.run (crypto : CompanionCrypto) : ProofCall → Option Key
  | .handshake root role controllerId clientNonce deviceNonce =>
    makeHandshakeProof crypto root role controllerId clientNonce
      deviceNonce
  | .pairing root role controllerId deviceUid clientNonce deviceNonce =>
    makePairingProof crypto root role controllerId deviceUid clientNonce
      deviceNonce
  | .roleBound root role controllerRole controllerId deviceUid clientNonce
      deviceNonce =>
      makeRoleBoundPairingProof crypto root role controllerRole controllerId
        deviceUid clientNonce deviceNonce
  | .envelope key frame payload =>
    calculateEnvelopeMac crypto key frame payload

/--
What the callers have checked: both callers of `calculateEnvelopeMac` bound the
operation and the payload before they call it.
-/
def ProofCall.Checked : ProofCall → Prop
  | .envelope _ frame payload =>
    operationValid frame.operation = true ∧
      payload.length ≤ kMaximumEnvelopePayloadBytes
  | _ => True

/-- The call feeds these bytes to the authentication code under this key. -/
def Feeds (call : ProofCall) (key : Key) (bytes : Bytes) : Prop :=
  ∀ crypto : CompanionCrypto,
    call.run crypto = crypto.hmacSha256 key bytes

/-- The arguments of a call apart from a key that is only a key. -/
inductive ProofMessage where
  | handshake (role : ProofRole)
      (controllerId clientNonce deviceNonce : Nonce)
  | pairing (root : Key) (role : ProofRole) (controllerId : Nonce)
      (deviceUid : ByteVec 7) (clientNonce deviceNonce : Nonce)
  | roleBound (root : Key) (role : ProofRole) (controllerRole : String)
      (controllerId : Nonce) (deviceUid : ByteVec 7)
      (clientNonce deviceNonce : Nonce)
  | envelope (frame : DecodedEnvelope) (payload : Bytes)

/-- What a call proves. -/
def ProofCall.message : ProofCall → ProofMessage
  | .handshake _ role controllerId clientNonce deviceNonce =>
    .handshake role controllerId clientNonce deviceNonce
  | .pairing root role controllerId deviceUid clientNonce deviceNonce =>
    .pairing root role controllerId deviceUid clientNonce deviceNonce
  | .roleBound root role controllerRole controllerId deviceUid clientNonce
      deviceNonce =>
      .roleBound root role controllerRole controllerId deviceUid
        clientNonce deviceNonce
  | .envelope _ frame payload => .envelope frame payload

/-! ## The strings of the calls -/

/-- The bytes that a proof is computed over. -/
def ProofMessage.bytes : ProofMessage → Bytes
  | .handshake role controllerId clientNonce deviceNonce =>
    handshakeTranscript role controllerId clientNonce deviceNonce
  | .pairing root role controllerId deviceUid clientNonce deviceNonce =>
    pairingTranscript root role controllerId deviceUid clientNonce
      deviceNonce
  | .roleBound root role controllerRole controllerId deviceUid clientNonce
      deviceNonce =>
      roleBoundTranscript root role controllerRole controllerId deviceUid
        clientNonce deviceNonce
  | .envelope frame payload => envelopeTranscript frame payload

/-- The arguments with which a function computes a code at all. -/
def ProofMessage.Admissible : ProofMessage → Prop
  | .handshake .. => True
  | .pairing _ _ _ deviceUid _ _ => validDeviceUid deviceUid = true
  | .roleBound _ _ controllerRole _ deviceUid _ _ =>
    controllerRoleAllowed controllerRole = true ∧
      validDeviceUid deviceUid = true
  | .envelope frame payload =>
    operationValid frame.operation = true ∧
      payload.length ≤ kMaximumEnvelopePayloadBytes

/-- Primitives that answer one authentication code only. -/
def showing (key : Key) (bytes : Bytes) : CompanionCrypto where
  sha256 := fun _ => none
  hmacSha256 := fun usedKey used =>
    if usedKey = key ∧ used = bytes then some key else none
  hkdfSha256 := fun _ _ _ => none

/-- A call that feeds bytes was not refused and feeds its own string. -/
theorem Feeds.message {call : ProofCall} {key : Key} {bytes : Bytes}
    (feeds : Feeds call key bytes) (checked : call.Checked) :
    call.message.Admissible ∧ call.message.bytes = bytes := by
  have shown := feeds (showing key bytes)
  cases call with
  | handshake root role controllerId clientNonce deviceNonce =>
    simp only [ProofCall.run, makeHandshakeProof, showing] at shown
    split at shown
    · rename_i same
      exact ⟨trivial, same.2⟩
    · cases shown
  | pairing root role controllerId deviceUid clientNonce deviceNonce =>
    simp only [ProofCall.run, makePairingProof, showing] at shown
    split at shown
    · cases shown
    rename_i valid
    split at shown
    · rename_i same
      have uid : validDeviceUid deviceUid = true := by simpa using valid
      exact ⟨uid, same.2⟩
    · cases shown
  | roleBound root role controllerRole controllerId deviceUid clientNonce
      deviceNonce =>
      simp only [ProofCall.run, makeRoleBoundPairingProof, showing] at shown
      split at shown
      · cases shown
      rename_i valid
      split at shown
      · rename_i same
        have allowed : controllerRoleAllowed controllerRole = true ∧
            validDeviceUid deviceUid = true := by
          simpa using valid
        exact ⟨allowed, same.2⟩
      · cases shown
  | envelope used frame payload =>
    simp only [ProofCall.run, calculateEnvelopeMac, showing] at shown
    split at shown
    · rename_i same
      exact ⟨checked, same.2⟩
    · cases shown

/-! ## Fields -/

/-- The domains, with their terminators. -/
inductive Domain where
  | handshake
  | pairing
  | roleBound
  | envelope

/-- The name of a domain, with the zero byte that ends it. -/
def Domain.bytes : Domain → Bytes
  | .handshake => ascii "KITSU-HS-1" ++ [0]
  | .pairing => ascii "KITSU-PAIR-1" ++ [0]
  | .roleBound => ascii "KITSU-PAIR-2" ++ [0]
  | .envelope => ascii "KITSU-ENV-1" ++ [0]

theorem prefixFree_domain : PrefixFree Set.univ Domain.bytes := by
  intro first _ second _ shorter
  cases first <;> cases second <;>
    first | rfl | exact absurd shorter (by decide)

theorem prefixFree_role :
    PrefixFree Set.univ fun role : ProofRole => ascii role.text ++ [0] := by
  intro first _ second _ shorter
  cases first <;> cases second <;>
    first | rfl | exact absurd shorter (by decide)

theorem prefixFree_controllerRole :
    PrefixFree {role | controllerRoleAllowed role = true}
      fun role => ascii role ++ [0] := by
  intro first firstAllowed second secondAllowed shorter
  simp only [Set.mem_ofPred_eq, controllerRoleAllowed, Bool.or_eq_true,
    beq_iff_eq] at firstAllowed secondAllowed
  rcases firstAllowed with rfl | rfl <;>
    rcases secondAllowed with rfl | rfl <;>
    first | rfl | exact absurd shorter (by decide)

/-- A valid device name ends in its terminator, which is not written. -/
theorem validDeviceUid_eq {uid : ByteVec 7} (valid : validDeviceUid uid = true) :
    uid.bytes = uid.bytes.take 6 ++ [0] := by
  unfold validDeviceUid at valid
  split at valid
  · rename_i k t a b c d terminator shape
    simp only [Bool.and_eq_true, beq_iff_eq] at valid
    rw [shape, valid.2]
    rfl
  · cases valid

theorem prefixFree_deviceUid :
    PrefixFree {uid | validDeviceUid uid = true}
      fun uid : ByteVec 7 => uid.bytes.take 6 := by
  apply @PrefixFree.ofLength _ _ _ 6
  · intro uid _
    simp
  · intro first firstValid second secondValid same
    apply ByteVec.ext
    rw [validDeviceUid_eq firstValid, validDeviceUid_eq secondValid]
    exact congrArg (· ++ [0]) same

theorem prefixFree_channel :
    PrefixFree Set.univ fun channel : EnvelopeChannel => [channel.code] := by
  intro first _ second _ shorter
  cases first <;> cases second <;>
    first | rfl | exact absurd shorter (by decide)

/-! ## What a string determines -/

/-- The domain that a message belongs to. -/
def ProofMessage.domain : ProofMessage → Domain
  | .handshake .. => .handshake
  | .pairing .. => .pairing
  | .roleBound .. => .roleBound
  | .envelope .. => .envelope

/-- The fields behind the domain. -/
def ProofMessage.fields : ProofMessage → Bytes
  | .handshake role controllerId clientNonce deviceNonce =>
    (ascii role.text ++ [0]) ++ (controllerId.bytes ++
      (clientNonce.bytes ++ deviceNonce.bytes))
  | .pairing root role controllerId deviceUid clientNonce deviceNonce =>
    (ascii role.text ++ [0]) ++ (controllerId.bytes ++ (root.bytes ++
      (deviceUid.bytes.take 6 ++ (clientNonce.bytes ++ deviceNonce.bytes))))
  | .roleBound root role controllerRole controllerId deviceUid clientNonce
      deviceNonce =>
      (ascii role.text ++ [0]) ++ ((ascii controllerRole ++ [0]) ++
        (controllerId.bytes ++ (root.bytes ++ (deviceUid.bytes.take 6 ++
          (clientNonce.bytes ++ deviceNonce.bytes)))))
  | .envelope frame payload =>
    [frame.channel.code] ++ (bigEndian 8 frame.sequence.toNat ++
      (frame.nonce.bytes ++ (frame.requestId.bytes ++
        ((bigEndian 2 frame.operation.length ++ frame.operation) ++
          (bigEndian 4 payload.length ++ payload)))))

theorem ProofMessage.bytes_eq (message : ProofMessage) :
    message.bytes = message.domain.bytes ++ message.fields := by
  cases message <;>
    simp [ProofMessage.bytes, ProofMessage.domain, ProofMessage.fields,
      Domain.bytes, handshakeTranscript, pairingTranscript,
      roleBoundTranscript, envelopeTranscript]

section Fields

variable {first second : Bytes} {count : Nat}

/-- Two strings that start with arrays of one size. -/
theorem split_array {firstArray secondArray : ByteVec count}
    (same : firstArray.bytes ++ first = secondArray.bytes ++ second) :
    firstArray = secondArray ∧ first = second :=
  (prefixFree_byteVec count).split trivial trivial same

/-- Two strings that start with the role of a proof. -/
theorem split_role {firstRole secondRole : ProofRole}
    (same : (ascii firstRole.text ++ [0]) ++ first =
      (ascii secondRole.text ++ [0]) ++ second) :
    firstRole = secondRole ∧ first = second :=
  prefixFree_role.split trivial trivial same

/-- Both nonces, which end every proof. -/
theorem split_nonces {firstClient firstDevice secondClient
      secondDevice : Nonce} (same : firstClient.bytes ++ firstDevice.bytes =
      secondClient.bytes ++ secondDevice.bytes) :
    firstClient = secondClient ∧ firstDevice = secondDevice := by
  obtain ⟨client, device⟩ := split_array same
  exact ⟨client, ByteVec.ext device⟩

end Fields

theorem envelope_injective {first second : DecodedEnvelope}
    {firstPayload secondPayload : Bytes}
    (firstValid : (ProofMessage.envelope first firstPayload).Admissible)
    (secondValid : (ProofMessage.envelope second secondPayload).Admissible)
    (same : (ProofMessage.envelope first firstPayload).fields =
      (ProofMessage.envelope second secondPayload).fields) :
    first = second ∧ firstPayload = secondPayload := by
  have short : ∀ operation : Bytes, operationValid operation = true →
      operation.length < 256 ^ 2 := by
    intro operation valid
    simp only [operationValid, Bool.and_eq_true] at valid
    exact Nat.lt_of_le_of_lt (of_decide_eq_true valid.1.2) (by decide)
  have small : ∀ payload : Bytes,
      payload.length ≤ kMaximumEnvelopePayloadBytes →
      payload.length < 256 ^ 4 := by
    intro payload bounded
    exact Nat.lt_of_le_of_lt bounded (by decide)
  obtain ⟨firstChannel, firstSequence, firstNonce, firstId,
    firstOperation⟩ := first
  obtain ⟨secondChannel, secondSequence, secondNonce, secondId,
    secondOperation⟩ := second
  obtain ⟨rfl, behindChannel⟩ :=
    prefixFree_channel.split trivial trivial same
  obtain ⟨sequences, behindSequence⟩ :=
    (prefixFree_bigEndian 8).split firstSequence.toNat_lt
      secondSequence.toNat_lt behindChannel
  obtain rfl := UInt64.toNat_inj.mp sequences
  obtain ⟨rfl, behindNonce⟩ := split_array behindSequence
  obtain ⟨rfl, behindId⟩ := split_array behindNonce
  obtain ⟨rfl, payloads⟩ :=
    (prefixFree_sized 2).split (short _ firstValid.1)
      (short _ secondValid.1) behindId
  obtain rfl :=
    (prefixFree_sized 4).injOn (small _ firstValid.2)
      (small _ secondValid.2) payloads
  exact ⟨rfl, rfl⟩

/-- Admissible arguments are determined by the string of their function. -/
theorem ProofMessage.bytes_injective {first second : ProofMessage}
    (firstIn : first.Admissible) (secondIn : second.Admissible)
    (same : first.bytes = second.bytes) : first = second := by
  rw [first.bytes_eq, second.bytes_eq] at same
  obtain ⟨domains, fields⟩ := prefixFree_domain.split trivial trivial same
  cases first <;> cases second <;> try cases domains
  case handshake.handshake =>
    obtain ⟨rfl, behindRole⟩ := split_role fields
    obtain ⟨rfl, nonces⟩ := split_array behindRole
    obtain ⟨rfl, rfl⟩ := split_nonces nonces
    rfl
  case pairing.pairing =>
    obtain ⟨rfl, behindRole⟩ := split_role fields
    obtain ⟨rfl, behindController⟩ := split_array behindRole
    obtain ⟨rfl, behindRoot⟩ := split_array behindController
    obtain ⟨rfl, nonces⟩ :=
      prefixFree_deviceUid.split firstIn secondIn behindRoot
    obtain ⟨rfl, rfl⟩ := split_nonces nonces
    rfl
  case roleBound.roleBound =>
    obtain ⟨rfl, behindRole⟩ := split_role fields
    obtain ⟨rfl, behindBinding⟩ :=
      prefixFree_controllerRole.split firstIn.1 secondIn.1 behindRole
    obtain ⟨rfl, behindController⟩ := split_array behindBinding
    obtain ⟨rfl, behindRoot⟩ := split_array behindController
    obtain ⟨rfl, nonces⟩ :=
      prefixFree_deviceUid.split firstIn.2 secondIn.2 behindRoot
    obtain ⟨rfl, rfl⟩ := split_nonces nonces
    rfl
  case envelope.envelope =>
    obtain ⟨rfl, rfl⟩ := envelope_injective firstIn secondIn fields
    rfl

/-! ## Commands -/

/-- The fields of a command that say what it does. -/
structure CommandMeaning where
  actionId : ByteVec 16
  kind : BleActionKind
  expiresAtEpoch : Nat
  durationMs : Nat
  advertScope : BleAdvertScope
  messageRoute : BleMessageRoute
  messageTarget : Bytes
  messageText : Bytes
deriving DecidableEq

/-- What a command asks for, apart from how it was written. -/
def meaning (command : BleActionCommand) : CommandMeaning :=
  ⟨command.actionId, command.kind, command.expiresAtEpoch,
    command.durationMs, command.advertScope, command.messageRoute,
    command.messageTarget, command.messageText⟩

/-- The digest of the command is the hash of these bytes. -/
def Digests (command : BleActionCommand) (bytes : Bytes) : Prop :=
  ∀ sha256 : Bytes → Option (ByteVec 32),
    commandDigest sha256 command = sha256 bytes

/-- The bounds of a recorded command that its encoding relies on. -/
structure Bounded (command : BleActionCommand) : Prop where
  expires : command.expiresAtEpoch < 256 ^ 4
  duration : command.durationMs < 256 ^ 4
  target : command.messageTarget.length < 256
  text : command.messageText.length < 256
  scope : command.kind ≠ .advertiseOnce → command.advertScope = .none

theorem validMessage_short {command : BleActionCommand}
    (valid : validMessage command = true) :
    command.messageTarget.length < 256 ∧
      command.messageText.length < 256 := by
  unfold validMessage at valid
  split at valid
  · simp only [Bool.and_eq_true, beq_iff_eq] at valid
    rw [valid.1.2, valid.2]
    exact ⟨by decide, by decide⟩
  split at valid
  · cases valid
  · rename_i bounds
    simp only [kBleActionMessageTargetBytes, kBleActionMessageTextBytes,
      not_or, not_lt] at bounds
    omega

theorem validReplayCommand_bounded {command : BleActionCommand}
    (valid : validReplayCommand command = true) : Bounded command := by
  simp only [validReplayCommand, Bool.and_eq_true, decide_eq_true_eq]
    at valid
  obtain ⟨⟨⟨⟨_, expires⟩, durations⟩, scopes⟩, message⟩ := valid
  obtain ⟨target, text⟩ := validMessage_short message
  constructor
  · exact Nat.lt_of_le_of_lt expires (by decide)
  · unfold validDuration at durations
    split at durations
    · simp only [Bool.and_eq_true, decide_eq_true_eq] at durations
      exact Nat.lt_of_le_of_lt durations.2 (by decide)
    · rw [beq_iff_eq.mp durations]
      decide
  · exact target
  · exact text
  · intro other
    rw [validScope, if_neg other] at scopes
    exact beq_iff_eq.mp scopes

theorem Digests.command {command : BleActionCommand} {bytes : Bytes}
    (digests : Digests command bytes) :
    validReplayCommand command = true ∧ commandPreimage command = bytes := by
  have shown := digests fun used =>
    if used = bytes then some (ByteVec.zero 32) else none
  simp only [commandDigest, if_true] at shown
  split at shown
  · cases shown
  rename_i valid
  split at shown
  · rename_i same
    exact ⟨by simpa using valid, same⟩
  · cases shown

/-- The suffix of a command; only an advertisement has one. -/
def scopeSuffix (command : BleActionCommand) : Bytes :=
  if command.kind = .advertiseOnce then [command.advertScope.code] else []

theorem oneByte_eq {length : Nat} (bounded : length < 256) :
    [length.toUInt8] = bigEndian 1 length := by
  simp [bigEndian, littleEndian, Nat.mod_eq_of_lt bounded]

theorem twoBytes_eq {length : Nat} (bounded : length < 256) :
    [0, length.toUInt8] = bigEndian 2 length := by
  simp [bigEndian, littleEndian, Nat.mod_eq_of_lt bounded,
    Nat.div_eq_of_lt bounded]

/-- The bytes of a bounded command as a sequence of prefix-free fields. -/
theorem commandPreimage_eq {command : BleActionCommand}
    (bounded : Bounded command) :
    commandPreimage command =
      (ascii "kitsu.ble-action.command.v1" ++ [0]) ++
        (command.actionId.bytes ++ ([actionKindCode command.kind] ++
          (bigEndian 4 command.expiresAtEpoch ++ (bigEndian 4 command.durationMs ++
              ([command.messageRoute.code] ++
                ((bigEndian 1 command.messageTarget.length ++
                    command.messageTarget) ++
                  ((bigEndian 2 command.messageText.length ++
                      command.messageText) ++ scopeSuffix command))))))) := by
  rw [← oneByte_eq bounded.target, ← twoBytes_eq bounded.text]
  simp [commandPreimage, scopeSuffix]

theorem prefixFree_kind :
    PrefixFree Set.univ fun kind => [actionKindCode kind] := by
  intro first _ second _ shorter
  cases first <;> cases second <;>
    first | rfl | exact absurd shorter (by decide)

theorem prefixFree_route :
    PrefixFree Set.univ fun route : BleMessageRoute => [route.code] := by
  intro first _ second _ shorter
  cases first <;> cases second <;>
    first | rfl | exact absurd shorter (by decide)

theorem prefixFree_scope :
    PrefixFree Set.univ fun scope : BleAdvertScope => [scope.code] := by
  intro first _ second _ shorter
  cases first <;> cases second <;>
    first | rfl | exact absurd shorter (by decide)

/-- Two commands of one kind with the same suffix have the same scope. -/
theorem scopeSuffix_injective {first second : BleActionCommand}
    (firstBounded : Bounded first) (secondBounded : Bounded second)
    (kinds : first.kind = second.kind)
    (same : scopeSuffix first = scopeSuffix second) :
    first.advertScope = second.advertScope := by
  by_cases advertises : first.kind = .advertiseOnce
  · rw [scopeSuffix, scopeSuffix, if_pos advertises,
      if_pos (kinds ▸ advertises)] at same
    exact prefixFree_scope.injOn trivial trivial same
  · rw [firstBounded.scope advertises, secondBounded.scope (kinds ▸ advertises)]

theorem commandPreimage_injective {first second : BleActionCommand}
    (firstValid : validReplayCommand first = true)
    (secondValid : validReplayCommand second = true)
    (same : commandPreimage first = commandPreimage second) :
    meaning first = meaning second := by
  have firstBounded := validReplayCommand_bounded firstValid
  have secondBounded := validReplayCommand_bounded secondValid
  rw [commandPreimage_eq firstBounded, commandPreimage_eq secondBounded]
    at same
  obtain ⟨ids, behindId⟩ := split_array (List.append_cancel_left same)
  obtain ⟨kinds, behindKind⟩ :=
    prefixFree_kind.split trivial trivial behindId
  obtain ⟨expiries, behindExpiry⟩ :=
    (prefixFree_bigEndian 4).split firstBounded.expires
      secondBounded.expires behindKind
  obtain ⟨durations, behindDuration⟩ :=
    (prefixFree_bigEndian 4).split firstBounded.duration
      secondBounded.duration behindExpiry
  obtain ⟨routes, behindRoute⟩ :=
    prefixFree_route.split trivial trivial behindDuration
  obtain ⟨targets, behindTarget⟩ :=
    (prefixFree_sized 1).split firstBounded.target secondBounded.target
      behindRoute
  have shortText : ∀ {command : BleActionCommand}, Bounded command →
      command.messageText.length < 256 ^ 2 := by
    intro command bounded
    exact Nat.lt_trans bounded.text (by decide)
  obtain ⟨texts, suffixes⟩ :=
    (prefixFree_sized 2).split (shortText firstBounded)
      (shortText secondBounded) behindTarget
  have scopes :=
    scopeSuffix_injective firstBounded secondBounded kinds suffixes
  simp only [meaning, ids, kinds, expiries, durations, routes, targets,
    texts, scopes]

/-! ## The results -/

/--
Two calls of the four proof functions that feed the same string to the
authentication code are calls of the same function, with the same arguments
apart from the key; and two valid commands whose digests hash the same string
agree in every field that has a meaning.
-/
theorem transcripts_injective :
    (∀ (first second : ProofCall) (firstKey secondKey : Key)
      (bytes : Bytes), first.Checked → second.Checked →
      Feeds first firstKey bytes → Feeds second secondKey bytes →
        first.message = second.message) ∧
    (∀ (first second : BleActionCommand) (bytes : Bytes),
      Digests first bytes → Digests second bytes →
        meaning first = meaning second) := by
  constructor
  · intro first second firstKey secondKey bytes firstChecked secondChecked
      firstFeeds secondFeeds
    obtain ⟨firstIn, firstBytes⟩ := firstFeeds.message firstChecked
    obtain ⟨secondIn, secondBytes⟩ := secondFeeds.message secondChecked
    apply ProofMessage.bytes_injective firstIn secondIn
    rw [firstBytes, secondBytes]
  · intro first second bytes firstDigests secondDigests
    obtain ⟨firstValid, firstBytes⟩ := firstDigests.command
    obtain ⟨secondValid, secondBytes⟩ := secondDigests.command
    apply commandPreimage_injective firstValid secondValid
    rw [firstBytes, secondBytes]

/-- A handshake under this root, with all other arguments fixed. -/
def sampleHandshake (root : Key) : ProofCall :=
  .handshake root .client (ByteVec.replicate 16 1) (ByteVec.replicate 16 2)
    (ByteVec.replicate 16 3)

theorem sampleHandshake_feeds (root : Key) :
    Feeds (sampleHandshake root) root
      (handshakeTranscript .client (ByteVec.replicate 16 1)
        (ByteVec.replicate 16 2) (ByteVec.replicate 16 3)) := by
  intro crypto
  rfl

/-- An advertisement to the mesh. -/
def sampleAdvertisement : BleActionCommand where
  actionId := ByteVec.replicate 16 7
  actionIdText := ascii "07070707-0707-0707-0707-070707070707"
  kind := .advertiseOnce
  expiresAtEpoch := 1767225600
  advertScope := .mesh
  actionIdValid := true

theorem sampleAdvertisement_digests :
    Digests sampleAdvertisement (commandPreimage sampleAdvertisement) := by
  have valid : validReplayCommand sampleAdvertisement = true := by decide
  intro sha256
  simp [commandDigest, valid]

theorem sample_transcripts :
    (sampleHandshake (ByteVec.zero 32)).message =
        (sampleHandshake (ByteVec.replicate 32 1)).message ∧
      meaning sampleAdvertisement = meaning sampleAdvertisement := by
  constructor
  · exact transcripts_injective.1 _ _ _ _ _ trivial trivial
      (sampleHandshake_feeds _) (sampleHandshake_feeds _)
  · exact transcripts_injective.2 _ _ _ sampleAdvertisement_digests
      sampleAdvertisement_digests

/-- Handshakes under different roots feed the same string. -/
theorem handshake_root_not_fed :
    ∃ bytes : Bytes,
      Feeds (sampleHandshake (ByteVec.zero 32)) (ByteVec.zero 32) bytes ∧
      Feeds (sampleHandshake (ByteVec.replicate 32 1))
        (ByteVec.replicate 32 1) bytes ∧
      sampleHandshake (ByteVec.zero 32) ≠
        sampleHandshake (ByteVec.replicate 32 1) := by
  refine ⟨_, sampleHandshake_feeds _, sampleHandshake_feeds _, ?_⟩
  intro same
  injection same with roots
  exact absurd roots (by decide)

end Kitsu.Ble.Transcripts
