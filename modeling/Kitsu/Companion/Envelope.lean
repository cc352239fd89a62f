import Kitsu.Companion.Json

/-!
# Authenticated envelopes

The envelope codec of `kitsu_companion_protocol.cpp`: the outer object with its
eight fields, the transcript under the message authentication code, and the
checks in the order the decoder makes them.  The primitives are those of the
platform; a primitive may refuse.
-/

namespace Kitsu.Companion.Envelope

open Kitsu.Lib.ByteString
open Kitsu.Companion.Base64Url
open Kitsu.Companion.Json

def kMaximumFrameBytes : Nat := 16 * 1024
def kMaximumHandshakeFrameBytes : Nat := 1024
def kMaximumOperationBytes : Nat := 48
def kMaximumEnvelopePayloadBytes : Nat := 12000

/-- Sixteen bytes: a nonce, a request or a controller. -/
abbrev Nonce := ByteVec 16

/-- Thirty-two bytes: a key, a root or an authentication code. -/
abbrev Key := ByteVec 32

/-- The primitives, on the concatenation of the parts they are given. -/
structure CompanionCrypto where
  sha256 : Bytes → Option Key
  hmacSha256 : Key → Bytes → Option Key
  hkdfSha256 : Key → (salt info : Bytes) → Option Key

/-- What an envelope is: a request, a response or an event. -/
inductive EnvelopeChannel where
  | request
  | response
  | event
deriving DecidableEq, Repr

/-- The digit that stands for a channel. -/
def EnvelopeChannel.code : EnvelopeChannel → UInt8
  | .request => 0
  | .response => 1
  | .event => 2

/-- The results other than `Ok`. -/
inductive ProtocolError where
  | invalidArgument
  | outputTooSmall
  | malformedJson
  | duplicateField
  | unknownField
  | missingField
  | unsupportedVersion
  | invalidChannel
  | invalidSequence
  | unexpectedSequence
  | invalidBase64
  | invalidOperation
  | payloadTooLarge
  | authenticationFailed
  | invalidPayloadUtf8
  | invalidPayloadJson
  | cryptoFailed
deriving DecidableEq, Repr

/-- A decoded envelope; the version is always one. -/
structure DecodedEnvelope where
  channel : EnvelopeChannel
  sequence : UInt64
  nonce : Nonce
  requestId : Nonce
  operation : Bytes
deriving DecidableEq

/-! ## Fields -/

/-- The fields of an envelope. -/
inductive Field where
  | version
  | channel
  | sequence
  | nonce
  | requestId
  | operation
  | payload
  | mac
deriving DecidableEq, Repr

/-- The fields in the order of the encoder. -/
def Field.all : List Field :=
  [.version, .channel, .sequence, .nonce, .requestId, .operation, .payload, .mac]

/-- The name of a field. -/
def Field.name : Field → String
  | .version => "v"
  | .channel => "channel"
  | .sequence => "seq"
  | .nonce => "nonce_b64"
  | .requestId => "request_id_b64"
  | .operation => "op"
  | .payload => "payload_b64"
  | .mac => "mac_b64"

def fieldIndex (key : Bytes) : Option Field :=
  Field.all.find? fun field => ascii field.name == key

/-- The fields that hold a number. -/
def Field.numeric : Field → Bool
  | .version | .channel => true
  | _ => false

/-- A string without escapes, behind its opening quote. -/
def scanSimpleString : Bytes → Option (Bytes × Bytes)
  | [] => none
  | character :: rest =>
    if character = byte '"' then some ([], rest)
    else if character < 0x20 ∨ character = byte '\\' then none
    else
      (scanSimpleString rest).map fun scanned =>
        (character :: scanned.1, scanned.2)

/-- A string without escapes. -/
def parseSimpleString : Bytes → Option (Bytes × Bytes)
  | [] => none
  | character :: rest =>
    if character = byte '"' then scanSimpleString rest else none

/-- The fields read so far. -/
abbrev Fields := List (Field × Bytes)

/--
The loop over the fields.  It also ends where the input does, so a comma may be
the last byte of an object.
-/
def parseFields : Nat → Fields → Bytes →
    Except ProtocolError (Fields × Bytes)
  | 0, fields, input => .ok (fields, input)
  | _ + 1, fields, [] => .ok (fields, [])
  | fuel + 1, fields, input =>
    match parseSimpleString input with
    | none => .error .malformedJson
    | some (key, rest) =>
      match fieldIndex key with
      | none => .error .unknownField
      | some field =>
        if (fields.lookup field).isSome then .error .duplicateField
        else
          match skipWhitespace rest with
          | [] => .error .malformedJson
          | colon :: rest =>
            if colon ≠ byte ':' then .error .malformedJson
            else
              let token := skipWhitespace rest
              match if field.numeric then parseUnsignedToken token
                else parseSimpleString token with
              | none => .error .malformedJson
              | some (value, rest) =>
                let fields := (field, value) :: fields
                match skipWhitespace rest with
                | [] => .error .malformedJson
                | next :: rest =>
                  if next = byte '\x7d' then .ok (fields, rest)
                  else if next ≠ byte ',' then
                    .error .malformedJson
                  else
                    parseFields fuel fields
                      (skipWhitespace rest)

/-- The eight fields of an envelope, each once, in any order. -/
def parseOuterObject (json : Bytes) : Except ProtocolError Fields :=
  match skipWhitespace json with
  | [] => .error .malformedJson
  | brace :: rest =>
    if brace ≠ byte '\x7b' then .error .malformedJson
    else
      let body := skipWhitespace rest
      if body.head? = some (byte '\x7d') then .error .missingField
      else
        match parseFields (body.length + 1) [] body with
        | .error error => .error error
        | .ok (fields, rest) =>
          if skipWhitespace rest ≠ [] then .error .malformedJson
          else if Field.all.any fun field =>
              (fields.lookup field).isNone then .error .missingField
          else .ok fields

/-- The text of a field; after `parseOuterObject` every field has one. -/
def Fields.text (fields : Fields) (field : Field) : Bytes :=
  (fields.lookup field).getD []

/-! ## Numbers -/

/-- The value of decimal digits, unless it exceeds eight bytes. -/
def parseDigits : Nat → Bytes → Option Nat
  | value, [] => some value
  | value, character :: rest =>
    if !isDigit character then none
    else
      let digit := character.toNat - 48
      if value > (2 ^ 64 - 1 - digit) / 10 then none
      else parseDigits (value * 10 + digit) rest

/-- A positive 64-bit decimal without a leading zero. -/
def parseDecimal (input : Bytes) : Option UInt64 :=
  if input = [] ∨ 20 < input.length ∨
      (1 < input.length ∧ input.head? = some (byte '0')) then none
  else
    match parseDigits 0 input with
    | none => none
    | some value => if value = 0 then none else some value.toUInt64

/-- Decimal digits in front of those already written. -/
def decimalDigits : Nat → Nat → Bytes → Bytes
  | 0, _, written => written
  | fuel + 1, value, written =>
    let written := (48 + value % 10).toUInt8 :: written
    if value / 10 = 0 then written
    else decimalDigits fuel (value / 10) written

def formatDecimal (value : UInt64) : Bytes :=
  decimalDigits 20 value.toNat []

/-! ## Authentication -/

/-- What the name of an operation is made of. -/
def operationCharacter (character : UInt8) : Bool :=
  (byte 'a' ≤ character && character ≤ byte 'z') ||
    (byte 'A' ≤ character && character ≤ byte 'Z') ||
    isDigit character || character == byte '.' ||
    character == byte '_' || character == byte '-' ||
    character == byte '/'

/-- The name of an operation, not empty and not too long. -/
def operationValid (operation : Bytes) : Bool :=
  operation != [] && operation.length ≤ kMaximumOperationBytes &&
    operation.all operationCharacter

/-- The bytes an envelope's code is computed over. -/
def envelopeTranscript (envelope : DecodedEnvelope) (payload : Bytes) :
    Bytes :=
  ascii "KITSU-ENV-1" ++ [0] ++ [envelope.channel.code] ++
    bigEndian 8 envelope.sequence.toNat ++ envelope.nonce.bytes ++
    envelope.requestId.bytes ++
    bigEndian 2 envelope.operation.length ++ envelope.operation ++
    bigEndian 4 payload.length ++ payload

variable (crypto : CompanionCrypto)

/-- The code that seals an envelope. -/
def calculateEnvelopeMac (key : Key) (envelope : DecodedEnvelope)
    (payload : Bytes) : Option Key :=
  crypto.hmacSha256 key (envelopeTranscript envelope payload)

/-- The channel that a digit stands for. -/
def channelOfDigit (text : Bytes) : Option EnvelopeChannel :=
  if text = [byte '0'] then some .request
  else if text = [byte '1'] then some .response
  else if text = [byte '2'] then some .event
  else none

/-- An array of exactly the text length the decoder asks for. -/
def decodeSized (count textBytes : Nat) (text : Bytes) :
    Option (ByteVec count) :=
  if text.length ≠ textBytes then none else decodeArray count text

/-- The fields of an envelope before its payload is looked at. -/
def decodeCandidate (fields : Fields) (expectedChannel : EnvelopeChannel)
    (expectedSequence : UInt64) : Except ProtocolError DecodedEnvelope :=
  if fields.text .version ≠ [byte '1'] then .error .unsupportedVersion
  else
    match channelOfDigit (fields.text .channel) with
    | none => .error .invalidChannel
    | some channel =>
      if channel ≠ expectedChannel then .error .invalidChannel
      else
        match parseDecimal (fields.text .sequence) with
        | none => .error .invalidSequence
        | some sequence =>
          if sequence ≠ expectedSequence then
            .error .unexpectedSequence
          else
            match decodeSized 16 22 (fields.text .nonce),
              decodeSized 16 22 (fields.text .requestId) with
            | some nonce, some requestId =>
              if !operationValid (fields.text .operation) then
                .error .invalidOperation
              else
                .ok ⟨channel, sequence, nonce, requestId, fields.text .operation⟩
            | _, _ => .error .invalidBase64

/-- The payload of a candidate whose code verifies. -/
def verifyCandidate (key : Key) (candidate : DecodedEnvelope)
    (fields : Fields) : Except ProtocolError Bytes :=
  let text := fields.text .payload
  if base64UrlDecodedBytes text.length > kMaximumEnvelopePayloadBytes then
    .error .payloadTooLarge
  else
    let decoded := decodeBase64Url text kMaximumEnvelopePayloadBytes
    if !decoded.accepted then .error .invalidBase64
    else
      match decodeSized 32 43 (fields.text .mac) with
      | none => .error .invalidBase64
      | some supplied =>
        match calculateEnvelopeMac crypto key candidate
          decoded.written with
        | none => .error .cryptoFailed
        | some expected =>
          if supplied ≠ expected then .error .authenticationFailed
          else if !validUtf8 decoded.written then
            .error .invalidPayloadUtf8
          else if !jsonValid decoded.written then
            .error .invalidPayloadJson
          else .ok decoded.written

/-- The payload buffer of every caller holds the largest payload. -/
def decodeAndVerifyEnvelope (json : Bytes) (key : Key)
    (expectedChannel : EnvelopeChannel) (expectedSequence : UInt64) :
    Except ProtocolError (DecodedEnvelope × Bytes) :=
  if json = [] then .error .invalidArgument
  else if json.length > kMaximumFrameBytes then .error .payloadTooLarge
  else
    match parseOuterObject json with
    | .error error => .error error
    | .ok fields =>
      match decodeCandidate fields expectedChannel expectedSequence with
      | .error error => .error error
      | .ok candidate =>
        match verifyCandidate crypto key candidate fields with
        | .error error => .error error
        | .ok payload => .ok (candidate, payload)

/-- The text of an envelope. -/
def envelopeText (envelope : DecodedEnvelope) (payload : Bytes)
    (mac : Key) : Bytes :=
  ascii "\x7b\"v\":1,\"channel\":" ++ [48 + envelope.channel.code] ++
    ascii ",\"seq\":\"" ++ formatDecimal envelope.sequence ++
    ascii "\",\"nonce_b64\":\"" ++ encodeGroups envelope.nonce.bytes ++
    ascii "\",\"request_id_b64\":\"" ++
    encodeGroups envelope.requestId.bytes ++
    ascii "\",\"op\":\"" ++ envelope.operation ++
    ascii "\",\"payload_b64\":\"" ++ encodeGroups payload ++
    ascii "\",\"mac_b64\":\"" ++ encodeGroups mac.bytes ++ ascii "\"\x7d"

/-- The sealed envelope of a payload, or why there is none. -/
def encodeEnvelope (envelope : DecodedEnvelope) (payload : Bytes)
    (key : Key) (outputCapacity : Nat) : Except ProtocolError Bytes :=
  if envelope.sequence = 0 then .error .invalidSequence
  else if !operationValid envelope.operation then .error .invalidOperation
  else if payload.length > kMaximumEnvelopePayloadBytes then
    .error .payloadTooLarge
  else if !validUtf8 payload || !jsonValid payload then
    .error .invalidPayloadJson
  else
    match calculateEnvelopeMac crypto key envelope payload with
    | none => .error .cryptoFailed
    | some mac =>
      let text := envelopeText envelope payload mac
      if text.length > outputCapacity then .error .outputTooSmall
      else .ok text

/-! ## What is accepted -/

section Accepted

variable {crypto} {key : Key} {fields : Fields} {json payload : Bytes}
  {channel : EnvelopeChannel} {sequence : UInt64}
  {envelope : DecodedEnvelope}

/-- A candidate has the channel and the sequence that were asked for. -/
theorem decodeCandidate_ok
    (decoded : decodeCandidate fields channel sequence = .ok envelope) :
    envelope.channel = channel ∧ envelope.sequence = sequence ∧
      operationValid envelope.operation = true := by
  unfold decodeCandidate at decoded
  split at decoded
  · cases decoded
  split at decoded
  · cases decoded
  split at decoded
  · cases decoded
  rename_i sameChannel
  split at decoded
  · cases decoded
  split at decoded
  · cases decoded
  rename_i sameSequence
  split at decoded
  · split at decoded
    · cases decoded
    · rename_i valid
      cases decoded
      exact ⟨not_not.mp sameChannel, not_not.mp sameSequence,
        by simpa using valid⟩
  · cases decoded

/-- A verified payload has a code and is JSON in UTF-8. -/
theorem verifyCandidate_ok
    (verified : verifyCandidate crypto key envelope fields = .ok payload) :
    decodeSized 32 43 (fields.text .mac) =
        calculateEnvelopeMac crypto key envelope payload ∧
      (calculateEnvelopeMac crypto key envelope payload).isSome = true ∧
      validUtf8 payload = true ∧ jsonValid payload = true := by
  unfold verifyCandidate at verified
  simp only at verified
  split at verified
  · cases verified
  split at verified
  · cases verified
  split at verified
  · cases verified
  rename_i supplied suppliedMac
  split at verified
  · cases verified
  rename_i expected expectedMac
  split at verified
  · cases verified
  rename_i same
  split at verified
  · cases verified
  rename_i utf8
  split at verified
  · cases verified
  rename_i valid
  cases verified
  rw [suppliedMac, expectedMac]
  exact ⟨congrArg some (not_not.mp same), rfl, by simpa using utf8,
    by simpa using valid⟩

/-- The authentication code that a frame carries. -/
def carriedMac (json : Bytes) : Option Key :=
  match parseOuterObject json with
  | .error _ => none
  | .ok fields => decodeSized 32 43 (fields.text .mac)

/--
An accepted envelope has the expected channel and sequence, and the code the
frame carries is the one of its transcript under the key.
-/
theorem decodeAndVerifyEnvelope_ok
    (accepted : decodeAndVerifyEnvelope crypto json key channel sequence =
      .ok (envelope, payload)) :
    envelope.channel = channel ∧ envelope.sequence = sequence ∧
      operationValid envelope.operation = true ∧
      carriedMac json = crypto.hmacSha256 key
        (envelopeTranscript envelope payload) ∧
      (crypto.hmacSha256 key (envelopeTranscript envelope payload)).isSome = true ∧
      validUtf8 payload = true ∧ jsonValid payload = true := by
  unfold decodeAndVerifyEnvelope at accepted
  split at accepted
  · cases accepted
  split at accepted
  · cases accepted
  split at accepted
  · cases accepted
  rename_i fields parsed
  split at accepted
  · cases accepted
  rename_i candidate decoded
  split at accepted
  · cases accepted
  rename_i found verified
  cases accepted
  rcases decodeCandidate_ok decoded with
    ⟨sameChannel, sameSequence, operation⟩
  rcases verifyCandidate_ok verified with ⟨carried, computed, content⟩
  refine ⟨sameChannel, sameSequence, operation, ?_, computed, content⟩
  unfold carriedMac
  rw [parsed]
  exact carried

end Accepted

end Kitsu.Companion.Envelope

/-!
# Transcripts of the handshake and of pairing

The proofs of `kitsu_companion_protocol.cpp`.  Every proof is an authentication
code under the controller root; the session keys are derived from the root and
salted with both nonces.
-/

namespace Kitsu.Companion.Handshake

open Kitsu.Lib.ByteString
open Kitsu.Companion.Base64Url
open Kitsu.Companion.Envelope

/-- The roles in which a proof is made. -/
inductive ProofRole where
  | device
  | client
  | ok
deriving DecidableEq, Repr

/-- The name of a role in a transcript. -/
def ProofRole.text : ProofRole → String
  | .device => "device"
  | .client => "client"
  | .ok => "ok"

/-- The digits of a device name; letters are capitals. -/
def uidDigit (character : UInt8) : Bool :=
  (byte '0' ≤ character && character ≤ byte '9') ||
    (byte 'A' ≤ character && character ≤ byte 'F')

/-- `KT` and four upper-case hexadecimal digits, terminated. -/
def validDeviceUid (uid : ByteVec 7) : Bool :=
  match uid.bytes with
  | [k, t, a, b, c, d, terminator] =>
    k == byte 'K' && t == byte 'T' && [a, b, c, d].all uidDigit &&
      terminator == 0
  | _ => false

/-- What the proofs of a handshake are computed over. -/
def handshakeTranscript (role : ProofRole) (controllerId clientNonce
    deviceNonce : Nonce) : Bytes :=
  ascii "KITSU-HS-1" ++ [0] ++ ascii role.text ++ [0] ++
    controllerId.bytes ++ clientNonce.bytes ++ deviceNonce.bytes

/-- What the proofs of a pairing are computed over, the new root included. -/
def pairingTranscript (root : Key) (role : ProofRole)
    (controllerId : Nonce) (deviceUid : ByteVec 7)
    (clientNonce deviceNonce : Nonce) : Bytes :=
  ascii "KITSU-PAIR-1" ++ [0] ++ ascii role.text ++ [0] ++
    controllerId.bytes ++ root.bytes ++ deviceUid.bytes.take 6 ++
    clientNonce.bytes ++ deviceNonce.bytes

/-- The same with the role of the new controller. -/
def roleBoundTranscript (root : Key) (role : ProofRole)
    (controllerRole : String) (controllerId : Nonce)
    (deviceUid : ByteVec 7) (clientNonce deviceNonce : Nonce) : Bytes :=
  ascii "KITSU-PAIR-2" ++ [0] ++ ascii role.text ++ [0] ++
    ascii controllerRole ++ [0] ++ controllerId.bytes ++ root.bytes ++
    deviceUid.bytes.take 6 ++ clientNonce.bytes ++ deviceNonce.bytes

variable (crypto : CompanionCrypto)

/-- A proof of the handshake, keyed by the controller's root. -/
def makeHandshakeProof (root : Key) (role : ProofRole)
    (controllerId clientNonce deviceNonce : Nonce) : Option Key :=
  crypto.hmacSha256 root
    (handshakeTranscript role controllerId clientNonce deviceNonce)

/-- The keys from the client to the device and back. -/
def deriveBleSessionKeys (root : Key) (clientNonce deviceNonce : Nonce) :
    Option (Key × Key) := do
  let salt ← crypto.sha256 (clientNonce.bytes ++ deviceNonce.bytes)
  let clientToDevice ←
    crypto.hkdfSha256 root salt.bytes (ascii "kitsu868/ble/c2d/v1")
  let deviceToClient ←
    crypto.hkdfSha256 root salt.bytes (ascii "kitsu868/ble/d2c/v1")
  pure (clientToDevice, deviceToClient)

/-- A proof of the pairing, for a device with a valid name. -/
def makePairingProof (root : Key) (role : ProofRole)
    (controllerId : Nonce) (deviceUid : ByteVec 7)
    (clientNonce deviceNonce : Nonce) : Option Key :=
  if !validDeviceUid deviceUid then none
  else
    crypto.hmacSha256 root (pairingTranscript root role controllerId
      deviceUid clientNonce deviceNonce)

def controllerRoleAllowed (controllerRole : String) : Bool :=
  controllerRole == "owner" || controllerRole == "caretaker"

/-- A proof of the pairing that is bound to a role. -/
def makeRoleBoundPairingProof (root : Key) (role : ProofRole)
    (controllerRole : String) (controllerId : Nonce)
    (deviceUid : ByteVec 7) (clientNonce deviceNonce : Nonce) :
    Option Key :=
  if !controllerRoleAllowed controllerRole || !validDeviceUid deviceUid then
    none
  else
    crypto.hmacSha256 root (roleBoundTranscript root role controllerRole
      controllerId deviceUid clientNonce deviceNonce)

end Kitsu.Companion.Handshake
