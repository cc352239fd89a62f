import Mathlib.Tactic.SplitIfs
import Kitsu.Lib.ByteString
import Kitsu.Companion.Json

/-!
# Controller roles and the authorization policy

The closed registry of authenticated BLE operations
(`kitsu_controller_permissions.cpp`): which role may invoke an operation name or
a decoded action kind, and how a role is stored in the three padding bytes of a
controller record.  Anything that is not listed is refused.
-/

namespace Kitsu.Ble.Permissions

open Kitsu.Lib.ByteString

/--
A controller role.  `invalid` stands for every enum value outside the two
roles; the firmware uses `0xFF` as its fail-closed sentinel.
-/
inductive ControllerRole where
  | owner
  | caretaker
  | invalid
deriving DecidableEq, Repr

/-- The kinds of `action.apply`. -/
inductive BleActionKind where
  | pet
  | feed
  | play
  | listenOnce
  | advertiseOnce
  | sendMessage
deriving DecidableEq, Repr

/-! ## Role storage -/

/-- The role held by the padding bytes of a controller record. -/
def decodeControllerRolePadding (padding : Bytes) : Option ControllerRole :=
  match padding with
  | [role, reserved, spare] =>
    if reserved ≠ 0 ∨ spare ≠ 0 then none
    else if role = 0 then some .owner
    else if role = 1 then some .caretaker
    else none
  | _ => none

/-- The padding bytes that store a role. -/
def encodeControllerRolePadding : ControllerRole → Option Bytes
  | .owner => some [0, 0, 0]
  | .caretaker => some [1, 0, 0]
  | .invalid => none

theorem decode_encodeControllerRolePadding
    {role : ControllerRole} {padding : Bytes}
    (encoded : encodeControllerRolePadding role = some padding) :
    decodeControllerRolePadding padding = some role := by
  cases role <;> simp [encodeControllerRolePadding] at encoded <;>
    subst encoded <;> rfl

/-- Only the two roles are stored. -/
theorem decodeControllerRolePadding_ne_invalid
    {padding : Bytes} {role : ControllerRole}
    (decoded : decodeControllerRolePadding padding = some role) :
    role ≠ .invalid := by
  unfold decodeControllerRolePadding at decoded
  split at decoded
  · split_ifs at decoded <;>
      simp only [Option.some.injEq] at decoded <;>
      simp [← decoded]
  · simp at decoded

/-! ## The policy -/

/-- Who an entry of the registry admits. -/
inductive RoleMask where
  | ownerOnly
  | bothRoles
deriving DecidableEq, Repr

/-- The role is one of the mask's. -/
def RoleMask.admits : RoleMask → ControllerRole → Bool
  | _, .owner => true
  | .bothRoles, .caretaker => true
  | _, _ => false

/-- One line of the operation registry. -/
structure OperationPolicy where
  operation : String
  roles : RoleMask
  requiresAction : Bool

/-- The operation registry. -/
def kOperationPolicies : List OperationPolicy :=
  [⟨"state.get", .bothRoles, false⟩,
   ⟨"history.get", .bothRoles, false⟩,
   ⟨"peers.get", .ownerOnly, false⟩,
   ⟨"messages.get", .ownerOnly, false⟩,
   ⟨"messages.get.v2", .ownerOnly, false⟩,
   ⟨"messages.get.v3", .ownerOnly, false⟩,
   ⟨"messages.get.v4", .ownerOnly, false⟩,
   ⟨"messages.mark_read", .ownerOnly, false⟩,
   ⟨"encounter.codes.get.v1", .ownerOnly, false⟩,
   ⟨"encounter.neighbors.get.v1", .ownerOnly, false⟩,
   ⟨"encounter.neighbor.action.v1", .ownerOnly, false⟩,
   ⟨"encounter.catalog.get.v1", .ownerOnly, false⟩,
   ⟨"encounter.discovery.get.v1", .ownerOnly, false⟩,
   ⟨"companion.profile.get.v1", .bothRoles, false⟩,
   ⟨"companion.profile.nickname.set.v1", .ownerOnly, false⟩,
   ⟨"companion.request.answer.v1", .ownerOnly, false⟩,
   ⟨"companion.question.answer.v1", .ownerOnly, false⟩,
   ⟨"companion.presentation.open.v1", .bothRoles, false⟩,
   ⟨"companion.presentation.read.v1", .bothRoles, false⟩,
   ⟨"companion.presentation.close.v1", .bothRoles, false⟩,
   ⟨"focus.state.get.v1", .bothRoles, false⟩,
   ⟨"focus.start.v1", .bothRoles, false⟩,
   ⟨"focus.stop.v1", .bothRoles, false⟩,
   ⟨"focus.cancel.v1", .bothRoles, false⟩,
   ⟨"focus.ack.v1", .bothRoles, false⟩,
   ⟨"adventure.state.get.v1", .bothRoles, false⟩,
   ⟨"adventure.walk.start.v1", .bothRoles, false⟩,
   ⟨"adventure.walk.sync.v1", .bothRoles, false⟩,
   ⟨"adventure.walk.location.v1", .bothRoles, false⟩,
   ⟨"adventure.walk.decide.v1", .bothRoles, false⟩,
   ⟨"adventure.walk.finish.v1", .bothRoles, false⟩,
   ⟨"adventure.walk.ack.v1", .bothRoles, false⟩,
   ⟨"adventure.privacy.set.v1", .ownerOnly, false⟩,
   ⟨"adventure.home.set.v1", .ownerOnly, false⟩,
   ⟨"fun.state.get.v1", .ownerOnly, false⟩,
   ⟨"fun.expedition.start.v1", .ownerOnly, false⟩,
   ⟨"fun.expedition.claim.v1", .ownerOnly, false⟩,
   ⟨"fun.story.start.v1", .ownerOnly, false⟩,
   ⟨"fun.story.advance.v1", .ownerOnly, false⟩,
   ⟨"fun.story.choose.v1", .ownerOnly, false⟩,
   ⟨"fun.party.scan.v1", .ownerOnly, false⟩,
   ⟨"fun.party.host.v1", .ownerOnly, false⟩,
   ⟨"fun.party.join.v1", .ownerOnly, false⟩,
   ⟨"fun.party.begin.v1", .ownerOnly, false⟩,
   ⟨"fun.party.choose.v1", .ownerOnly, false⟩,
   ⟨"fun.party.leave.v1", .ownerOnly, false⟩,
   ⟨"channels.get", .ownerOnly, false⟩,
   ⟨"channels.get.v2", .ownerOnly, false⟩,
   ⟨"chat.storage.get", .ownerOnly, false⟩,
   ⟨"clock.sync", .ownerOnly, false⟩,
   ⟨"mesh.configure", .ownerOnly, false⟩,
   ⟨"action.apply", .bothRoles, true⟩,
   ⟨"controller.forget", .ownerOnly, false⟩,
   ⟨"firmware.update.status", .ownerOnly, false⟩,
   ⟨"firmware.update.begin", .ownerOnly, false⟩,
   ⟨"firmware.update.write", .ownerOnly, false⟩,
   ⟨"firmware.update.finish", .ownerOnly, false⟩,
   ⟨"firmware.update.reboot", .ownerOnly, false⟩,
   ⟨"firmware.update.abort", .ownerOnly, false⟩]

/-- The action registry. -/
def kActionPolicies : BleActionKind → RoleMask
  | .pet | .feed | .play => .bothRoles
  | .listenOnce | .advertiseOnce | .sendMessage => .ownerOnly

/-- What is asked of the policy. -/
inductive ControllerCapability where
  | operation (name : Bytes)
  | bleAction (action : BleActionKind)

/-- The policy's answer. -/
inductive ControllerPermission where
  | allowed
  | actionRequired
  | denied
  | unknownCapability
  | invalidRole
  | invalidArgument
deriving DecidableEq, Repr

/-- The single authorization decision point. -/
def controllerPermission (role : ControllerRole) :
    ControllerCapability → ControllerPermission
  | .operation name =>
    if role = .invalid then .invalidRole
    else if name = [] then .invalidArgument
    else
      match kOperationPolicies.find? (fun policy =>
          ascii policy.operation == name) with
      | none => .unknownCapability
      | some policy =>
        if policy.roles.admits role then
          if policy.requiresAction then .actionRequired else .allowed
        else .denied
  | .bleAction action =>
    if role = .invalid then .invalidRole
    else if (kActionPolicies action).admits role then .allowed
    else .denied

end Kitsu.Ble.Permissions

/-!
# The body of `action.apply`

The decoder of `kitsu_ble_action.cpp`: an object with an exact schema whose
parameters depend on the kind of the action.  The session decodes a body before
it lets an action through, because the kind decides which roles may use it.
-/

namespace Kitsu.Ble.Action

open Kitsu.Lib.ByteString
open Kitsu.Ble.Permissions
open Kitsu.Companion.Base64Url
open Kitsu.Companion.Json

def kMaximumActionBodyBytes : Nat := 12000
def kMaximumOuterFields : Nat := 4
def kMaximumParamFields : Nat := 3
def kBleActionUuidTextBytes : Nat := 36
def kBleActionMinimumTrustedEpoch : Nat := 1704067200
def kBleActionMaximumTrustedEpoch : Nat := 4102444800
def kBleActionMinimumListenMs : Nat := 1000
def kBleActionMaximumListenMs : Nat := 60000
def kBleActionMessageTargetBytes : Nat := 43
def kBleActionMessageTextBytes : Nat := 128

/-- Who a message goes to. -/
inductive BleMessageRoute where
  | none
  | direct
  | channel
deriving DecidableEq, Repr

/-- How far an advert goes. -/
inductive BleAdvertScope where
  | none
  | nearby
  | mesh
deriving DecidableEq, Repr

/-- The results other than `Ok`. -/
inductive BleActionDecodeError where
  | invalidArgument
  | malformedJson
  | duplicateField
  | unknownField
  | invalidActionId
  | invalidKind
  | invalidExpiry
  | invalidParams
deriving DecidableEq, Repr

/-- A decoded command; what its kind does not use keeps its default. -/
structure BleActionCommand where
  actionId : ByteVec 16
  actionIdText : Bytes
  kind : BleActionKind
  expiresAtEpoch : Nat
  durationMs : Nat := 0
  advertScope : BleAdvertScope := .none
  messageRoute : BleMessageRoute := .none
  messageTarget : Bytes := []
  messageText : Bytes := []
  actionIdValid : Bool := false

/-! ## Objects -/

/-- The kinds of values that an action may hold. -/
inductive ValueKind where
  | string
  | integer
  | object
deriving DecidableEq, Repr

/-- A field of an object, its value still as text. -/
structure Field where
  key : Span
  value : Span
  kind : ValueKind

/-- Why an object is not read. -/
inductive ParseError where
  | malformed
  | duplicate
deriving DecidableEq, Repr

/-- The source of an object behind its opening brace, by brace depth. -/
def scanBraces : Nat → Nat → Bytes → Option (Bytes × Bytes)
  | _, 0, input => some ([], input)
  | 0, _ + 1, _ => none
  | _ + 1, _ + 1, [] => none
  | fuel + 1, depth + 1, character :: rest =>
    if character = byte '"' then
      match parseString (character :: rest) with
      | none => none
      | some (span, rest) =>
        (scanBraces fuel (depth + 1) rest).map fun scanned =>
          (byte '"' :: span.bytes ++ byte '"' :: scanned.1, scanned.2)
    else if character = byte '\x7b' then
      if depth + 2 > 8 then none
      else
        (scanBraces fuel (depth + 2) rest).map fun scanned =>
          (character :: scanned.1, scanned.2)
    else if character = byte '\x7d' then
      (scanBraces fuel depth rest).map fun scanned =>
        (character :: scanned.1, scanned.2)
    else if character < 0x20 ∧ character ≠ byte '\t' ∧
        character ≠ byte '\r' ∧ character ≠ byte '\n' then none
    else
      (scanBraces fuel (depth + 1) rest).map fun scanned =>
        (character :: scanned.1, scanned.2)

/-- An object inside of the parameters, up to its closing brace. -/
def scanObject : Bytes → Option (Span × Bytes)
  | [] => none
  | character :: rest =>
    if character ≠ byte '\x7b' then none
    else
      (scanBraces rest.length 1 rest).map fun scanned =>
        (⟨character :: scanned.1, false⟩, scanned.2)

/-- An optional sign and digits without a leading zero. -/
def scanInteger (input : Bytes) : Option (Span × Bytes) :=
  let sign := if input.head? = some (byte '-') then [byte '-'] else []
  (parseUnsignedToken (input.drop sign.length)).map fun scanned =>
    (⟨sign ++ scanned.1, false⟩, scanned.2)

/-- A value, which its first character tells the kind of. -/
def scanValue (input : Bytes) : Option (Span × ValueKind × Bytes) :=
  match input with
  | [] => none
  | first :: _ =>
    if first = byte '"' then
      (parseString input).map fun scanned =>
        (scanned.1, .string, scanned.2)
    else if first = byte '\x7b' then
      (scanObject input).map fun scanned =>
        (scanned.1, .object, scanned.2)
    else
      (scanInteger input).map fun scanned =>
        (scanned.1, .integer, scanned.2)

/-- The loop over the fields; it also ends where the input does. -/
def parseFields (fieldCapacity : Nat) : Nat → List Field → Bytes →
    Except ParseError (List Field × Bytes)
  | 0, fields, input => .ok (fields, input)
  | _ + 1, fields, [] => .ok (fields, [])
  | fuel + 1, fields, input =>
    if fields.length ≥ fieldCapacity then .error .malformed
    else
      match parseString input with
      | none => .error .malformed
      | some (key, rest) =>
        if key.escaped || key.bytes == [] then .error .malformed
        else if fields.any (·.key.bytes == key.bytes) then
          .error .duplicate
        else
          match skipWhitespace rest with
          | [] => .error .malformed
          | colon :: rest =>
            if colon ≠ byte ':' then .error .malformed
            else
              match scanValue (skipWhitespace rest) with
              | none => .error .malformed
              | some (value, kind, rest) =>
                let fields := fields ++ [⟨key, value, kind⟩]
                match skipWhitespace rest with
                | [] => .error .malformed
                | next :: rest =>
                  if next = byte '\x7d' then .ok (fields, rest)
                  else if next ≠ byte ',' then .error .malformed
                  else
                    parseFields fieldCapacity fuel fields
                      (skipWhitespace rest)

/-- The fields of an object, at most as many as there is room for. -/
def parseObject (json : Bytes) (fieldCapacity : Nat) :
    Except ParseError (List Field) :=
  if json.length < 2 ∨ fieldCapacity = 0 then .error .malformed
  else
    match skipWhitespace json with
    | [] => .error .malformed
    | brace :: rest =>
      if brace ≠ byte '\x7b' then .error .malformed
      else
        let body := skipWhitespace rest
        let parsed :=
          if body.head? = some (byte '\x7d') then .ok ([], body.drop 1)
          else parseFields fieldCapacity (body.length + 1) [] body
        match parsed with
        | .error error => .error error
        | .ok (fields, rest) =>
          if skipWhitespace rest ≠ [] then .error .malformed
          else .ok fields

def findField (fields : List Field) (name : String) : Option Field :=
  fields.find? (·.key.equals name)

/-- The fields are the named ones and no others. -/
def exactSchema (fields : List Field) (names : List String) : Bool :=
  fields.length == names.length &&
    names.all fun name => (findField fields name).isSome

/-! ## Scalars -/

/-- The value of digits, unless it exceeds the maximum. -/
def parseMagnitude (maximum : Nat) : Nat → Bytes → Option Nat
  | magnitude, [] => some magnitude
  | magnitude, character :: rest =>
    if !isDigit character then none
    else
      let digit := character.toNat - 48
      if magnitude > (maximum - digit) / 10 then none
      else parseMagnitude maximum (magnitude * 10 + digit) rest

/-- A number of eight bytes, with its sign. -/
def parseInt64 (field : Field) : Option Int :=
  if field.kind ≠ .integer ∨ field.value.bytes = [] ∨
      20 < field.value.bytes.length then none
  else if field.value.bytes.head? = some (byte '-') then
    if field.value.bytes.length = 1 then none
    else
      (parseMagnitude (2 ^ 63) 0 (field.value.bytes.drop 1)).map
        fun magnitude => -(magnitude : Int)
  else
    (parseMagnitude (2 ^ 63 - 1) 0 field.value.bytes).map Int.ofNat

/-- A number of four bytes, without a sign. -/
def parseUint32 (field : Field) : Option Nat :=
  match parseInt64 field with
  | none => none
  | some value =>
    if value < 0 ∨ value > 4294967295 then none else some value.toNat

/-- The value of a hexadecimal digit, if it is one. -/
def hexNibble (character : UInt8) : Option Nat :=
  if isHex character then some (hexValue character) else none

/-- A hexadecimal digit in small letters. -/
def lowerHex (value : Nat) : UInt8 :=
  (ascii "0123456789abcdef").getD value 0

/-- The bytes and the lower-case text of a UUID from this position on. -/
def uuidBytes : Nat → Bytes → Option (Bytes × Bytes)
  | _, [] => some ([], [])
  | source, character :: rest =>
    if source = 8 ∨ source = 13 ∨ source = 18 ∨ source = 23 then
      if character ≠ byte '-' then none
      else
        (uuidBytes (source + 1) rest).map fun later =>
          (later.1, character :: later.2)
    else
      match rest with
      | [] => none
      | next :: rest =>
        match hexNibble character, hexNibble next with
        | some high, some low =>
          (uuidBytes (source + 2) rest).map fun later =>
            ((high * 16 + low).toUInt8 :: later.1,
              lowerHex high :: lowerHex low :: later.2)
        | _, _ => none

/-- The identifier of an action, as bytes and as it was written. -/
def parseUuid (field : Field) : Option (ByteVec 16 × Bytes) :=
  if field.kind ≠ .string ∨ field.value.escaped ∨
      field.value.bytes.length ≠ kBleActionUuidTextBytes then none
  else do
    let (bytes, text) ← uuidBytes 0 field.value.bytes
    let actionId ← ByteVec.ofBytes? 16 bytes
    pure (actionId, text)

/-- The kinds under the names that the phone uses. -/
def kindNames : List (String × BleActionKind) :=
  [("pet", .pet), ("feed", .feed), ("play", .play),
    ("listen_once", .listenOnce), ("advertise_once", .advertiseOnce),
    ("send_message", .sendMessage)]

/-- The kind that a field names. -/
def parseKind (field : Field) : Option BleActionKind :=
  if field.kind ≠ .string ∨ field.value.escaped then none
  else
    (kindNames.find? fun entry => field.value.equals entry.1).map
      Prod.snd

/-! ## Message texts -/

/-- The scalar of a surrogate pair. -/
def pairScalar (first second : Nat) : Nat :=
  0x10000 + (first - 0xd800) * 1024 + (second - 0xdc00)

/-- How many bytes a character takes in UTF-8. -/
def utf8Bytes (scalar : Nat) : Nat :=
  if scalar ≤ 0x7f then 1
  else if scalar ≤ 0x7ff then 2
  else if scalar ≤ 0xffff then 3
  else 4

/-- The length a string will have once its escapes are resolved. -/
def decodedStringBytes : Bytes → Option Nat
  | [] => some 0
  | current :: rest =>
    if current ≠ byte '\\' then (decodedStringBytes rest).map (· + 1)
    else
      match rest with
      | [] => none
      | escape :: rest =>
        if escape ≠ byte 'u' then
          (decodedStringBytes rest).map (· + 1)
        else
          match rest with
          | a :: b :: c :: d :: rest =>
            let first := hex4Value a b c d
            if isHighSurrogate first then
              match rest with
              | slash :: unicode :: e :: f :: g :: h :: rest =>
                if slash ≠ byte '\\' ∨ unicode ≠ byte 'u' then none
                else
                  (decodedStringBytes rest).map
                    (· + utf8Bytes (pairScalar first (hex4Value e f g h)))
              | _ => none
            else
              (decodedStringBytes rest).map (· + utf8Bytes first)
          | _ => none

/-- The bytes of a character in UTF-8; neither zero nor a surrogate is one. -/
def appendUtf8 (scalar : Nat) : Option Bytes :=
  if scalar = 0 ∨ scalar > 0x10ffff ∨
      (0xd800 ≤ scalar ∧ scalar ≤ 0xdfff) then none
  else if scalar ≤ 0x7f then some [scalar.toUInt8]
  else if scalar ≤ 0x7ff then
    some [(0xc0 + scalar / 64).toUInt8, (0x80 + scalar % 64).toUInt8]
  else if scalar ≤ 0xffff then
    some [(0xe0 + scalar / 4096).toUInt8,
      (0x80 + scalar / 64 % 64).toUInt8, (0x80 + scalar % 64).toUInt8]
  else
    some [(0xf0 + scalar / 262144).toUInt8, (0x80 + scalar / 4096 % 64).toUInt8,
      (0x80 + scalar / 64 % 64).toUInt8, (0x80 + scalar % 64).toUInt8]

/-- The scalar of an escape that is not `\u`. -/
def escapeScalar (escape : UInt8) : Option Nat :=
  if escape = byte '"' ∨ escape = byte '\\' ∨ escape = byte '/' then
    some escape.toNat
  else if escape = byte 'b' then some 8
  else if escape = byte 'f' then some 12
  else if escape = byte 'n' then some 10
  else if escape = byte 'r' then some 13
  else if escape = byte 't' then some 9
  else none

/-- Put the encoding of a scalar in front of a decoded text. -/
def pushScalar (scalar : Nat) (later : Option Bytes) : Option Bytes := do
  let encoded ← appendUtf8 scalar
  let rest ← later
  pure (encoded ++ rest)

/-- The text of a string with its escapes resolved. -/
def decodeText : Bytes → Option Bytes
  | [] => some []
  | current :: rest =>
    if current ≠ byte '\\' then (decodeText rest).map (current :: ·)
    else
      match rest with
      | [] => none
      | escape :: rest =>
        if escape ≠ byte 'u' then
          match escapeScalar escape with
          | none => none
          | some scalar => pushScalar scalar (decodeText rest)
        else
          match rest with
          | a :: b :: c :: d :: rest =>
            let first := hex4Value a b c d
            if isHighSurrogate first then
              match rest with
              | slash :: unicode :: e :: f :: g :: h :: rest =>
                let second := hex4Value e f g h
                if slash ≠ byte '\\' ∨ unicode ≠ byte 'u' then none
                else if !isLowSurrogate second then none
                else
                  pushScalar (pairScalar first second)
                    (decodeText rest)
              | _ => none
            else pushScalar first (decodeText rest)
          | _ => none

/-- The decoded text, with its terminator, fits into the buffer. -/
def decodeString (value : Span) (capacity : Nat) : Option Bytes :=
  match decodeText value.bytes with
  | none => none
  | some text =>
    if text.length ≥ capacity ∨ text.length > 255 then none
    else if !validUtf8 text then none
    else some text

/-- A key of thirty-two bytes in its only base64url spelling. -/
def validDirectTarget (value : Span) : Bool :=
  !value.escaped &&
    value.bytes.length == kBleActionMessageTargetBytes &&
    value.bytes.all (fun character => (base64Value character).isSome) &&
    match decodeArray 32 value.bytes with
    | none => false
    | some decoded => encodeGroups decoded.bytes == value.bytes

/-- One of the four channels, as a single digit. -/
def validChannelTarget (value : Span) : Bool :=
  !value.escaped && value.bytes.length == 1 &&
    value.bytes.all fun character =>
      byte '0' ≤ character && character ≤ byte '3'

/-! ## Commands -/

/-- How long to listen, within the bounds of the companion. -/
def decodeListen (fields : List Field) (command : BleActionCommand) :
    Option BleActionCommand := do
  guard (exactSchema fields ["duration_ms"])
  let duration ← (findField fields "duration_ms").bind parseUint32
  guard (kBleActionMinimumListenMs ≤ duration ∧
    duration ≤ kBleActionMaximumListenMs)
  pure { command with durationMs := duration }

/-- How far to advertise. -/
def decodeAdvertise (fields : List Field) (command : BleActionCommand) :
    Option BleActionCommand := do
  guard (exactSchema fields ["scope"])
  let scope ← findField fields "scope"
  guard (scope.kind = .string ∧ scope.value.escaped = false)
  if scope.value.equals "nearby" then
    pure { command with advertScope := .nearby }
  else if scope.value.equals "mesh" then
    pure { command with advertScope := .mesh }
  else none

/-- A message with its route, target and text; the text must not be blank. -/
def decodeMessage (fields : List Field) (command : BleActionCommand) :
    Option BleActionCommand := do
  guard (exactSchema fields ["route", "target_id", "text"])
  let route ← findField fields "route"
  let target ← findField fields "target_id"
  let text ← findField fields "text"
  guard (route.kind = .string ∧ target.kind = .string ∧ text.kind = .string)
  guard (route.value.equals "direct" ∨ route.value.equals "channel")
  let textBytes ← decodedStringBytes text.value.bytes
  guard (textBytes ≠ 0 ∧ textBytes ≤ kBleActionMessageTextBytes)
  let messageRoute :=
    if route.value.equals "direct" then .direct else .channel
  guard (if messageRoute = BleMessageRoute.direct then
    validDirectTarget target.value else validChannelTarget target.value)
  let messageTarget ←
    decodeString target.value (kBleActionMessageTargetBytes + 1)
  let messageText ←
    decodeString text.value (kBleActionMessageTextBytes + 1)
  guard (messageText ≠ [])
  pure { command with messageRoute, messageTarget, messageText }

/-- The parameters that the kind of action asks for, and no others. -/
def decodeParams (params : Field) (command : BleActionCommand) :
    Except BleActionDecodeError BleActionCommand :=
  if params.kind ≠ .object then .error .invalidParams
  else
    match parseObject params.value.bytes kMaximumParamFields with
    | .error .duplicate => .error .duplicateField
    | .error .malformed => .error .malformedJson
    | .ok fields =>
      let decoded :=
        match command.kind with
        | .pet | .feed | .play =>
          if fields.length = 0 then some command else none
        | .listenOnce => decodeListen fields command
        | .advertiseOnce => decodeAdvertise fields command
        | .sendMessage => decodeMessage fields command
      match decoded with
      | none => .error .invalidParams
      | some command => .ok command

/-- The action that a payload stands for, or why it stands for none. -/
def decodeBleActionCommand (json : Bytes) :
    Except BleActionDecodeError BleActionCommand :=
  if json = [] ∨ json.length > kMaximumActionBodyBytes then
    .error .invalidArgument
  else if !validUtf8 json then .error .malformedJson
  else
    match parseObject json kMaximumOuterFields with
    | .error .duplicate => .error .duplicateField
    | .error .malformed => .error .malformedJson
    | .ok fields =>
      if !exactSchema fields
          ["action_id", "kind", "expires_at_epoch", "params"] then
        .error .unknownField
      else
        match (findField fields "action_id").bind parseUuid with
        | none => .error .invalidActionId
        | some (actionId, actionIdText) =>
          match (findField fields "kind").bind parseKind with
          | none => .error .invalidKind
          | some kind =>
            match (findField fields "expires_at_epoch").bind
              parseUint32 with
            | none => .error .invalidExpiry
            | some expiresAtEpoch =>
              if expiresAtEpoch < kBleActionMinimumTrustedEpoch ∨
                  expiresAtEpoch > kBleActionMaximumTrustedEpoch
              then .error .invalidExpiry
              else
                match findField fields "params" with
                | none => .error .invalidParams
                | some params =>
                  decodeParams params
                    { actionId, actionIdText, kind,
                      expiresAtEpoch, actionIdValid := true }

/-! ## The binding of a command -/

/-- The byte that stands for a kind in the digest. -/
def actionKindCode : BleActionKind → UInt8
  | .pet => 1
  | .feed => 2
  | .play => 3
  | .listenOnce => 4
  | .advertiseOnce => 5
  | .sendMessage => 6

/-- The byte that stands for a route in the digest. -/
def BleMessageRoute.code : BleMessageRoute → UInt8
  | .none => 0
  | .direct => 1
  | .channel => 2

/-- The byte that stands for a scope in the digest. -/
def BleAdvertScope.code : BleAdvertScope → UInt8
  | .none => 0
  | .nearby => 1
  | .mesh => 2

/-- The target and the text of a message, or their absence. -/
def validMessage (command : BleActionCommand) : Bool :=
  if command.kind ≠ .sendMessage then
    command.messageRoute == .none && command.messageTarget == [] &&
      command.messageText == []
  else if command.messageText = [] ∨
      command.messageText.length > kBleActionMessageTextBytes ∨
      command.messageTarget = [] ∨
      command.messageTarget.length > kBleActionMessageTargetBytes ∨
      0 ∈ command.messageTarget ∨ 0 ∈ command.messageText then false
  else if !validUtf8 command.messageText then false
  else
    match command.messageRoute with
    | .direct => validDirectTarget ⟨command.messageTarget, false⟩
    | .channel => validChannelTarget ⟨command.messageTarget, false⟩
    | .none => false

/-- Only listening has a duration. -/
def validDuration (command : BleActionCommand) : Bool :=
  if command.kind = .listenOnce then
    kBleActionMinimumListenMs ≤ command.durationMs &&
      command.durationMs ≤ kBleActionMaximumListenMs
  else command.durationMs == 0

/-- Only advertising has a scope. -/
def validScope (command : BleActionCommand) : Bool :=
  if command.kind = .advertiseOnce then
    command.advertScope == .nearby || command.advertScope == .mesh
  else command.advertScope == .none

/-- What a command must be to be recorded; every kind is available. -/
def validReplayCommand (command : BleActionCommand) : Bool :=
  command.actionIdValid &&
    kBleActionMinimumTrustedEpoch ≤ command.expiresAtEpoch &&
    command.expiresAtEpoch ≤ kBleActionMaximumTrustedEpoch &&
    validDuration command && validScope command && validMessage command

/-- The bytes a command's digest is computed over. -/
def commandPreimage (command : BleActionCommand) : Bytes :=
  ascii "kitsu.ble-action.command.v1" ++ [0] ++ command.actionId.bytes ++
    [actionKindCode command.kind] ++ bigEndian 4 command.expiresAtEpoch ++
    bigEndian 4 command.durationMs ++ [command.messageRoute.code] ++
    [command.messageTarget.length.toUInt8] ++ command.messageTarget ++
    [0, command.messageText.length.toUInt8] ++ command.messageText ++
    if command.kind = .advertiseOnce then [command.advertScope.code] else []

/-- What the replay cache keeps of a command. -/
def commandDigest (sha256 : Bytes → Option (ByteVec 32))
    (command : BleActionCommand) : Option (ByteVec 32) :=
  if !validReplayCommand command then none
  else sha256 (commandPreimage command)

end Kitsu.Ble.Action
